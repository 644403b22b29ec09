import Retouch.Text.Shown

/-!
Text between double quotes, with a backslash before a quote or a backslash, letters for the common
controls, and numbers for the characters that cannot be shown.
-/
namespace Retouch.Text

def named? (c : Char) : Option Char :=
  [('"', '"'), ('\\', '\\'), ('\t', 't'), ('\r', 'r'), ('\n', 'n'), ('\x00', '0')].lookup c

def spelled (c : Char) : List Char :=
  match named? c with
  | some letter => ['\\', letter]
  | none =>
    if isShown c then [c]
    else ['\\', 'u', '\x7b'] ++ Nat.toDigits 16 c.toNat ++ ['\x7d']

def quoted (s : String) : String := .ofList ('"' :: s.toList.flatMap spelled ++ ['"'])

end Retouch.Text
