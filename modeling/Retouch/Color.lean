import Retouch.Cause
import Retouch.Text.Numeral

/-!
Colors with straight alpha, eight bits a channel. Written as `#rrggbb`, or `#rrggbbaa` when not
opaque; read from three, six or eight digits after any number of hash signs.
-/
namespace Retouch

structure Color where
  red : UInt8
  green : UInt8
  blue : UInt8
  alpha : UInt8 := 255
deriving DecidableEq, Repr

namespace Color

def white : Color := ⟨255, 255, 255, 255⟩
def black : Color := ⟨0, 0, 0, 255⟩

def isOpaque (color : Color) : Bool := color.alpha == 255

def chars (color : Color) : List Char :=
  '#' :: hex color.red ++ hex color.green ++ hex color.blue ++
    if color.isOpaque then [] else hex color.alpha
where
  hex (channel : UInt8) : List Char := Text.hexByte channel.toNat

def text (color : Color) : String := .ofList color.chars

def body (cs : List Char) : List Char := (Text.trimChars cs).dropWhile (· == '#')

/-- One digit stands for the pair of it twice, which is seventeen times its value. -/
def ofBody? : List Char → Option Color
  | [r, g, b] => do
    return ⟨← short r, ← short g, ← short b, 255⟩
  | [r, r', g, g', b, b'] => do
    return ⟨← pair r r', ← pair g g', ← pair b b', 255⟩
  | [r, r', g, g', b, b', a, a'] => do
    return ⟨← pair r r', ← pair g g', ← pair b b', ← pair a a'⟩
  | _ => none
where
  short (c : Char) : Option UInt8 := (Text.hexDigit? c).map fun value => .ofNat (value * 17)
  pair (high low : Char) : Option UInt8 := (Text.hexPair? high low).map .ofNat

def notHex (s : String) : Cause := .invalidArgument s!"'{s}' is not a hex color"

def parse (s : String) : Except Cause Color :=
  match ofBody? (body s.toList) with
  | some color => .ok color
  | none => .error (notHex s)

def record (color : Color) : String :=
  s!"Color \x7b r: {color.red}, g: {color.green}, b: {color.blue}, a: {color.alpha} \x7d"

end Color

end Retouch
