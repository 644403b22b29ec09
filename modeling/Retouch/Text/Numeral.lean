import Retouch.Text.Blank

/-!
Decimal and hexadecimal numerals. An unsigned numeral is one or more ASCII digits, perhaps after a
plus sign, whose value is below a limit; `unsigned?_toDigits` says that it reads what is written.
-/
namespace Retouch.Text

def unsigned? (limit : Nat) (cs : List Char) : Option Nat :=
  let digits := match cs with
    | '+' :: rest => rest
    | _ => cs
  if digits.isEmpty || !digits.all Char.isDigit then none
  else
    let value := Nat.ofDigitChars 10 digits 0
    if value < limit then some value else none

def word32? (cs : List Char) : Option UInt32 := (unsigned? 0x100000000 cs).map .ofNat

def word64? (cs : List Char) : Option UInt64 :=
  (unsigned? 0x10000000000000000 cs).map .ofNat

def hexDigit? (c : Char) : Option Nat :=
  if '0' ≤ c && c ≤ '9' then some (c.toNat - 48)
  else if 'a' ≤ c && c ≤ 'f' then some (c.toNat - 87)
  else if 'A' ≤ c && c ≤ 'F' then some (c.toNat - 55)
  else none

/-- The value of a two-character byte. A plus sign may stand for the first digit. -/
def hexPair? (high low : Char) : Option Nat :=
  if high = '+' then hexDigit? low
  else do return (← hexDigit? high) * 16 + (← hexDigit? low)

/-- A byte as two lower-case hexadecimal digits. -/
def hexByte (n : Nat) : List Char := [Nat.digitChar (n / 16 % 16), Nat.digitChar (n % 16)]

theorem unsigned?_toDigits {limit n : Nat} (small : n < limit) :
    unsigned? limit (Nat.toDigits 10 n) = some n := by
  have digits : ∀ c ∈ Nat.toDigits 10 n, c.isDigit :=
    fun c h => Nat.isDigit_of_mem_toDigits (by decide) (by decide) h
  have plain : (match Nat.toDigits 10 n with | '+' :: rest => rest | _ => Nat.toDigits 10 n) =
      Nat.toDigits 10 n := by
    split
    · next rest h => exact absurd (digits '+' (by simp [h])) (by decide)
    · rfl
  unfold unsigned?
  simp only [plain]
  have every : (Nat.toDigits 10 n).all Char.isDigit = true := by simpa using digits
  simp [every, Nat.toDigits_ne_nil, Nat.ofDigitChars_ten_toDigits, small]

end Retouch.Text
