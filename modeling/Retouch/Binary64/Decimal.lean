import Retouch.Binary64.Basic
import Retouch.Text.Numeral

/-!
Decimal text of floating-point numbers. `shortest` finds the fewest digits that read back as the
number, and the nearest of those; a `Style` decides how the digits are laid out.
-/
namespace Retouch.Binary64

/-- The greatest `k` with `10 ^ k ≤ num / den`. -/
def leadingPower (num den : Nat) : Int :=
  if den ≤ num then ((Nat.toDigits 10 (num / den)).length : Int) - 1
  else -((Nat.toDigits 10 ((den - 1) / num)).length : Int)

/-- The multiple of a power of ten that stands for `mantissa * 2 ^ exponent` on the grid of that
power, if one lies among the reals that round to the number. The ends of that interval are
quarters of the mantissa's unit, and belong to it when the mantissa is even. Of the two neighbors
on the grid the nearer is taken, and the greater of two equally near ones. -/
def onGrid? (mantissa : Nat) (exponent grid : Int) : Option Nat :=
  let (quarter, den) := shifted 1 1 (exponent - 2)
  let (unit, step) := if 0 ≤ grid then (quarter, den * Nat.pow 10 grid.toNat)
    else (quarter * Nat.pow 10 (-grid).toNat, den)
  let least := (4 * mantissa - if mantissa == leastFull then 1 else 2) * unit
  let greatest := (4 * mantissa + 2) * unit
  let inside (n : Nat) : Bool :=
    if mantissa % 2 == 0 then least ≤ n * step && n * step ≤ greatest
    else least < n * step && n * step < greatest
  let below := 4 * mantissa * unit / step
  let rest := 4 * mantissa * unit % step
  let (nearer, farther) := if 2 * rest < step then (below, below + 1) else (below + 1, below)
  if inside nearer then some nearer else if inside farther then some farther else none

/-- Digits without zeros at their end, and the power of ten of the first. -/
def shortest (mantissa : Nat) (exponent : Int) : List Char × Int :=
  if mantissa == 0 then (['0'], 0)
  else
    let (num, den) := shifted mantissa 1 exponent
    let lead := leadingPower num den
    let found := (List.range 17).findSome? fun (count : Nat) =>
      (onGrid? mantissa exponent (lead - count)).map fun n => (Nat.toDigits 10 n, lead - count)
    let (digits, grid) := found.getD (['0'], 0)
    (Text.dropEnd (· == '0') digits, grid + digits.length - 1)

structure Style where
  /-- The powers of the first digit that are written without an exponent; all when absent. -/
  positional : Option (Int × Int) := none
  /-- A whole number keeps a point and a zero. -/
  wholePoint : Bool := false
  /-- An exponent that is not negative has a plus sign. -/
  plusSign : Bool := false
  /-- The least number of exponent digits. -/
  exponentWidth : Nat := 1

def Style.positionalText (style : Style) (digits : List Char) (power : Int) : List Char :=
  if power < 0 then '0' :: '.' :: List.replicate (-power - 1).toNat '0' ++ digits
  else
    let whole := power.toNat + 1
    if digits.length ≤ whole then
      digits ++ List.replicate (whole - digits.length) '0' ++
        if style.wholePoint then ['.', '0'] else []
    else digits.take whole ++ '.' :: digits.drop whole

def Style.exponentText (style : Style) (digits : List Char) (power : Int) : List Char :=
  let fraction := match digits.drop 1 with
    | [] => []
    | rest => '.' :: rest
  let sign := if power < 0 then ['-'] else if style.plusSign then ['+'] else []
  let places := Nat.toDigits 10 power.natAbs
  digits.take 1 ++ fraction ++ 'e' :: sign ++
    List.replicate (style.exponentWidth - places.length) '0' ++ places

def Style.write (style : Style) : Binary64 → String
  | nan => "NaN"
  | infinity negative => if negative then "-inf" else "inf"
  | finite negative mantissa exponent =>
    let (digits, power) := shortest mantissa exponent
    let plain := match style.positional with
      | none => true
      | some (least, greatest) => mantissa == 0 || (least ≤ power && power ≤ greatest)
    let magnitude := if plain then style.positionalText digits power
      else style.exponentText digits power
    .ofList (if negative then '-' :: magnitude else magnitude)

/-- Never an exponent, and no point after a whole number. -/
def plain : Style := {}

/-- An exponent below a ten-thousandth and from ten to the sixteenth; a whole number keeps `.0`. -/
def exact : Style := { positional := some (-4, 15), wholePoint := true }

def text (x : Binary64) : String := plain.write x

private def fractionOf : List Char → List Char × List Char
  | '.' :: rest => (rest.takeWhile Char.isDigit, rest.dropWhile Char.isDigit)
  | rest => ([], rest)

private def exponentOf? : List Char → Option Int
  | [] => some 0
  | mark :: rest =>
    if mark = 'e' || mark = 'E' then
      let (negative, digits) := match rest with
        | '-' :: digits => (true, digits)
        | '+' :: digits => (false, digits)
        | digits => (false, digits)
      if digits.isEmpty || !digits.all Char.isDigit then none
      else
        let value := Nat.ofDigitChars 10 digits 0
        some (if negative then -(value : Int) else value)
    else none

private def magnitude? (negative : Bool) (cs : List Char) : Option Binary64 :=
  match Text.lowercase (.ofList cs) with
  | "inf" | "infinity" => some (infinity negative)
  | "nan" => some nan
  | _ =>
    let whole := cs.takeWhile Char.isDigit
    let (fraction, rest) := fractionOf (cs.dropWhile Char.isDigit)
    if whole.isEmpty && fraction.isEmpty then none
    else (exponentOf? rest).map fun power =>
      ofDecimal negative (Nat.ofDigitChars 10 (whole ++ fraction) 0) (power - fraction.length)

/-- Reads a decimal with an optional sign, fraction and exponent, or one of the words for infinity
and for no number, to the nearest number. -/
def ofText? (s : String) : Option Binary64 :=
  match s.toList with
  | '-' :: rest => magnitude? true rest
  | '+' :: rest => magnitude? false rest
  | rest => magnitude? false rest

end Retouch.Binary64
