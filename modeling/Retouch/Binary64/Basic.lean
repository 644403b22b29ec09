/-!
Floating-point numbers of 64 bits as data, so that a proof can see inside them: a finite number is
`mantissa * 2 ^ exponent` with a mantissa below `2 ^ 53`. `ofRatio` is the one place that rounds.
-/
namespace Retouch

inductive Binary64
  | nan
  | infinity (negative : Bool)
  | finite (negative : Bool) (mantissa : Nat) (exponent : Int)
deriving DecidableEq, Repr

namespace Binary64

def zero (negative : Bool) : Binary64 := .finite negative 0 (-1074)

def isFinite : Binary64 → Bool
  | finite .. => true
  | _ => false

/-- A quotient to the nearest integer, a tie to the even one. -/
def roundDiv (num den : Nat) : Nat :=
  let below := num / den
  let rest := num % den
  if 2 * rest < den || (2 * rest == den && below % 2 == 0) then below else below + 1

/-- The numerator and denominator of `(num / den) * 2 ^ shift`. -/
def shifted (num den : Nat) (shift : Int) : Nat × Nat :=
  if 0 ≤ shift then (num * Nat.pow 2 shift.toNat, den) else (num, den * Nat.pow 2 (-shift).toNat)

/-- The least mantissa that takes all 53 bits. -/
def leastFull : Nat := 0x10000000000000

/-- The number nearest to a quotient, a tie going to the even mantissa. The exponent is the one
that gives the mantissa 53 bits, but never below -1074; past 971 the number is infinite. -/
def ofRatio (negative : Bool) (num den : Nat) : Binary64 :=
  if num == 0 then zero negative
  else
    let guess : Int := (num.log2 : Int) - den.log2 - 52
    let (n, d) := shifted num den (-guess)
    let exponent := max (if n / d < leastFull then guess - 1 else guess) (-1074)
    let (n, d) := shifted num den (-exponent)
    let mantissa := roundDiv n d
    let (mantissa, exponent) :=
      if mantissa == 2 * leastFull then (leastFull, exponent + 1) else (mantissa, exponent)
    if 971 < exponent then infinity negative else finite negative mantissa exponent

def ofInt (n : Int) : Binary64 := ofRatio (n < 0) n.natAbs 1

/-- The number nearest to `digits * 10 ^ power`. Powers far outside the range are cut off first. -/
def ofDecimal (negative : Bool) (digits : Nat) (power : Int) : Binary64 :=
  let lead := power + (Nat.toDigits 10 digits).length
  if digits == 0 || lead < -400 then zero negative
  else if 400 < lead then infinity negative
  else if 0 ≤ power then ofRatio negative (digits * Nat.pow 10 power.toNat) 1
  else ofRatio negative digits (Nat.pow 10 (-power).toNat)

/-- Multiplies by the number nearest to a power of ten, or divides by it when the power is
negative, and rounds. -/
def scaleTen (x : Binary64) (power : Int) : Binary64 :=
  match x, ofRatio false (Nat.pow 10 power.natAbs) 1 with
  | finite negative m e, finite _ m' e' =>
    let (n, d) := shifted m 1 e
    let (n', d') := shifted m' 1 e'
    if 0 ≤ power then ofRatio negative (n * n') (d * d') else ofRatio negative (n * d') (d * n')
  | x, _ => x

def isZero : Binary64 → Bool
  | finite _ mantissa _ => mantissa == 0
  | _ => false

def withSign (negative : Bool) : Binary64 → Binary64
  | nan => nan
  | infinity _ => infinity negative
  | finite _ mantissa exponent => finite negative mantissa exponent

def isPositive : Binary64 → Bool
  | finite negative mantissa _ => !negative && mantissa != 0
  | _ => false

/-- Finite and not below zero; both zeros are. -/
def isNonnegative : Binary64 → Bool
  | finite negative mantissa _ => !negative || mantissa == 0
  | _ => false

/-- The nearest integer, a tie going away from zero. -/
def round? : Binary64 → Option Int
  | finite negative mantissa exponent =>
    let magnitude :=
      if 0 ≤ exponent then mantissa * Nat.pow 2 exponent.toNat
      else (2 * mantissa + Nat.pow 2 (-exponent).toNat) / (2 * Nat.pow 2 (-exponent).toNat)
    some (if negative then -(magnitude : Int) else magnitude)
  | _ => none

def rounded (x : Binary64) : Binary64 :=
  match x.round? with
  | some n => ofInt n
  | none => x

theorem isFinite_of_isPositive {x : Binary64} (positive : x.isPositive) : x.isFinite := by
  cases x <;> simp_all [isPositive, isFinite]

theorem isFinite_of_isNonnegative {x : Binary64} (bounded : x.isNonnegative) : x.isFinite := by
  cases x <;> simp_all [isNonnegative, isFinite]

theorem isFinite_of_round? {x : Binary64} {n : Int} (rounded : x.round? = some n) : x.isFinite := by
  cases x <;> simp_all [round?, isFinite]

end Binary64

end Retouch
