import Retouch.Json.Node
import Retouch.Text.Numeral

/-!
Numbers. The digits are gathered into one word of 64 bits and a power of ten; digits for which the
word has no room only move the power. An integer that has neither point nor exponent stays one as
long as it fits; the number zero with a minus sign does not.
-/
namespace Retouch.Json

def wordMax : Nat := 0xFFFFFFFFFFFFFFFF

/-- Appends digits as long as the word has room for them; the rest is left over. -/
def gather (significand : Nat) : List Char → Nat × List Char
  | [] => (significand, [])
  | digit :: rest =>
    let next := significand * 10 + (digit.toNat - 48)
    if wordMax < next then (significand, digit :: rest) else gather next rest

/-- Divides by `10 ^ 308` until the power is one that a double can hold, then scales once. Every
step rounds. -/
def scaled : Nat → Binary64 → Int → Option Binary64
  | 0, x, _ => some x
  | fuel + 1, x, power =>
    if power.natAbs ≤ 308 then
      let result := x.scaleTen power
      if result.isFinite then some result else none
    else if x.isZero then some x
    else if 0 ≤ power then none
    else scaled fuel (x.scaleTen (-308)) (power + 308)

def floating (negative : Bool) (significand : Nat) (power : Int) : Node :=
  match scaled (power.natAbs / 308 + 2) (.ofInt significand) power with
  | some x => .float (.withSign negative x)
  | none => .overflow

def exponentMax : Nat := 0x7FFFFFFF

/-- The number with an exponent written out. One past the greatest makes zero or is too large. -/
def withExponent (negative : Bool) (significand : Nat) (power : Int) (down : Bool)
    (digits : List Char) : Node :=
  let exponent := Nat.ofDigitChars 10 digits 0
  if exponentMax < exponent then
    if significand == 0 || down then .float (.zero negative) else .overflow
  else
    let sum := if down then power - exponent else power + exponent
    floating negative significand (max (-0x80000000) (min sum exponentMax))

def integral (negative : Bool) (significand : Nat) : Node :=
  if !negative then .integer significand
  else if significand == 0 || 0x8000000000000000 < significand then
    .float (.withSign true (.ofInt significand))
  else .integer (-(significand : Int))

structure Numeral where
  negative : Bool
  whole : List Char
  fraction : Option (List Char)
  /-- Whether the exponent has a minus sign, and its digits. -/
  exponent : Option (Bool × List Char)

def Numeral.node (numeral : Numeral) : Node :=
  let (significand, excess) := gather 0 numeral.whole
  match numeral.fraction, numeral.exponent, excess with
  | none, none, [] => integral numeral.negative significand
  | fraction, exponent, excess =>
    let digits := fraction.getD []
    let (significand, unused) := gather significand digits
    let power : Int := excess.length - (digits.length - unused.length : Nat)
    match exponent with
    | none => floating numeral.negative significand power
    | some (down, places) => withExponent numeral.negative significand power down places

def digits? (cs : List Char) : Option (List Char × List Char) :=
  let digits := cs.takeWhile Char.isDigit
  if digits.isEmpty then none else some (digits, cs.dropWhile Char.isDigit)

def fraction? : List Char → Option (Option (List Char) × List Char)
  | '.' :: rest => (digits? rest).map fun (digits, rest) => (some digits, rest)
  | rest => some (none, rest)

def exponent? : List Char → Option (Option (Bool × List Char) × List Char)
  | [] => some (none, [])
  | mark :: rest =>
    if mark = 'e' || mark = 'E' then
      let (down, places) := match rest with
        | '-' :: rest => (true, rest)
        | '+' :: rest => (false, rest)
        | rest => (false, rest)
      (digits? places).map fun (digits, rest) => (some (down, digits), rest)
    else some (none, mark :: rest)

/-- A numeral at the start of a text, and what follows it. A zero in front of other digits is
refused. -/
def numeral? (cs : List Char) : Option (Numeral × List Char) := do
  let (negative, rest) := match cs with
    | '-' :: rest => (true, rest)
    | rest => (false, rest)
  let (whole, rest) ← digits? rest
  if whole.length > 1 && whole.head? == some '0' then none
  else do
    let (fraction, rest) ← fraction? rest
    let (exponent, rest) ← exponent? rest
    return (⟨negative, whole, fraction, exponent⟩, rest)

end Retouch.Json
