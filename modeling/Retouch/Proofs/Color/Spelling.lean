import Retouch.Proofs.Color.Depths

/-!
How a color may be spelled. Three channels have a digit or a pair of digits each, and alpha a pair
if it is given at all. A plus sign in place of the first digit of a pair counts for nothing, so more
is read than the digits alone; without plus signs it is these and no others.
-/
namespace Retouch

namespace Text

/-- A hexadecimal digit, in a letter of either case, and what it is worth. -/
def HexDigit (c : Char) (value : Nat) : Prop := value < 16 ∧ c.toLower = Nat.digitChar value

theorem toNat_digitChar {n : Nat} (small : n < 16) :
    (Nat.digitChar n).toNat = if n < 10 then n + 48 else n + 87 := by
  have every : ∀ m : Fin 16, (Nat.digitChar m).toNat = if m.val < 10 then m.val + 48 else m.val + 87 := by
    decide
  exact every ⟨n, small⟩

theorem hexDigit?_eq_some {c : Char} {value : Nat} :
    hexDigit? c = some value ↔ HexDigit c value := by
  constructor
  · intro read
    rw [← hexDigit?_toLower, hexDigit?_eq] at read
    have lower : ¬(65 ≤ c.toLower.toNat ∧ c.toLower.toNat ≤ 90) := by
      rw [← isUpper_iff, isUpper_toLower]
      decide
    have small : value < 16 := by grind
    refine ⟨small, Char.toNat_inj.mp ?_⟩
    rw [toNat_digitChar small]
    grind
  · rintro ⟨small, lower⟩
    rw [← hexDigit?_toLower, lower, hexDigit?_digitChar small]

theorem isHex_iff {c : Char} : IsHex c ↔ ∃ value, HexDigit c value := by
  simp only [IsHex, Option.isSome_iff_exists, hexDigit?_eq_some]

theorem plus_not_isHex : ¬IsHex '+' := nofun

theorem IsHex.unsigned {c : Char} (hex : IsHex c) : isBlank c = false ∧ c ≠ '#' ∧ c ≠ '+' :=
  ⟨hex.plain.1, hex.plain.2.1, fun same => plus_not_isHex (same ▸ hex)⟩

end Text

namespace Color

/-- A digit said twice. -/
def Short (c : Char) (channel : UInt8) : Prop :=
  ∃ value, Text.HexDigit c value ∧ channel.toNat = value * 17

def Pair (high low : Char) (channel : UInt8) : Prop :=
  ∃ first second, Text.HexDigit high first ∧ Text.HexDigit low second ∧
    channel.toNat = first * 16 + second

/-- A digit after a plus sign is worth no more than itself. -/
def Signed (high low : Char) (channel : UInt8) : Prop :=
  high = '+' ∧ Text.HexDigit low channel.toNat

def Loose (high low : Char) (channel : UInt8) : Prop := Pair high low channel ∨ Signed high low channel

/-- The texts of a color, given those of a channel that has two characters. -/
inductive Spells (pair : Char → Char → UInt8 → Prop) : List Char → Color → Prop
  | three {r g b : Char} {red green blue : UInt8} (first : Short r red) (second : Short g green)
      (third : Short b blue) : Spells pair [r, g, b] ⟨red, green, blue, 255⟩
  | six {r r' g g' b b' : Char} {red green blue : UInt8} (first : pair r r' red)
      (second : pair g g' green) (third : pair b b' blue) :
      Spells pair [r, r', g, g', b, b'] ⟨red, green, blue, 255⟩
  | eight {r r' g g' b b' a a' : Char} {red green blue alpha : UInt8} (first : pair r r' red)
      (second : pair g g' green) (third : pair b b' blue) (fourth : pair a a' alpha) :
      Spells pair [r, r', g, g', b, b', a, a'] ⟨red, green, blue, alpha⟩

/-- The part of a text between the blanks around it and the hash signs before it. -/
inductive Bears : List Char → List Char → Prop
  | intro {before marks body after : List Char} (front : ∀ c ∈ before, Text.isBlank c = true)
      (hashes : ∀ c ∈ marks, c = '#') (back : ∀ c ∈ after, Text.isBlank c = true) :
      Bears (before ++ marks ++ body ++ after) body

theorem short_eq_some {c : Char} {channel : UInt8} :
    ofBody?.short c = some channel ↔ Short c channel := by
  simp only [ofBody?.short, Option.map_eq_some_iff, Text.hexDigit?_eq_some, Short]
  constructor
  · rintro ⟨value, digit, rfl⟩
    have small := digit.1
    exact ⟨value, digit, UInt8.toNat_ofNat_of_lt (by simp only [UInt8.size]; omega)⟩
  · rintro ⟨value, digit, worth⟩
    exact ⟨value, digit, by rw [← worth, UInt8.ofNat_toNat]⟩

theorem hexPair?_eq_some {high low : Char} {value : Nat} :
    Text.hexPair? high low = some value ↔
      (high = '+' ∧ Text.HexDigit low value) ∨
        ∃ first second, Text.HexDigit high first ∧ Text.HexDigit low second ∧
          value = first * 16 + second := by
  unfold Text.hexPair?
  split
  next plus =>
    subst plus
    have none (first : Nat) : ¬Text.HexDigit '+' first := fun digit =>
      Text.plus_not_isHex (Text.isHex_iff.mpr ⟨first, digit⟩)
    simp [Text.hexDigit?_eq_some, none]
  next digit =>
    simp only [bind, Option.bind_eq_some_iff, pure, Option.some.injEq, Text.hexDigit?_eq_some, digit,
      false_and, false_or]
    constructor
    · rintro ⟨first, high, second, low, rfl⟩
      exact ⟨first, second, high, low, rfl⟩
    · rintro ⟨first, second, high, low, rfl⟩
      exact ⟨first, high, second, low, rfl⟩

theorem pair_eq_some {high low : Char} {channel : UInt8} :
    ofBody?.pair high low = some channel ↔ Loose high low channel := by
  have exact {value : Nat} (small : value < 256) : UInt8.ofNat value = channel ↔
      channel.toNat = value := by
    constructor
    · rintro rfl
      exact UInt8.toNat_ofNat_of_lt small
    · rintro rfl
      exact UInt8.ofNat_toNat
  simp only [ofBody?.pair, Option.map_eq_some_iff, hexPair?_eq_some, Loose, Pair, Signed]
  constructor
  · rintro ⟨value, ⟨plus, digit⟩ | ⟨first, second, one, other, rfl⟩, same⟩
    · have small := digit.1
      rw [exact (by omega)] at same
      exact .inr ⟨plus, same ▸ digit⟩
    · have small := one.1
      have small' := other.1
      exact .inl ⟨first, second, one, other, (exact (by omega)).mp same⟩
  · rintro (⟨first, second, one, other, worth⟩ | ⟨plus, digit⟩)
    · have small := channel.toNat_lt
      exact ⟨_, .inr ⟨first, second, one, other, rfl⟩, (exact (by omega)).mpr worth⟩
    · exact ⟨_, .inl ⟨plus, digit⟩, UInt8.ofNat_toNat⟩

theorem ofBody?_eq_some {cs : List Char} {color : Color} :
    ofBody? cs = some color ↔ Spells Loose cs color := by
  constructor
  · intro read
    fun_cases ofBody? cs with
    | case1 r g b =>
      simp only [ofBody?, bind, Option.bind_eq_some_iff, short_eq_some, pure, Option.some.injEq] at read
      obtain ⟨red, first, green, second, blue, third, rfl⟩ := read
      exact .three first second third
    | case2 r r' g g' b b' =>
      simp only [ofBody?, bind, Option.bind_eq_some_iff, pair_eq_some, pure, Option.some.injEq] at read
      obtain ⟨red, first, green, second, blue, third, rfl⟩ := read
      exact .six first second third
    | case3 r r' g g' b b' a a' =>
      simp only [ofBody?, bind, Option.bind_eq_some_iff, pair_eq_some, pure, Option.some.injEq] at read
      obtain ⟨red, first, green, second, blue, third, alpha, fourth, rfl⟩ := read
      exact .eight first second third fourth
    | case4 _ three six eight =>
      rw [ofBody?] at read
      · cases read
      · exact three
      · exact six
      · exact eight
  · intro spelled
    cases spelled with
    | three first second third =>
      simp [ofBody?, short_eq_some.mpr first, short_eq_some.mpr second, short_eq_some.mpr third]
    | six first second third =>
      simp [ofBody?, pair_eq_some.mpr first, pair_eq_some.mpr second, pair_eq_some.mpr third]
    | eight first second third fourth =>
      simp [ofBody?, pair_eq_some.mpr first, pair_eq_some.mpr second, pair_eq_some.mpr third,
        pair_eq_some.mpr fourth]

theorem bears_body (cs : List Char) : Bears cs (body cs) := by
  obtain ⟨before, after, whole, front, back⟩ := Text.exists_trimmed cs
  have split : (Text.trimChars cs).takeWhile (· == '#') ++ body cs = Text.trimChars cs :=
    List.takeWhile_append_dropWhile
  have hashes : ∀ c ∈ (Text.trimChars cs).takeWhile (· == '#'), c = '#' := by
    intro c member
    simpa using List.mem_takeWhile_imp member
  rw [← split, ← List.append_assoc before] at whole
  have bears := @Bears.intro before _ (body cs) after front hashes back
  rwa [← whole] at bears

theorem body_of_bears {cs digits : List Char} (bears : Bears cs digits)
    (plain : ∀ c ∈ digits, Text.isBlank c = false ∧ c ≠ '#') : body cs = digits := by
  obtain ⟨front, hashes, back⟩ := bears
  exact body_between front back hashes plain

section Spells
variable {pair pair' : Char → Char → UInt8 → Prop} {cs : List Char} {color : Color}

theorem Spells.forall_mem {p : Char → Prop} (spelled : Spells pair cs color)
    (digit : ∀ c, Text.IsHex c → p c)
    (both : ∀ high low channel, pair high low channel → p high ∧ p low) : ∀ c ∈ cs, p c := by
  have one {c : Char} {channel : UInt8} (short : Short c channel) : p c := by
    obtain ⟨value, worth, -⟩ := short
    exact digit c (Text.isHex_iff.mpr ⟨value, worth⟩)
  cases spelled with
  | three first second third => simp [one first, one second, one third]
  | six first second third => simp [both _ _ _ first, both _ _ _ second, both _ _ _ third]
  | eight first second third fourth =>
    simp [both _ _ _ first, both _ _ _ second, both _ _ _ third, both _ _ _ fourth]

theorem Spells.imp (spelled : Spells pair cs color)
    (each : ∀ high ∈ cs, ∀ low channel, pair high low channel → pair' high low channel) :
    Spells pair' cs color := by
  cases spelled with
  | three first second third => exact .three first second third
  | six first second third =>
    exact .six (each _ (by simp) _ _ first) (each _ (by simp) _ _ second)
      (each _ (by simp) _ _ third)
  | eight first second third fourth =>
    exact .eight (each _ (by simp) _ _ first) (each _ (by simp) _ _ second)
      (each _ (by simp) _ _ third) (each _ (by simp) _ _ fourth)

theorem Pair.isHex {high low : Char} {channel : UInt8} (pair : Pair high low channel) :
    Text.IsHex high ∧ Text.IsHex low := by
  obtain ⟨first, second, digit, digit', -⟩ := pair
  exact ⟨Text.isHex_iff.mpr ⟨first, digit⟩, Text.isHex_iff.mpr ⟨second, digit'⟩⟩

theorem exists_pair {high low : Char} (first : Text.IsHex high) (second : Text.IsHex low) :
    ∃ channel, Pair high low channel := by
  obtain ⟨one, digit⟩ := Text.isHex_iff.mp first
  obtain ⟨other, digit'⟩ := Text.isHex_iff.mp second
  have small := digit.1
  have small' := digit'.1
  exact ⟨.ofNat (one * 16 + other), one, other, digit, digit',
    UInt8.toNat_ofNat_of_lt (by simp only [UInt8.size]; omega)⟩

theorem exists_spells {cs : List Char} (length : cs.length = 6 ∨ cs.length = 8)
    (every : ∀ c ∈ cs, Text.IsHex c) : ∃ color, Spells Pair cs color := by
  match cs, length with
  | [r, r', g, g', b, b'], _ =>
    obtain ⟨red, first⟩ := @exists_pair r r' (every _ (by simp)) (every _ (by simp))
    obtain ⟨green, second⟩ := @exists_pair g g' (every _ (by simp)) (every _ (by simp))
    obtain ⟨blue, third⟩ := @exists_pair b b' (every _ (by simp)) (every _ (by simp))
    exact ⟨_, .six first second third⟩
  | [r, r', g, g', b, b', a, a'], _ =>
    obtain ⟨red, first⟩ := @exists_pair r r' (every _ (by simp)) (every _ (by simp))
    obtain ⟨green, second⟩ := @exists_pair g g' (every _ (by simp)) (every _ (by simp))
    obtain ⟨blue, third⟩ := @exists_pair b b' (every _ (by simp)) (every _ (by simp))
    obtain ⟨alpha, fourth⟩ := @exists_pair a a' (every _ (by simp)) (every _ (by simp))
    exact ⟨_, .eight first second third fourth⟩

theorem Spells.isHex (spelled : Spells Pair cs color) : ∀ c ∈ cs, Text.IsHex c :=
  spelled.forall_mem (fun _ => id) fun _ _ _ => Pair.isHex

theorem Spells.plain (spelled : Spells Loose cs color) :
    ∀ c ∈ cs, Text.isBlank c = false ∧ c ≠ '#' := by
  have digit {c : Char} (hex : Text.IsHex c) : Text.isBlank c = false ∧ c ≠ '#' :=
    ⟨hex.plain.1, hex.plain.2.1⟩
  refine spelled.forall_mem (fun c => digit) fun high low channel pair => ?_
  rcases pair with pair | ⟨rfl, worth⟩
  · exact ⟨digit pair.isHex.1, digit pair.isHex.2⟩
  · exact ⟨by decide, digit (Text.isHex_iff.mpr ⟨_, worth⟩)⟩

theorem spells_pair_iff : Spells Pair cs color ↔ Spells Loose cs color ∧ '+' ∉ cs := by
  constructor
  · intro spelled
    exact ⟨spelled.imp fun _ _ _ _ => .inl,
      fun plus => Text.plus_not_isHex (spelled.isHex _ plus)⟩
  · rintro ⟨spelled, absent⟩
    refine spelled.imp fun high member low channel pair => ?_
    rcases pair with pair | ⟨rfl, -⟩
    · exact pair
    · exact (absent member).elim

end Spells

theorem ofBody?_body {cs : List Char} {color : Color} :
    ofBody? (body cs) = some color ↔ ∃ digits, Bears cs digits ∧ Spells Loose digits color := by
  rw [ofBody?_eq_some]
  constructor
  · exact fun spelled => ⟨_, bears_body cs, spelled⟩
  · rintro ⟨digits, bears, spelled⟩
    rwa [body_of_bears bears spelled.plain]

theorem parse_eq_ok {s : String} {color : Color} : parse s = .ok color ↔
    ∃ digits, Bears s.toList digits ∧ Spells Loose digits color := by
  rw [← ofBody?_body, parse]
  cases ofBody? (body s.toList) <;> simp

theorem parse_eq_error {s : String} {cause : Cause} : parse s = .error cause ↔
    cause = notHex s ∧ ¬∃ digits color, Bears s.toList digits ∧ Spells Loose digits color := by
  have none : (∃ digits color, Bears s.toList digits ∧ Spells Loose digits color) ↔
      ∃ color, ofBody? (body s.toList) = some color := by
    simp only [ofBody?_body]
    exact exists_comm
  rw [none, parse]
  cases ofBody? (body s.toList) <;> simp [eq_comm]

theorem bears_self (cs : List Char) : Bears cs cs := by
  simpa using @Bears.intro [] [] cs [] (List.forall_mem_nil _) (List.forall_mem_nil _)
    (List.forall_mem_nil _)

/-- A text without blanks and signs stands for itself. -/
theorem bears_plain {cs : List Char} {color : Color}
    (plain : ∀ c ∈ cs, Text.isBlank c = false ∧ c ≠ '#' ∧ c ≠ '+') :
    (∃ digits, Bears cs digits ∧ Spells Loose digits color) ↔ Spells Pair cs color := by
  constructor
  · rintro ⟨digits, bears, spelled⟩
    have whole : body cs = cs :=
      body_of_bears (bears_self cs) fun c member => ⟨(plain c member).1, (plain c member).2.1⟩
    rw [← body_of_bears bears spelled.plain, whole] at spelled
    exact spells_pair_iff.mpr ⟨spelled, fun plus => (plain '+' plus).2.2 rfl⟩
  · intro spelled
    exact ⟨cs, bears_self cs, (spells_pair_iff.mp spelled).1⟩

theorem Bears.plus_mem {cs digits : List Char} (bears : Bears cs digits) :
    '+' ∈ cs ↔ '+' ∈ digits := by
  obtain @⟨before, marks, _, after, front, hashes, back⟩ := bears
  have early : '+' ∉ before := fun member => nomatch front '+' member
  have middle : '+' ∉ marks := fun member => nomatch hashes '+' member
  have late : '+' ∉ after := fun member => nomatch back '+' member
  simp only [List.mem_append, early, middle, late, false_or, or_false]

theorem bears_pairs {s : String} {color : Color} :
    (∃ digits, Bears s.toList digits ∧ Spells Pair digits color) ↔
      parse s = .ok color ∧ '+' ∉ s.toList := by
  simp only [parse_eq_ok, spells_pair_iff]
  constructor
  · rintro ⟨digits, bears, spelled, absent⟩
    exact ⟨⟨digits, bears, spelled⟩, by rwa [bears.plus_mem]⟩
  · rintro ⟨⟨digits, bears, spelled⟩, absent⟩
    exact ⟨digits, bears, spelled, by rwa [← bears.plus_mem]⟩

theorem spelling_read (s : String) :
    (∀ color, parse s = .ok color ↔
      ∃ digits, Bears s.toList digits ∧ Spells Loose digits color) ∧
    (∀ cause, parse s = .error cause ↔
      cause = .invalidArgument s!"'{s}' is not a hex color" ∧
        ¬∃ digits color, Bears s.toList digits ∧ Spells Loose digits color) ∧
    ∀ color, (∃ digits, Bears s.toList digits ∧ Spells Pair digits color) ↔
      parse s = .ok color ∧ '+' ∉ s.toList :=
  ⟨fun _ => parse_eq_ok, fun _ => parse_eq_error, fun _ => bears_pairs⟩

/-- Three pairs, each with a plus sign for its first digit. -/
theorem plus_signs_read : parse "+f+f+f" = .ok ⟨15, 15, 15, 255⟩ ∧
    ¬∃ digits color, Bears "+f+f+f".toList digits ∧ Spells Pair digits color := by
  refine ⟨by decide +kernel, ?_⟩
  rintro ⟨digits, color, spelled⟩
  have absent := (bears_pairs.mp ⟨digits, spelled⟩).2
  exact absent (by decide)

end Color

end Retouch
