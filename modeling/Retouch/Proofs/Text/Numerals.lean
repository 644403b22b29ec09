import Retouch.Proofs.Text.Reading

/-!
The numerals of a number: digits, after a plus sign or without one, in which leading zeros do not
count. A numeral of a number that is not below the limit is none.
-/
namespace Retouch.Text

inductive Numeral (limit : Nat) : List Char → Nat → Prop
  | plain {digits : List Char} (filled : digits ≠ []) (every : ∀ c ∈ digits, c.isDigit = true)
      (small : Nat.ofDigitChars 10 digits 0 < limit) :
      Numeral limit digits (Nat.ofDigitChars 10 digits 0)
  | signed {digits : List Char} (filled : digits ≠ []) (every : ∀ c ∈ digits, c.isDigit = true)
      (small : Nat.ofDigitChars 10 digits 0 < limit) :
      Numeral limit ('+' :: digits) (Nat.ofDigitChars 10 digits 0)

variable {limit n : Nat} {cs : List Char}

theorem unsigned?_signed (digits : List Char) : unsigned? limit ('+' :: digits) = some n ↔
    digits ≠ [] ∧ (∀ c ∈ digits, c.isDigit = true) ∧ Nat.ofDigitChars 10 digits 0 < limit ∧
      n = Nat.ofDigitChars 10 digits 0 := by
  simp only [unsigned?]
  grind

theorem unsigned?_plain {digits : List Char} (unsigned : digits.head? ≠ some '+') :
    unsigned? limit digits = unsigned? limit ('+' :: digits) := by
  unfold unsigned?
  split
  next rest => simp at unsigned
  next => rfl

theorem unsigned?_eq_some : unsigned? limit cs = some n ↔ Numeral limit cs n := by
  constructor
  · intro read
    by_cases sign : cs.head? = some '+'
    · obtain ⟨digits, rfl⟩ := List.head?_eq_some_iff.mp sign
      obtain ⟨filled, every, small, rfl⟩ := (unsigned?_signed digits).mp read
      exact .signed filled every small
    · rw [unsigned?_plain sign, unsigned?_signed] at read
      obtain ⟨filled, every, small, rfl⟩ := read
      exact .plain filled every small
  · rintro (⟨filled, every, small⟩ | ⟨filled, every, small⟩)
    · have sign : cs.head? ≠ some '+' := by
        intro plus
        exact absurd (every '+' (List.mem_of_mem_head? plus)) (by decide)
      rw [unsigned?_plain sign, unsigned?_signed]
      exact ⟨filled, every, small, rfl⟩
    · exact (unsigned?_signed _).mpr ⟨filled, every, small, rfl⟩

theorem Numeral.small (numeral : Numeral limit cs n) : n < limit := by
  cases numeral <;> assumption

theorem word32?_eq_some {word : UInt32} :
    word32? cs = some word ↔ Numeral 0x100000000 cs word.toNat := by
  simp only [word32?, Option.map_eq_some_iff, ← unsigned?_eq_some]
  constructor
  · rintro ⟨value, read, rfl⟩
    have small : value < 0x100000000 := (unsigned?_eq_some.mp read).small
    have same : (UInt32.ofNat value).toNat = value := UInt32.toNat_ofNat_of_lt small
    rwa [same]
  · intro read
    exact ⟨_, read, UInt32.ofNat_toNat⟩

theorem word64?_eq_some {word : UInt64} :
    word64? cs = some word ↔ Numeral 0x10000000000000000 cs word.toNat := by
  simp only [word64?, Option.map_eq_some_iff, ← unsigned?_eq_some]
  constructor
  · rintro ⟨value, read, rfl⟩
    have small : value < 0x10000000000000000 := (unsigned?_eq_some.mp read).small
    have same : (UInt64.ofNat value).toNat = value := UInt64.toNat_ofNat_of_lt small
    rwa [same]
  · intro read
    exact ⟨_, read, UInt64.ofNat_toNat⟩

theorem numeral_toDigits (word : UInt32) :
    Numeral 0x100000000 (Nat.toDigits 10 word.toNat) word.toNat :=
  word32?_eq_some.mp (word32?_toDigits word)

end Retouch.Text
