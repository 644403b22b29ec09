import Retouch.Binary64.Decimal
import Retouch.Proofs.Text.Reading

/-!
What the names of temporary files are told apart by: each has an `m` or a `p` near its start. In
numbers, sizes and colors these characters never occur.
-/
namespace Retouch

namespace Text

def Unmarked (cs : List Char) : Prop := 'm' ∉ cs ∧ 'p' ∉ cs

instance (cs : List Char) : Decidable (Unmarked cs) := inferInstanceAs (Decidable (_ ∧ _))

@[simp] theorem unmarked_nil : Unmarked [] := by decide

@[simp] theorem unmarked_append (a b : List Char) :
    Unmarked (a ++ b) ↔ Unmarked a ∧ Unmarked b := by
  simp only [Unmarked, List.mem_append, not_or]
  tauto

@[simp] theorem unmarked_cons (c : Char) (cs : List Char) :
    Unmarked (c :: cs) ↔ (c ≠ 'm' ∧ c ≠ 'p') ∧ Unmarked cs := by
  simp only [Unmarked, List.mem_cons, not_or, ne_eq, eq_comm]
  tauto

theorem Unmarked.subset {a b : List Char} (unmarked : Unmarked b) (inside : a ⊆ b) : Unmarked a :=
  ⟨fun member => unmarked.1 (inside member), fun member => unmarked.2 (inside member)⟩

theorem unmarked_of_isDigit {cs : List Char} (every : ∀ c ∈ cs, c.isDigit = true) :
    Unmarked cs := by
  constructor
  · intro member
    exact absurd (every _ member) (by decide)
  · intro member
    exact absurd (every _ member) (by decide)

@[simp] theorem unmarked_toDigits (n : Nat) : Unmarked (Nat.toDigits 10 n) :=
  unmarked_of_isDigit fun _ => isDigit_of_mem

end Text

open Text

@[simp] theorem unmarked_toString (n : Nat) : Unmarked (toString n).toList := by
  simp [toString, Nat.repr]

theorem unmarked_int (n : Int) : Unmarked (toString n).toList := by
  cases n with
  | ofNat n => exact unmarked_toString n
  | negSucc n =>
    change Unmarked ("-" ++ toString (n + 1)).toList
    rw [String.toList_append, unmarked_append]
    exact ⟨by decide, unmarked_toString _⟩

theorem Size.unmarked_text (size : Size) : Unmarked size.text.toList := by
  simp [text_chars]

theorem Point.unmarked_offset (point : Point) : Unmarked point.offset.toList := by
  simp only [offset, String.toList_append, toList_toString_word, unmarked_append,
    unmarked_toDigits, and_true]
  decide

theorem Color.unmarked_text (color : Color) : Unmarked color.text.toList := by
  rw [text, String.toList_ofList]
  constructor <;> intro member <;> rcases isHex_of_mem member with same | hex
  · cases same
  · cases hex
  · cases same
  · cases hex

namespace Binary64

theorem isDigit_shortest (mantissa : Nat) (exponent : Int) :
    ∀ c ∈ (shortest mantissa exponent).1, c.isDigit = true := by
  unfold shortest
  split
  · simp
  · intro c member
    simp only [dropEnd, List.mem_reverse] at member
    have inside := (List.dropWhile_suffix _).subset member
    rw [List.mem_reverse] at inside
    revert inside
    generalize found : (List.range 17).findSome? _ = digits?
    cases digits? with
    | none =>
      simp only [Option.getD_none, List.mem_singleton]
      rintro rfl
      rfl
    | some pair =>
      obtain ⟨count, -, told⟩ := List.exists_of_findSome?_eq_some found
      obtain ⟨n, -, rfl⟩ := Option.map_eq_some_iff.mp told
      exact isDigit_of_mem

theorem unmarked_positional (style : Style) {digits : List Char} (power : Int)
    (unmarked : Unmarked digits) : Unmarked (style.positionalText digits power) := by
  have zeros (n : Nat) : Unmarked (List.replicate n '0') := by
    apply unmarked_of_isDigit
    intro c member
    rw [List.eq_of_mem_replicate member]
    rfl
  have first (n : Nat) := unmarked.subset (List.take_subset n digits)
  have later (n : Nat) := unmarked.subset (List.drop_subset n digits)
  unfold Style.positionalText
  split
  · simp [zeros, unmarked]
  · simp only
    split
    · cases style.wholePoint <;> simp [zeros, unmarked]
    · simp [first, later]

theorem text_finite (negative : Bool) (mantissa : Nat) (exponent : Int) :
    (text (finite negative mantissa exponent)).toList =
      if negative then '-' :: plain.positionalText (shortest mantissa exponent).1
        (shortest mantissa exponent).2
      else plain.positionalText (shortest mantissa exponent).1 (shortest mantissa exponent).2 := by
  rw [text, Style.write, String.toList_ofList]
  rfl

theorem unmarked_text (x : Binary64) : Unmarked x.text.toList := by
  cases x with
  | nan => decide
  | infinity negative => cases negative <;> decide
  | finite negative mantissa exponent =>
    have digits := unmarked_of_isDigit (isDigit_shortest mantissa exponent)
    have magnitude := unmarked_positional plain (shortest mantissa exponent).2 digits
    rw [text_finite]
    cases negative <;> simp [magnitude]

end Binary64

theorem unmarked_intercalate {separator : String} {parts : List String}
    (mark : Unmarked separator.toList) (every : ∀ part ∈ parts, Unmarked part.toList) :
    Unmarked (separator.intercalate parts).toList := by
  induction parts with
  | nil => simp
  | cons part rest ih =>
    have head := every part (List.mem_cons_self ..)
    have tail := ih fun other member => every other (List.mem_cons_of_mem _ member)
    cases rest with
    | nil => simpa using head
    | cons next later =>
      rw [String.intercalate_cons_cons, String.toList_append, String.toList_append,
        unmarked_append, unmarked_append]
      exact ⟨⟨head, mark⟩, tail⟩

end Retouch
