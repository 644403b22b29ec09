import Retouch.Proofs.Files.Extension
import Retouch.Proofs.Text.Unmarked

/-!
Numbers in figures, as the tool takes them. Every finite number is written so, and what is written
for another one is a word: a text tells by itself whether the number behind it is finite.
-/
namespace Retouch

namespace Text

inductive Magnitude : List Char → Prop
  | whole {digits : List Char} : digits ≠ [] → (∀ c ∈ digits, c.isDigit = true) →
      Magnitude digits
  | fraction {digits places : List Char} : digits ≠ [] → (∀ c ∈ digits, c.isDigit = true) →
      (∀ c ∈ places, c.isDigit = true) → Magnitude (digits ++ '.' :: places)

inductive Figures : List Char → Prop
  | positive {cs : List Char} : Magnitude cs → Figures cs
  | negative {cs : List Char} : Magnitude cs → Figures ('-' :: cs)

theorem Magnitude.mem {cs : List Char} (magnitude : Magnitude cs) :
    ∀ c ∈ cs, c.isDigit = true ∨ c = '.' := by
  cases magnitude with
  | whole _ every => exact fun c member => .inl (every c member)
  | fraction _ every later =>
    simp only [List.forall_mem_append, List.forall_mem_cons]
    exact ⟨fun c member => .inl (every c member), .inr trivial,
      fun c member => .inl (later c member)⟩

theorem Figures.mem {cs : List Char} (figures : Figures cs) :
    ∀ c ∈ cs, c.isDigit = true ∨ c = '.' ∨ c = '-' := by
  cases figures with
  | positive magnitude => exact fun c member => (magnitude.mem c member).imp_right .inl
  | negative magnitude =>
    simp only [List.forall_mem_cons]
    exact ⟨.inr (.inr trivial), fun c member => (magnitude.mem c member).imp_right .inl⟩

theorem Figures.cross_not_mem {cs : List Char} (figures : Figures cs) : 'x' ∉ cs := by
  intro member
  exact absurd (figures.mem 'x' member) (by decide)

theorem magnitude_toDigits (n : Nat) : Magnitude (Nat.toDigits 10 n) :=
  .whole Nat.toDigits_ne_nil fun _ => isDigit_of_mem

theorem figures_int (n : Int) : Figures (toString n).toList := by
  cases n with
  | ofNat n =>
    have spelled : (toString (Int.ofNat n)).toList = Nat.toDigits 10 n := by
      simp [toString, Int.repr, Nat.repr]
    rw [spelled]
    exact .positive (magnitude_toDigits n)
  | negSucc n =>
    have spelled : (toString (Int.negSucc n)).toList = '-' :: Nat.toDigits 10 (n + 1) := by
      simp [toString, Int.repr, Nat.repr]
    rw [spelled]
    exact .negative (magnitude_toDigits (n + 1))

theorem figures_alone {cs : List Char} (figures : Figures cs) :
    ∀ number ∈ splitAll 'x' cs, Figures number := by
  rw [splitAll_eq figures.cross_not_mem, List.forall_mem_singleton]
  exact figures

theorem figures_pair {first second : List Char} (before : Figures first) (after : Figures second) :
    ∀ number ∈ splitAll 'x' (first ++ 'x' :: second), Figures number := by
  have cut : splitAll 'x' (first ++ 'x' :: second) = [first, second] :=
    splitAll_eq_cons.mpr ⟨by simp, before.cross_not_mem, by simpa using after.cross_not_mem⟩
  rw [cut, List.forall_mem_cons, List.forall_mem_singleton]
  exact ⟨before, after⟩

theorem splitAll_intercalate {mark : Char} {separator : String} (single : separator.toList = [mark])
    {parts : List String} (filled : parts ≠ []) (absent : ∀ part ∈ parts, mark ∉ part.toList) :
    splitAll mark (separator.intercalate parts).toList = parts.map String.toList := by
  obtain ⟨first, rest, rfl⟩ := List.exists_cons_of_ne_nil filled
  rw [List.forall_mem_cons] at absent
  have joined : (separator.intercalate (first :: rest)).toList =
      first.toList ++ (rest.map String.toList).flatMap (mark :: ·) := by
    induction rest generalizing first with
    | nil => simp
    | cons next later ih =>
      have after := ih next (by simp) (List.forall_mem_cons.mp absent.2)
      rw [String.intercalate_cons_cons, String.toList_append, String.toList_append, single, after]
      simp
  rw [joined]
  exact splitAll_eq_cons.mpr ⟨rfl, absent.1, by simpa using absent.2⟩

end Text

open Text

namespace Binary64

theorem magnitude_positional {digits : List Char} (every : ∀ c ∈ digits, c.isDigit = true)
    (power : Int) : Magnitude (plain.positionalText digits power) := by
  have zeros (n : Nat) : ∀ c ∈ List.replicate n '0', c.isDigit = true := by
    intro c member
    rw [List.eq_of_mem_replicate member]
    rfl
  unfold Style.positionalText
  split
  · have places (n : Nat) : ∀ c ∈ List.replicate n '0' ++ digits, c.isDigit = true :=
      List.forall_mem_append.mpr ⟨zeros n, every⟩
    exact .fraction (List.cons_ne_nil '0' []) (by simp) (places _)
  · simp only
    split
    next short =>
      rw [show plain.wholePoint = false from rfl, if_neg Bool.false_ne_true, List.append_nil]
      refine .whole ?_ (List.forall_mem_append.mpr ⟨every, zeros _⟩)
      intro empty
      have length := congrArg List.length empty
      simp only [List.length_append, List.length_replicate, List.length_nil] at length
      omega
    next long =>
      refine .fraction ?_ (fun c member => every c (List.mem_of_mem_take member))
        (fun c member => every c (List.mem_of_mem_drop member))
      intro empty
      have length := congrArg List.length empty
      simp only [List.length_take, List.length_nil] at length
      omega

theorem figures_text_iff {x : Binary64} : Figures x.text.toList ↔ x.isFinite = true := by
  cases x with
  | nan =>
    refine iff_of_false (fun figures => ?_) Bool.false_ne_true
    exact absurd (figures.mem 'N' (by decide)) (by decide)
  | infinity negative =>
    refine iff_of_false (fun figures => ?_) Bool.false_ne_true
    exact absurd (figures.mem 'i' (by cases negative <;> decide)) (by decide)
  | finite negative mantissa exponent =>
    refine iff_of_true ?_ rfl
    have magnitude := magnitude_positional (isDigit_shortest mantissa exponent)
      (shortest mantissa exponent).2
    rw [text_finite]
    cases negative
    · exact .positive magnitude
    · exact .negative magnitude

theorem comma_not_mem_text (x : Binary64) : ',' ∉ x.text.toList := by
  cases x with
  | nan => decide
  | infinity negative => cases negative <;> decide
  | finite negative mantissa exponent =>
    intro member
    exact absurd ((figures_text_iff.mpr rfl).mem ',' member) (by decide)

end Binary64

end Retouch
