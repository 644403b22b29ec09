import Mathlib.Data.List.DropRight
import Mathlib.Data.List.TakeWhile
import Retouch.Text.Blank

/-!
Letters between blanks. Lower case turns no blank into a letter and no letter into a blank, so it
can be taken before or after trimming, and a word comes out of the blanks around it whole.
-/
namespace Retouch.Text

theorem isUpper_iff {c : Char} : c.isUpper = true ↔ 65 ≤ c.toNat ∧ c.toNat ≤ 90 := by
  have range : c.isUpper = true ↔ c.val ≥ 65 ∧ c.val ≤ 90 := decide_eq_true_iff
  rw [range, ge_iff_le, UInt32.le_iff_toNat_le, UInt32.le_iff_toNat_le]
  rfl

theorem toLower_eq_self {c : Char} (plain : c.isUpper = false) : c.toLower = c :=
  dif_neg (of_decide_eq_false plain)

theorem toNat_toLower {c : Char} (upper : c.isUpper = true) : c.toLower.toNat = c.toNat + 32 := by
  have small : c.val.toNat + 32 < 2 ^ 32 :=
    Nat.lt_of_le_of_lt (Nat.add_le_add_right (isUpper_iff.mp upper).2 32) (by decide)
  unfold Char.toLower
  rw [dif_pos (of_decide_eq_true upper)]
  exact (UInt32.toNat_add c.val 32).trans (Nat.mod_eq_of_lt small)

theorem toLower_cases (c : Char) :
    c.toLower = c ∨ (65 ≤ c.toNat ∧ c.toNat ≤ 90 ∧ c.toLower.toNat = c.toNat + 32) := by
  cases upper : c.isUpper with
  | false => exact .inl (toLower_eq_self upper)
  | true =>
    obtain ⟨least, most⟩ := isUpper_iff.mp upper
    exact .inr ⟨least, most, toNat_toLower upper⟩

theorem isUpper_toLower (c : Char) : c.toLower.isUpper = false := by
  cases upper : c.isUpper with
  | false => rw [toLower_eq_self upper, upper]
  | true =>
    have range := isUpper_iff.mp upper
    rw [← Bool.not_eq_true, isUpper_iff, toNat_toLower upper]
    omega

theorem isBlank_toLower (c : Char) : isBlank c.toLower = isBlank c := by
  rcases toLower_cases c with same | ⟨least, most, lowered⟩
  · rw [same]
  · have never (n : Nat) (low : 65 ≤ n) (high : n ≤ 122) (d : Char) (value : d.toNat = n) :
        isBlank d = false := by
      simp only [isBlank, value, Bool.or_eq_false_iff, Bool.and_eq_false_iff,
        decide_eq_false_iff_not, beq_eq_false_iff_ne, ne_eq]
      omega
    rw [never _ (by omega) (by omega) c.toLower lowered, never _ least (by omega) c rfl]

/-- A character before the small letters that is no capital comes from itself alone. -/
theorem eq_of_toLower {c d : Char} (lower : c.toLower = d) (small : d.toNat < 97) : c = d := by
  rcases toLower_cases c with same | ⟨least, -, lowered⟩
  · exact same.symm.trans lower
  · rw [lower] at lowered
    omega

@[simp] theorem toList_lowercase (s : String) :
    (lowercase s).toList = s.toList.map Char.toLower := by
  simp [lowercase]

@[simp] theorem toList_trim (s : String) : (trim s).toList = trimChars s.toList := by
  simp [trim]

theorem lowercase_empty : lowercase "" = "" := by
  apply String.toList_injective
  rw [toList_lowercase]
  rfl

theorem mem_lowercase {c : Char} (small : c.toNat < 65) {s : String} :
    c ∈ (lowercase s).toList ↔ c ∈ s.toList := by
  rw [toList_lowercase, List.mem_map]
  constructor
  · rintro ⟨d, member, lower⟩
    rwa [← eq_of_toLower lower (by omega)]
  · intro member
    rcases toLower_cases c with same | ⟨least, -, -⟩
    · exact ⟨c, member, same⟩
    · omega

theorem lowercase_lowercase (s : String) : lowercase (lowercase s) = lowercase s := by
  apply String.toList_injective
  rw [toList_lowercase, toList_lowercase, List.map_map]
  exact List.map_congr_left fun c _ => toLower_eq_self (isUpper_toLower c)

theorem trimChars_map {f : Char → Char} (kept : ∀ c, isBlank (f c) = isBlank c) (cs : List Char) :
    trimChars (cs.map f) = (trimChars cs).map f := by
  have same : isBlank ∘ f = isBlank := funext kept
  simp only [trimChars, dropEnd, List.dropWhile_map, same, ← List.map_reverse]

theorem lowercase_trim (s : String) : lowercase (trim s) = trim (lowercase s) := by
  apply String.toList_injective
  simp [trimChars_map isBlank_toLower]

/-- A text without the blanks on both sides: none is left at either end. -/
structure Trims (cs body : List Char) : Prop where
  around : ∃ before after, cs = before ++ body ++ after ∧ (∀ c ∈ before, isBlank c = true) ∧
    ∀ c ∈ after, isBlank c = true
  first : ∀ c ∈ body.head?, isBlank c = false
  last : ∀ c ∈ body.getLast?, isBlank c = false

theorem dropWhile_filled {cs : List Char} (first : ∀ c ∈ cs.head?, isBlank c = false) :
    cs.dropWhile isBlank = cs := by
  cases cs with
  | nil => rfl
  | cons c rest => exact List.dropWhile_cons_of_neg (by simp [first c rfl])

theorem dropEnd_filled {body after : List Char} (last : ∀ c ∈ body.getLast?, isBlank c = false)
    (back : ∀ c ∈ after, isBlank c = true) : dropEnd isBlank (body ++ after) = body := by
  rw [← List.head?_reverse] at last
  rw [dropEnd, List.reverse_append, List.dropWhile_append_of_pos (by simpa using back),
    dropWhile_filled last, List.reverse_reverse]

theorem Trims.trimChars_eq {cs body : List Char} (trims : Trims cs body) : trimChars cs = body := by
  obtain ⟨before, after, rfl, front, back⟩ := trims.around
  rw [trimChars, List.append_assoc, List.dropWhile_append_of_pos front]
  cases body with
  | nil =>
    have gone : after.dropWhile isBlank = [] := List.dropWhile_eq_nil_iff.mpr back
    rw [List.nil_append, gone]
    rfl
  | cons c rest =>
    have begun : (c :: rest ++ after).dropWhile isBlank = c :: rest ++ after :=
      dropWhile_filled trims.first
    rw [begun]
    exact dropEnd_filled trims.last back

theorem trimChars_between {before word after : List Char} (front : ∀ c ∈ before, isBlank c = true)
    (filled : ∀ c ∈ word, isBlank c = false) (back : ∀ c ∈ after, isBlank c = true) :
    trimChars (before ++ word ++ after) = word :=
  Trims.trimChars_eq ⟨⟨before, after, rfl, front, back⟩,
    fun c head => filled c (List.mem_of_mem_head? head),
    fun c last => filled c (List.mem_of_mem_getLast? last)⟩

/-- What is trimmed away are blanks, on both sides. -/
theorem exists_trimmed (cs : List Char) : ∃ before after, cs = before ++ trimChars cs ++ after ∧
    (∀ c ∈ before, isBlank c = true) ∧ ∀ c ∈ after, isBlank c = true := by
  refine ⟨cs.takeWhile isBlank, ((cs.dropWhile isBlank).reverse.takeWhile isBlank).reverse, ?_,
    fun c => List.mem_takeWhile_imp, fun c member => ?_⟩
  · have back : trimChars cs ++ ((cs.dropWhile isBlank).reverse.takeWhile isBlank).reverse =
        cs.dropWhile isBlank := by
      rw [trimChars, dropEnd, ← List.reverse_append, List.takeWhile_append_dropWhile,
        List.reverse_reverse]
    rw [List.append_assoc, back, List.takeWhile_append_dropWhile]
  · exact List.mem_takeWhile_imp (List.mem_reverse.mp member)

theorem getLast?_dropEnd {p : Char → Bool} {cs : List Char} {c : Char}
    (last : (dropEnd p cs).getLast? = some c) : p c = false := by
  unfold dropEnd at last
  rw [List.getLast?_reverse] at last
  have stopped := List.head?_dropWhile_not p cs.reverse
  rw [last] at stopped
  exact stopped

theorem trims_trimChars (cs : List Char) : Trims cs (trimChars cs) := by
  refine ⟨exists_trimmed cs, fun c head => ?_, fun c => getLast?_dropEnd⟩
  obtain ⟨after, whole⟩ : trimChars cs <+: cs.dropWhile isBlank := List.rdropWhile_prefix isBlank _
  have begun : (cs.dropWhile isBlank).head? = some c := by
    rw [← whole, List.head?_append, head]
    rfl
  have stopped := List.head?_dropWhile_not isBlank cs
  rw [begun] at stopped
  exact stopped

theorem Trims.eq_nil_iff {cs body : List Char} (trims : Trims cs body) :
    body = [] ↔ ∀ c ∈ cs, isBlank c = true := by
  obtain ⟨⟨before, after, rfl, front, back⟩, first, -⟩ := trims
  constructor
  · rintro rfl
    rw [List.append_nil]
    exact List.forall_mem_append.mpr ⟨front, back⟩
  · intro blanks
    cases body with
    | nil => rfl
    | cons c rest => exact absurd (blanks c (by simp)) (by simp [first c rfl])

theorem mem_trimChars {c : Char} (letter : isBlank c = false) {cs : List Char} :
    c ∈ trimChars cs ↔ c ∈ cs := by
  obtain ⟨before, after, whole, front, back⟩ := exists_trimmed cs
  have early : c ∉ before := fun member => by simp [front c member] at letter
  have late : c ∉ after := fun member => by simp [back c member] at letter
  constructor
  · intro member
    rw [whole]
    simp [member]
  · intro member
    rw [whole] at member
    simpa [early, late] using member

theorem trimChars_of_length {cs : List Char} (long : cs.length ≤ (trimChars cs).length) :
    trimChars cs = cs := by
  obtain ⟨before, after, whole, -, -⟩ := exists_trimmed cs
  have lengths := congrArg List.length whole
  simp only [List.length_append] at lengths
  have front : before = [] := List.length_eq_zero_iff.mp (by omega)
  have back : after = [] := List.length_eq_zero_iff.mp (by omega)
  simpa [front, back] using whole.symm

end Retouch.Text
