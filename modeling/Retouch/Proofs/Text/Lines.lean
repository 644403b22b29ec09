import Retouch.Proofs.Text.Reading

/-!
Lines and words. A line ends at a line feed, and a carriage return before that belongs to the
ending; the first word of a text stands between blanks.
-/
namespace Retouch.Text

/-- A text and its lines. The last one needs no ending, but then there is something on it. -/
inductive Cut : List Char → List (List Char) → Prop
  | nil : Cut [] []
  | last {line : List Char} (filled : line ≠ []) (whole : '\n' ∉ line) : Cut line [line]
  | feed {line rest : List Char} {later : List (List Char)} (whole : '\n' ∉ line)
      (bare : line.getLast? ≠ some '\r') (cut : Cut rest later) :
      Cut (line ++ '\n' :: rest) (line :: later)
  | carriage {line rest : List Char} {later : List (List Char)} (whole : '\n' ∉ line)
      (cut : Cut rest later) : Cut (line ++ '\r' :: '\n' :: rest) (line :: later)

theorem linesFrom_append {line : List Char} (whole : '\n' ∉ line) (reversed rest : List Char) :
    linesFrom reversed (line ++ '\n' :: rest) =
      endLine (line.reverse ++ reversed) :: lines rest := by
  induction line generalizing reversed with
  | nil => simp [linesFrom, lines]
  | cons c line ih =>
    obtain ⟨other, later⟩ : '\n' ≠ c ∧ '\n' ∉ line := by simpa using whole
    simp [linesFrom, Ne.symm other, ih later]

theorem lines_append {line : List Char} (whole : '\n' ∉ line) (rest : List Char) :
    lines (line ++ '\n' :: rest) = endLine line.reverse :: lines rest := by
  rw [lines, linesFrom_append whole, List.append_nil]

theorem endLine_bare {line : List Char} (bare : line.getLast? ≠ some '\r') :
    endLine line.reverse = line := by
  rw [← List.head?_reverse] at bare
  unfold endLine
  split
  next reversed turned => simp [turned] at bare
  next => exact List.reverse_reverse line

theorem endLine_carriage (line : List Char) : endLine (line ++ ['\r']).reverse = line := by
  simp [endLine]

theorem Cut.next {line rest : List Char} {later : List (List Char)} (whole : '\n' ∉ line)
    (cut : Cut rest later) : Cut (line ++ '\n' :: rest) (endLine line.reverse :: later) := by
  by_cases bare : line.getLast? = some '\r'
  · obtain ⟨line, rfl⟩ := List.getLast?_eq_some_iff.mp bare
    rw [endLine_carriage, List.append_assoc]
    exact .carriage (fun early => whole (by simp [early])) cut
  · rw [endLine_bare bare]
    exact .feed whole bare cut

theorem cut_linesFrom {reversed : List Char} (whole : '\n' ∉ reversed) (cs : List Char) :
    Cut (reversed.reverse ++ cs) (linesFrom reversed cs) := by
  induction cs generalizing reversed with
  | nil =>
    cases reversed with
    | nil => exact .nil
    | cons c reversed =>
      rw [List.append_nil]
      exact .last (by simp) fun member => whole (List.mem_reverse.mp member)
  | cons c rest ih =>
    have turned : '\n' ∉ reversed.reverse := by simpa using whole
    rw [linesFrom]
    split
    next feed =>
      subst feed
      have later : Cut rest (linesFrom [] rest) := by simpa using @ih [] (by simp)
      simpa using later.next turned
    next other =>
      have longer : '\n' ∉ c :: reversed := by simpa using ⟨Ne.symm other, whole⟩
      simpa using ih longer

theorem cut_lines (cs : List Char) : Cut cs (lines cs) := cut_linesFrom List.not_mem_nil cs

theorem Cut.lines {cs : List Char} {ls : List (List Char)} (cut : Cut cs ls) :
    Text.lines cs = ls := by
  induction cut with
  | nil => rfl
  | last filled whole => exact linesFrom_eq [] whole filled
  | feed whole bare cut ih => rw [lines_append whole, endLine_bare bare, ih]
  | carriage whole cut ih =>
    rename_i line rest later
    have longer : '\n' ∉ line ++ ['\r'] := by simpa using whole
    have ended := lines_append longer rest
    rwa [List.append_assoc, endLine_carriage, ih] at ended

/-- The first line that is not blank, without the blanks around it; of a blank text, nothing. -/
inductive Leads (text : List Char) : List Char → Prop
  | filled {earlier later : List (List Char)} {line body : List Char}
      (cut : Cut text (earlier ++ line :: later))
      (blanks : ∀ other ∈ earlier, ∀ c ∈ other, isBlank c = true)
      (filled : ∃ c ∈ line, isBlank c = false) (trims : Trims line body) : Leads text body
  | blank {lines : List (List Char)} (cut : Cut text lines)
      (blanks : ∀ line ∈ lines, ∀ c ∈ line, isBlank c = true) : Leads text []

theorem mem_endLine {c : Char} {line : List Char} (member : c ∈ endLine line.reverse) :
    c ∈ line := by
  by_cases bare : line.getLast? = some '\r'
  · obtain ⟨line, rfl⟩ := List.getLast?_eq_some_iff.mp bare
    rw [endLine_carriage] at member
    exact List.mem_append_left _ member
  · rwa [endLine_bare bare] at member

theorem Leads.next {line rest body : List Char} (whole : '\n' ∉ line)
    (blank : ∀ c ∈ line, isBlank c = true) (leads : Leads rest body) :
    Leads (line ++ '\n' :: rest) body := by
  have first : ∀ c ∈ endLine line.reverse, isBlank c = true :=
    fun c member => blank c (mem_endLine member)
  cases leads with
  | filled cut blanks filled trims =>
    exact .filled (cut.next whole) (List.forall_mem_cons.mpr ⟨first, blanks⟩) filled trims
  | blank cut blanks => exact .blank (cut.next whole) (List.forall_mem_cons.mpr ⟨first, blanks⟩)

theorem leads_below {rest body : List Char}
    (leads : ∀ line, '\n' ∉ line → (∀ c ∈ line, isBlank c = true) → Leads (line ++ rest) body)
    {gap : List Char} (blanks : ∀ c ∈ gap, isBlank c = true) : Leads (gap ++ rest) body := by
  have every : ∀ line, '\n' ∉ line → (∀ c ∈ line, isBlank c = true) →
      Leads (line ++ gap ++ rest) body := by
    induction gap with
    | nil => simpa using leads
    | cons c gap ih =>
      intro line whole blank
      obtain ⟨here, after⟩ := List.forall_mem_cons.mp blanks
      by_cases feed : c = '\n'
      · subst feed
        have later := ih after [] List.not_mem_nil (List.forall_mem_nil _)
        simpa using later.next whole blank
      · have longer := ih after (line ++ [c]) (by simp [whole, Ne.symm feed])
          (List.forall_mem_append.mpr ⟨blank, List.forall_mem_singleton.mpr here⟩)
        simpa using longer
  exact every [] List.not_mem_nil (List.forall_mem_nil _)

/-- A word ends where the text does or at a blank. -/
def EndsWord : List Char → Prop
  | [] => True
  | c :: _ => isBlank c = true

/-- Only blanks stand before the first word. -/
inductive FirstWord : List Char → List Char → Prop
  | intro {gap word after : List Char} (blanks : ∀ c ∈ gap, isBlank c = true) (filled : word ≠ [])
      (whole : ∀ c ∈ word, isBlank c = false) (ended : EndsWord after) :
      FirstWord (gap ++ word ++ after) word

theorem firstWord?_between {gap word after : List Char} (blanks : ∀ c ∈ gap, isBlank c = true)
    (whole : ∀ c ∈ word, isBlank c = false) (ended : EndsWord after) (filled : word ≠ []) :
    firstWord? (gap ++ word ++ after) = some word := by
  have begun : (word ++ after).dropWhile isBlank = word ++ after := by
    obtain ⟨c, rest, rfl⟩ := List.exists_cons_of_ne_nil filled
    exact List.dropWhile_cons_of_neg (by simp [whole c (by simp)])
  have stopped : after.takeWhile (!isBlank ·) = [] := by
    cases after with
    | nil => rfl
    | cons c rest =>
      have blank : isBlank c = true := ended
      exact List.takeWhile_cons_of_neg (by simp [blank])
  have taken : (word ++ after).takeWhile (!isBlank ·) = word := by
    rw [List.takeWhile_append_of_pos (by simpa using whole), stopped, List.append_nil]
  rw [firstWord?, List.append_assoc, List.dropWhile_append_of_pos blanks, begun, taken]
  simp [filled]

theorem endsWord_dropWhile (cs : List Char) : EndsWord (cs.dropWhile (!isBlank ·)) := by
  induction cs with
  | nil => trivial
  | cons c rest ih =>
    cases blank : isBlank c with
    | true =>
      rw [List.dropWhile_cons_of_neg (by simp [blank])]
      exact blank
    | false =>
      rw [List.dropWhile_cons_of_pos (by simp [blank])]
      exact ih

theorem firstWord?_eq_some {cs word : List Char} :
    firstWord? cs = some word ↔ FirstWord cs word := by
  constructor
  · intro found
    simp only [firstWord?, List.isEmpty_iff, Option.ite_none_left_eq_some, Option.some.injEq] at found
    obtain ⟨filled, taken⟩ := found
    have split : cs.takeWhile isBlank ++ word ++
        (cs.dropWhile isBlank).dropWhile (!isBlank ·) = cs := by
      rw [← taken, List.append_assoc, List.takeWhile_append_dropWhile,
        List.takeWhile_append_dropWhile]
    have whole : ∀ c ∈ word, isBlank c = false := by
      rw [← taken]
      intro c member
      simpa using List.mem_takeWhile_imp member
    have blanks : ∀ c ∈ cs.takeWhile isBlank, isBlank c = true := fun c => List.mem_takeWhile_imp
    have first := FirstWord.intro blanks (taken ▸ filled) whole
      (endsWord_dropWhile (cs.dropWhile isBlank))
    rwa [split] at first
  · rintro ⟨blanks, filled, whole, ended⟩
    exact firstWord?_between blanks whole ended filled

theorem firstWord?_eq_none {cs : List Char} :
    firstWord? cs = none ↔ ∀ c ∈ cs, isBlank c = true := by
  rw [← List.dropWhile_eq_nil_iff]
  cases left : cs.dropWhile isBlank with
  | nil => simp [firstWord?, left]
  | cons c rest =>
    have filled : isBlank c = false := by
      have head := List.head_dropWhile_not isBlank (by simp [left] : cs.dropWhile isBlank ≠ [])
      simpa [left] using head
    simp [firstWord?, left, filled]

/-- A blank at the end belongs to no word. -/
theorem firstWord?_concat {blank : Char} (ends : isBlank blank = true) (cs : List Char) :
    firstWord? (cs ++ [blank]) = firstWord? cs := by
  cases found : firstWord? cs with
  | none =>
    rw [firstWord?_eq_none] at found ⊢
    exact List.forall_mem_append.mpr ⟨found, List.forall_mem_singleton.mpr ends⟩
  | some word =>
    obtain @⟨gap, _, after, blanks, filled, whole, ended⟩ := firstWord?_eq_some.mp found
    have later : EndsWord (after ++ [blank]) := by
      cases after with
      | nil => exact ends
      | cons c rest => exact ended
    rw [List.append_assoc]
    exact firstWord?_between blanks whole later filled

end Retouch.Text
