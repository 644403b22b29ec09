import Retouch.Proofs.Files.Naming

/-!
The extension of a path, read off its text: what stands after the last dot of its last component. A
component without a name is not one, and the directory above has no extension.
-/
namespace Retouch

theorem Text.splitAll_eq_cons {mark : Char} {cs first : List Char} {rest : List (List Char)} :
    splitAll mark cs = first :: rest ↔
      cs = first ++ rest.flatMap (mark :: ·) ∧ mark ∉ first ∧ ∀ piece ∈ rest, mark ∉ piece := by
  constructor
  · intro cut
    induction cs generalizing first rest with
    | nil =>
      obtain ⟨rfl, rfl⟩ : [] = first ∧ [] = rest := by simpa [splitAll] using cut
      simp
    | cons c cs ih =>
      obtain ⟨piece, pieces, later⟩ := List.exists_cons_of_ne_nil (splitAll_ne_nil mark cs)
      obtain ⟨joined, whole, every⟩ := ih later
      rw [splitAll, later] at cut
      by_cases same : c = mark
      · rw [if_pos same, List.cons.injEq] at cut
        obtain ⟨rfl, rfl⟩ := cut
        refine ⟨by simp [same, joined], by simp, ?_⟩
        simpa using ⟨whole, every⟩
      · simp only [if_neg same, List.cons.injEq] at cut
        obtain ⟨rfl, rfl⟩ := cut
        exact ⟨by simp [joined], by simp [whole, Ne.symm same], every⟩
  · rintro ⟨rfl, whole, every⟩
    induction rest generalizing first with
    | nil => simpa using splitAll_eq whole
    | cons piece rest ih =>
      have later : splitAll mark (piece ++ rest.flatMap (mark :: ·)) = piece :: rest :=
        ih (every piece (by simp)) fun other member => every other (by simp [member])
      induction first with
      | nil => simp [splitAll, later]
      | cons c first inner =>
        obtain ⟨other, absent⟩ : mark ≠ c ∧ mark ∉ first := by simpa using whole
        rw [List.cons_append, splitAll, if_neg (Ne.symm other), inner absent]

theorem Text.splitOnce_eq_none {mark : Char} {cs : List Char} (absent : mark ∉ cs) :
    splitOnce mark cs = none := by
  induction cs with
  | nil => rfl
  | cons c rest ih =>
    obtain ⟨other, later⟩ : mark ≠ c ∧ mark ∉ rest := by simpa using absent
    simp [splitOnce, Ne.symm other, ih later]

theorem Text.exists_last {mark : Char} {cs : List Char} (there : mark ∈ cs) :
    ∃ before after, cs = before ++ mark :: after ∧ mark ∉ after := by
  obtain ⟨after, before, split, absent⟩ := List.eq_append_cons_of_mem (List.mem_reverse.mpr there)
  refine ⟨before.reverse, after.reverse, ?_, by simpa using absent⟩
  rw [← List.reverse_reverse cs, split]
  simp

namespace Path

/-- What may follow the last component: slashes, and names that lead nowhere else. -/
inductive Trailing : List Char → Prop
  | nil : Trailing []
  | slash {rest : List Char} (later : Trailing rest) : Trailing ('/' :: rest)
  | here {rest : List Char} (later : Trailing rest) : Trailing ('/' :: '.' :: rest)

/-- It stands between a slash, or the beginning of the path, and what may follow it. -/
inductive LastComponent : List Char → List Char → Prop
  | intro {before name after : List Char} (bounded : before = [] ∨ before.getLast? = some '/')
      (whole : '/' ∉ name) (filled : name ≠ []) (other : name ≠ ['.']) (later : Trailing after) :
      LastComponent (before ++ name ++ after) name

theorem trailing_iff {cs : List Char} : Trailing cs ↔
    ∃ rest : List Segment, (∀ s ∈ rest, Files.isNameless s = true) ∧
      cs = rest.flatMap ('/' :: ·) := by
  constructor
  · intro trailing
    induction trailing with
    | nil => exact ⟨[], by simp, rfl⟩
    | slash later ih =>
      obtain ⟨rest, every, rfl⟩ := ih
      exact ⟨[] :: rest, by simpa [Files.isNameless] using every, rfl⟩
    | here later ih =>
      obtain ⟨rest, every, rfl⟩ := ih
      exact ⟨['.'] :: rest, by simpa [Files.isNameless] using every, rfl⟩
  · rintro ⟨rest, every, rfl⟩
    induction rest with
    | nil => exact .nil
    | cons s rest ih =>
      have later := ih fun other member => every other (by simp [member])
      have nameless : s = [] ∨ s = ['.'] := by simpa [Files.isNameless] using every s (by simp)
      rcases nameless with rfl | rfl
      · exact .slash later
      · exact .here later

theorem dropNameless_last {name : Segment} {rest : List Segment} (front : List Segment)
    (named : Files.isNameless name = false) (every : ∀ s ∈ rest, Files.isNameless s = true) :
    dropNameless (front ++ name :: rest) = front ++ [name] := by
  have reversed : ∀ s ∈ rest.reverse, Files.isNameless s = true := by simpa using every
  cases front with
  | nil =>
    have gone : rest.reverse.dropWhile Files.isNameless = [] :=
      List.dropWhile_eq_nil_iff.mpr reversed
    exact congrArg (fun left => name :: left.reverse) gone
  | cons first front =>
    have left : (front ++ name :: rest).reverse.dropWhile Files.isNameless =
        name :: front.reverse := by
      rw [List.reverse_append, List.reverse_cons, List.append_assoc,
        List.dropWhile_append_of_pos reversed, List.cons_append,
        List.dropWhile_cons_of_neg (by simp [named]), List.nil_append]
    change first :: ((front ++ name :: rest).reverse.dropWhile Files.isNameless).reverse = _
    rw [left, List.reverse_cons, List.reverse_reverse, List.cons_append]

theorem exists_nameless (all : List Segment) :
    ∃ rest, all = dropNameless all ++ rest ∧ ∀ s ∈ rest, Files.isNameless s = true := by
  cases all with
  | nil => exact ⟨[], rfl, by simp⟩
  | cons first later =>
    refine ⟨(later.reverse.takeWhile Files.isNameless).reverse, ?_, fun s member =>
      List.mem_takeWhile_imp (List.mem_reverse.mp member)⟩
    have split := congrArg List.reverse
      (List.takeWhile_append_dropWhile (p := Files.isNameless) (l := later.reverse))
    rw [List.reverse_append, List.reverse_reverse] at split
    exact congrArg (first :: ·) split.symm

theorem LastComponent.segment {path : String} {name : Segment}
    (last : LastComponent path.toList name) :
    (dropNameless (segments path)).getLast? = some name ∧ Files.isNameless name = false := by
  generalize spelled : path.toList = cs at last
  obtain ⟨bounded, whole, filled, other, later⟩ := last
  next before after =>
  obtain ⟨rest, every, rfl⟩ := trailing_iff.mp later
  have named : Files.isNameless name = false := by simp [Files.isNameless, filled, other]
  have slashless : ∀ s ∈ rest, '/' ∉ s := by
    intro s member
    have nameless : s = [] ∨ s = ['.'] := by simpa [Files.isNameless] using every s member
    rcases nameless with rfl | rfl <;> decide
  have cut : Text.splitAll '/' (name ++ rest.flatMap ('/' :: ·)) = name :: rest :=
    Text.splitAll_eq_cons.mpr ⟨rfl, whole, slashless⟩
  obtain ⟨front, all⟩ : ∃ front, segments path = front ++ name :: rest := by
    rw [segments, spelled, List.append_assoc]
    rcases bounded with rfl | ended
    · exact ⟨[], cut⟩
    · obtain ⟨outer, rfl⟩ := List.getLast?_eq_some_iff.mp ended
      obtain ⟨piece, pieces, split⟩ := Text.splitAll_append '/' outer
        (name ++ rest.flatMap ('/' :: ·))
      exact ⟨piece :: pieces, by simp [split, cut]⟩
  refine ⟨?_, named⟩
  rw [all, dropNameless_last front named every, List.getLast?_concat]

theorem lastComponent_of_segment {path : String} {name : Segment}
    (last : (dropNameless (segments path)).getLast? = some name)
    (named : Files.isNameless name = false) : LastComponent path.toList name := by
  obtain ⟨front, kept⟩ := List.getLast?_eq_some_iff.mp last
  obtain ⟨rest, all, every⟩ := exists_nameless (segments path)
  rw [kept, List.append_assoc] at all
  obtain ⟨filled, other⟩ : name ≠ [] ∧ name ≠ ['.'] := by simpa [Files.isNameless] using named
  have later := trailing_iff.mpr ⟨rest, every, rfl⟩
  cases front with
  | nil =>
    obtain ⟨spelled, whole, -⟩ := Text.splitAll_eq_cons.mp all
    rw [spelled, ← List.nil_append name]
    exact .intro (.inl rfl) whole filled other later
  | cons first front =>
    obtain ⟨spelled, -, slashless⟩ := Text.splitAll_eq_cons.mp all
    have around : path.toList =
        (first ++ front.flatMap ('/' :: ·) ++ ['/']) ++ name ++ rest.flatMap ('/' :: ·) := by
      rw [spelled]
      simp
    rw [around]
    exact .intro (.inr List.getLast?_concat) (slashless name (by simp)) filled other later

/-- The segments say the same of the last component as the text does. -/
theorem lastComponent_iff {path : String} {name : Segment} : LastComponent path.toList name ↔
    (dropNameless (segments path)).getLast? = some name ∧ Files.isNameless name = false :=
  ⟨LastComponent.segment, fun ⟨last, named⟩ => lastComponent_of_segment last named⟩

theorem LastComponent.whole {cs name : List Char} (last : LastComponent cs name) :
    '/' ∉ name := by
  obtain ⟨-, whole, -, -, -⟩ := last
  exact whole

/-- What stands before the name and a slash makes no difference to the last component. -/
theorem LastComponent.below {before cs name : List Char}
    (bounded : before = [] ∨ before.getLast? = some '/') (last : LastComponent cs name) :
    LastComponent (before ++ cs) name := by
  obtain ⟨bounded', whole, filled, other, later⟩ := last
  next front after =>
  rw [← List.append_assoc, ← List.append_assoc]
  refine .intro ?_ whole filled other later
  rcases bounded' with rfl | ended
  · rwa [List.append_nil]
  · exact .inr (by rw [List.getLast?_append, ended]; rfl)

/-- What the extension of a path is, one rule for each shape of its last component. -/
inductive Extension (path : String) : Option String → Prop
  | nowhere (missing : ∀ name, ¬LastComponent path.toList name) : Extension path none
  | upward (last : LastComponent path.toList ['.', '.']) : Extension path none
  | undotted {name : List Char} (last : LastComponent path.toList name) (dotless : '.' ∉ name) :
      Extension path none
  | hidden {name : List Char} (last : LastComponent path.toList ('.' :: name))
      (dotless : '.' ∉ name) : Extension path none
  | dotted {stem ending : List Char} (last : LastComponent path.toList (stem ++ '.' :: ending))
      (downward : stem ++ '.' :: ending ≠ ['.', '.']) (visible : stem ≠ [])
      (dotless : '.' ∉ ending) : Extension path (some (.ofList ending))

theorem splitName_undotted {name : Segment} (dotless : '.' ∉ name) :
    (splitName name).2 = none := by
  rw [splitName, Text.splitOnce_eq_none (by simpa using dotless)]

theorem splitName_dotted (stem : Segment) {ending : Segment} (dotless : '.' ∉ ending) :
    (splitName (stem ++ '.' :: ending)).2 = if stem = [] then none else some ending := by
  have cut : Text.splitOnce '.' (stem ++ '.' :: ending).reverse =
      some (ending.reverse, stem.reverse) := by
    rw [List.reverse_append, List.reverse_cons, List.append_assoc]
    exact Text.splitOnce_append (by simpa using dotless) stem.reverse
  rw [splitName, cut]
  by_cases hidden : stem = []
  · simp [hidden]
  · obtain ⟨c, later, reversed⟩ := List.exists_cons_of_ne_nil (List.reverse_ne_nil_iff.mpr hidden)
    rw [if_neg hidden, reversed]
    simp

theorem extension?_nowhere {path : String} (missing : ∀ name, ¬LastComponent path.toList name) :
    extension? path = none := by
  rw [extension?, fileName?]
  cases last : (dropNameless (segments path)).getLast? with
  | none => rfl
  | some name =>
    have nameless : Files.isNameless name = true := by
      by_contra named
      exact missing name (lastComponent_iff.mpr ⟨last, by simpa using named⟩)
    have refused : (name == [] || name == ['.'] || name == ['.', '.']) = true := by
      rw [Bool.or_eq_true]
      exact .inl nameless
    simp only [refused, if_true, Option.bind_none]

theorem extension?_last {path : String} {name : Segment} (last : LastComponent path.toList name) :
    extension? path =
      if name = ['.', '.'] then none else (splitName name).2.map String.ofList := by
  obtain ⟨last, named⟩ := lastComponent_iff.mp last
  have refused : (name == [] || name == ['.'] || name == ['.', '.']) = (name == ['.', '.']) :=
    (congrArg (· || name == ['.', '.']) named).trans (Bool.false_or _)
  rw [extension?, fileName?, last]
  simp only [refused, beq_iff_eq]
  split <;> rfl

theorem extension?_of_extension {path : String} {found : Option String}
    (extension : Extension path found) : extension? path = found := by
  cases extension with
  | nowhere missing => exact extension?_nowhere missing
  | upward last => rw [extension?_last last, if_pos rfl]
  | undotted last dotless =>
    rw [extension?_last last, splitName_undotted dotless]
    exact ite_self _
  | @hidden name last dotless =>
    have none := splitName_dotted [] dotless
    rw [if_pos rfl] at none
    rw [extension?_last last, show '.' :: name = [] ++ '.' :: name from rfl, none]
    exact ite_self _
  | dotted last downward visible dotless =>
    rw [extension?_last last, if_neg downward, splitName_dotted _ dotless, if_neg visible]
    rfl

theorem extension_extension? (path : String) : Extension path (extension? path) := by
  have found {result : Option String} (rule : Extension path result) :
      Extension path (extension? path) := extension?_of_extension rule ▸ rule
  by_cases missing : ∀ name, ¬LastComponent path.toList name
  · exact found (.nowhere missing)
  · obtain ⟨name, last⟩ : ∃ name, LastComponent path.toList name := by simpa using missing
    by_cases upward : name = ['.', '.']
    · exact found (.upward (upward ▸ last))
    by_cases dot : '.' ∈ name
    · obtain ⟨stem, ending, rfl, dotless⟩ := Text.exists_last dot
      by_cases visible : stem = []
      · subst visible
        exact found (.hidden last dotless)
      · exact found (.dotted last upward visible dotless)
    · exact found (.undotted last dot)

theorem extension?_eq_iff {path : String} {found : Option String} :
    extension? path = found ↔ Extension path found :=
  ⟨fun same => same ▸ extension_extension? path, extension?_of_extension⟩

theorem Extension.unmarked {path ending : String} (named : Extension path (some ending)) :
    '.' ∉ ending.toList ∧ '/' ∉ ending.toList := by
  generalize found : some ending = result at named
  cases named with
  | nowhere | upward | undotted | hidden => cases found
  | @dotted stem inner last downward visible dotless =>
    obtain rfl := Option.some.inj found
    rw [String.toList_ofList]
    exact ⟨dotless, fun slash => last.whole (by simp [slash])⟩

/-- The path ends in a name that begins with a stem, and goes on with a dot. -/
structure Stemmed (path : String) (kind : List Char) : Prop where
  shape : ∃ before stem, (before = [] ∨ before.getLast? = some '/') ∧ stem ≠ [] ∧ '.' ∉ stem ∧
    '/' ∉ stem ∧ path.toList = before ++ (stem ++ '.' :: kind)

namespace Stemmed
variable {path other : String} {kind front ending inner outer : List Char}

theorem dotted (stemmed : Stemmed path kind) (slashless : '/' ∉ kind)
    (cut : '.' :: kind = front ++ '.' :: ending) (dotless : '.' ∉ ending) :
    extension? path = some (.ofList ending) := by
  obtain ⟨before, stem, bounded, visible, undotted, whole, spelled⟩ := stemmed.shape
  obtain ⟨c, later, rfl⟩ := List.exists_cons_of_ne_nil visible
  have other : c ≠ '.' := fun same => undotted (by simp [same])
  have slashless' : '/' ∉ c :: later ++ front ++ '.' :: ending := by
    rw [List.append_assoc, ← cut]
    intro slash
    rcases List.mem_append.mp slash with early | late
    · exact whole early
    · rcases List.mem_cons.mp late with same | last
      · cases same
      · exact slashless last
  have alone : LastComponent ([] ++ (c :: later ++ front ++ '.' :: ending) ++ [])
      (c :: later ++ front ++ '.' :: ending) :=
    .intro (.inl rfl) slashless' (by simp) (by simp [other]) .nil
  rw [List.nil_append, List.append_nil] at alone
  have last := LastComponent.below bounded alone
  rw [List.append_assoc, ← cut, ← spelled, cut, ← List.append_assoc] at last
  exact extension?_of_extension (.dotted last (by simp [other]) (by simp) dotless)

theorem plain (stemmed : Stemmed path kind) (slashless : '/' ∉ kind) (dotless : '.' ∉ kind) :
    extension? path = some (.ofList kind) :=
  stemmed.dotted slashless (List.nil_append _).symm dotless

theorem inside (stemmed : Stemmed path (outer ++ '/' :: inner)) (whole : '/' ∉ inner)
    (named : Files.isNameless inner = false) : LastComponent path.toList inner := by
  obtain ⟨before, stem, -, -, -, -, spelled⟩ := stemmed.shape
  obtain ⟨filled, other⟩ : inner ≠ [] ∧ inner ≠ ['.'] := by simpa [Files.isNameless] using named
  have around : path.toList = (before ++ stem ++ '.' :: outer ++ ['/']) ++ inner ++ [] := by
    simp [spelled]
  rw [around]
  exact .intro (.inr List.getLast?_concat) whole filled other .nil

/-- Neither the stem nor what is before it makes a difference to the extension. -/
theorem extension?_eq (first : Stemmed path kind) (second : Stemmed other kind)
    (named : ∀ outer inner, kind = outer ++ '/' :: inner → '/' ∉ inner →
      Files.isNameless inner = false) : extension? path = extension? other := by
  by_cases slash : '/' ∈ kind
  · obtain ⟨outer, inner, rfl, whole⟩ := Text.exists_last slash
    have proper := named outer inner rfl whole
    rw [extension?_last (first.inside whole proper), extension?_last (second.inside whole proper)]
  · obtain ⟨front, ending, cut, dotless⟩ :=
      Text.exists_last (List.mem_cons_self : '.' ∈ '.' :: kind)
    rw [first.dotted slash cut dotless, second.dotted slash cut dotless]

end Stemmed

end Path

end Retouch
