import Retouch.Proofs.Grammar.Spelled
import Retouch.Proofs.Grammar.Tally

/-!
Where the groups of a command line come from. A lineage says what the tool has told of the source
of an image, and which images have become groups, each to add its frames or to be drawn over the
others. `Units.replay` counts the frames along the units by it, and stops where a deletion would
miss; `Units.colorspaces` lists what is said of the palette.
-/
namespace Retouch

namespace Grammar

inductive Lineage
  | source (palette : Palette) (frames : UInt64)
  | layered (base added : Lineage)
  | covered (base cover : Lineage)
deriving DecidableEq

namespace Lineage

/-- The palette that the source was found to be in. -/
def palette : Lineage → Palette
  | source palette _ => palette
  | layered base _ | covered base _ => base.palette

/-- The frames that a replay begins with. A source has one at least. -/
def opening : Lineage → Nat
  | source _ frames => max frames.toNat 1
  | layered base _ | covered base _ => base.opening

/-- The images that are groups, in their order, and whether their frames are added. -/
def groups : Lineage → List (Bool × Lineage)
  | source .. => []
  | layered base added => base.groups ++ [(true, added)]
  | covered base cover => base.groups ++ [(false, cover)]

end Lineage

theorem Lineage.one_le_opening (lineage : Lineage) : 1 ≤ lineage.opening := by
  induction lineage with
  | source palette frames => exact Nat.le_max_right _ 1
  | layered base added ih _ | covered base cover ih _ => exact ih

/-- The frames after a flag. A deletion needs a frame with its index and another one beside it. -/
def Flag.remaining? (flag : Flag) (count : Nat) : Option Nat :=
  if flag.name = "-delete" then
    let index := Nat.ofDigitChars 10 (flag.values.head?.getD "").toList 0
    if index < count ∧ 2 ≤ count then some (count - 1) else none
  else some count

theorem Flag.one_le_remaining {flag : Flag} {count after : Nat} (positive : 1 ≤ count)
    (passed : flag.remaining? count = some after) : 1 ≤ after := by
  unfold Flag.remaining? at passed
  split at passed
  · simp only at passed
    split at passed
    · obtain rfl := Option.some.inj passed
      omega
    · cases passed
  · obtain rfl := Option.some.inj passed
    exact positive

namespace Units

/-- The frames after the units, each group of which is one of the lineages. The units of a group are
replayed too, whether their frames count outside of it or not. -/
def replay : Units → List (Bool × Lineage) → Nat → Option Nat
  | done, [], count => some count
  | flag first rest, groups, count => (first.remaining? count).bind (rest.replay groups)
  | group _ body rest, (adds, part) :: groups, count =>
    (body.replay part.groups part.opening).bind fun inner =>
      rest.replay groups (if adds then count + inner else count)
  | _, _, _ => none

/-- The counts that are met in a replay, with those of the groups that add their frames. -/
def met : Units → List (Bool × Lineage) → Nat → List Nat
  | flag first rest, groups, count =>
    count :: rest.met groups ((first.remaining? count).getD count)
  | group _ body rest, (true, part) :: groups, count =>
    count :: body.met part.groups part.opening ++
      rest.met groups (count + (body.replay part.groups part.opening).getD 0)
  | group _ _ rest, (false, _) :: groups, count => count :: rest.met groups count
  | _, _, count => [count]

theorem replay_done {groups : List (Bool × Lineage)} {count last : Nat}
    (replayed : done.replay groups count = some last) : groups = [] ∧ last = count := by
  cases groups with
  | nil => exact ⟨rfl, (Option.some.inj replayed).symm⟩
  | cons head rest => cases replayed

theorem replay_group {source : Source} {body rest : Units} {groups : List (Bool × Lineage)}
    {count last : Nat} (replayed : (group source body rest).replay groups count = some last) :
    ∃ adds part others inner, groups = (adds, part) :: others ∧
      body.replay part.groups part.opening = some inner ∧
      rest.replay others (if adds then count + inner else count) = some last := by
  rcases groups with _ | ⟨⟨adds, part⟩, others⟩
  · cases replayed
  · obtain ⟨inner, inside, continued⟩ := Option.bind_eq_some_iff.mp replayed
    exact ⟨adds, part, others, inner, rfl, inside, continued⟩

theorem replay_append {units : Units} {groups : List (Bool × Lineage)} {count middle : Nat}
    (replayed : units.replay groups count = some middle) (later : Units)
    (more : List (Bool × Lineage)) :
    (units ++ later).replay (groups ++ more) count = later.replay more middle := by
  induction units generalizing groups count with
  | done =>
    obtain ⟨rfl, rfl⟩ := replay_done replayed
    rfl
  | flag first rest ih =>
    obtain ⟨between, passed, continued⟩ := Option.bind_eq_some_iff.mp replayed
    simp only [flag_append, replay, passed, Option.bind_some]
    exact ih continued
  | group source body rest _ ih =>
    obtain ⟨adds, part, others, inner, rfl, inside, continued⟩ := replay_group replayed
    simp only [group_append, List.cons_append, replay, inside, Option.bind_some]
    exact ih continued

theorem mem_met (units : Units) (groups : List (Bool × Lineage)) (count : Nat) :
    count ∈ units.met groups count := by
  cases units with
  | done => cases groups <;> exact List.mem_cons_self
  | flag first rest => exact List.mem_cons_self
  | group source body rest =>
    rcases groups with _ | ⟨⟨_ | _, part⟩, groups⟩ <;> exact List.mem_cons_self

theorem met_append {units : Units} {groups : List (Bool × Lineage)} {count middle : Nat}
    (replayed : units.replay groups count = some middle) (later : Units)
    (more : List (Bool × Lineage)) :
    units.met groups count ⊆ (units ++ later).met (groups ++ more) count ∧
      later.met more middle ⊆ (units ++ later).met (groups ++ more) count := by
  induction units generalizing groups count with
  | done =>
    obtain ⟨rfl, rfl⟩ := replay_done replayed
    exact ⟨List.cons_subset.mpr ⟨later.mem_met more _, List.nil_subset _⟩,
      fun met member => member⟩
  | flag first rest ih =>
    obtain ⟨between, passed, continued⟩ := Option.bind_eq_some_iff.mp replayed
    obtain ⟨before, after⟩ := ih continued
    simp only [flag_append, met, passed, Option.getD_some]
    exact ⟨List.cons_subset_cons count before, List.subset_cons_of_subset count after⟩
  | group source body rest _ ih =>
    obtain ⟨adds, part, others, inner, rfl, inside, continued⟩ := replay_group replayed
    obtain ⟨before, after⟩ := ih continued
    cases adds with
    | false => exact ⟨List.cons_subset_cons count before, List.subset_cons_of_subset count after⟩
    | true =>
      simp only [group_append, List.cons_append, met, inside, Option.getD_some]
      exact ⟨List.cons_subset_cons count (List.append_subset.mpr
          ⟨List.subset_append_left _ _, List.subset_append_of_subset_right _ before⟩),
        List.subset_cons_of_subset count (List.subset_append_of_subset_right _ after)⟩

theorem one_le_replay {units : Units} {groups : List (Bool × Lineage)} {count last : Nat}
    (positive : 1 ≤ count) (replayed : units.replay groups count = some last) : 1 ≤ last := by
  induction units generalizing groups count with
  | done =>
    obtain ⟨-, rfl⟩ := replay_done replayed
    exact positive
  | flag first rest ih =>
    obtain ⟨between, passed, continued⟩ := Option.bind_eq_some_iff.mp replayed
    exact ih (Flag.one_le_remaining positive passed) continued
  | group source body rest _ ih =>
    obtain ⟨adds, part, others, inner, rfl, inside, continued⟩ := replay_group replayed
    refine ih ?_ continued
    split <;> omega

theorem mem_met_last {units : Units} {groups : List (Bool × Lineage)} {count last : Nat}
    (replayed : units.replay groups count = some last) : last ∈ units.met groups count := by
  have ended := (met_append replayed .done []).2 (mem_met .done [] last)
  rwa [append_done, List.append_nil] at ended

theorem one_le_met {units : Units} {groups : List (Bool × Lineage)} {count last : Nat}
    (positive : 1 ≤ count) (replayed : units.replay groups count = some last) :
    ∀ earlier ∈ units.met groups count, 1 ≤ earlier := by
  induction units generalizing groups count last with
  | done =>
    obtain ⟨rfl, rfl⟩ := replay_done replayed
    exact List.forall_mem_singleton.mpr positive
  | flag first rest ih =>
    obtain ⟨between, passed, continued⟩ := Option.bind_eq_some_iff.mp replayed
    simp only [met, passed, Option.getD_some]
    exact List.forall_mem_cons.mpr
      ⟨positive, ih (Flag.one_le_remaining positive passed) continued⟩
  | group source body rest ihBody ih =>
    obtain ⟨adds, part, others, inner, rfl, inside, continued⟩ := replay_group replayed
    cases adds with
    | false => exact List.forall_mem_cons.mpr ⟨positive, ih positive continued⟩
    | true =>
      simp only [met, inside, Option.getD_some]
      refine List.forall_mem_cons.mpr ⟨positive, List.forall_mem_append.mpr ⟨?_, ?_⟩⟩
      · exact ihBody part.one_le_opening inside
      · exact ih (Nat.le_add_right_of_le positive) continued

/-- The replay ends with a count that the word keeps. -/
def Counted (units : Units) (groups : List (Bool × Lineage)) (opening : Nat) (frames : UInt64) :
    Prop :=
  ∃ count, units.replay groups opening = some count ∧
    Tallies frames count (units.met groups opening)

/-- A copy keeps the count, and so does a save. -/
theorem Counted.renewed {units : Units} {groups : List (Bool × Lineage)} {opening : Nat}
    {frames : UInt64} (counted : units.Counted groups opening frames) (positive : 1 ≤ opening) :
    units.Counted groups opening (Layers.ofFrames frames).frames := by
  obtain ⟨count, replayed, tallies⟩ := counted
  exact ⟨count, replayed,
    tallies.renewed (one_le_replay positive replayed) (mem_met_last replayed)⟩

/-- Flags without a deletion leave the frames alone. -/
theorem replay_row {flags : List Flag} (spare : ∀ flag ∈ flags, flag.name ≠ "-delete")
    (count : Nat) : (row flags).replay [] count = some count := by
  induction flags with
  | nil => rfl
  | cons first rest ih =>
    have passed : first.remaining? count = some count := if_neg (spare first List.mem_cons_self)
    have rested := ih fun flag member => spare flag (List.mem_cons_of_mem first member)
    change (first.remaining? count).bind ((row rest).replay []) = some count
    rw [passed]
    exact rested

/-- The colorspaces set outside of the groups, each with whether a type is set just before. -/
def colorspaces : Units → Bool → List (Bool × String)
  | done, _ => []
  | flag first rest, typed =>
    if first.name = "-colorspace" then
      (typed, first.values.head?.getD "") :: rest.colorspaces false
    else rest.colorspaces (first.name = "-type")
  | group _ _ rest, _ => rest.colorspaces false

theorem colorspaces_append (units later : Units) (state : Palette × Bool) :
    (units ++ later).colorspaces state.2 =
      units.colorspaces state.2 ++ later.colorspaces (units.palette state).2 := by
  induction units generalizing state with
  | done => rfl
  | flag first rest ih =>
    have typed : (first.retint state).2 = decide (first.name = "-type") := by
      unfold Flag.retint
      split
      · simp [*]
      · split <;> simp [*]
    have further := ih (first.retint state)
    simp only [flag_append, colorspaces, palette]
    split
    next named =>
      rw [typed, named] at further
      exact congrArg _ further
    next =>
      rw [typed] at further
      exact further
  | group source body rest _ ih => exact ih (state.1, false)

end Units

end Grammar

open Grammar

namespace Alteration
variable {ι : Type} {palette : Palette} {own : Size} {file : ScratchFile} {source : Source}
  {body : Units}

/-- The lineage of an image after an edit, given the one of the image that the edit brings in. What
an image is filled with is a canvas. -/
def descend (part lineage : Lineage) : Alteration ι → Lineage
  | paste .. | applyMask _ => lineage.covered part
  | fill _ => lineage.covered (.source .rgb 1)
  | addLayer _ => lineage.layered part
  | _ => lineage

/-- The groups that an edit appends. -/
def joined (part : Lineage) : Alteration ι → List (Bool × Lineage)
  | paste .. | applyMask _ => [(false, part)]
  | fill _ => [(false, .source .rgb 1)]
  | addLayer _ => [(true, part)]
  | _ => []

theorem palette_descend (part lineage : Lineage) (edit : Alteration ι) :
    (edit.descend part lineage).palette = lineage.palette := by
  cases edit <;> rfl

theorem opening_descend (part lineage : Lineage) (edit : Alteration ι) :
    (edit.descend part lineage).opening = lineage.opening := by
  cases edit <;> rfl

theorem groups_descend (part lineage : Lineage) (edit : Alteration ι) :
    (edit.descend part lineage).groups = lineage.groups ++ edit.joined part := by
  cases edit <;> simp only [descend, joined, Lineage.groups, List.append_nil]

/-- The frames that an edit is allowed to leave. -/
def framesLeft (added count : Nat) : Alteration ι → Option Nat
  | addLayer _ => some (count + added)
  | removeLayer index => if index < count ∧ 2 ≤ count then some (count - 1) else none
  | _ => some count

theorem replay_units {edit : Alteration Image} {part : Lineage} {added : Nat}
    (replayed : edit.operand?.isSome = true → body.replay part.groups part.opening = some added)
    (count : Nat) : (edit.units palette own file source body).replay (edit.joined part) count =
      edit.framesLeft added count := by
  cases edit with
  | resize size filter =>
    apply Units.replay_row
    cases filter.toolName? <;> simp
  | rotate angle background =>
    apply Units.replay_row
    cases background <;> simp
  | usePalette target =>
    apply Units.replay_row
    split <;> simp
  | paste other start alpha =>
    simp only [units, joined, Units.replay, replayed rfl, Option.bind_some, Bool.false_eq_true,
      if_false, framesLeft]
    apply Units.replay_row
    split <;> simp
  | applyMask mask =>
    have inside : (body ++ Units.row [⟨"-alpha", ["off"], rfl⟩]).replay part.groups part.opening =
        some added := by
      have extended := Units.replay_append (replayed rfl) (.row [⟨"-alpha", ["off"], rfl⟩]) []
      rw [List.append_nil] at extended
      exact extended.trans (Units.replay_row (by simp) added)
    simp only [units, joined, Units.replay, inside, Option.bind_some, Bool.false_eq_true, if_false,
      framesLeft]
    exact Units.replay_row (by simp) count
  | effect chosen => cases chosen <;> rfl
  | addLayer other =>
    simp only [units, joined, Units.replay, replayed rfl, Option.bind_some, if_true, framesLeft]
  | removeLayer index =>
    have read : Nat.ofDigitChars 10 (toString index).toList 0 = index := by
      simp [toString, Nat.repr]
    simp only [units, joined, Units.row, List.foldr, Units.replay, Flag.remaining?,
      List.head?_cons, Option.getD_some, read, if_true, framesLeft]
    split <;> rfl
  | _ => rfl

/-- An edit that goes through leaves as many frames as it is allowed to, in so far as a word can
keep them. -/
theorem framesLeft_settled {needs : Needs} {image out : Image} {edit : Alteration Image}
    (settled : edit.settle needs image = .ok out) {count added : Nat} {met : List Nat}
    (tallies : Tallies image.layers.frames count met) (last : count ∈ met)
    (operand : ∀ other, edit = addLayer other → Tallies other.layers.frames added met)
    (next : ∀ left, edit.framesLeft added count = some left → left ∈ met) :
    ∃ left, edit.framesLeft added count = some left ∧ Tallies out.layers.frames left met := by
  obtain ⟨passed, same⟩ := settle_eq_ok.mp settled
  subst same
  cases edit with
  | addLayer other => exact ⟨_, rfl, tallies.add (operand other rfl)⟩
  | removeLayer index =>
    obtain ⟨there, several⟩ := Layers.checkRemovable_eq_ok.mp passed
    have below := tallies.below
    have left : (removeLayer index : Alteration Image).framesLeft added count =
        some (max (count - 1) 1) := by
      rw [framesLeft, if_pos (by omega), Nat.max_eq_left (by omega)]
    exact ⟨_, left, tallies.removed last (next _ left)⟩
  | _ => exact ⟨count, rfl, tallies⟩

/-- With the units that an edit appends the replay goes on to the frames that the edit leaves. -/
theorem counted_settled {needs : Needs} {image out : Image} {edit : Alteration Image}
    (settled : edit.settle needs image = .ok out) {before : Units}
    {groups : List (Bool × Lineage)} {opening : Nat} {part : Lineage}
    (counted : before.Counted groups opening image.layers.frames)
    (operand : ∀ other ∈ edit.operand?,
      body.Counted part.groups part.opening other.layers.frames) :
    (before ++ edit.units palette own file source body).Counted (groups ++ edit.joined part)
      opening out.layers.frames := by
  obtain ⟨count, replayed, tallies⟩ := counted
  obtain ⟨earlier, further⟩ := Units.met_append replayed
    (edit.units palette own file source body) (edit.joined part)
  have inner : ∃ added,
      (edit.operand?.isSome = true → body.replay part.groups part.opening = some added) ∧
        ∀ other, edit = addLayer other →
          Tallies other.layers.frames added (body.met part.groups part.opening) := by
    cases needed : edit.operand? with
    | none => exact ⟨0, by simp, by rintro other rfl; cases needed⟩
    | some other =>
      obtain ⟨added, inside, tallied⟩ := operand other needed
      refine ⟨added, fun _ => inside, ?_⟩
      rintro _ rfl
      cases needed
      exact tallied
  obtain ⟨added, inside, tallied⟩ := inner
  have appended := @replay_units palette own file source body edit part added inside count
  have brought : ∀ other, edit = addLayer other → Tallies other.layers.frames added
      ((before ++ edit.units palette own file source body).met
        (groups ++ edit.joined part) opening) := by
    rintro other rfl
    exact (tallied other rfl).mono fun met member =>
      further (List.mem_cons_of_mem _ (List.mem_append_left _ member))
  obtain ⟨left, allowed, kept⟩ := framesLeft_settled settled (tallies.mono earlier)
    (earlier (Units.mem_met_last replayed)) brought
    fun left allowed => further (Units.mem_met_last (appended.trans allowed))
  exact ⟨left, (Units.replay_append replayed _ _).trans (appended.trans allowed), kept⟩

end Alteration

end Retouch
