import Retouch.Proofs.Session.Descent
import Retouch.Tool.Script

/-!
The number of frames beside the command line. It is what a replay of the units comes to while the
counts on the way fit into a word, and it is never more than that; the replay itself, which counts
without a limit, never misses: a deletion always finds its frame and leaves another one. What the
last save has made of the layers has no say in it.
-/
namespace Retouch

open Grammar

/-- The image, had a save left its layers in this state. -/
def Image.inState (image : Image) (state : LayerState) : Image :=
  { image with layers := { image.layers with state } }

theorem Image.framed_copy {image : Image} (framed : 1 ≤ image.layers.frames) :
    image.copy.layers.frames = image.layers.frames := by
  change (Layers.ofFrames image.layers.frames).frames = image.layers.frames
  rw [Layers.ofFrames_eq framed]

theorem Image.framed_mask {image : Image} (framed : 1 ≤ image.layers.frames) :
    image.mask.layers.frames = image.layers.frames :=
  framed_copy framed

namespace Alteration

/-- Neither what an edit needs to be told nor what it makes of the frames depends on the state. -/
theorem frames_inState (kit : Tool.Kit) (edit : Alteration Image) (image : Image) (world : World)
    (state : LayerState) :
    (edit.apply kit ⟨image.inState state, world⟩).2.image.layers.frames =
      (edit.apply kit ⟨image, world⟩).2.image.layers.frames := by
  obtain ⟨size, left⟩ := edit.sized_with ((image.inState state).measure kit world).1
    (image.inState state)
  obtain ⟨size', right⟩ := edit.sized_with (image.measure kit world).1 image
  have frames : (image.inState state).layers.frames = image.layers.frames := rfl
  have same : edit.needs kit (image.inState state) world = edit.needs kit image world := by
    cases needed : edit.operand? with
    | none => simp only [needs, needed]; rfl
    | some other => simp only [needs, needed]; rfl
  have objections : edit.objection (edit.needs kit (image.inState state) world)
        { image.inState state with size } =
      edit.objection (edit.needs kit image world) { image with size := size' } :=
    objection_eq (fun _ _ => frames) (by rw [same]) (fun _ _ => by rw [same])
      (fun _ _ => by rw [same])
  rw [apply_eq, apply_eq, left, right]
  unfold settle
  rw [objections]
  cases edit.objection (edit.needs kit image world) { image with size := size' } with
  | error cause => rfl
  | ok _ => cases edit <;> rfl

theorem frames_addLayer (kit : Tool.Kit) (image other : Image) (world : World) :
    ((addLayer other).apply kit ⟨image, world⟩).2.image.layers.frames =
      image.layers.frames + other.layers.frames := rfl

end Alteration

namespace Layers
variable {layers : Layers} {index : Nat}

theorem checkRemovable_outOfRange :
    (∃ reason, layers.checkRemovable index = .error (.outOfRange reason)) ↔
      layers.frames.toNat ≤ index := by
  unfold checkRemovable
  by_cases far : layers.frames.toNat ≤ index
  · rw [decide_eq_true far, refuseIf_true]
    exact iff_of_true ⟨_, rfl⟩ far
  · rw [decide_eq_false far, refuseIf_false]
    refine iff_of_false ?_ far
    rintro ⟨reason, refused⟩
    cases only : layers.frames == 1 <;> rw [only] at refused <;> cases refused

theorem checkRemovable_precondition :
    (∃ reason, layers.checkRemovable index = .error (.precondition reason)) ↔
      index = 0 ∧ layers.frames = 1 := by
  have one : layers.frames = 1 ↔ layers.frames.toNat = 1 := UInt64.toNat_inj.symm
  unfold checkRemovable
  by_cases far : layers.frames.toNat ≤ index
  · rw [decide_eq_true far, refuseIf_true]
    refine iff_of_false (by rintro ⟨reason, refused⟩; cases refused) ?_
    rw [one]
    omega
  · rw [decide_eq_false far, refuseIf_false]
    by_cases only : layers.frames = 1
    · rw [beq_iff_eq.mpr only]
      have first : index = 0 := by
        rw [one] at only
        omega
      exact iff_of_true ⟨_, rfl⟩ ⟨first, only⟩
    · rw [beq_eq_false_iff_ne.mpr only]
      exact iff_of_false (by rintro ⟨reason, refused⟩; cases refused) fun both => only both.2

end Layers

namespace Session
variable {session : Session} {name : String} {image : Image}

/-- Removing a layer fails just when there is no layer to be removed. -/
theorem removeLayer_failed (held : session.image? name = some image) (index : Nat)
    (cause : Cause) :
    (session.perform (.alter name (.removeLayer index))).1 = .failed cause ↔
      image.layers.checkRemovable index = .error cause := by
  change (session.edit name (Edit.revise (Revision.removeLayer index)) fun _ => .done).1 = _ ↔ _
  rw [edit_eq held, Edit.revise_eq (Revision.removeLayer_eq ⟨0, 0⟩ default image index)]
  cases image.layers.checkRemovable index <;> simp [Except.map, Edit.ended, told]

theorem saved_frames {command : Command} (framed : 1 ≤ image.layers.frames)
    (saves : command.saves = true) (held : session.image? command.name = some image) :
    ∃ after, (session.perform command).2.image? command.name = some after ∧
      after.layers.frames = image.layers.frames := by
  have leaves := Command.leaves_of_saves saves
  obtain ⟨after, found, becomes⟩ := perform_becomes (Command.keeps_of_leaves leaves) held
  refine ⟨after, found, ?_⟩
  rw [becomes_frames leaves becomes]
  split
  · exact Image.framed_copy framed
  · rfl

theorem frames_mirror_arguments {start : Session} {commands : List Command}
    (empty : start.images = []) (held : (start.follow commands).image? name = some image) :
    let session := start.follow commands
    (∃ lineage, ∃ units : Units, ∃ count,
      start.lineages (fun _ => none) commands name = some lineage ∧
      units.tokens = image.arguments.tokens ∧
      units.replay lineage.groups lineage.opening = some count ∧ 1 ≤ count ∧
      image.layers.frames.toNat ≤ count ∧
      ((∀ met ∈ units.met lineage.groups lineage.opening, met < UInt64.size) →
        image.layers.frames.toNat = count ∧
        image.copy.layers.frames = image.layers.frames ∧
        image.mask.layers.frames = image.layers.frames ∧
        ∀ command, command.name = name → command.saves = true →
          ∃ after, (session.perform command).2.image? name = some after ∧
            after.layers.frames = image.layers.frames)) ∧
    (∀ (edit : Alteration Image) state,
      (edit.apply session.kit ⟨image.inState state, session.world⟩).2.image.layers.frames =
        (edit.apply session.kit ⟨image, session.world⟩).2.image.layers.frames) ∧
    (∀ other state state', session.Holds other →
      ((Alteration.addLayer (other.inState state')).apply session.kit
        ⟨image.inState state, session.world⟩).2.image.layers.frames =
          image.layers.frames + other.layers.frames) ∧
    ∀ index,
      ((∃ reason, (session.perform (.alter name (.removeLayer index))).1 =
        .failed (.outOfRange reason)) ↔ image.layers.frames.toNat ≤ index) ∧
      ((∃ reason, (session.perform (.alter name (.removeLayer index))).1 =
        .failed (.precondition reason)) ↔ index = 0 ∧ image.layers.frames = 1) := by
  have before : start.Explained fun _ => none := explained_empty empty
  obtain ⟨lineage, source, body, kept, explains⟩ :=
    explained_follow commands before name image held
  obtain ⟨count, replayed, tallies⟩ := explains.frames
  have positive := Units.one_le_replay lineage.one_le_opening replayed
  refine ⟨⟨lineage, body, count, kept, explains.spelled.arguments.symm, replayed, positive,
    tallies.below, fun fits => ?_⟩, ?_, ?_, ?_⟩
  · have exact := tallies.exact (Units.mem_met_last replayed)
      (Units.one_le_met lineage.one_le_opening replayed) fits
    have framed : 1 ≤ image.layers.frames := by
      rw [UInt64.le_iff_toNat_le, exact]
      exact positive
    refine ⟨exact, Image.framed_copy framed, Image.framed_mask framed, ?_⟩
    rintro command rfl saves
    exact saved_frames framed saves held
  · exact fun edit state => Alteration.frames_inState _ edit image _ state
  · exact fun other state state' _ => Alteration.frames_addLayer _ _ _ _
  · intro index
    simp only [removeLayer_failed held]
    exact ⟨Layers.checkRemovable_outOfRange, Layers.checkRemovable_precondition⟩

/-- Three frames and three of a copy that has lost one, saved as one picture in between, with one of
the first deleted at the end. -/
theorem frames_mirror_arguments_nested :
    let start : Session := ⟨⟨["convert"], ["identify"], "systmp"⟩, [], {
      tool := Tool.Script.responder fun
        | .frames => [.ran (.ok (Text.Utf8.encode "3\n")) []]
        | _ => []
      files := { entries := [(["a.gif".toList], .file [])] } }⟩
    let commands : List Command := [.make "a" (.file "a.gif"), .make "b" (.copyOf "a"),
      .alter "b" (.removeLayer 2), .save "b" (some "b.png") {}, .alter "a" (.addLayer "b"),
      .alter "a" (.removeLayer 4)]
    let session := start.follow commands
    start.images = [] ∧ ∃ image, session.image? "a" = some image ∧
      image.arguments.tokens = ["(", "a.gif", "-delete", "2", ")", "-delete", "4"] ∧
      image.layers.frames = 4 ∧
      (∃ lineage, ∃ units : Units, start.lineages (fun _ => none) commands "a" = some lineage ∧
        units.tokens = image.arguments.tokens ∧
        (∀ met ∈ units.met lineage.groups lineage.opening, met < UInt64.size) ∧
        units.replay lineage.groups lineage.opening = some image.layers.frames.toNat) ∧
      ∃ reason, (session.perform (.alter "a" (.removeLayer 4))).1 = .failed (.outOfRange reason) := by
  intro start commands session
  have told : (session.image? "a").map
      (fun image => (image.arguments.tokens, image.layers.frames)) =
        some (["(", "a.gif", "-delete", "2", ")", "-delete", "4"], 4) := by decide +kernel
  have descends : start.lineages (fun _ => none) commands "a" =
      some (.layered (.source .rgb 3) (.source .rgb 3)) := by decide +kernel
  obtain ⟨image, held, same⟩ := Option.map_eq_some_iff.mp told
  obtain ⟨tokens, frames⟩ := Prod.mk.inj same
  obtain ⟨⟨lineage, units, count, kept, written, replayed, -, -, exact⟩, -, -, removals⟩ :=
    frames_mirror_arguments rfl held
  obtain rfl := Option.some.inj (kept.symm.trans descends)
  have read : units = .group (.file "a.gif") (.row [⟨"-delete", ["2"], rfl⟩])
      (.row [⟨"-delete", ["4"], rfl⟩]) := Units.tokens_injective (written.trans tokens)
  have fits : ∀ met ∈ units.met [(true, .source .rgb 3)] 3, met < UInt64.size := by
    rw [read]
    decide +kernel
  have last : image.layers.frames.toNat ≤ 4 := Nat.le_of_eq (congrArg UInt64.toNat frames)
  refine ⟨rfl, image, held, tokens, frames, ⟨_, units, kept, written, fits, ?_⟩,
    (removals 4).1.mpr last⟩
  exact replayed.trans (congrArg some (exact fits).1.symm)

end Session

end Retouch
