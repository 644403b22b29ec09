import Retouch.Proofs.Image.Revised

/-!
What an edit comes to. `Alteration.apply_eq` takes an edit apart into the answers it asks for and a
change that depends on nothing else; `Alteration.settle_ok` says what a change that goes through
leaves behind.
-/
namespace Retouch

/-- What an edit may have to be told before it can change the image. -/
structure Needs where
  own : Except Cause Size
  other : Except Cause Size
  file : Except Cause ScratchFile

/-- Whether a result is there, or else the cause, without the result itself. -/
def verdict {α : Type} (result : Except Cause α) : Except Cause Unit := result.map fun _ => ()

@[simp] theorem verdict_ok {α : Type} (value : α) : verdict (.ok value) = .ok () := rfl

@[simp] theorem verdict_error {α : Type} (cause : Cause) :
    verdict (.error cause : Except Cause α) = .error cause := rfl

namespace Edit

theorem bind_image {β : Type} (next : Image → Edit β) (desk : Desk) :
    (Edit.image >>= next) desk = next desk.image desk := rfl

theorem bind_outside {α β : Type} (act : Act α) (next : α → Edit β) (image : Image)
    (world : World) :
    (outside act >>= next) ⟨image, world⟩ = match act world with
      | (.ok value, after) => next value ⟨image, after⟩
      | (.error cause, after) => (.error cause, ⟨image, after⟩) := by
  rw [Stepwise.bind_apply]
  simp only [outside]
  rcases act world with ⟨_ | _, after⟩ <;> rfl

theorem bind_resolve {β : Type} (kit : Tool.Kit) (next : Size → Edit β) (image : Image)
    (world : World) :
    (Image.resolve kit >>= next) ⟨image, world⟩ = match image.measure kit world with
      | (.ok size, after) => next size ⟨image.resized (some size), after⟩
      | (.error cause, after) => (.error cause, ⟨image, after⟩) := by
  have resolved : Image.resolve kit ⟨image, world⟩ = match image.measure kit world with
      | (.ok size, after) => (.ok size, ⟨image.resized (some size), after⟩)
      | (.error cause, after) => (.error cause, ⟨image, after⟩) := by
    unfold Image.resolve
    rw [bind_image, bind_outside]
    rcases image.measure kit world with ⟨_ | size, after⟩ <;> rfl
  rw [Stepwise.bind_apply, resolved]
  rcases image.measure kit world with ⟨_ | size, after⟩ <;> rfl

/-- How an edit ends, once it is known what its change comes to. -/
def ended (settled : Except Cause Image) (before : Image) (after : World) :
    Except Cause Unit × Desk :=
  match settled with
  | .ok image => (.ok (), ⟨image, after⟩)
  | .error cause => (.error cause, ⟨before, after⟩)

theorem revise_eq {revision : Revision Unit} {objection : Except Cause Unit} {image out : Image}
    (ends : revision image = Revision.ended objection image out) (world : World) :
    revise revision ⟨image, world⟩ = ended (objection.map fun _ => out) image world := by
  unfold revise
  simp only [ends]
  cases objection <;> rfl

theorem revise_done {revision : Revision Unit} {image out : Image}
    (done : revision image = (.ok (), out)) (world : World) :
    revise revision ⟨image, world⟩ = (.ok (), ⟨out, world⟩) := by
  simp only [revise, done]

end Edit

namespace Alteration
open Edit
variable {ι : Type}

def isSized : Alteration ι → Bool
  | crop .. | paste .. | applyMask _ | fill _ => true
  | _ => false

def fileContent? : Alteration ι → Option Bytes
  | profile data => some data.data
  | _ => none

/-- The image with the size that was asked for, as far as the edit comes to ask. -/
def sized (own : Except Cause Size) (image : Image) (edit : Alteration ι) : Image :=
  match own, edit with
  | .ok size, crop .. | .ok size, applyMask _ | .ok size, fill _ => image.resized (some size)
  | .ok size, paste _ _ alpha => if 100 < alpha then image else image.resized (some size)
  | _, _ => image

/-- What a check of the edit says against it. The answers are asked for as they are needed, so that
the first one missing is the cause reported. -/
def objection (needs : Needs) (image : Image) : Alteration Image → Except Cause Unit
  | crop start size => do Revision.checkCrop (← needs.own) start size
  | resize size _ => Revision.checkResize size
  | rotate angle _ => Revision.checkAngle angle
  | profile _ => verdict needs.file
  | paste _ start alpha => do
    Revision.checkAlpha alpha
    let bounds ← needs.own
    let size ← needs.other
    Revision.checkPaste bounds size start
  | applyMask _ => do
    let size ← needs.own
    let maskSize ← needs.other
    Revision.checkMask size maskSize
  | fill _ => verdict needs.own
  | effect chosen => chosen.check
  | removeLayer index => image.layers.checkRemovable index
  | _ => .ok ()

/-- The change itself: all that the edit does, if there is no objection. -/
def settle (needs : Needs) (image : Image) (edit : Alteration Image) : Except Cause Image :=
  (edit.objection needs image).map fun _ =>
    edit.outcome (needs.own.toOption.getD ⟨0, 0⟩) (needs.file.toOption.getD default) image

/-- The answers that an edit can come to ask for. -/
def needs (kit : Tool.Kit) (image : Image) (world : World) (edit : Alteration Image) : Needs where
  own := (image.measure kit world).1
  other := ((edit.operand?.getD image).measure kit (image.measure kit world).2).1
  file := (World.mint kit.tempDir "ip" (edit.fileContent?.getD []) world).1

theorem needs_file {kit : Tool.Kit} {image : Image} {world : World} {edit : Alteration Image}
    {content : Bytes} (filed : edit.fileContent? = some content) :
    (edit.needs kit image world).file = (World.mint kit.tempDir "ip" content world).1 := by
  simp only [needs, filed, Option.getD_some]

/-- The world once the edit has asked, or made, what it has to. -/
def afterwards (kit : Tool.Kit) (image : Image) (world : World) : Alteration Image → World
  | crop .. | fill _ => (image.measure kit world).2
  | paste other _ alpha => if 100 < alpha then world else both other
  | applyMask mask => both mask
  | profile data => (World.mint kit.tempDir "ip" data.data world).2
  | _ => world
where
  both (other : Image) : World :=
    match image.measure kit world with
    | (.ok _, between) => (other.measure kit between).2
    | (.error _, between) => between

/-- An edit is its change, carried out on the answers that the world gives. -/
theorem apply_eq (kit : Tool.Kit) (edit : Alteration Image) (image : Image) (world : World) :
    edit.apply kit ⟨image, world⟩ =
      ended
        (edit.settle (edit.needs kit image world) (edit.sized (image.measure kit world).1 image))
        (edit.sized (image.measure kit world).1 image) (edit.afterwards kit image world) := by
  rcases measured : image.measure kit world with ⟨own, between⟩
  have asked : (edit.needs kit image world).own = own := by simp only [needs, measured]
  cases edit with
  | crop start size =>
    simp only [apply, bind_resolve, measured, settle, objection, asked, afterwards]
    cases own with
    | error cause => rfl
    | ok bounds => exact revise_eq (Revision.crop_eq _ _ _ bounds start size) _
  | fill content =>
    simp only [apply, bind_resolve, measured, settle, objection, asked, afterwards]
    cases own with
    | error cause => rfl
    | ok size => exact revise_done (Revision.fill_eq size _ _ content) _
  | paste other start alpha =>
    have second : (needs kit image world (paste other start alpha)).other =
        (other.measure kit between).1 := by
      simp only [needs, measured, operand?, Option.getD_some]
    simp only [apply, settle, objection, asked, second, Stepwise.bind_checked, afterwards,
      afterwards.both, measured]
    unfold Revision.checkAlpha
    by_cases large : 100 < alpha
    · simp only [large, decide_true, refuseIf_true, if_true]
      cases own <;> simp [sized, large, ended, bind, Except.bind, Except.map]
    · simp only [large, decide_false, refuseIf_false, if_false, bind_resolve, measured]
      cases own with
      | error cause => rfl
      | ok bounds =>
        simp only [bind_outside]
        rcases other.measure kit between with ⟨_ | size, after⟩
        · simp [sized, large, ended, bind, Except.bind, Except.map]
        · simp only [sized, large, if_false]
          exact revise_eq (Revision.paste_eq bounds _ _ other bounds size start alpha) _
  | applyMask mask =>
    have second : (needs kit image world (applyMask mask)).other =
        (mask.measure kit between).1 := by
      simp only [needs, measured, operand?, Option.getD_some]
    simp only [apply, settle, objection, asked, second, bind_resolve, afterwards, afterwards.both,
      measured]
    cases own with
    | error cause => rfl
    | ok bounds =>
      simp only [bind_outside]
      rcases mask.measure kit between with ⟨_ | size, after⟩
      · rfl
      · exact revise_eq (Revision.applyMask_eq bounds _ _ mask bounds size) _
  | profile data =>
    have made : (needs kit image world (profile data)).file =
        (World.mint kit.tempDir "ip" data.data world).1 := needs_file rfl
    simp only [apply, settle, objection, made, bind_outside, afterwards]
    rcases World.mint kit.tempDir "ip" data.data world with ⟨_ | file, after⟩
    · cases own <;> rfl
    · cases own <;> exact revise_done (Revision.profile_eq _ file _ data) _
  | flipHorizontally | flipVertically | strip | interlace scheme =>
    cases own <;> exact revise_done (Revision.push_eq _ _ _ rfl rfl rfl rfl rfl) _
  | resize size filter => cases own <;> exact revise_eq (Revision.resize_eq _ _ _ size filter) _
  | rotate angle background =>
    cases own <;> exact revise_eq (Revision.rotate_eq _ _ _ angle background) _
  | usePalette palette =>
    cases own <;> exact revise_done (Revision.usePalette_eq _ _ _ palette) _
  | effect chosen => cases own <;> exact revise_eq (Revision.affect_eq _ _ _ chosen) _
  | addLayer other =>
    cases own <;> exact revise_done (Revision.addLayer_eq _ _ _ other) _
  | removeLayer index => cases own <;> exact revise_eq (Revision.removeLayer_eq _ _ _ index) _
  | coalesce => cases own <;> exact revise_done (Revision.coalesce_eq _ _ _) _

theorem sized_eq (own : Except Cause Size) (image : Image) (edit : Alteration ι) :
    edit.sized own image = image ∨
      ∃ size, own = .ok size ∧ edit.sized own image = image.resized (some size) := by
  cases own with
  | error cause => exact .inl rfl
  | ok size =>
    cases edit <;> try exact .inl rfl
    case paste other start alpha =>
      by_cases large : 100 < alpha
      · exact .inl (by simp [sized, large])
      · exact .inr ⟨size, rfl, by simp [sized, large]⟩
    all_goals exact .inr ⟨size, rfl, rfl⟩

theorem sized_with (own : Except Cause Size) (image : Image) (edit : Alteration ι) :
    ∃ size, edit.sized own image = { image with size } := by
  rcases edit.sized_eq own image with same | ⟨size, -, grown⟩
  · exact ⟨image.size, same⟩
  · exact ⟨some size, grown⟩

theorem own_of_passed {needs : Needs} {image : Image} {edit : Alteration Image}
    (passed : edit.objection needs image = .ok ()) (sized : edit.isSized = true) :
    ∃ size, needs.own = .ok size := by
  cases known : needs.own with
  | ok size => exact ⟨size, rfl⟩
  | error cause =>
    cases edit with
    | crop | applyMask | fill => simp [objection, known, bind, Except.bind] at passed
    | paste other start alpha =>
      cases checked : Revision.checkAlpha alpha <;>
        simp [objection, known, checked, bind, Except.bind] at passed
    | _ => cases sized

theorem settle_eq_ok {needs : Needs} {image out : Image} {edit : Alteration Image} :
    edit.settle needs image = .ok out ↔
      edit.objection needs image = .ok () ∧
        out = edit.outcome (needs.own.toOption.getD ⟨0, 0⟩) (needs.file.toOption.getD default)
          image := by
  unfold settle
  cases edit.objection needs image <;> simp [Except.map, eq_comm]

theorem settle_eq_error {needs : Needs} {image : Image} {edit : Alteration Image} {cause : Cause} :
    edit.settle needs image = .error cause ↔ edit.objection needs image = .error cause := by
  unfold settle
  cases edit.objection needs image <;> simp [Except.map]

theorem settle_ok {needs : Needs} {image out : Image} {edit : Alteration Image}
    (settled : edit.settle needs image = .ok out) :
    ∃ own file, (edit.isSized = true → needs.own = .ok own) ∧
      (∀ data, edit = profile data → needs.file = .ok file) ∧
      out = edit.outcome own file image := by
  obtain ⟨passed, rfl⟩ := settle_eq_ok.mp settled
  refine ⟨_, _, fun sized => ?_, ?_, rfl⟩
  · obtain ⟨size, known⟩ := own_of_passed passed sized
    rw [known]
    rfl
  · rintro data rfl
    cases made : needs.file with
    | ok file => rfl
    | error cause => simp [objection, made] at passed

end Alteration

end Retouch
