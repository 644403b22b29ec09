import Retouch.Image.Saving
import Retouch.Proofs.Image.Outcome
import Retouch.Proofs.Save.Steps

/-!
What a save and what a rendering into memory come to, step by step, and what a plan says of the
layers and of the place it goes to.
-/
namespace Retouch

namespace Save

theorem layersFor_frames {format : String} {options : Options} {layers planned : Layers}
    (chosen : layersFor format options layers = .ok planned) :
    planned.frames = max layers.frames 1 := by
  unfold layersFor at chosen
  split at chosen
  · unfold Layers.animate at chosen
    simp only at chosen
    split at chosen
    · cases chosen
      rfl
    · cases chosen
  · simp only at chosen
    split at chosen <;> cases chosen <;> rfl

theorem plan_ok {request : Request} {destination : String} {options : Options} {planned : Plan}
    (settled : plan request destination options = .ok planned) :
    planned.destination = destination ∧ planned.argv.getLast? = some destination ∧
      planned.layers.frames = max request.layers.frames 1 := by
  obtain ⟨format, layers, quality, -, chosen, -, rfl⟩ := plan_eq_ok.1 settled
  exact ⟨rfl, by simp [Request.drafted], layersFor_frames chosen⟩

end Save

namespace Image

theorem plan_ok {kit : Tool.Kit} {image : Image} {path : Option String} {options : Save.Options}
    {planned : Save.Plan} (settled : image.plan kit path options = .ok planned) :
    (path <|> image.source) = some planned.destination ∧
      planned.argv.getLast? = some planned.destination ∧
      planned.layers.frames = max image.layers.frames 1 := by
  unfold plan at settled
  split at settled
  · next destination chosen =>
      obtain ⟨same, last, frames⟩ := Save.plan_ok settled
      rw [same]
      exact ⟨chosen, last, frames⟩
  · cases settled

theorem save_eq (kit : Tool.Kit) (path : Option String) (options : Save.Options) (image : Image)
    (world : World) :
    save kit path options ⟨image, world⟩ = match image.plan kit path options with
      | .error cause => (.error cause, ⟨image, world⟩)
      | .ok planned => match makeParent planned.destination world with
        | (.error cause, after) => (.error cause, ⟨image, after⟩)
        | (.ok _, between) => match World.run planned.argv between with
          | (.error cause, after) => (.error cause, ⟨image, after⟩)
          | (.ok _, after) => (.ok (), ⟨{ image with layers := planned.layers }, after⟩) := by
  unfold save
  rw [Edit.bind_image, Stepwise.bind_checked]
  cases image.plan kit path options with
  | error cause => rfl
  | ok planned =>
    simp only [Edit.bind_outside]
    rcases makeParent planned.destination world with ⟨_ | _, between⟩
    · rfl
    · unfold render
      simp only [Edit.bind_outside]
      rcases World.run planned.argv between with ⟨_ | _, after⟩ <;> rfl

theorem save_nowhere {kit : Tool.Kit} {path : Option String} {options : Save.Options}
    {image : Image} {world : World} (chosen : (path <|> image.source) = none) :
    save kit path options ⟨image, world⟩ = (.error noDestination, ⟨image, world⟩) := by
  have refused : image.plan kit path options = .error noDestination := by
    unfold plan
    rw [chosen]
  rw [save_eq, refused]

theorem readRendered_world (path : String) (world : World) :
    (readRendered path world).2 = world := by
  unfold readRendered
  split <;> rfl

theorem get_eq (kit : Tool.Kit) (format : String) (options : Save.Options) (image : Image)
    (world : World) :
    get kit format options ⟨image, world⟩ =
      match World.create kit.tempDir "im" ("." ++ Text.lowercase format) world with
      | (.error cause, after) => (.error cause, ⟨image, after⟩)
      | (.ok file, between) =>
        match save kit (some file.path) { options with format := some format } ⟨image, between⟩ with
        | (.error cause, desk) => (.error cause, { desk with world := desk.world.discard file })
        | (.ok _, desk) => ((readRendered file.path desk.world).1,
          { desk with world := desk.world.discard file }) := by
  unfold get withScratch
  rw [Edit.bind_outside]
  rcases World.create kit.tempDir "im" ("." ++ Text.lowercase format) world with
    ⟨_ | file, between⟩
  · rfl
  · simp only [Stepwise.bind_apply]
    rcases save kit (some file.path) { options with format := some format } ⟨image, between⟩ with
      ⟨_ | _, desk⟩
    · rfl
    · have same := readRendered_world file.path desk.world
      simp only [Edit.outside]
      rcases ran : readRendered file.path desk.world with ⟨result, after⟩
      rw [ran] at same
      subst same
      rfl

theorem present_hidden {kit : Tool.Kit} {format : String} {options : Save.Options}
    {room : Option Nat} {desk : Desk} {cause : Cause}
    (hidden : Save.mediaType format = .error cause) :
    present kit format options room desk = (([], .error cause), desk) := by
  unfold present
  rw [hidden]
  rfl

theorem present_shown {kit : Tool.Kit} {format : String} {options : Save.Options}
    {room : Option Nat} {desk : Desk} {type : String}
    (shown : Save.mediaType format = .ok type) :
    present kit format options room desk = match get kit format options desk with
      | (.error cause, after) => (([], .error cause), after)
      | (.ok bytes, after) =>
        (((deliver room bytes).1, (deliver room bytes).2.map fun _ => type), after) := by
  unfold present
  simp only [shown, bind, StateT.bind, ExceptT.run]
  rcases get kit format options desk with ⟨cause | bytes, after⟩ <;> rfl

theorem present_eq (kit : Tool.Kit) (format : String) (options : Save.Options) (room : Option Nat)
    (desk : Desk) :
    (present kit format options room desk).2 = match Save.mediaType format with
      | .error _ => desk
      | .ok _ => (get kit format options desk).2 := by
  cases known : Save.mediaType format with
  | error cause => rw [present_hidden known]
  | ok type =>
    rw [present_shown known]
    rcases get kit format options desk with ⟨_ | bytes, after⟩ <;> rfl

/-- The image is the same, but that it may have taken on the layers of a plan for it. -/
def Rendered (before after : Image) : Prop :=
  after = before ∨
    ∃ layers : Layers, layers.frames = max before.layers.frames 1 ∧ after = { before with layers }

theorem Rendered.input {before after : Image} (rendered : Rendered before after) :
    after.input = before.input := by
  rcases rendered with rfl | ⟨layers, -, rfl⟩ <;> rfl

theorem Rendered.arguments {before after : Image} (rendered : Rendered before after) :
    after.arguments = before.arguments := by
  rcases rendered with rfl | ⟨layers, -, rfl⟩ <;> rfl

theorem Rendered.tokens {before after : Image} (rendered : Rendered before after) :
    after.tokens = before.tokens := by
  rw [Image.tokens, Image.tokens, rendered.input, rendered.arguments]

theorem Rendered.size {before after : Image} (rendered : Rendered before after) :
    after.size = before.size := by
  rcases rendered with rfl | ⟨layers, -, rfl⟩ <;> rfl

end Image

end Retouch
