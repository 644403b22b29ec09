import Retouch.Proofs.Image.Rendering

/-!
Which plan the tool carries out. A save can come to nothing at three places: there is no plan, there
is no directory, or the one call fails. The image takes on the layers of a plan that gets past all
three, and nothing that goes wrong later takes them back.
-/
namespace Retouch

def Reply.verdict : Reply → Except Cause Tool.Output
  | .unstarted cause | .refused cause => .error cause
  | .ran output _ => output.result

theorem World.run_eq (argv : Argv) (world : World) :
    World.run argv world = ((world.tool world.calls argv).verdict, (execute argv world).2) := by
  unfold World.run
  rw [Stepwise.bind_apply]
  cases replied : world.tool world.calls argv with
  | unstarted cause => simp only [execute, replied, Reply.verdict]
  | refused cause => simp only [execute, replied, Reply.verdict]
  | ran output changes =>
    simp only [execute, replied, Reply.verdict]
    cases output.result <;> rfl

namespace Image

def committed (image : Image) : Option Save.Plan → Image
  | some planned => { image with layers := planned.layers }
  | none => image

/-- The plan of a save, if it gets as far as a call that succeeds. -/
def carried? (kit : Tool.Kit) (path : Option String) (options : Save.Options) (desk : Desk) :
    Option Save.Plan :=
  match desk.image.plan kit path options with
  | .error _ => none
  | .ok planned =>
    match makeParent planned.destination desk.world with
    | (.error _, _) => none
    | (.ok _, between) =>
      match (between.tool between.calls planned.argv).verdict with
      | .error _ => none
      | .ok _ => some planned

/-- The same for a rendering into memory, which saves to a temporary file first. -/
def fetched? (kit : Tool.Kit) (format : String) (options : Save.Options) (desk : Desk) :
    Option Save.Plan :=
  match World.create kit.tempDir "im" ("." ++ Text.lowercase format) desk.world with
  | (.error _, _) => none
  | (.ok file, between) =>
    carried? kit (some file.path) { options with format := some format } ⟨desk.image, between⟩

def presented? (kit : Tool.Kit) (format : String) (options : Save.Options) (desk : Desk) :
    Option Save.Plan :=
  match Save.mediaType format with
  | .error _ => none
  | .ok _ => fetched? kit format options desk

variable (kit : Tool.Kit) (path : Option String) (format : String) (options : Save.Options)
  (desk : Desk)

theorem save_carried :
    (save kit path options desk).2.image = desk.image.committed (carried? kit path options desk) ∧
      ((save kit path options desk).1 = .ok () ↔
        (carried? kit path options desk).isSome = true) := by
  obtain ⟨image, world⟩ := desk
  rw [save_eq]
  unfold carried?
  cases image.plan kit path options with
  | error cause => simp [committed]
  | ok planned =>
    simp only
    rcases makeParent planned.destination world with ⟨cause | _, between⟩
    · simp [committed]
    · simp only [World.run_eq]
      cases (between.tool between.calls planned.argv).verdict <;> simp [committed]

theorem get_image : (get kit format options desk).2.image =
    desk.image.committed (fetched? kit format options desk) := by
  obtain ⟨image, world⟩ := desk
  rw [get_eq]
  unfold fetched?
  rcases World.create kit.tempDir "im" ("." ++ Text.lowercase format) world with
    ⟨cause | file, between⟩
  · rfl
  · have saved := (save_carried kit (some file.path) { options with format := some format }
      ⟨image, between⟩).1
    simp only
    rcases ran : save kit (some file.path) { options with format := some format }
      ⟨image, between⟩ with ⟨cause | _, after⟩ <;> rw [ran] at saved <;> exact saved

theorem present_image (room : Option Nat) : (present kit format options room desk).2.image =
    desk.image.committed (presented? kit format options desk) := by
  rw [present_eq]
  unfold presented?
  cases Save.mediaType format with
  | error cause => rfl
  | ok type => exact get_image kit format options desk

variable {kit path format options desk} {planned : Save.Plan}

theorem carried_planned (carried : carried? kit path options desk = some planned) :
    desk.image.plan kit path options = .ok planned := by
  unfold carried? at carried
  split at carried
  · cases carried
  next settled =>
    split at carried
    · cases carried
    · split at carried
      · cases carried
      · rw [settled, Option.some.inj carried]

theorem fetched_planned (fetched : fetched? kit format options desk = some planned) :
    ∃ path options, desk.image.plan kit path options = .ok planned := by
  unfold fetched? at fetched
  split at fetched
  · cases fetched
  · have settled := carried_planned fetched
    exact ⟨_, _, settled⟩

theorem presented_planned (presented : presented? kit format options desk = some planned) :
    ∃ path options, desk.image.plan kit path options = .ok planned := by
  unfold presented? at presented
  split at presented
  · cases presented
  · exact fetched_planned presented

theorem rendered_committed {image : Image} {carried : Option Save.Plan}
    (own : ∀ planned, carried = some planned →
      ∃ path options, image.plan kit path options = .ok planned) :
    image.Rendered (image.committed carried) := by
  cases carried with
  | none => exact .inl rfl
  | some planned =>
    obtain ⟨path, options, settled⟩ := own planned rfl
    exact .inr ⟨planned.layers, (plan_ok settled).2.2, rfl⟩

theorem rendered_save (kit : Tool.Kit) (path : Option String) (options : Save.Options)
    (desk : Desk) : desk.image.Rendered (save kit path options desk).2.image := by
  rw [(save_carried kit path options desk).1]
  exact rendered_committed fun _ carried => ⟨path, options, carried_planned carried⟩

theorem rendered_get (kit : Tool.Kit) (format : String) (options : Save.Options) (desk : Desk) :
    desk.image.Rendered (get kit format options desk).2.image := by
  rw [get_image]
  exact rendered_committed fun _ fetched => fetched_planned fetched

theorem rendered_present (kit : Tool.Kit) (format : String) (options : Save.Options)
    (room : Option Nat) (desk : Desk) :
    desk.image.Rendered (present kit format options room desk).2.image := by
  rw [present_image]
  exact rendered_committed fun _ presented => presented_planned presented

end Image

end Retouch
