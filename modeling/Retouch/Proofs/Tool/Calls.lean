import Retouch.Tool.Kit

/-!
Which calls of the tool count: those that something stands behind. The kit is prepared with one such
call at the most, the one for the version.
-/
namespace Retouch

@[simp] theorem Act.checked {α : Type} (result : Except Cause α) (world : World) :
    (liftM result : Act α) world = (result, world) := by
  cases result <;> rfl

namespace World

/-- Whether there is something to call: then the call counts, whatever comes of it. -/
def starts (world : World) (argv : Argv) : Bool :=
  match world.tool world.calls argv with
  | .unstarted _ => false
  | _ => true

/-- What is added to the calls by one for these tokens. -/
def entry (world : World) (argv : Argv) : List Argv :=
  if world.starts argv then [argv] else []

def withCalls (world : World) (calls : List Argv) : World := { world with calls }

theorem run_calls (argv : Argv) (world : World) :
    (run argv world).2.calls = world.calls ++ world.entry argv := by
  have called : (execute argv world).2.calls = world.calls ++ world.entry argv := by
    unfold execute entry starts
    cases world.tool world.calls argv <;> simp
  unfold run
  rw [Stepwise.bind_apply]
  rcases ran : execute argv world with ⟨cause | output, after⟩ <;> rw [ran] at called
  · exact called
  · simp only
    cases output.result <;> exact called

end World

/-- The call has no effect on the files. -/
def Responder.Harmless (tool : Responder) (argv : Argv) : Prop :=
  ∀ log output changes, tool log argv = .ran output changes → changes = []

theorem World.run_harmless {argv : Argv} {world : World} (harmless : world.tool.Harmless argv) :
    (run argv world).2 = world.withCalls (world.calls ++ world.entry argv) := by
  have called : (execute argv world).2 = world.withCalls (world.calls ++ world.entry argv) := by
    unfold execute entry starts withCalls
    cases told : world.tool world.calls argv with
    | ran output changes =>
      obtain rfl := harmless _ _ _ told
      rfl
    | refused cause => rfl
    | unstarted cause => simp
  unfold run
  rw [Stepwise.bind_apply]
  rcases ran : execute argv world with ⟨cause | output, after⟩ <;> rw [ran] at called
  · exact called
  · simp only
    cases output.result <;> exact called

namespace Tool

/-- The call for the version, made by settings that are in order and want it. -/
def Settings.greeting (settings : Settings) (world : World) : List Argv :=
  match settings.validate world.files with
  | .ok _ => if settings.checkVersion then world.entry (settings.convert ++ ["-version"]) else []
  | .error _ => []

namespace Kit

theorem checkVersion_eq (kit : Kit) (toolchain : Toolchain) (world : World) :
    kit.checkVersion toolchain world = match World.run kit.versionCall world with
      | (.error cause, after) => (.error cause, after)
      | (.ok output, after) => (Version.ofBanner output.text >>= require toolchain, after) := by
  unfold checkVersion
  rw [Stepwise.bind_apply]
  rcases World.run kit.versionCall world with ⟨cause | output, after⟩
  · rfl
  · simp only [Stepwise.bind_apply, Act.checked]
    cases Version.ofBanner output.text <;> rfl

theorem checkVersion_calls (kit : Kit) (toolchain : Toolchain) (world : World) :
    (kit.checkVersion toolchain world).2.calls = world.calls ++ world.entry kit.versionCall := by
  rw [← World.run_calls, checkVersion_eq]
  rcases World.run kit.versionCall world with ⟨cause | output, after⟩ <;> rfl

theorem prepare_eq (settings : Settings) (world : World) :
    prepare settings world = match settings.validate world.files with
      | .error cause => (.error cause, world)
      | .ok _ =>
        if settings.checkVersion then
          match (ofSettings settings world.systemTemp).checkVersion settings.toolchain world with
          | (.ok _, after) => (.ok (ofSettings settings world.systemTemp), after)
          | (.error cause, after) => (.error cause, after)
        else (.ok (ofSettings settings world.systemTemp), world) := by
  have here : (get : Act World) world = (.ok world, world) := rfl
  unfold prepare
  simp only [Stepwise.bind_apply, here, Act.checked]
  cases settings.validate world.files with
  | error cause => rfl
  | ok _ =>
    cases settings.checkVersion with
    | false => rfl
    | true =>
      simp only [if_true, Stepwise.bind_apply]
      rcases (ofSettings settings world.systemTemp).checkVersion settings.toolchain world with
        ⟨cause | _, after⟩ <;> rfl

theorem prepare_calls (settings : Settings) (world : World) :
    (prepare settings world).2.calls = world.calls ++ settings.greeting world := by
  have checked :=
    (ofSettings settings world.systemTemp).checkVersion_calls settings.toolchain world
  rw [prepare_eq, Settings.greeting]
  cases settings.validate world.files with
  | error cause => simp
  | ok _ =>
    cases settings.checkVersion with
    | false => simp
    | true =>
      simp only [if_true]
      rcases ran : (ofSettings settings world.systemTemp).checkVersion settings.toolchain world
        with ⟨cause | _, after⟩ <;> rw [ran] at checked <;> exact checked

end Kit

/-- Why the version that is asked for does not do. -/
def Settings.versionFailure? (settings : Settings) (world : World) : Option Cause :=
  match settings.validate world.files with
  | .error _ => none
  | .ok _ =>
    if settings.checkVersion then
      match ((Kit.ofSettings settings world.systemTemp).checkVersion settings.toolchain world).1 with
      | .error cause => some cause
      | .ok _ => none
    else none

theorem Kit.prepare_harmless {settings : Settings} {world : World}
    (harmless : world.tool.Harmless (ofSettings settings world.systemTemp).versionCall) :
    prepare settings world =
      ((match settings.versionFailure? world with
          | some cause => .error cause
          | none => (settings.validate world.files).map fun _ =>
              ofSettings settings world.systemTemp),
        world.withCalls (world.calls ++ settings.greeting world)) := by
  have checked := World.run_harmless harmless
  have same : world.withCalls world.calls = world := rfl
  rw [prepare_eq, Settings.versionFailure?, Settings.greeting]
  cases settings.validate world.files with
  | error cause => simp [same]; rfl
  | ok _ =>
    cases settings.checkVersion with
    | false => simp [same]; rfl
    | true =>
      simp only [if_true, checkVersion_eq]
      rcases ran : World.run (ofSettings settings world.systemTemp).versionCall world with
        ⟨cause | output, after⟩ <;> rw [ran] at checked <;> obtain rfl := checked
      · rfl
      · cases told : Version.ofBanner output.text >>= require settings.toolchain <;>
          simp only [told] <;> rfl

end Tool

end Retouch
