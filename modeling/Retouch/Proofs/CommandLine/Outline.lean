import Retouch.Proofs.CommandLine.Blind

/-!
A job in its parts: its files are read, the tool is prepared, the image is opened, edited and its
save planned, and only then does it matter whether the job is a dry run.
-/
namespace Retouch.CommandLine

/-- What the files of a job say. -/
structure Inputs where
  settings : Tool.Settings
  steps : List EditScript.Step
  options : Save.Options

def reading (job : Job) : Task Inputs := do
  let settings ← readOr {} Json.settings job.config
  let steps ← Task.readJson EditScript.steps job.ops
  let options ← readOr {} Json.options job.options
  return ⟨settings, steps, options⟩

/-- Everything up to the plan, with the kit at hand. -/
def sketch (job : Job) (inputs : Inputs) (kit : Tool.Kit) : Task Save.Plan := do
  let image ← Task.lift (Image.openFile kit job.input)
  let image ← applySteps kit image inputs.steps 0
  Task.lift (liftM (image.plan kit (some job.output) inputs.options))

def conclude (job : Job) (planned : Save.Plan) : Task Printed :=
  if job.dryRun then do
    return { stdout := (← planLine planned) ++ "\n" }
  else do
    Task.lift (Image.makeParent planned.destination)
    let _ ← Task.lift (World.run planned.argv)
    return { stderr := s!"wrote {job.output}\n" }

/-- The job once its files have been read. -/
def carryOut (job : Job) (inputs : Inputs) : Task Printed := do
  let kit ← Task.lift (Tool.Kit.prepare (settingsFor job inputs.settings))
  let planned ← sketch job inputs kit
  conclude job planned

theorem lift_checked {α : Type} (result : Except Cause α) (world : World) :
    Task.lift (liftM result) world = match result with
      | .ok value => (.ok value, world)
      | .error cause => (.error (cause.chain.map .message), world) := by
  unfold Task.lift
  rw [Act.checked]
  cases result <;> rfl

theorem bind_ok {α β : Type} {task : Task α} {next : α → Task β} {world after : World} {value : β}
    (done : (task >>= next) world = (.ok value, after)) :
    ∃ first between, task world = (.ok first, between) ∧
      next first between = (.ok value, after) := by
  rw [Stepwise.bind_apply] at done
  rcases ran : task world with ⟨account | first, between⟩ <;> rw [ran] at done
  · cases done
  · exact ⟨first, between, rfl, done⟩

theorem lift_ok {α : Type} {act : Act α} {world after : World} {value : α}
    (done : Task.lift act world = (.ok value, after)) : act world = (.ok value, after) := by
  unfold Task.lift at done
  rcases ran : act world with ⟨cause | found, between⟩ <;> rw [ran] at done <;> cases done
  rfl

theorem sketch_ok {job : Job} {inputs : Inputs} {kit : Tool.Kit} {world after : World}
    {planned : Save.Plan} (sketched : sketch job inputs kit world = (.ok planned, after)) :
    ∃ image between final, Image.openFile kit job.input world = (.ok image, between) ∧
      applySteps kit image inputs.steps 0 between = (.ok final, after) ∧
      final.plan kit (some job.output) inputs.options = .ok planned := by
  obtain ⟨image, between, opened, later⟩ := bind_ok sketched
  obtain ⟨final, last, taken, planning⟩ := bind_ok later
  have checked := lift_ok planning
  rw [Act.checked] at checked
  obtain ⟨settled, rfl⟩ := Prod.mk.inj checked
  exact ⟨image, between, final, lift_ok opened, taken, settled⟩

theorem finish_eq (kit : Tool.Kit) (image : Image) (job : Job) (options : Save.Options) :
    finish kit image job options =
      Task.lift (liftM (image.plan kit (some job.output) options)) >>= conclude job := by
  unfold finish
  cases dry : job.dryRun with
  | true =>
    apply bind_congr
    intro planned
    simp only [conclude, dry, if_true]
  | false =>
    funext world
    simp only [Bool.false_eq_true, if_false]
    rw [Stepwise.bind_apply, Stepwise.bind_apply, lift_checked, onImage, Image.save_eq]
    cases image.plan kit (some job.output) options with
    | error cause => rfl
    | ok planned =>
      simp only [conclude, dry, Bool.false_eq_true, if_false, Stepwise.bind_apply, Task.lift]
      rcases Image.makeParent planned.destination world with ⟨cause | _, between⟩
      · rfl
      · simp only
        rcases World.run planned.argv between with ⟨cause | _, after⟩ <;> rfl

theorem run_eq (job : Job) : run job = reading job >>= carryOut job := by
  unfold run reading carryOut sketch
  simp only [finish_eq, bind_assoc, pure_bind]

/-- A task that leaves the world as it is. -/
def Idle {α : Type} (task : Task α) : Prop := ∀ world, (task world).2 = world

theorem Idle.bind {α β : Type} {task : Task α} {next : α → Task β} (first : Idle task)
    (later : ∀ value, Idle (next value)) : Idle (task >>= next) := by
  intro world
  have before := first world
  rw [Stepwise.bind_apply]
  rcases ran : task world with ⟨account | value, after⟩ <;> rw [ran] at before
  · exact before
  · exact (later value after).trans before

theorem Idle.within {α : Type} {task : Task α} (idle : Idle task) (context : String) :
    Idle (task.within context) := by
  intro world
  have before := idle world
  unfold Task.within
  rcases ran : task world with ⟨account | value, after⟩ <;> rw [ran] at before <;> exact before

theorem idle_readJson {α : Type} (read : Json.Reader α) (path : String) :
    Idle (Task.readJson read path) := by
  have opened : Idle (Task.readFile path) := by
    apply Idle.within
    apply Idle.bind (fun _ => rfl)
    intro world
    split <;> exact fun _ => rfl
  apply opened.bind
  intro bytes
  apply Idle.within
  split <;> exact fun _ => rfl

theorem idle_readOr {α : Type} (fallback : α) (read : Json.Reader α) (path : Option String) :
    Idle (readOr fallback read path) := by
  cases path with
  | none => exact fun _ => rfl
  | some path => exact idle_readJson read path

theorem idle_reading (job : Job) : Idle (reading job) := by
  apply (idle_readOr {} Json.settings job.config).bind
  intro settings
  apply (idle_readJson EditScript.steps job.ops).bind
  intro steps
  apply (idle_readOr {} Json.options job.options).bind
  exact fun options _ => rfl

end Retouch.CommandLine
