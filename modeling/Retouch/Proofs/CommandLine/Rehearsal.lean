import Retouch.Proofs.CommandLine.Unsaved

/-!
A job and its rehearsal, from the same start. Both read the same files and do the same up to the
plan; only the call for the version may come before. The first step that fails ends both.
-/
namespace Retouch.CommandLine

/-- The number of the first step that fails. -/
def failing? (kit : Tool.Kit) (image : Image) : List EditScript.Step → World → Option Nat
  | [], _ => none
  | step :: rest, world =>
    match onImage image (step.alteration.apply kit) world with
    | (.error _, _) => some 0
    | (.ok image, after) => (failing? kit image rest after).map (· + 1)

/-- Steps after the one that fails first are not looked at. -/
theorem applySteps_failing {kit : Tool.Kit} {image : Image} {steps : List EditScript.Step}
    {world : World} {index : Nat} (failing : failing? kit image steps world = some index)
    (number : Nat) :
    ∃ step causes after, steps[index]? = some step ∧ ∀ later,
      applySteps kit image (steps.take (index + 1) ++ later) number world =
        (.error (.message s!"op #{number + index} ({step.text}) failed" :: causes), after) := by
  induction steps generalizing image world index number with
  | nil => cases failing
  | cons step rest ih =>
    simp only [failing?] at failing
    rcases ran : onImage image (step.alteration.apply kit) world with ⟨causes | edited, after⟩ <;>
      rw [ran] at failing
    · obtain rfl := Option.some.inj failing
      refine ⟨step, causes, after, rfl, fun later => ?_⟩
      simp only [List.take_succ_cons, List.take_zero, List.cons_append, List.nil_append, applySteps,
        Stepwise.bind_apply, Task.within, ran, Nat.add_zero]
    · obtain ⟨before, failed, rfl⟩ := Option.map_eq_some_iff.mp failing
      obtain ⟨culprit, causes, last, there, stopped⟩ := ih failed (number + 1)
      refine ⟨culprit, causes, last, there, fun later => ?_⟩
      have counted : number + (before + 1) = number + 1 + before := by omega
      simp only [List.take_succ_cons, List.cons_append, applySteps, Stepwise.bind_apply, Task.within, ran,
        stopped, counted]

namespace Job

def rehearsed (job : Job) : Job := { job with dryRun := true }

def performed (job : Job) : Job := { job with dryRun := false }

def inputs? (job : Job) (world : World) : Option Inputs := (reading job world).1.toOption

/-- The settings of the run that is not rehearsed. -/
def settings (job : Job) (world : World) : Tool.Settings :=
  settingsFor job.performed ((job.inputs? world).elim {} Inputs.settings)

def kit (job : Job) (world : World) : Tool.Kit :=
  .ofSettings (job.settings world) world.systemTemp

/-- What the files say, if the directories they name are there too. -/
def ready? (job : Job) (world : World) : Option Inputs :=
  match (job.settings world).validate world.files with
  | .ok _ => job.inputs? world
  | .error _ => none

def plan? (job : Job) (world : World) : Option Save.Plan :=
  (job.ready? world).bind fun inputs => (sketch job inputs (job.kit world) world).1.toOption

def failing? (job : Job) (world : World) : Option Nat :=
  (job.ready? world).bind fun inputs =>
    match Image.openFile (job.kit world) job.input world with
    | (.ok image, between) =>
      CommandLine.failing? (job.kit world) image inputs.steps between
    | (.error _, _) => none

def versionFailure? (job : Job) (world : World) : Option Cause :=
  (job.ready? world).bind fun _ => (job.settings world).versionFailure? world

def greeting (job : Job) (world : World) : List Argv :=
  (job.ready? world).elim [] fun _ => (job.settings world).greeting world

end Job

section Carrying
variable {job : Job} {world : World} {inputs : Inputs}

theorem run_inputs (read : job.inputs? world = some inputs) (dry : Bool) :
    run { job with dryRun := dry } world = carryOut { job with dryRun := dry } inputs world := by
  have same : reading { job with dryRun := dry } = reading job := rfl
  have idle := idle_reading job world
  rw [run_eq, same, Stepwise.bind_apply]
  unfold Job.inputs? at read
  rcases ran : reading job world with ⟨account | found, after⟩ <;> rw [ran] at read idle
  · cases read
  · obtain rfl := Option.some.inj read
    obtain rfl := idle
    rfl

theorem settings_eq (read : job.inputs? world = some inputs) :
    job.settings world = settingsFor job.performed inputs.settings := by
  rw [Job.settings, read]
  rfl

theorem ready_inputs (ready : job.ready? world = some inputs) :
    job.inputs? world = some inputs ∧ (job.settings world).validate world.files = .ok () := by
  unfold Job.ready? at ready
  split at ready
  next found => exact ⟨ready, found⟩
  next => cases ready

/-- Files that cannot be read and directories that are not there end both runs at once. -/
theorem run_unready (unready : job.ready? world = none) :
    ∃ account, ∀ dry, run { job with dryRun := dry } world = (.error account, world) := by
  have idle := idle_reading job world
  unfold Job.ready? at unready
  cases read : job.inputs? world with
  | none =>
    unfold Job.inputs? at read
    rcases ran : reading job world with ⟨account | found, after⟩ <;> rw [ran] at read idle
    · refine ⟨account, fun dry => ?_⟩
      have same : reading { job with dryRun := dry } = reading job := rfl
      rw [run_eq, same, Stepwise.bind_apply, ran]
      obtain rfl := idle
      rfl
    · cases read
  | some inputs =>
    rw [read, settings_eq read] at unready
    cases checked : (settingsFor job.performed inputs.settings).validate world.files with
    | ok _ =>
      rw [checked] at unready
      cases unready
    | error cause =>
      refine ⟨cause.chain.map .message, fun dry => ?_⟩
      have refused : (settingsFor { job with dryRun := dry } inputs.settings).validate
          world.files = .error cause := checked
      rw [run_inputs read, carryOut, Stepwise.bind_apply, Task.lift, Tool.Kit.prepare_eq, refused]

theorem rehearsed_eq (ready : job.ready? world = some inputs) :
    run job.rehearsed world =
      (sketch job inputs (job.kit world) >>= conclude job.rehearsed) world := by
  obtain ⟨read, valid⟩ := ready_inputs ready
  have carried : run job.rehearsed world = carryOut job.rehearsed inputs world :=
    run_inputs read true
  have found : (settingsFor job.rehearsed inputs.settings).validate world.files = .ok () := by
    rw [← valid, settings_eq read]
    rfl
  have unchecked : (settingsFor job.rehearsed inputs.settings).checkVersion = false :=
    Bool.and_false _
  have kit : Tool.Kit.ofSettings (settingsFor job.rehearsed inputs.settings) world.systemTemp =
      job.kit world := by
    rw [Job.kit, settings_eq read]
    rfl
  rw [carried, carryOut, Stepwise.bind_apply, Task.lift, Tool.Kit.prepare_eq, found, unchecked, kit]
  rfl

theorem carryOut_performed (ready : job.ready? world = some inputs)
    (harmless : world.tool.Harmless (job.kit world).versionCall) {other : Inputs}
    (same : other.settings = inputs.settings) :
    carryOut job.performed other world =
      match job.versionFailure? world with
      | some cause => (.error (cause.chain.map .message),
          world.withCalls (world.calls ++ job.greeting world))
      | none => (sketch job other (job.kit world) >>= conclude job.performed)
          (world.withCalls (world.calls ++ job.greeting world)) := by
  obtain ⟨read, valid⟩ := ready_inputs ready
  have greeted : job.greeting world = (job.settings world).greeting world := by
    rw [Job.greeting, ready]
    rfl
  have version : job.versionFailure? world = (job.settings world).versionFailure? world := by
    rw [Job.versionFailure?, ready]
    rfl
  rw [carryOut, Stepwise.bind_apply, Task.lift, same, ← settings_eq read,
    Tool.Kit.prepare_harmless harmless, greeted, version, valid]
  cases (job.settings world).versionFailure? world <;> rfl

theorem performed_eq (ready : job.ready? world = some inputs) :
    run job.performed world = carryOut job.performed inputs world :=
  run_inputs (ready_inputs ready).1 false

end Carrying

theorem blind_sketch (job : Job) (inputs : Inputs) (kit : Tool.Kit) :
    Blind kit.IsProbe (sketch job inputs kit) :=
  (blind_lift (Image.blind_openFile job.input)).bind fun image =>
    (blind_applySteps kit image inputs.steps 0).bind fun _ => blind_lift (.checked _)

theorem sketch_destination {job : Job} {inputs : Inputs} {kit : Tool.Kit} {world after : World}
    {planned : Save.Plan} (sketched : sketch job inputs kit world = (.ok planned, after)) :
    planned.destination = job.output := by
  obtain ⟨-, -, final, -, -, settled⟩ := sketch_ok sketched
  have chosen : some job.output = some planned.destination := (Image.plan_ok settled).1
  exact (Option.some.inj chosen).symm

theorem join?_plain {words : List String} (plain : ∀ word ∈ words, '\x00' ∉ word.toList) :
    ∃ line, Text.Shell.join? words = some line := by
  have clean : words.any (·.toList.contains '\x00') = false := by simpa using plain
  unfold Text.Shell.join?
  rw [clean]
  exact ⟨_, rfl⟩

theorem conclude_rehearsed {job : Job} {planned : Save.Plan} {line : String}
    (joined : Text.Shell.join? planned.argv = some line) (world : World) :
    conclude job.rehearsed planned world = (.ok { stdout := line ++ "\n" }, world) := by
  unfold conclude planLine
  rw [joined]
  rfl

theorem idle_conclude_rehearsed (job : Job) (planned : Save.Plan) :
    Idle (conclude job.rehearsed planned) := by
  have quoted : Idle (planLine planned) := by
    unfold planLine
    split <;> exact fun _ => rfl
  exact quoted.bind fun _ _ => rfl

theorem conclude_performed {job : Job} {planned : Save.Plan} {world : World}
    (made : (Image.makeParent planned.destination world).1 = .ok ()) :
    (conclude job.performed planned world).2.calls =
      world.calls ++ (Image.makeParent planned.destination world).2.entry planned.argv := by
  have kept := Image.makeParent_calls planned.destination world
  have performed : conclude job.performed planned =
      Task.lift (Image.makeParent planned.destination) >>= fun _ =>
        Task.lift (World.run planned.argv) >>= fun _ =>
          return { stderr := s!"wrote {job.output}\n" } := rfl
  rw [performed, Stepwise.bind_apply, Task.lift]
  rcases ran : Image.makeParent planned.destination world with ⟨cause | _, between⟩ <;>
    rw [ran] at made kept
  · cases made
  · have called := World.run_calls planned.argv between
    simp only [Stepwise.bind_apply, Task.lift]
    rcases ran : World.run planned.argv between with ⟨cause | _, after⟩ <;> rw [ran] at called <;>
      rw [← kept] <;> exact called

theorem Job.no_version (job : Job) (world : World) :
    ¬ (job.kit world).IsProbe (job.kit world).versionCall := by
  have convert : (job.kit world).convert.length = 1 := by
    simp only [kit, Tool.Kit.ofSettings, Tool.Settings.convert]
    cases (job.settings world).toolchain <;> rfl
  intro probe
  generalize called : (job.kit world).versionCall = argv at probe
  have lengths := congrArg List.length called
  cases probe <;>
    simp [Tool.Kit.versionCall, Tool.Kit.colorspaceCall, Tool.Kit.framesCall, Tool.Kit.sizeCall,
      Tool.Kit.identifyCall, Tool.Kit.infoCall, convert] at lengths
  case size => omega

theorem sketch_failing {job : Job} {world : World} {inputs : Inputs} {index : Nat}
    (ready : job.ready? world = some inputs) (failing : job.failing? world = some index) :
    ∃ step causes after, inputs.steps[index]? = some step ∧ ∀ later,
      sketch job { inputs with steps := inputs.steps.take (index + 1) ++ later } (job.kit world)
        world = (.error (.message s!"op #{index} ({step.text}) failed" :: causes), after) := by
  rw [Job.failing?, ready] at failing
  simp only [Option.bind_some] at failing
  rcases opened : Image.openFile (job.kit world) job.input world with ⟨cause | image, between⟩ <;>
    rw [opened] at failing
  · cases failing
  · obtain ⟨step, causes, after, there, stopped⟩ := applySteps_failing failing 0
    refine ⟨step, causes, after, there, fun later => ?_⟩
    rw [Nat.zero_add] at stopped
    unfold sketch
    simp only [Stepwise.bind_apply, Task.lift, opened, stopped]

end Retouch.CommandLine
