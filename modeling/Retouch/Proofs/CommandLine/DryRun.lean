import Retouch.Proofs.CommandLine.Rehearsal
import Retouch.Proofs.Text.Words
import Retouch.Tool.Script

/-!
A dry run foretells the run that is not dry: the probes, the call that renders, or the failure. This
needs a tool that does not look back, for the one call that only the real run makes comes first.
-/
namespace Retouch.CommandLine

/-- What a dry run says about the run that is not dry. -/
structure Foretells (job : Job) (world : World) (split : String → Option (List String))
    (probes : List Argv) : Prop where
  /-- It asks about the input and about sizes, and for nothing else. -/
  probe : ∀ argv ∈ probes, (job.kit world).IsProbe argv
  no_version : (job.kit world).versionCall ∉ probes
  no_save : ∀ planned, job.plan? world = some planned → planned.argv ∉ probes
  rehearsed : (run job.rehearsed world).2.calls = world.calls ++ probes
  /-- The line printed is the one call that comes after the same probes. -/
  printed : ∀ printed, (run job.rehearsed world).1 = .ok printed → ∃ line argv,
    printed = { stdout := line ++ "\n" } ∧ split line = some argv ∧
      (job.versionFailure? world = none →
        (Image.makeParent job.output (run job.rehearsed world).2).1 = .ok () →
        (run job.performed world).2.calls =
          world.calls ++ job.greeting world ++ probes ++ world.entry argv)
  /-- The run that is not dry fails alike, unless the version does not do. -/
  failed : ∀ account, (run job.rehearsed world).1 = .error account →
    match job.versionFailure? world with
    | none => (run job.performed world).1 = .error account ∧
        (run job.performed world).2.calls = world.calls ++ job.greeting world ++ probes
    | some cause => (run job.performed world).1 = .error (cause.chain.map .message) ∧
        (run job.performed world).2.calls = world.calls ++ job.greeting world
  /-- No step counts that comes after the first one to fail. -/
  stopped : ∀ index, job.failing? world = some index → ∃ inputs step causes,
    job.inputs? world = some inputs ∧ inputs.steps[index]? = some step ∧
      (run job.rehearsed world).1 =
        .error (.message s!"op #{index} ({step.text}) failed" :: causes) ∧
      ∀ later, carryOut job.performed
        { inputs with steps := inputs.steps.take (index + 1) ++ later } world =
          run job.performed world

theorem foretells_unready {job : Job} {world : World} {split : String → Option (List String)}
    (unready : job.ready? world = none) : Foretells job world split [] := by
  obtain ⟨account, ended⟩ := run_unready unready
  have rehearsed : run job.rehearsed world = (.error account, world) := ended true
  have performed : run job.performed world = (.error account, world) := ended false
  have version : job.versionFailure? world = none := by rw [Job.versionFailure?, unready]; rfl
  have greeting : job.greeting world = [] := by rw [Job.greeting, unready]; rfl
  have failing : job.failing? world = none := by rw [Job.failing?, unready]; rfl
  constructor
  case probe => simp
  case no_version => simp
  case no_save => simp
  case rehearsed => simp [rehearsed]
  case printed =>
    intro printed shown
    rw [rehearsed] at shown
    cases shown
  case failed =>
    intro other same
    rw [rehearsed] at same
    cases same
    simp [version, performed, greeting]
  case stopped =>
    intro index found
    rw [failing] at found
    cases found

section Ready
variable {job : Job} {world : World} {inputs : Inputs} {probes : List Argv}
  (ready : job.ready? world = some inputs)
include ready

theorem rehearsed_failed {account : List Link} {after : World}
    (sketched : sketch job inputs (job.kit world) world = (.error account, after)) :
    run job.rehearsed world = (.error account, after) := by
  rw [rehearsed_eq ready, Stepwise.bind_apply, sketched]

theorem rehearsed_planned {planned : Save.Plan} {after : World} {line : String}
    (sketched : sketch job inputs (job.kit world) world = (.ok planned, after))
    (joined : Text.Shell.join? planned.argv = some line) :
    run job.rehearsed world = (.ok { stdout := line ++ "\n" }, after) := by
  rw [rehearsed_eq ready, Stepwise.bind_apply, sketched]
  exact conclude_rehearsed joined after

/-- Nothing is called once the plan is made. -/
theorem rehearsed_calls :
    (run job.rehearsed world).2.calls = (sketch job inputs (job.kit world) world).2.calls := by
  rw [rehearsed_eq ready, Stepwise.bind_apply]
  rcases sketch job inputs (job.kit world) world with ⟨account | planned, after⟩
  · rfl
  · exact congrArg World.calls (idle_conclude_rehearsed job planned after)

theorem plan_sketched {planned : Save.Plan} {after : World}
    (sketched : sketch job inputs (job.kit world) world = (.ok planned, after)) :
    job.plan? world = some planned := by
  rw [Job.plan?, ready, Option.bind_some, sketched]
  rfl

theorem plan_unsaved
    (calls : (sketch job inputs (job.kit world) world).2.calls = world.calls ++ probes)
    (planned : Save.Plan) (reached : job.plan? world = some planned) : planned.argv ∉ probes := by
  rw [Job.plan?, ready, Option.bind_some] at reached
  rcases sketched : sketch job inputs (job.kit world) world with ⟨account | found, after⟩ <;>
    rw [sketched] at calls reached
  · cases reached
  · obtain rfl := Option.some.inj reached
    obtain ⟨added, grown, absent⟩ := sketch_unsaved rfl sketched
    rwa [List.append_cancel_left (calls.symm.trans grown)]

variable (harmless : world.tool.Harmless (job.kit world).versionCall)
  (same : ∀ log, sketch job inputs (job.kit world) (world.withCalls log) =
    ((sketch job inputs (job.kit world) world).1,
      (sketch job inputs (job.kit world) world).2.withCalls (log ++ probes)))
include harmless same

theorem performed_failed {account : List Link} {after : World}
    (sketched : sketch job inputs (job.kit world) world = (.error account, after))
    (cleared : job.versionFailure? world = none) :
    run job.performed world =
      (.error account, after.withCalls (world.calls ++ job.greeting world ++ probes)) := by
  rw [performed_eq ready, carryOut_performed ready harmless rfl, cleared]
  simp only [Stepwise.bind_apply, same, sketched]

theorem performed_planned {planned : Save.Plan} {after : World}
    (forgetful : world.tool.Forgetful) (kept : after.tool = world.tool)
    (sketched : sketch job inputs (job.kit world) world = (.ok planned, after))
    (cleared : job.versionFailure? world = none)
    (made : (Image.makeParent job.output after).1 = .ok ()) :
    (run job.performed world).2.calls =
      world.calls ++ job.greeting world ++ probes ++ world.entry planned.argv := by
  have carried : run job.performed world = conclude job.performed planned
      (after.withCalls (world.calls ++ job.greeting world ++ probes)) := by
    rw [performed_eq ready, carryOut_performed ready harmless rfl, cleared]
    simp only [Stepwise.bind_apply, same, sketched]
  rw [← sketch_destination sketched] at made
  have moved := Image.makeParent_withCalls planned.destination after
    (world.calls ++ job.greeting world ++ probes)
  rw [carried, conclude_performed (by rw [moved]; exact made), moved]
  have tool : (Image.makeParent planned.destination after).2.tool = world.tool :=
    (World.steady_tool.makeParent planned.destination after).trans kept
  have starts (log : List Argv) : ((Image.makeParent planned.destination after).2.withCalls
      log).starts planned.argv = world.starts planned.argv := by
    simp only [World.starts, World.withCalls, tool, forgetful log world.calls planned.argv]
  rw [World.entry, starts]
  rfl

omit same in
/-- The steps after the one that fails have no part in the run that is not dry either. -/
theorem performed_stopped {index : Nat} (forgetful : world.tool.Forgetful)
    (failing : job.failing? world = some index) : ∃ inputs step causes,
      job.inputs? world = some inputs ∧ inputs.steps[index]? = some step ∧
        (run job.rehearsed world).1 =
          .error (.message s!"op #{index} ({step.text}) failed" :: causes) ∧
        ∀ later, carryOut job.performed
          { inputs with steps := inputs.steps.take (index + 1) ++ later } world =
            run job.performed world := by
  obtain ⟨step, causes, after, there, stopped⟩ := sketch_failing ready failing
  have whole := stopped (inputs.steps.drop (index + 1))
  rw [List.take_append_drop] at whole
  refine ⟨inputs, step, causes, (ready_inputs ready).1, there, ?_, fun later => ?_⟩
  · rw [rehearsed_failed ready whole]
  · let other : Inputs := { inputs with steps := inputs.steps.take (index + 1) ++ later }
    have agree := (blind_sketch job other (job.kit world)).agree
      (blind_sketch job inputs (job.kit world)) forgetful ((stopped later).trans whole.symm)
    have cut : carryOut job.performed other world = _ := carryOut_performed ready harmless rfl
    have full := (performed_eq ready).trans (carryOut_performed ready harmless rfl)
    rw [full, cut]
    cases job.versionFailure? world with
    | none => simp only [Stepwise.bind_apply, agree]
    | some cause => rfl

/-- The line that a dry run prints is the call that the other run makes last. -/
theorem printed_performed (forgetful : world.tool.Forgetful)
    (kept : (sketch job inputs (job.kit world) world).2.tool = world.tool)
    (plain : ∀ planned, job.plan? world = some planned →
      ∀ token ∈ planned.argv, '\x00' ∉ token.toList)
    {split : String → Option (List String)}
    (splits : ∀ planned line, job.plan? world = some planned →
      Text.Shell.join? planned.argv = some line → split line = some planned.argv)
    {printed : Printed} (shown : (run job.rehearsed world).1 = .ok printed) :
    ∃ line argv, printed = { stdout := line ++ "\n" } ∧ split line = some argv ∧
      (job.versionFailure? world = none →
        (Image.makeParent job.output (run job.rehearsed world).2).1 = .ok () →
        (run job.performed world).2.calls =
          world.calls ++ job.greeting world ++ probes ++ world.entry argv) := by
  rcases sketched : sketch job inputs (job.kit world) world with ⟨account | planned, after⟩
  · rw [rehearsed_failed ready sketched] at shown
    cases shown
  · have reached := plan_sketched ready sketched
    obtain ⟨line, joined⟩ := join?_plain (plain planned reached)
    rw [sketched] at kept
    rw [rehearsed_planned ready sketched joined] at shown ⊢
    obtain rfl := Except.ok.inj shown
    exact ⟨line, planned.argv, rfl, splits planned line reached joined,
      performed_planned ready harmless same forgetful kept sketched⟩

theorem failed_performed
    (plain : ∀ planned, job.plan? world = some planned →
      ∀ token ∈ planned.argv, '\x00' ∉ token.toList)
    {account : List Link} (failed : (run job.rehearsed world).1 = .error account) :
    match job.versionFailure? world with
    | none => (run job.performed world).1 = .error account ∧
        (run job.performed world).2.calls = world.calls ++ job.greeting world ++ probes
    | some cause => (run job.performed world).1 = .error (cause.chain.map .message) ∧
        (run job.performed world).2.calls = world.calls ++ job.greeting world := by
  rcases sketched : sketch job inputs (job.kit world) world with ⟨cause | planned, after⟩
  · rw [rehearsed_failed ready sketched] at failed
    obtain rfl := Except.error.inj failed
    cases version : job.versionFailure? world with
    | none =>
      have performed := performed_failed ready harmless same sketched version
      exact ⟨congrArg Prod.fst performed, congrArg (fun result => result.2.calls) performed⟩
    | some cause =>
      have performed := (performed_eq ready).trans (carryOut_performed ready harmless rfl)
      rw [version] at performed
      exact ⟨congrArg Prod.fst performed, congrArg (fun result => result.2.calls) performed⟩
  · obtain ⟨line, joined⟩ := join?_plain (plain planned (plan_sketched ready sketched))
    rw [rehearsed_planned ready sketched joined] at failed
    cases failed

end Ready

theorem dry_run_foretells {job : Job} {world : World} {split : String → Option (List String)}
    (forgetful : world.tool.Forgetful)
    (harmless : world.tool.Harmless (job.kit world).versionCall)
    (plain : ∀ planned, job.plan? world = some planned →
      ∀ token ∈ planned.argv, '\x00' ∉ token.toList)
    (splits : ∀ planned line, job.plan? world = some planned →
      Text.Shell.join? planned.argv = some line → split line = some planned.argv) :
    ∃ probes, Foretells job world split probes := by
  cases ready : job.ready? world with
  | none => exact ⟨[], foretells_unready ready⟩
  | some inputs =>
    obtain ⟨kept, probes, fit, same⟩ := blind_sketch job inputs (job.kit world) world forgetful
    have calls : (sketch job inputs (job.kit world) world).2.calls = world.calls ++ probes :=
      congrArg (fun result => result.2.calls) (same world.calls)
    refine ⟨probes, ?_⟩
    constructor
    case probe => exact fit
    case no_version => exact fun member => job.no_version world (fit _ member)
    case no_save => exact plan_unsaved ready calls
    case rehearsed => exact (rehearsed_calls ready).trans calls
    case printed => exact fun _ => printed_performed ready harmless same forgetful kept plain splits
    case failed => exact fun _ => failed_performed ready harmless same plain
    case stopped => exact fun _ => performed_stopped ready harmless forgetful

/-- A crop needs the size, and a blank in the name of the output needs quotes. -/
theorem dry_run_foretells_crop :
    let world : World := {
      tool := fun _ argv => Tool.Script.reply (fun _ => []) (.ofArgv argv) 0
      files := { entries := [(["a.png".toList], .file []), (["ops.json".toList], .file
        (Text.Utf8.encode
          "[\x7b\"op\":\"crop\",\"x\":0,\"y\":0,\"width\":9,\"height\":8\x7d]"))] } }
    let job : Job := { input := "a.png", ops := "ops.json", output := "b c.png" }
    let argv := ["convert", "a.png", "-crop", "9x8+0+0", "-format", "png", "b c.png"]
    let line := "convert a.png -crop 9x8+0+0 -format png 'b c.png'"
    let probes := [["identify", "-format", "%[colorspace]\n", "a.png"],
      ["identify", "-format", "%n\n", "a.png"], ["convert", "a.png", "-format", "%wx%h\n", "info:"]]
    (run job.rehearsed world).1 = .ok { stdout := line ++ "\n" } ∧
      Text.Shell.split? line = some argv ∧ (run job.rehearsed world).2.calls = probes ∧
      (run job.performed world).2.calls = ["convert", "-version"] :: probes ++ [argv] := by
  intro world job argv line probes
  have told : (job.plan? world).map (·.argv) = some argv ∧
      (run job.rehearsed world).1.toOption = some { stdout := line ++ "\n" } ∧
      (run job.rehearsed world).2.calls = probes ∧ job.versionFailure? world = none ∧
      job.greeting world = [["convert", "-version"]] ∧
      (Image.makeParent job.output (run job.rehearsed world).2).1.toOption = some () := by
    decide +kernel
  obtain ⟨reached, shown, asked, cleared, greeting, made⟩ := told
  have plain : ∀ planned, job.plan? world = some planned →
      ∀ token ∈ planned.argv, '\x00' ∉ token.toList := by
    intro planned same
    rw [same] at reached
    have tokens : planned.argv = argv := Option.some.inj reached
    rw [tokens]
    decide
  obtain ⟨added, foretold⟩ : ∃ added, Foretells job world Text.Shell.split? added :=
    dry_run_foretells (fun _ _ _ => rfl) (fun _ _ _ told => (Reply.ran.inj told).2.symm) plain
      fun _ _ _ joined => Text.Shell.split?_join? joined
  have went {ε α : Type} {result : Except ε α} {value : α} (ok : result.toOption = some value) :
      result = .ok value := by
    cases result <;> cases ok
    rfl
  have same : probes = added := asked.symm.trans foretold.rehearsed
  obtain ⟨found, called, known, read, only⟩ := foretold.printed _ (went shown)
  have known : line = found := by simpa using known
  have split : Text.Shell.split? line = some argv := by decide +kernel
  have tokens : argv = called := by
    rw [← known, split] at read
    exact Option.some.inj read
  have performed := only cleared (went made)
  rw [← tokens, greeting, ← same] at performed
  exact ⟨went shown, split, asked, performed⟩

end Retouch.CommandLine
