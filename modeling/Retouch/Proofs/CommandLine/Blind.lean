import Retouch.CommandLine.Run
import Retouch.Proofs.Image.Course
import Retouch.Proofs.Tool.Answer
import Retouch.Proofs.Tool.Calls

/-!
Acts and tasks that are blind to the past. When the tool replies to a call by its tokens alone, the
calls made before have no part in what such an act does, and the calls it adds are the same whatever
they were.
-/
namespace Retouch

/-- The reply to a call does not depend on the calls before it. -/
def Responder.Forgetful (tool : Responder) : Prop :=
  ∀ log log' argv, tool log argv = tool log' argv

/-- What is run does the same whatever was called before, and adds calls of one kind only. -/
def Blind {α : Type} (kind : Argv → Prop) (run : World → α × World) : Prop :=
  ∀ world, world.tool.Forgetful → (run world).2.tool = world.tool ∧
    ∃ added, (∀ argv ∈ added, kind argv) ∧
      ∀ log, run (world.withCalls log) = ((run world).1, (run world).2.withCalls (log ++ added))

namespace Blind
variable {kind : Argv → Prop} {α β ε : Type}

theorem settled (result : α) : Blind kind fun world => (result, world) :=
  fun _ _ => ⟨rfl, [], by simp, fun log => by simp [World.withCalls]⟩

/-- The files may decide what is run. -/
theorem either (test : Files → Bool) {yes no : World → α × World} (first : Blind kind yes)
    (second : Blind kind no) :
    Blind kind fun world => if test world.files then yes world else no world := by
  intro world forgetful
  cases decided : test world.files with
  | true => simpa [World.withCalls, decided] using first world forgetful
  | false => simpa [World.withCalls, decided] using second world forgetful

theorem bind {act : ExceptT ε (StateM World) α} {next : α → ExceptT ε (StateM World) β}
    (first : Blind kind act) (later : ∀ value, Blind kind (next value)) :
    Blind kind (act >>= next) := by
  intro world forgetful
  obtain ⟨kept, added, fit, same⟩ := first world forgetful
  simp only [Stepwise.bind_apply, same]
  rcases ran : act world with ⟨cause | value, between⟩ <;> rw [ran] at kept same
  · exact ⟨kept, added, fit, fun log => rfl⟩
  · obtain ⟨stays, more, fits, alike⟩ := later value between (kept ▸ forgetful)
    refine ⟨stays.trans kept, added ++ more, ?_, fun log => ?_⟩
    · intro argv member
      rcases List.mem_append.mp member with early | late
      · exact fit argv early
      · exact fits argv late
    · simp only [alike, List.append_assoc]

theorem run {argv : Argv} (fits : kind argv) : Blind kind (World.run argv) := by
  intro world forgetful
  have executed (log : List Argv) : World.execute argv (world.withCalls log) =
      ((World.execute argv world).1,
        (World.execute argv world).2.withCalls (log ++ world.entry argv)) := by
    unfold World.execute World.entry World.starts World.withCalls
    simp only [forgetful log world.calls argv]
    cases world.tool world.calls argv <;> simp
  have kept : (World.run argv world).2.tool = world.tool :=
    World.steady_tool.run (World.steady_tool.execute argv) world
  refine ⟨kept, world.entry argv, ?_, fun log => ?_⟩
  · unfold World.entry
    split <;> simp [fits]
  · unfold World.run
    rw [Stepwise.bind_apply, Stepwise.bind_apply, executed]
    rcases World.execute argv world with ⟨cause | output, after⟩
    · rfl
    · simp only
      cases output.result <;> rfl

theorem checked (result : Except Cause α) : Blind kind (liftM result : Act α) := by
  have same : (liftM result : Act α) = fun world => (result, world) := by
    funext world
    exact Act.checked result world
  rw [same]
  exact settled result

theorem ask {argv : Argv} (fits : kind argv) (read : Tool.Output → Except Cause α) :
    Blind kind (World.run argv >>= fun output => (liftM (read output) : Act α)) :=
  (run fits).bind fun output => checked (read output)

/-- Runs that come to the same in one world do so after any other calls. -/
theorem agree {first second : World → α × World} (one : Blind kind first)
    (other : Blind kind second) {world : World} (forgetful : world.tool.Forgetful)
    (same : first world = second world) (log : List Argv) :
    first (world.withCalls log) = second (world.withCalls log) := by
  obtain ⟨-, added, -, alike⟩ := one world forgetful
  obtain ⟨-, more, -, alike'⟩ := other world forgetful
  have calls {run : World → α × World} {added : List Argv} (alike : ∀ log,
      run (world.withCalls log) = ((run world).1, (run world).2.withCalls (log ++ added))) :
      (run world).2.calls = world.calls ++ added :=
    congrArg (fun result => result.2.calls) (alike world.calls)
  have grown : world.calls ++ added = world.calls ++ more := by
    rw [← calls alike, ← calls alike', same]
  rw [alike, alike', same, List.append_cancel_left grown]

end Blind

namespace Image
variable {kit : Tool.Kit}

theorem blind_measure (image : Image) : Blind kit.IsProbe (image.measure kit) := by
  unfold measure
  cases image.size with
  | some size => exact .settled _
  | none => exact .ask (.size image.tokens) _

theorem blind_openFile (path : String) : Blind kit.IsProbe (openFile kit path) := by
  have examined : Blind kit.IsProbe
      (examine kit path (some path) (Metadata.insert {} "filepath" path)) :=
    (Blind.ask (.palette path) _).bind fun palette =>
      (Blind.ask (.frames path) _).bind fun frames => .settled _
  have opened := funext fun world => openFile_eq kit path world
  rw [opened]
  exact .either (·.isFile path) examined (.settled _)

end Image

/-- A step that a script can ask for revises the image at once, or once its size is known. -/
theorem EditScript.Step.alteration_cases (kit : Tool.Kit) (step : Step) :
    (∃ revision, (step.alteration : Alteration Image).apply kit = Edit.revise revision) ∨
      ∃ revision : Size → Revision Unit, (step.alteration : Alteration Image).apply kit =
        Image.resolve kit >>= fun size => Edit.revise (revision size) := by
  cases step <;> simp only [Step.alteration, Alteration.apply]
  case crop | fill => exact .inr ⟨_, rfl⟩
  all_goals exact .inl ⟨_, rfl⟩

namespace CommandLine
variable {kind : Argv → Prop} {α : Type}

theorem blind_lift {act : Act α} (blind : Blind kind act) : Blind kind (Task.lift act) := by
  intro world forgetful
  obtain ⟨kept, added, fit, same⟩ := blind world forgetful
  unfold Task.lift
  rcases ran : act world with ⟨cause | value, after⟩ <;> rw [ran] at kept same <;>
    exact ⟨kept, added, fit, fun log => by rw [same]⟩

theorem blind_within {task : Task α} (context : String) (blind : Blind kind task) :
    Blind kind (task.within context) := by
  intro world forgetful
  obtain ⟨kept, added, fit, same⟩ := blind world forgetful
  unfold Task.within
  rcases ran : task world with ⟨cause | value, after⟩ <;> rw [ran] at kept same <;>
    exact ⟨kept, added, fit, fun log => by rw [same]⟩

theorem onImage_revise (image : Image) (revision : Revision Unit) :
    onImage image (Edit.revise revision) =
      Task.lift (liftM ((revision image).1.map fun _ => (revision image).2)) := by
  funext world
  unfold onImage Task.lift Edit.revise
  rw [Act.checked]
  rcases revision image with ⟨_ | _, after⟩ <;> rfl

theorem onImage_resolve (kit : Tool.Kit) (image : Image) (next : Size → Edit Unit) :
    onImage image (Image.resolve kit >>= next) = Task.lift (image.measure kit) >>= fun size =>
      onImage (image.resized (some size)) (next size) := by
  funext world
  rw [Stepwise.bind_apply]
  unfold onImage Task.lift
  rw [Edit.bind_resolve]
  rcases image.measure kit world with ⟨cause | size, after⟩ <;> rfl

theorem blind_revise (image : Image) (revision : Revision Unit) :
    Blind kind (onImage image (Edit.revise revision)) := by
  rw [onImage_revise]
  exact blind_lift (.checked _)

theorem blind_step (kit : Tool.Kit) (image : Image) (step : EditScript.Step) :
    Blind kit.IsProbe (onImage image (step.alteration.apply kit)) := by
  rcases step.alteration_cases kit with ⟨revision, plain⟩ | ⟨revision, sized⟩
  · rw [plain]
    exact blind_revise image revision
  · rw [sized, onImage_resolve]
    exact (blind_lift image.blind_measure).bind fun size => blind_revise _ _

theorem blind_applySteps (kit : Tool.Kit) (image : Image) (steps : List EditScript.Step)
    (number : Nat) : Blind kit.IsProbe (applySteps kit image steps number) := by
  induction steps generalizing image number with
  | nil => exact .settled _
  | cons step rest ih =>
    exact (blind_within _ (blind_step kit image step)).bind fun image => ih image (number + 1)

end CommandLine

theorem Image.makeParent_withCalls (path : String) (world : World) (log : List Argv) :
    makeParent path (world.withCalls log) =
      ((makeParent path world).1, (makeParent path world).2.withCalls log) := by
  unfold makeParent
  split
  · rfl
  · split
    · rfl
    · simp only [World.withCalls]
      split <;> rfl

end Retouch
