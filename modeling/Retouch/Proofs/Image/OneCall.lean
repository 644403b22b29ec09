import Retouch.Proofs.Image.Carried

/-!
A save is one call of the tool or none. The call is the one that the plan gives, and the tool is
asked nothing else, so that nothing but its reply decides how the save ends.
-/
namespace Retouch

def World.withTool (world : World) (tool : Responder) : World := { world with tool }

/-- A call that the tool can be asked for, in view of the calls before it. -/
abbrev Question := List Argv × Argv

/-- A tool that answers these questions alike can take the place of the tool at hand. -/
def Edit.AsksOnly {α : Type} (edit : Edit α) (desk : Desk) (questions : List Question) : Prop :=
  ∀ tool : Responder, (∀ question ∈ questions,
      tool question.1 question.2 = desk.world.tool question.1 question.2) →
    edit { desk with world := desk.world.withTool tool } =
      ((edit desk).1, { (edit desk).2 with world := (edit desk).2.world.withTool tool })

theorem World.run_withTool {argv : Argv} {world : World} {tool : Responder}
    (same : tool world.calls argv = world.tool world.calls argv) :
    World.run argv (world.withTool tool) =
      ((World.run argv world).1, (World.run argv world).2.withTool tool) := by
  have called : execute argv (world.withTool tool) =
      ((execute argv world).1, (execute argv world).2.withTool tool) := by
    simp only [execute, withTool, same]
    cases world.tool world.calls argv <;> rfl
  simp only [run_eq, called]
  simp only [withTool, same]

namespace Image

theorem makeParent_withTool (path : String) (world : World) (tool : Responder) :
    makeParent path (world.withTool tool) =
      ((makeParent path world).1, (makeParent path world).2.withTool tool) := by
  unfold makeParent
  split
  · rfl
  · split
    · rfl
    · simp only [World.withTool]
      split <;> rfl

theorem makeParent_files {path : String} {world after : World} {result : Except Cause Unit}
    (made : makeParent path world = (result, after)) : after = { world with files := after.files } := by
  unfold makeParent at made
  split at made
  · cases made
    rfl
  · split at made
    · cases made
      rfl
    · simp only at made
      split at made <;> cases made <;> rfl

theorem save_withTool {kit : Tool.Kit} {path : Option String} {options : Save.Options}
    {image : Image} {world : World} {tool : Responder}
    (same : ∀ planned, image.plan kit path options = .ok planned →
      (makeParent planned.destination world).1 = .ok () →
      tool world.calls planned.argv = world.tool world.calls planned.argv) :
    save kit path options ⟨image, world.withTool tool⟩ =
      ((save kit path options ⟨image, world⟩).1,
        { (save kit path options ⟨image, world⟩).2 with
          world := (save kit path options ⟨image, world⟩).2.world.withTool tool }) := by
  rw [save_eq, save_eq]
  cases settled : image.plan kit path options with
  | error cause => rfl
  | ok planned =>
    have asked := same planned settled
    simp only [makeParent_withTool]
    rcases made : makeParent planned.destination world with ⟨cause | _, between⟩
    · rfl
    · have agrees : tool between.calls planned.argv = between.tool between.calls planned.argv := by
        rw [makeParent_files made]
        exact asked (congrArg Prod.fst made)
      simp only [World.run_withTool agrees]
      rcases World.run planned.argv between with ⟨cause | _, after⟩ <;> rfl

theorem save_asks_nothing {kit : Tool.Kit} {path : Option String} {options : Save.Options}
    {image : Image} {world : World}
    (stopped : ∀ planned, image.plan kit path options = .ok planned →
      (makeParent planned.destination world).1 ≠ .ok ()) :
    (save kit path options).AsksOnly ⟨image, world⟩ [] :=
  fun _ _ => save_withTool fun planned settled made => (stopped planned settled made).elim

theorem save_asks_once {kit : Tool.Kit} {path : Option String} {options : Save.Options}
    {image : Image} {planned : Save.Plan} (settled : image.plan kit path options = .ok planned)
    (world : World) :
    (save kit path options).AsksOnly ⟨image, world⟩ [(world.calls, planned.argv)] := by
  intro tool agrees
  apply save_withTool
  intro other same _
  obtain rfl := Except.ok.inj (settled.symm.trans same)
  exact agrees _ (List.mem_singleton_self _)

/-- How a save ends when its call gets this reply: the world is the one that the call was made in. -/
def replied (planned : Save.Plan) (image : Image) (world : World) (reply : Reply) :
    Except Cause Unit × Desk :=
  let called := { world with calls := world.calls ++ [planned.argv] }
  match reply with
  | .unstarted cause => (.error cause, ⟨image, world⟩)
  | .refused cause => (.error cause, ⟨image, called⟩)
  | .ran output changes =>
    let after :=
      { called with files := changes.foldl (Change.apply planned.destination) world.files }
    if output.success then (.ok (), ⟨{ image with layers := planned.layers }, after⟩)
    else (.error (.externalTool output.status (Text.trim output.report)), ⟨image, after⟩)

theorem save_replied {kit : Tool.Kit} {path : Option String} {options : Save.Options}
    {image : Image} {planned : Save.Plan} {world between : World}
    (settled : image.plan kit path options = .ok planned)
    (made : makeParent planned.destination world = (.ok (), between)) :
    save kit path options ⟨image, world⟩ =
      replied planned image between (world.tool world.calls planned.argv) := by
  have asked : between.tool between.calls planned.argv = world.tool world.calls planned.argv := by
    rw [makeParent_files made]
  have last : planned.argv.getLast?.getD "" = planned.destination := by
    rw [(plan_ok settled).2.1]
    rfl
  rw [save_eq]
  simp only [settled, made, World.run_eq, World.execute, asked]
  cases told : world.tool world.calls planned.argv with
  | unstarted cause => rfl
  | refused cause => rfl
  | ran output changes =>
    simp only [replied, Reply.verdict, Tool.Output.result, last]
    cases output.success <;> rfl

theorem save_runs_plan (kit : Tool.Kit) (path : Option String) (options : Save.Options)
    (image : Image) (world : World) :
    match image.plan kit path options with
    | .error cause =>
      save kit path options ⟨image, world⟩ = (.error cause, ⟨image, world⟩) ∧
        (save kit path options).AsksOnly ⟨image, world⟩ []
    | .ok planned =>
      match makeParent planned.destination world with
      | (.error cause, between) =>
        save kit path options ⟨image, world⟩ = (.error cause, ⟨image, between⟩) ∧
          between = { world with files := between.files } ∧
          (save kit path options).AsksOnly ⟨image, world⟩ []
      | (.ok _, between) =>
        between = { world with files := between.files } ∧
          (save kit path options).AsksOnly ⟨image, world⟩ [(world.calls, planned.argv)] ∧
          save kit path options ⟨image, world⟩ =
            replied planned image between (world.tool world.calls planned.argv) := by
  have saved := save_eq kit path options image world
  split
  next cause refused =>
    rw [refused] at saved
    refine ⟨saved, save_asks_nothing fun planned settled => ?_⟩
    rw [refused] at settled
    cases settled
  next planned settled =>
    split
    next cause between made =>
      simp only [settled, made] at saved
      refine ⟨saved, makeParent_files made, save_asks_nothing fun other same there => ?_⟩
      obtain rfl := Except.ok.inj (settled.symm.trans same)
      rw [made] at there
      cases there
    next between made =>
      exact ⟨makeParent_files made, save_asks_once settled world, save_replied settled made⟩

end Image

end Retouch
