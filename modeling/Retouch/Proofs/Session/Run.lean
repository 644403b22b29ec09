import Retouch.Proofs.Image.Learned
import Retouch.Session

/-!
Runs of commands, and what one command does to the session: where it ends, what becomes of the
world, and that the kit and the tool stay.
-/
namespace Retouch

namespace Session

def Holds (session : Session) (image : Image) : Prop := ∃ name, session.image? name = some image

/-- What one command after the other leads to. -/
inductive Reaches (start : Session) : Session → Prop
  | start : Reaches start start
  | step {session : Session} (command : Command) :
      Reaches start session → Reaches start (session.perform command).2

def follow (session : Session) (commands : List Command) : Session :=
  commands.foldl (fun session command => (session.perform command).2) session

theorem follow_append (session : Session) (first later : List Command) :
    session.follow (first ++ later) = (session.follow first).follow later := List.foldl_append

theorem reaches_follow (session : Session) (commands : List Command) :
    Reaches session (session.follow commands) := by
  have later (reached : Session) (here : Reaches session reached) :
      Reaches session (reached.follow commands) := by
    induction commands generalizing reached with
    | nil => exact here
    | cons command rest ih => exact ih _ (.step command here)
  exact later session .start

theorem image?_erase (session : Session) (name other : String) :
    (session.erase name).image? other =
      if other = name then none else session.image? other := by
  unfold image? erase
  induction session.images with
  | nil => simp
  | cons head rest ih =>
    obtain ⟨key, image⟩ := head
    by_cases gone : key = name
    · subst gone
      simp only [List.filter_cons, bne_self_eq_false, Bool.false_eq_true, if_false, ih]
      by_cases same : other = key
      · simp [same]
      · simp [same, List.lookup_cons, beq_eq_false_iff_ne.mpr same]
    · simp only [List.filter_cons, bne_iff_ne, ne_eq, gone, not_false_eq_true, if_true,
        List.lookup_cons, ih]
      by_cases same : other = key
      · simp [same, gone]
      · simp [beq_eq_false_iff_ne.mpr same]

@[simp] theorem image?_release (session : Session) (files : List ScratchFile) (name : String) :
    (session.release files).image? name = session.image? name := rfl

theorem holds_put {session : Session} {name : String} {image other : Image}
    (held : (session.put name image).Holds other) : other = image ∨ session.Holds other := by
  obtain ⟨key, found⟩ := held
  rw [image?_put] at found
  split at found
  · exact .inl (Option.some.inj found).symm
  · exact .inr ⟨key, found⟩

theorem holds_erase {session : Session} {name : String} {image : Image}
    (held : (session.erase name).Holds image) : session.Holds image := by
  obtain ⟨key, found⟩ := held
  rw [image?_erase] at found
  split at found
  · cases found
  · exact ⟨key, found⟩

theorem work_eq {session : Session} {name : String} {image : Image}
    (held : session.image? name = some image) (edit : StateM Desk Outcome) :
    session.work name edit = ((edit ⟨image, session.world⟩).1,
      { session with world := (edit ⟨image, session.world⟩).2.world }.put name
        (edit ⟨image, session.world⟩).2.image) := by
  unfold work
  rw [held]
  rfl

theorem work_absent {session : Session} {name : String} (missing : session.image? name = none)
    (edit : StateM Desk Outcome) : session.work name edit = (.absent, session) := by
  unfold work
  rw [missing]

/-- What an edit comes to, told to the caller. -/
def told {α : Type} (answer : α → Answer) : Except Cause α → Outcome
  | .ok value => .answered (answer value)
  | .error cause => .failed cause

theorem edit_work {α : Type} (session : Session) (name : String) (edit : Edit α)
    (answer : α → Answer) : session.edit name edit answer =
      session.work name fun desk => (told answer (edit desk).1, (edit desk).2) := by
  unfold Session.edit
  congr
  funext desk
  simp only [ExceptT.run, bind, StateT.bind]
  rcases edit desk with ⟨_ | value, after⟩ <;> rfl

theorem edit_eq {α : Type} {session : Session} {name : String} {image : Image}
    (held : session.image? name = some image) (edit : Edit α) (answer : α → Answer) :
    session.edit name edit answer = (told answer (edit ⟨image, session.world⟩).1,
      { session with world := (edit ⟨image, session.world⟩).2.world }.put name
        (edit ⟨image, session.world⟩).2.image) := by
  rw [edit_work, work_eq held]

theorem edit_absent {α : Type} {session : Session} {name : String}
    (missing : session.image? name = none) (edit : Edit α) (answer : α → Answer) :
    session.edit name edit answer = (.absent, session) := work_absent missing _

/-- Where a command ends: with the images as they were, with one put, or with one gone. -/
inductive Ends (session : Session) : Session → Prop
  | same (world : World) : Ends session { session with world }
  | put (world : World) (name : String) (image : Image) :
      Ends session ({ session with world }.put name image)
  | erased (name : String) : Ends session (session.erase name)

theorem ends_work (session : Session) (name : String) (edit : StateM Desk Outcome) :
    session.Ends (session.work name edit).2 := by
  cases held : session.image? name with
  | none =>
    rw [work_absent held]
    exact .same session.world
  | some image =>
    rw [work_eq held]
    exact .put _ name _

theorem ends_step (session : Session) (command : Command) :
    session.Ends (session.step command).2 := by
  cases command <;> simp only [step, alter, edit_work]
  case make name origin =>
    unfold make
    split
    · exact .same session.world
    · split
      · exact .put _ name _
      · exact .same _
  case drop name =>
    split
    · exact .same session.world
    · exact .erased name
  case alter name edit =>
    split
    · exact .same session.world
    · exact ends_work session name _
  all_goals exact ends_work session _ _

theorem planned_eq (kit : Tool.Kit) (path : Option String) (options : Save.Options) (desk : Desk) :
    (do (← Edit.image).plan kit path options : Edit Save.Plan) desk =
      (desk.image.plan kit path options, desk) := by
  rw [Edit.bind_image]
  cases desk.image.plan kit path options <;> rfl

theorem resolve?_operand {find : String → Option Image} {edit : Alteration String}
    {resolved : Alteration Image} (found : edit.resolve? find = some resolved) {other : Image}
    (operand : other ∈ resolved.operand?) : ∃ name, find name = some other := by
  cases edit <;> simp only [Alteration.resolve?, Option.map_eq_some_iff, Option.some.injEq] at found
  case paste name start alpha =>
    obtain ⟨image, held, rfl⟩ := found
    exact ⟨name, by rw [held]; exact operand⟩
  case applyMask name =>
    obtain ⟨image, held, rfl⟩ := found
    exact ⟨name, by rw [held]; exact operand⟩
  case addLayer name =>
    obtain ⟨image, held, rfl⟩ := found
    exact ⟨name, by rw [held]; exact operand⟩
  all_goals
    subst found
    cases operand

section World
variable {relation : World → World → Prop} (steady : World.Steady relation)
include steady

theorem steady_work (session : Session) (name : String) {edit : StateM Desk Outcome}
    (kept : ∀ desk, relation desk.world (edit desk).2.world) :
    relation session.world (session.work name edit).2.world := by
  cases held : session.image? name with
  | none =>
    rw [work_absent held]
    exact steady.refl session.world
  | some image =>
    rw [work_eq held]
    exact kept ⟨image, session.world⟩

theorem steady_edit {α : Type} (session : Session) (name : String) {edit : Edit α}
    (answer : α → Answer) (kept : edit.Keeps relation) :
    relation session.world (session.edit name edit answer).2.world := by
  rw [edit_work]
  exact steady_work steady session name kept

theorem steady_make (session : Session) (name : String) (origin : Origin) :
    relation session.world (session.make name origin).2.world := by
  have making (act : Act Image) (found : session.making origin = some act) :
      act.Keeps relation := by
    cases origin <;> simp only [making, Option.map_eq_some_iff, Option.some.injEq] at found
    case file path =>
      subst found
      exact steady.openFile (steady.execute _) (steady.execute _)
    case bytes bytes =>
      subst found
      exact steady.load session.kit bytes
    case stream stream =>
      subst found
      exact steady.bind (steady.checked stream.readAll) fun _ => steady.load session.kit _
    case canvas size background =>
      subst found
      exact steady.checked (Image.canvas size background)
    all_goals
      obtain ⟨image, -, rfl⟩ := found
      exact steady.refl
  unfold make
  cases found : session.making origin with
  | none => exact steady.refl session.world
  | some act =>
    have kept := making act found session.world
    simp only
    rcases ran : act session.world with ⟨_ | image, after⟩ <;> rw [ran] at kept <;> exact kept

theorem steady_step (session : Session) (command : Command) :
    relation session.world (session.step command).2.world := by
  cases command with
  | make name origin => exact steady_make steady session name origin
  | drop name =>
    simp only [step]
    cases session.image? name <;> exact steady.refl session.world
  | inspect name => exact steady_edit steady session name _ fun desk => steady.refl desk.world
  | alter name edit =>
    simp only [step, alter]
    split
    · exact steady.refl session.world
    next resolved _ =>
      exact steady_edit steady session name _ fun desk =>
        steady.alteration session.kit resolved desk.image desk.world
  | size name =>
    apply steady_edit steady session name
    intro desk
    rw [Image.resolve_world]
    exact steady.measure (steady.execute _) desk.world
  | colorAt name point =>
    exact steady_edit steady session name _ fun desk =>
      steady.colorAt (steady.measure (steady.execute _)) (steady.execute _) desk.world
  | histogram name =>
    exact steady_edit steady session name _ fun desk =>
      steady.histogram (steady.execute _) desk.world
  | plan name path options =>
    apply steady_edit steady session name
    intro desk
    rw [planned_eq]
    exact steady.refl desk.world
  | save name path options =>
    exact steady_edit steady session name _ (steady.save session.kit path options)
  | get name format options =>
    exact steady_edit steady session name _ (steady.get session.kit format options)
  | present name format options room =>
    exact steady_work steady session name (steady.present session.kit format options room)
  | insertNote name key value =>
    exact steady_work steady session name fun desk => steady.refl desk.world
  | eraseNote name key =>
    exact steady_work steady session name fun desk => steady.refl desk.world
  | note name key => exact steady_work steady session name fun desk => steady.refl desk.world

theorem steady_perform (session : Session) (command : Command) :
    relation session.world (session.perform command).2.world := by
  have discarded (files : List ScratchFile) (world : World) :
      relation world (files.foldl World.discard world) := by
    induction files generalizing world with
    | nil => exact steady.refl world
    | cons file rest ih => exact steady.trans (steady.discard file world) (ih _)
  exact steady.trans (steady_step steady session command) (discarded _ _)

end World

theorem kit_step (session : Session) (command : Command) :
    (session.step command).2.kit = session.kit := by
  have ended := session.ends_step command
  generalize (session.step command).2 = after at ended ⊢
  cases ended <;> rfl

theorem kit_perform (session : Session) (command : Command) :
    (session.perform command).2.kit = session.kit := kit_step session command

theorem reaches_kit {start session : Session} (reached : Reaches start session) :
    session.kit = start.kit := by
  induction reached with
  | start => rfl
  | step command _ ih => rw [kit_perform, ih]

theorem reaches_tool {start session : Session} (reached : Reaches start session) :
    session.world.tool = start.world.tool := by
  induction reached with
  | start => rfl
  | step command _ ih => exact (steady_perform World.steady_tool _ command).trans ih

end Session

end Retouch
