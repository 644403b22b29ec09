import Retouch.Proofs.Image.Twin
import Retouch.Proofs.Session.Run

/-!
Whole programs with two kits. A program chooses each command by the outcomes so far. Where the
programs behind the kits reply alike, the two runs stay in step: the images, the files and the
outcomes are the same, and every call says the same to the program it is for.
-/
namespace Retouch
open Tool (Kit)

/-- A program goes on with the outcome of its command. -/
inductive Program
  | done
  | call (command : Command) (next : Outcome → Program)

/-- The same outcome, in which a plan is for the program of either kit. -/
inductive Outcome.Agrees (kit kit' : Kit) : Outcome → Outcome → Prop
  | plan {planned planned' : Save.Plan} (twin : planned.Twin kit kit' planned') :
      Agrees kit kit' (.answered (.plan planned)) (.answered (.plan planned'))
  | same {outcome : Outcome} (other : ∀ planned, outcome ≠ .answered (.plan planned)) :
      Agrees kit kit' outcome outcome

namespace Program

/-- The outcomes, and where the last command leads to. -/
def run : Program → Session → List Outcome × Session
  | done, session => ([], session)
  | call command next, session =>
    let (outcome, after) := session.perform command
    let (outcomes, last) := (next outcome).run after
    (outcome :: outcomes, last)

/-- It makes no difference to the program which of the two kits a plan is for. -/
def Indifferent (kit kit' : Kit) : Program → Prop
  | done => True
  | call _ next => ∀ outcome outcome', outcome.Agrees kit kit' outcome' →
      next outcome = next outcome' ∧ (next outcome).Indifferent kit kit'

end Program

namespace Session

structure Parallel (kit kit' : Kit) (session session' : Session) : Prop where
  first : session.kit = kit
  second : session'.kit = kit'
  images : session.images = session'.images
  world : session.world.Parallel kit kit' session'.world

/-- The two outcomes agree, and the sessions afterwards are parallel. -/
def Together (kit kit' : Kit) (result result' : Outcome × Session) : Prop :=
  result.1.Agrees kit kit' result'.1 ∧ result.2.Parallel kit kit' result'.2

variable {kit kit' : Kit} {session session' : Session}

theorem agrees_told {α : Type} {answer : α → Answer}
    (other : ∀ value planned, answer value ≠ .plan planned) (result : Except Cause α) :
    Outcome.Agrees kit kit' (told answer result) (told answer result) := by
  apply Outcome.Agrees.same
  intro planned equal
  cases result with
  | error cause => cases equal
  | ok value => exact other value planned (Outcome.answered.inj equal)

namespace Parallel
variable (same : session.Parallel kit kit' session')
include same

theorem image? (name : String) : session.image? name = session'.image? name := by
  rw [Session.image?, Session.image?, same.images]

theorem absent : Together kit kit' (.absent, session) (.absent, session') :=
  ⟨.same (by simp), same⟩

theorem withWorld {world world' : World} (parallel : world.Parallel kit kit' world') :
    Parallel kit kit' { session with world } { session' with world := world' } :=
  ⟨same.first, same.second, same.images, parallel⟩

theorem put (name : String) (image : Image) :
    Parallel kit kit' (session.put name image) (session'.put name image) := by
  refine ⟨same.first, same.second, ?_, same.world⟩
  simp only [Session.put, same.images]

theorem erase (name : String) :
    Parallel kit kit' (session.erase name) (session'.erase name) := by
  refine ⟨same.first, same.second, ?_, same.world⟩
  simp only [Session.erase, same.images]

theorem held : session.held = session'.held := by
  rw [Session.held, Session.held, same.images]

theorem release (files : List ScratchFile) :
    Parallel kit kit' (session.release files) (session'.release files) := by
  unfold Session.release
  rw [← same.held]
  exact same.withWorld (same.world.discardUnheld files session.held)

theorem work (name : String) {edit edit' : StateM Desk Outcome}
    (here : ∀ desk desk', desk.Parallel kit kit' desk' →
      (edit desk).1.Agrees kit kit' (edit' desk').1 ∧
        (edit desk).2.Parallel kit kit' (edit' desk').2) :
    Together kit kit' (session.work name edit) (session'.work name edit') := by
  cases held : session.image? name with
  | none =>
    rw [work_absent held, work_absent ((same.image? name).symm.trans held)]
    exact same.absent
  | some image =>
    rw [work_eq held, work_eq ((same.image? name).symm.trans held)]
    obtain ⟨agrees, after⟩ := here ⟨image, session.world⟩ ⟨image, session'.world⟩ ⟨rfl, same.world⟩
    refine ⟨agrees, ?_⟩
    rw [← after.image]
    exact (same.withWorld after.world).put name _

theorem edit {α : Type} (name : String) {edit edit' : Edit α} {answer : α → Answer}
    (other : ∀ value planned, answer value ≠ .plan planned)
    (here : InStep (Desk.Parallel kit kit') edit edit') :
    Together kit kit' (session.edit name edit answer) (session'.edit name edit' answer) := by
  rw [edit_work, edit_work]
  apply same.work name
  intro desk desk' desks
  obtain ⟨equal, after⟩ := here desk desk' desks
  rw [← equal]
  exact ⟨agrees_told other _, after⟩

theorem annotate (name : String) (change : Metadata → Option String × Metadata) :
    Together kit kit' (session.annotate name change) (session'.annotate name change) := by
  apply same.work name
  intro desk desk' desks
  rw [← desks.image]
  exact ⟨.same (by simp), rfl, desks.world⟩

theorem plan (name : String) (path : Option String) (options : Save.Options) :
    Together kit kit' (session.step (.plan name path options))
      (session'.step (.plan name path options)) := by
  simp only [step, edit_work, planned_eq]
  apply same.work name
  intro desk desk' desks
  rw [← desks.image, same.first, same.second]
  rcases desk.image.plan_twin path options with
    ⟨cause, refused, refused'⟩ | ⟨planned, planned', made, made', twin⟩
  · rw [refused, refused']
    exact ⟨.same (by simp [told]), desks⟩
  · rw [made, made']
    exact ⟨.plan twin, desks⟩

theorem present (name format : String) (options : Save.Options) (room : Option Nat)
    (temp : kit.tempDir = kit'.tempDir) :
    Together kit kit' (session.step (.present name format options room))
      (session'.step (.present name format options room)) := by
  simp only [step, same.first, same.second]
  apply same.work name
  intro desk desk' desks
  have shown := Image.inStep_present format options room temp desk desk' desks
  rcases ran : Image.present kit format options room desk with ⟨sent, after⟩
  rcases ran' : Image.present kit' format options room desk' with ⟨sent', after'⟩
  rw [ran, ran'] at shown
  obtain ⟨rfl, last⟩ := shown
  simp only [bind, StateT.bind, ran, ran']
  refine ⟨.same ?_, last⟩
  intro planned equal
  cases equal

theorem making (origin : Origin) (temp : kit.tempDir = kit'.tempDir) :
    (session.making origin = none ∧ session'.making origin = none) ∨
      ∃ act act', session.making origin = some act ∧ session'.making origin = some act' ∧
        InStep (World.Parallel kit kit') act act' := by
  cases origin <;> simp only [Session.making, same.first, same.second, ← same.image?]
  case file path => exact .inr ⟨_, _, rfl, rfl, Image.inStep_openFile path⟩
  case bytes bytes => exact .inr ⟨_, _, rfl, rfl, Image.inStep_load bytes temp⟩
  case stream stream => exact .inr ⟨_, _, rfl, rfl, Image.inStep_read stream temp⟩
  case canvas size background => exact .inr ⟨_, _, rfl, rfl, .checked _⟩
  case copyOf name | maskOf name =>
    cases session.image? name with
    | none => exact .inl ⟨rfl, rfl⟩
    | some image => exact .inr ⟨_, _, rfl, rfl, .settled _⟩

theorem make (name : String) (origin : Origin) (temp : kit.tempDir = kit'.tempDir) :
    Together kit kit' (session.make name origin) (session'.make name origin) := by
  unfold Session.make
  rcases same.making origin temp with ⟨missing, missing'⟩ | ⟨act, act', found, found', here⟩
  · rw [missing, missing']
    exact same.absent
  · rw [found, found']
    have made := here _ _ same.world
    simp only
    rcases ran : act session.world with ⟨result, after⟩
    rcases ran' : act' session'.world with ⟨result', after'⟩
    rw [ran, ran'] at made
    obtain ⟨rfl, worlds⟩ := made
    cases result with
    | error cause => exact ⟨.same (by simp), same.withWorld worlds⟩
    | ok image => exact ⟨.same (by simp), (same.withWorld worlds).put name image⟩

theorem step (command : Command) (temp : kit.tempDir = kit'.tempDir) :
    Together kit kit' (session.step command) (session'.step command) := by
  cases command with
  | make name origin => exact same.make name origin temp
  | drop name =>
    simp only [Session.step, ← same.image?]
    cases session.image? name with
    | none => exact same.absent
    | some image => exact ⟨.same (by simp), same.erase name⟩
  | inspect name => exact same.edit name (by simp) Edit.inStep_image
  | alter name edit =>
    have found : edit.resolve? session.image? = edit.resolve? session'.image? :=
      congrArg edit.resolve? (funext same.image?)
    simp only [Session.step, Session.alter, ← found, same.first, same.second]
    cases edit.resolve? session.image? with
    | none => exact same.absent
    | some resolved => exact same.edit name (by simp) (resolved.inStep_apply temp)
  | size name =>
    simp only [Session.step, same.first, same.second]
    exact same.edit name (by simp) Image.inStep_resolve
  | colorAt name point =>
    simp only [Session.step, same.first, same.second]
    exact same.edit name (by simp) (Image.inStep_colorAt point)
  | histogram name =>
    simp only [Session.step, same.first, same.second]
    exact same.edit name (by simp) Image.inStep_histogram
  | plan name path options => exact same.plan name path options
  | save name path options =>
    simp only [Session.step, same.first, same.second]
    exact same.edit name (by simp) (Image.inStep_save path options)
  | get name format options =>
    simp only [Session.step, same.first, same.second]
    exact same.edit name (by simp) (Image.inStep_get format options temp)
  | present name format options room => exact same.present name format options room temp
  | insertNote name key value => exact same.annotate name _
  | eraseNote name key => exact same.annotate name _
  | note name key => exact same.annotate name _

theorem perform (command : Command) (temp : kit.tempDir = kit'.tempDir) :
    Together kit kit' (session.perform command) (session'.perform command) := by
  obtain ⟨agrees, after⟩ := same.step command temp
  refine ⟨agrees, ?_⟩
  simp only [Session.perform, ← same.held]
  exact after.release session.held

end Parallel

theorem parallel_run (program : Program) (indifferent : program.Indifferent kit kit')
    (temp : kit.tempDir = kit'.tempDir) (same : session.Parallel kit kit' session') :
    List.Forall₂ (Outcome.Agrees kit kit') (program.run session).1 (program.run session').1 ∧
      (program.run session).2.Parallel kit kit' (program.run session').2 := by
  induction program generalizing session session' with
  | done => exact ⟨.nil, same⟩
  | call command next ih =>
    obtain ⟨agrees, after⟩ := same.perform command temp
    obtain ⟨chosen, later⟩ := indifferent _ _ agrees
    obtain ⟨outcomes, last⟩ := ih _ later after
    simp only [Program.run, ← chosen]
    exact ⟨.cons agrees outcomes, last⟩

theorem start_unchecked {settings : Tool.Settings} (unchecked : settings.checkVersion = false)
    (world : World) : start settings world = match settings.validate world.files with
      | .error cause => (.error cause, world)
      | .ok _ => (.ok { kit := .ofSettings settings world.systemTemp, world }, world) := by
  rw [start, Kit.prepare_eq, unchecked]
  cases settings.validate world.files <;> rfl

theorem validate_eq {settings : Tool.Settings} {files : Files}
    (valid : ∀ directory ∈ settings.binDir, files.isDirectory directory = true) :
    settings.validate files = Tool.Settings.validate.check files "temp_dir" settings.tempDir := by
  unfold Tool.Settings.validate
  cases named : settings.binDir with
  | none => rfl
  | some directory =>
    have passed : Tool.Settings.validate.check files "bin_dir" (some directory) = .ok () :=
      if_pos (valid directory named)
    rw [passed]
    rfl

theorem run_prefix_only {settings settings' : Tool.Settings} {world world' : World}
    (unchecked : settings.checkVersion = false) (unchecked' : settings'.checkVersion = false)
    (temp : settings.tempDir = settings'.tempDir)
    (valid : ∀ directory ∈ settings.binDir, world.files.isDirectory directory = true)
    (valid' : ∀ directory ∈ settings'.binDir, world'.files.isDirectory directory = true)
    (same : world.Parallel (.ofSettings settings world.systemTemp)
      (.ofSettings settings' world'.systemTemp) world') :
    let kit := Kit.ofSettings settings world.systemTemp
    let kit' := Kit.ofSettings settings' world'.systemTemp
    (∃ cause, start settings world = (.error cause, world) ∧
      start settings' world' = (.error cause, world')) ∨
    start settings world = (.ok { kit, world }, world) ∧
    start settings' world' = (.ok { kit := kit', world := world' }, world') ∧
    ∀ program : Program, program.Indifferent kit kit' →
      let ran := program.run { kit, world }
      let ran' := program.run { kit := kit', world := world' }
      List.Forall₂ (Outcome.Agrees kit kit') ran.1 ran'.1 ∧
        ran.2.images = ran'.2.images ∧ ran.2.world.files = ran'.2.world.files ∧
        List.Forall₂ (kit.Twin kit') ran.2.world.calls ran'.2.world.calls := by
  intro kit kit'
  have temps : kit.tempDir = kit'.tempDir := by
    simp only [kit, kit', Kit.ofSettings, temp, same.systemTemp]
  rw [start_unchecked unchecked, start_unchecked unchecked', validate_eq valid, validate_eq valid',
    ← temp, ← same.files]
  cases Tool.Settings.validate.check world.files "temp_dir" settings.tempDir with
  | error cause => exact .inl ⟨cause, rfl, rfl⟩
  | ok _ =>
    refine .inr ⟨rfl, rfl, fun program indifferent => ?_⟩
    obtain ⟨outcomes, last⟩ := parallel_run program indifferent temps
      (⟨rfl, rfl, rfl, same⟩ : Parallel kit kit' { kit, world } { kit := kit', world := world' })
    exact ⟨outcomes, last.images, last.world.files, last.world.calls⟩

/-- Goes on only if the size is known, and is given a plan before it saves. -/
def sizedThenSaved : Program :=
  .call (.make "a" (.file "a.png")) fun _ => .call (.size "a") fun
    | .answered (.size _) => .call (.plan "a" none {}) fun _ =>
        .call (.save "a" (some "b.gif") {}) fun _ => .done
    | _ => .done

/-- A directory for programs, an image file, and a tool that goes by the words of a call. -/
def sideBySide : World where
  tool := Tool.Script.responder fun _ => []
  files := { entries := [(["a.png".toList], .file []), (["bin".toList], .directory)] }

/-- Two programs found by name, and one program in a directory of its own. -/
theorem run_prefix_only_saved :
    let settings : Tool.Settings := { checkVersion := false }
    let settings' : Tool.Settings :=
      { toolchain := .imagemagick7, binDir := some "bin", checkVersion := false }
    let kit := Kit.ofSettings settings "systmp"
    let kit' := Kit.ofSettings settings' "systmp"
    let ran := sizedThenSaved.run { kit, world := sideBySide }
    let ran' := sizedThenSaved.run { kit := kit', world := sideBySide }
    sideBySide.files.isDirectory "bin" = true ∧ sideBySide.Parallel kit kit' sideBySide ∧
      sizedThenSaved.Indifferent kit kit' ∧
      ran.2.world.calls = [["identify", "-format", "%[colorspace]\n", "a.png"],
        ["identify", "-format", "%n\n", "a.png"],
        ["convert", "a.png", "-format", "%wx%h\n", "info:"],
        ["convert", "a.png", "-format", "gif", "b.gif"]] ∧
      ran'.2.world.calls = [["bin/magick", "identify", "-format", "%[colorspace]\n", "a.png"],
        ["bin/magick", "identify", "-format", "%n\n", "a.png"],
        ["bin/magick", "a.png", "-format", "%wx%h\n", "info:"],
        ["bin/magick", "a.png", "-format", "gif", "b.gif"]] ∧
      List.Forall₂ (Outcome.Agrees kit kit') ran.1 ran'.1 ∧ ran.2.images = ran'.2.images ∧
      List.Forall₂ (kit.Twin kit') ran.2.world.calls ran'.2.world.calls := by
  have plain : ∀ token ∈ ["convert"] ++ ["identify"],
      Tool.CallClass.ofToken? token = none := by decide +kernel
  have plain' : ∀ token ∈ ["bin/magick"] ++ ["bin/magick", "identify"],
      Tool.CallClass.ofToken? token = none := by decide +kernel
  have same : sideBySide.Parallel ⟨["convert"], ["identify"], "systmp"⟩
      ⟨["bin/magick"], ["bin/magick", "identify"], "systmp"⟩ sideBySide :=
    ⟨Kit.matched_script plain plain' fun _ => [], rfl, rfl, rfl, rfl, .nil, rfl⟩
  have directory : sideBySide.files.isDirectory "bin" = true := by decide +kernel
  have indifferent : sizedThenSaved.Indifferent ⟨["convert"], ["identify"], "systmp"⟩
      ⟨["bin/magick"], ["bin/magick", "identify"], "systmp"⟩ := by
    refine fun _ _ _ => ⟨rfl, fun outcome outcome' agrees => ?_⟩
    cases agrees with
    | plan twin => exact ⟨rfl, trivial⟩
    | same other =>
      refine ⟨rfl, ?_⟩
      beta_reduce
      split
      · exact fun _ _ _ => ⟨rfl, fun _ _ _ => ⟨rfl, trivial⟩⟩
      · trivial
  have nowhere : ∀ directory ∈ (none : Option String),
      sideBySide.files.isDirectory directory = true := nofun
  have there : ∀ directory ∈ some "bin", sideBySide.files.isDirectory directory = true := by
    simpa using directory
  have alike := @run_prefix_only { checkVersion := false }
    { toolchain := .imagemagick7, binDir := some "bin", checkVersion := false } sideBySide
    sideBySide rfl rfl rfl nowhere there same
  rcases alike with ⟨cause, refused, -⟩ | ⟨-, -, alike⟩
  · rw [start_unchecked rfl] at refused
    cases congrArg Prod.fst refused
  · obtain ⟨outcomes, images, -, calls⟩ := alike sizedThenSaved indifferent
    refine ⟨directory, same, indifferent, ?_, ?_, outcomes, images, calls⟩
    · decide +kernel
    · decide +kernel

end Session

end Retouch
