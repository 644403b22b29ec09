import Retouch.Proofs.Files.Scratch
import Retouch.Proofs.Image.Carried
import Retouch.Proofs.Session.Assembly

/-!
What one command does to temporary files, before the session cleans up after it: it makes none, it
leaves one behind in an image, or it has deleted the one it made.
-/
namespace Retouch

open Files World

def Files.Meets (files : Files) (path other : String) : Prop :=
  ∃ place, files.vacancy path = .ok place ∧ files.vacancy other = .ok place

def Command.isRendering : Command → Bool
  | .get .. | .present .. => true
  | _ => false

def Command.usesScratch : Command → Bool
  | .make _ (.bytes _) | .make _ (.stream _) | .get .. | .present .. => true
  | .alter _ edit => (edit.fileContent?).isSome
  | _ => false

namespace Session

/-- The names of temporary files are left to the session: none of them is opened. -/
def Considerate (session : Session) : Command → Prop
  | .make _ (.file path) => ∀ file ∈ session.world.minted, path ≠ file.path
  | _ => True

/-- A save is sent to where a temporary file has been that no image holds any more. -/
def Revives (session : Session) (command : Command) (file : ScratchFile) : Prop :=
  match command with
  | .save name path _ => file ∈ session.world.minted ∧ file ∉ session.held ∧
      ∃ image, session.image? name = some image ∧
        ∃ destination, (path <|> image.source) = some destination ∧
          (session.step command).2.world.files.Meets destination file.path
  | _ => False

/-- No file is new where a temporary file that no image holds has been, but for a save to there. -/
def Apart (session : Session) (command : Command) (files : Files) : Prop :=
  ∀ file ∈ session.world.minted, file.Lasting session.kit.tempDir → file ∉ session.held →
    ∀ place, files.vacancy file.path = .ok place → files.HoldsFile place →
      session.world.files.HoldsFile place ∨ session.Revives command file

/-- No temporary file has been made, and none has come back by itself. -/
def Quiet (session : Session) (command : Command) (world : World) : Prop :=
  ∃ path, Writes path session.world world ∧ session.Apart command world.files

inductive Turn (session : Session) (command : Command) (outcome : Outcome) (after : Session) :
    Prop
  | same : after.world = session.world →
      (∀ image, after.Holds image → session.Assembled none image) →
      Turn session command outcome after
  | quiet : command.usesScratch = false → session.Quiet command after.world →
      (∀ image, after.Holds image → session.Assembled none image) →
      Turn session command outcome after
  | left (file : ScratchFile) (place : Location) : file.Lasting session.kit.tempDir →
      Makes file place session.world after.world →
      (∃ image, after.Holds image ∧ file ∈ image.arguments.resources) →
      (∀ image, after.Holds image → session.Assembled (some file) image) →
      command.isRendering = false → (∀ cause, outcome ≠ .failed cause) →
      Turn session command outcome after
  | gone (file : ScratchFile) (place : Location) (between : World) :
      (file.suffix = "" → file.Lasting session.kit.tempDir) →
      Makes file place session.world between → after.world = between.discard file →
      (∀ image, after.Holds image → session.Assembled none image) →
      Turn session command outcome after

variable {session after : Session} {command : Command} {outcome : Outcome}

theorem quiet_same (session : Session) (command : Command) : session.Quiet command session.world :=
  ⟨"", (course_writes "").refl session.world, fun _ _ _ _ _ _ here => .inl here⟩

theorem quiet_of_writes {path : String} {world : World} (plain : Plain path)
    (writes : Writes path session.world world) : session.Quiet command world := by
  refine ⟨path, writes, fun file _ lasting _ place found here => ?_⟩
  rcases writes.files.added place here with old | led
  · exact .inl old
  · have last := (vacancy_last led).symm.trans ((vacancy_last found).trans lasting.last)
    exact (lasting.not_plain (plain.of_last (last.trans lasting.last.symm))).elim

theorem assembled_put {made : Option ScratchFile} {name : String} {image : Image} {world : World}
    (assembled : session.Assembled made image) :
    ∀ other, ({ session with world }.put name image).Holds other →
      session.Assembled made other := by
  intro other held
  rcases holds_put held with rfl | old
  · exact assembled
  · exact assembled_kept old

theorem turn_put {name : String} {image : Image} {world : World}
    (steady : command.usesScratch = false) (quiet : session.Quiet command world)
    (assembled : session.Assembled none image) :
    session.Turn command outcome ({ session with world }.put name image) :=
  .quiet steady quiet (assembled_put assembled)

theorem turn_work {name : String} {edit : StateM Desk Outcome}
    (steady : command.usesScratch = false)
    (quiet : ∀ image, session.Quiet command (edit ⟨image, session.world⟩).2.world)
    (assembled : ∀ image, session.Holds image →
      session.Assembled none (edit ⟨image, session.world⟩).2.image) :
    session.Turn command outcome (session.work name edit).2 := by
  cases found : session.image? name with
  | none =>
    rw [work_absent found]
    exact .same rfl fun _ => assembled_kept
  | some image =>
    rw [work_eq found]
    exact turn_put steady (quiet image) (assembled image ⟨name, found⟩)

theorem turn_edit {α : Type} {name : String} {edit : Edit α} {answer : α → Answer}
    (steady : command.usesScratch = false)
    (quiet : ∀ image, session.Quiet command (edit ⟨image, session.world⟩).2.world)
    (assembled : ∀ image, session.Holds image →
      session.Assembled none (edit ⟨image, session.world⟩).2.image) :
    session.Turn command outcome (session.edit name edit answer).2 := by
  rw [edit_work]
  exact turn_work steady quiet assembled

theorem turn_annotate (steady : command.usesScratch = false) (name : String)
    (note : Metadata → Option String × Metadata) :
    session.Turn command outcome (session.annotate name note).2 :=
  turn_work steady (fun _ => quiet_same session _) fun _ held => assembled_same held rfl rfl

theorem turn_question {α : Type} {name path : String} {edit : Edit α} {answer : α → Answer}
    (steady : command.usesScratch = false)
    (plain : Plain path) (writes : edit.Keeps (Writes path))
    (learned : ∀ image : Image, image.Learned session.kit session.world
      (edit ⟨image, session.world⟩).2.image) :
    session.Turn command outcome (session.edit name edit answer).2 := by
  apply turn_edit steady
  · exact fun image => quiet_of_writes plain (writes ⟨image, session.world⟩)
  · exact fun image held => assembled_same held (learned image).tokens
      (congrArg Arguments.resources (learned image).arguments)

theorem turn_alteration {name : String} {edit : Alteration Image}
    (steady : command.usesScratch = false) (alone : edit.fileContent? = none)
    (operands : ∀ other ∈ edit.operand?, session.Holds other) :
    session.Turn command outcome
      (session.edit name (edit.apply session.kit) fun _ => .done).2 := by
  have writes (image : Image) :
      Writes "info:" session.world (edit.apply session.kit ⟨image, session.world⟩).2.world := by
    apply (course_writes "info:").alteration
    · exact Image.writes_measure session.kit image
    · exact fun other _ => Image.writes_measure session.kit other
    · intro content filed
      rw [alone] at filed
      cases filed
  apply turn_edit steady
  · exact fun image => quiet_of_writes (by decide) (writes image)
  · intro image held
    obtain ⟨size, grown⟩ := edit.sized_with (image.measure session.kit session.world).1 image
    rw [Alteration.apply_eq]
    cases settled : edit.settle (edit.needs session.kit image session.world)
        (edit.sized (image.measure session.kit session.world).1 image) with
    | error cause =>
      rw [grown]
      exact assembled_same held rfl rfl
    | ok after =>
      obtain ⟨own, file, -, -, rfl⟩ := Alteration.settle_ok settled
      have unfiled : (edit.fileContent?).isSome = true → none = some file := by
        rw [alone]
        exact fun some => by cases some
      have same : ({ image with size } : Image).tokens = image.tokens := rfl
      have assembled : session.Assembled none (edit.outcome own file { image with size }) :=
        assembled_outcome held same rfl operands own unfiled
      rw [grown]
      exact assembled

theorem profile_eq (kit : Tool.Kit) (data : Profile) (image : Image) (world : World) :
    (Alteration.profile data).apply kit ⟨image, world⟩ =
      match mint kit.tempDir "ip" data.data world with
      | (.ok file, after) => (.ok (), ⟨(Alteration.profile data).outcome ⟨0, 0⟩ file image, after⟩)
      | (.error cause, after) => (.error cause, ⟨image, after⟩) := by
  simp only [Alteration.apply, Edit.bind_outside]
  rcases mint kit.tempDir "ip" data.data world with ⟨_ | file, after⟩
  · rfl
  · exact Edit.revise_done (Revision.profile_eq _ file image data) after

theorem turn_profile (name : String) (edit : Alteration String) (data : Profile) :
    session.Turn (.alter name edit)
      (session.edit name ((Alteration.profile data).apply session.kit) fun _ => .done).1
      (session.edit name ((Alteration.profile data).apply session.kit) fun _ => .done).2 := by
  cases found : session.image? name with
  | none =>
    rw [edit_absent found]
    exact .same rfl fun _ => assembled_kept
  | some image =>
    have held : session.Holds image := ⟨name, found⟩
    rw [edit_eq found, profile_eq]
    rcases mint_cases session.kit.tempDir "ip" data.data session.world with
      ⟨cause, failed⟩ | ⟨file, made, filled, created, writes, ended⟩
    · rw [failed]
      exact .same rfl (assembled_put (assembled_kept held))
    · have lasting := lasting_of_create created (.inr rfl)
      obtain ⟨place, makes⟩ := makes_of_writes created writes
      rcases ended with minted | ⟨cause, failed⟩
      · have assembled : session.Assembled (some file)
            ((Alteration.profile data).outcome ⟨0, 0⟩ file image) :=
          assembled_outcome held rfl rfl (fun other operand => by cases operand) ⟨0, 0⟩
            fun _ => rfl
        rw [minted]
        refine .left file place lasting makes
          ⟨(Alteration.profile data).outcome ⟨0, 0⟩ file image, ⟨name, ?_⟩, ?_⟩ ?_ rfl ?_
        · simp only [image?_put, if_true]
        · simp [Alteration.outcome]
        · exact assembled_put assembled
        · intro cause failed
          cases failed
      · rw [failed]
        exact .gone file place filled (fun _ => lasting) makes rfl
          (assembled_put (assembled_kept held))

theorem make_eq {name : String} {origin : Origin} {act : Act Image}
    (found : session.making origin = some act) : session.make name origin =
      match act session.world with
      | (.ok image, world) => (.answered (.image image), { session with world }.put name image)
      | (.error cause, world) => (.failed cause, { session with world }) := by
  rcases result : act session.world with ⟨_ | _, world⟩ <;> simp only [make, found, result]

theorem turn_load {name : String} {origin : Origin} {act : Act Image} {bytes : Bytes}
    (found : session.making origin = some act)
    (same : act session.world = Image.load session.kit bytes session.world) :
    session.Turn (.make name origin) (session.make name origin).1 (session.make name origin).2 := by
  rw [make_eq found, same]
  rcases Image.load_cases session.kit bytes session.world with
    ⟨cause, failed⟩ | ⟨file, place, between, lasting, makes, ⟨palette, frames, loaded⟩ |
      ⟨cause, failed⟩⟩
  · rw [failed]
    exact .same rfl fun _ => assembled_kept
  · rw [loaded]
    have held : ({ session with world := between }.put name
        ((Image.ofFile file.path none palette frames {}).attach file)).Holds
          ((Image.ofFile file.path none palette frames {}).attach file) :=
      ⟨name, (image?_put _ name name _).trans (if_pos rfl)⟩
    refine .left file place lasting makes ⟨_, held, List.mem_singleton_self file⟩ ?_ rfl ?_
    · exact assembled_put (assembled_load file palette frames)
    · intro cause failed
      cases failed
  · rw [failed]
    exact .gone file place between (fun _ => lasting) makes rfl
      fun image (held : session.Holds image) => assembled_kept held

theorem turn_open {name path : String} (steady : command.usesScratch = false)
    (spares : session.world.tool.Spares)
    (apart : ∀ file ∈ session.world.minted, path ≠ file.path) :
    session.Turn command outcome (session.make name (.file path)).2 := by
  have found : session.making (.file path) = some (Image.openFile session.kit path) := rfl
  have writes := (course_writes path).openFile (Image.writes_identify session.kit _ path)
    (Image.writes_identify session.kit _ path) session.world
  rw [make_eq found]
  rw [Image.openFile_eq] at writes ⊢
  split at writes
  next there =>
    have quiet (world : World) (writes : Writes path session.world world) :
        session.Quiet command world := ⟨path, writes, fun file _ _ _ place _ here =>
      .inl (writes.files.added_isFile (writes.spared spares) there here)⟩
    rw [if_pos there]
    rcases examined : Image.examine session.kit path (some path)
      (Metadata.insert {} "filepath" path) session.world with ⟨cause | image, last⟩ <;>
      rw [examined] at writes
    · exact .quiet steady (quiet last writes)
        fun image (held : session.Holds image) => assembled_kept held
    · obtain ⟨palette, frames, -, rfl⟩ := Image.examine_ok examined
      apply turn_put steady (quiet last writes)
      apply assembled_file
      intro file lasting same
      exact ⟨there, fun member => apart file member same⟩
  next missing =>
    rw [if_neg missing]
    exact .same rfl fun _ => assembled_kept

theorem turn_rendered {name : String} {image : Image} {world : World}
    (ended : world = session.world ∨ ∃ file place between, file.suffix ≠ "" ∧
      Makes file place session.world between ∧ world = between.discard file)
    (assembled : session.Assembled none image) :
    session.Turn command outcome ({ session with world }.put name image) := by
  rcases ended with rfl | ⟨file, place, between, suffixed, makes, rfl⟩
  · exact .same rfl (assembled_put assembled)
  · exact .gone file place between (fun none => (suffixed none).elim) makes rfl
      (assembled_put assembled)

theorem assembled_rendered {before after : Image} (held : session.Holds before)
    (rendered : before.Rendered after) : session.Assembled none after :=
  assembled_same held rendered.tokens (congrArg Arguments.resources rendered.arguments)

theorem turn_get (name format : String) (options : Save.Options) :
    session.Turn command outcome (session.step (.get name format options)).2 := by
  simp only [step]
  cases found : session.image? name with
  | none =>
    rw [edit_absent found]
    exact .same rfl fun _ => assembled_kept
  | some image =>
    rw [edit_eq found]
    exact turn_rendered (Image.get_cases session.kit format options _)
      (assembled_rendered ⟨name, found⟩ (Image.rendered_get session.kit format options _))

theorem turn_present (name format : String) (options : Save.Options) (room : Option Nat) :
    session.Turn command outcome (session.step (.present name format options room)).2 := by
  simp only [step]
  cases found : session.image? name with
  | none =>
    rw [work_absent found]
    exact .same rfl fun _ => assembled_kept
  | some image =>
    rw [work_eq found]
    have rendered := Image.rendered_present session.kit format options room ⟨image, session.world⟩
    have ended : (Image.present session.kit format options room ⟨image, session.world⟩).2.world =
        session.world ∨ ∃ file place between, file.suffix ≠ "" ∧
          Makes file place session.world between ∧
          (Image.present session.kit format options room ⟨image, session.world⟩).2.world =
            between.discard file := by
      rw [Image.present_eq]
      split
      · exact .inl rfl
      · exact Image.get_cases session.kit format options _
    exact turn_rendered ended (assembled_rendered ⟨name, found⟩ rendered)

theorem turn_make {name : String} {origin : Origin} (spares : session.world.tool.Spares)
    (considerate : session.Considerate (.make name origin)) :
    session.Turn (.make name origin) (session.make name origin).1
      (session.make name origin).2 := by
  cases found : session.making origin with
  | none =>
    unfold make
    simp only [found]
    exact .same rfl fun _ => assembled_kept
  | some act =>
    cases origin with
    | file path => exact turn_open rfl spares considerate
    | bytes bytes =>
      apply turn_load found
      rw [← Option.some.inj found]
    | stream stream =>
      obtain rfl := Option.some.inj found
      have read : Image.read session.kit stream session.world = match stream.readAll with
          | .ok bytes => Image.load session.kit bytes session.world
          | .error cause => (.error cause, session.world) := by
        unfold Image.read
        rw [Stepwise.bind_apply]
        cases stream.readAll <;> rfl
      cases arrived : stream.readAll with
      | ok bytes =>
        rw [arrived] at read
        exact turn_load found read
      | error cause =>
        rw [arrived] at read
        rw [make_eq found, read]
        exact .same rfl fun _ => assembled_kept
    | canvas size background =>
      obtain rfl := Option.some.inj found
      rw [make_eq found]
      cases blank : Image.canvas size background with
      | error cause => exact .same rfl fun _ => assembled_kept
      | ok image => exact .same rfl (assembled_put (assembled_canvas blank))
    | copyOf other =>
      obtain ⟨image, held, rfl⟩ := Option.map_eq_some_iff.mp found
      rw [make_eq found]
      exact .same rfl (assembled_put (assembled_same ⟨other, held⟩ rfl rfl))
    | maskOf other =>
      obtain ⟨image, held, rfl⟩ := Option.map_eq_some_iff.mp found
      rw [make_eq found]
      exact .same rfl (assembled_put (assembled_mask ⟨other, held⟩))

theorem turn_save (name : String) (path : Option String) (options : Save.Options) :
    session.Turn (.save name path options) outcome
      (session.step (.save name path options)).2 := by
  cases found : session.image? name with
  | none =>
    rw [step, edit_absent found]
    exact .same rfl fun _ => assembled_kept
  | some image =>
    have after : (session.step (.save name path options)).2 = { session with
        world := (Image.save session.kit path options ⟨image, session.world⟩).2.world }.put name
          (Image.save session.kit path options ⟨image, session.world⟩).2.image := by
      simp only [step, edit_eq found]
    have assembled := assembled_rendered ⟨name, found⟩
      (Image.rendered_save session.kit path options ⟨image, session.world⟩)
    cases chosen : (path <|> image.source) with
    | none =>
      rw [after]
      rw [Image.save_nowhere chosen] at assembled ⊢
      exact .same rfl (assembled_put assembled)
    | some destination =>
      have writes := Image.writes_save session.kit image chosen options session.world
      rw [after]
      refine turn_put rfl ⟨destination, writes, ?_⟩ assembled
      intro file member lasting unheld place led here
      rcases writes.files.added place here with old | led'
      · exact .inl old
      · refine .inr ⟨member, unheld, image, found, destination, chosen, ?_⟩
        rw [after]
        exact ⟨place, led', led⟩

theorem resolve?_fileContent {find : String → Option Image} {edit : Alteration String}
    {resolved : Alteration Image} (found : edit.resolve? find = some resolved) :
    edit.fileContent? = resolved.fileContent? := by
  cases edit <;>
    simp only [Alteration.resolve?, Option.map_eq_some_iff, Option.some.injEq] at found
  case paste =>
    obtain ⟨image, -, rfl⟩ := found
    rfl
  case applyMask =>
    obtain ⟨image, -, rfl⟩ := found
    rfl
  case addLayer =>
    obtain ⟨image, -, rfl⟩ := found
    rfl
  all_goals
    subst found
    rfl

theorem turn_step {command : Command} (spares : session.world.tool.Spares)
    (considerate : session.Considerate command) :
    session.Turn command (session.step command).1 (session.step command).2 := by
  cases command with
  | make name origin => exact turn_make spares considerate
  | drop name =>
    simp only [step]
    split
    · exact .same rfl fun _ => assembled_kept
    · exact .same rfl fun image held => assembled_kept (holds_erase held)
  | inspect name =>
    exact turn_edit rfl (fun _ => quiet_same session _) fun image => assembled_kept
  | alter name edit =>
    simp only [step, alter]
    split
    · exact .same rfl fun _ => assembled_kept
    next resolved found =>
      have operands : ∀ other ∈ resolved.operand?, session.Holds other :=
        fun other operand => resolve?_operand found operand
      have filed := resolve?_fileContent found
      cases filed' : resolved.fileContent? with
      | none =>
        have steady : (Command.alter name edit).usesScratch = false := by
          rw [Command.usesScratch, filed, filed']
          rfl
        exact turn_alteration steady filed' operands
      | some content =>
        cases resolved
        case profile data => exact turn_profile name edit data
        all_goals cases filed'
  | size name =>
    apply turn_question rfl (by decide : Plain "info:")
    · intro desk
      rw [Image.resolve_world]
      exact Image.writes_measure session.kit desk.image desk.world
    · exact fun image => Image.learned_resolve image session.world
  | colorAt name point =>
    apply turn_question rfl (by decide : Plain "info:")
    · intro desk
      apply (course_writes "info:").colorAt (Image.writes_measure session.kit desk.image)
      apply writes_execute
      simp [Tool.Kit.pixelCall, Tool.Kit.infoCall]
    · exact fun image => Image.learned_colorAt point image session.world
  | histogram name =>
    apply turn_question rfl (by decide : Plain "histogram:info:-")
    · intro desk
      apply (course_writes "histogram:info:-").histogram
      apply writes_execute
      simp [Tool.Kit.histogramCall]
    · exact fun image => Image.learned_histogram image session.world
  | plan name path options =>
    apply turn_edit rfl
    · intro image
      rw [planned_eq]
      exact quiet_same session _
    · intro image held
      rw [planned_eq]
      exact assembled_kept held
  | save name path options => exact turn_save name path options
  | get name format options => exact turn_get name format options
  | present name format options room => exact turn_present name format options room
  | insertNote name key value => exact turn_annotate rfl name _
  | eraseNote name key => exact turn_annotate rfl name _
  | note name key => exact turn_annotate rfl name _

end Session

end Retouch
