import Retouch.Proofs.Image.Carried
import Retouch.Proofs.Session.Run

/-!
One name along a run. A command touches the image of no other name, and what it makes of the image
of its own is one of four things: the image has learned its size, it is edited, it has the layers of
a plan, or it has other notes.
-/
namespace Retouch

namespace Command

def name : Command → String
  | .make name _ | .drop name | .inspect name | .alter name _ | .size name | .colorAt name _
  | .histogram name | .plan name _ _ | .save name _ _ | .get name _ _ | .present name _ _ _
  | .insertNote name _ _ | .eraseNote name _ | .note name _ => name

/-- Making and dropping put another image, or none, in the place of the one of the name. -/
def replaces : Command → Bool
  | .make .. | .drop _ => true
  | _ => false

def saves : Command → Bool
  | .save .. | .get .. | .present .. => true
  | _ => false

end Command

namespace Session

/-- The plan that the tool carries out when a command is given to an image. -/
def carried? (session : Session) (image : Image) : Command → Option Save.Plan
  | .save _ path options => Image.carried? session.kit path options ⟨image, session.world⟩
  | .get _ format options => Image.fetched? session.kit format options ⟨image, session.world⟩
  | .present _ format options _ =>
    Image.presented? session.kit format options ⟨image, session.world⟩
  | _ => none

/-- The plan carried out is one for this image. -/
theorem carried_planned {session : Session} {image : Image} {command : Command}
    {planned : Save.Plan} (carried : session.carried? image command = some planned) :
    ∃ path options, image.plan session.kit path options = .ok planned := by
  cases command <;> simp only [carried?] at carried
  case save name path options =>
    have settled := Image.carried_planned carried
    exact ⟨path, options, settled⟩
  case get name format options =>
    have settled := Image.fetched_planned carried
    exact settled
  case present name format options room =>
    have settled := Image.presented_planned carried
    exact settled
  all_goals cases carried

theorem carried_rendered {session : Session} (image : Image) (command : Command) :
    image.Rendered (image.committed (session.carried? image command)) :=
  Image.rendered_committed fun _ carried => carried_planned carried

theorem image?_perform (session : Session) (command : Command) (name : String) :
    (session.perform command).2.image? name = (session.step command).2.image? name := rfl

theorem work_apart {session : Session} {name other : String} (apart : other ≠ name)
    (edit : StateM Desk Outcome) :
    (session.work name edit).2.image? other = session.image? other := by
  cases held : session.image? name with
  | none => rw [work_absent held]
  | some image =>
    rw [work_eq held, image?_put, if_neg apart]
    rfl

theorem perform_apart {session : Session} {command : Command} {other : String}
    (apart : other ≠ command.name) :
    (session.perform command).2.image? other = session.image? other := by
  rw [image?_perform]
  cases command <;> simp only [Command.name] at apart <;> simp only [step, alter, edit_work]
  case make name origin =>
    unfold make
    cases session.making origin with
    | none => rfl
    | some act =>
      simp only
      rcases act session.world with ⟨cause | image, world⟩
      · rfl
      · simp only
        rw [image?_put, if_neg apart]
        rfl
  case drop name =>
    split
    · rfl
    · rw [image?_erase, if_neg apart]
  case alter name edit =>
    split
    · rfl
    · exact work_apart apart _
  all_goals exact work_apart apart _

theorem image?_work {session : Session} {name : String} {image : Image}
    (held : session.image? name = some image) (edit : StateM Desk Outcome) :
    (session.work name edit).2.image? name = some (edit ⟨image, session.world⟩).2.image := by
  rw [work_eq held, image?_put, if_pos rfl]

/-- What an image that is made anew is made of. -/
inductive Made (session : Session) : Image → Prop
  | opened {path : String} {palette : Palette} {frames : UInt64} (notes : Metadata) :
      session.kit.Examined session.world.tool path palette frames →
      Made session (.ofFile path (some path) palette frames notes)
  | loaded {bytes : Bytes} {file : ScratchFile} {palette : Palette} {frames : UInt64} :
      (World.mint session.kit.tempDir "im" bytes session.world).1 = .ok file →
      session.kit.Examined session.world.tool file.path palette frames →
      Made session ((Image.ofFile file.path none palette frames {}).attach file)
  | canvas {size : Size} {background : Option Color} {image : Image} :
      Image.canvas size background = .ok image → Made session image
  | copied {image : Image} : session.Holds image → Made session image.copy
  | masked {image : Image} : session.Holds image → Made session image.mask

theorem load_made {session : Session} {bytes : Bytes} {image : Image} {after : World}
    (made : Image.load session.kit bytes session.world = (.ok image, after)) :
    session.Made image := by
  unfold Image.load at made
  rw [Stepwise.bind_apply] at made
  have steady := World.steady_tool.mint session.kit.tempDir "im" bytes session.world
  rcases minted : World.mint session.kit.tempDir "im" bytes session.world with
    ⟨_ | file, between⟩ <;> rw [minted] at made steady
  · cases made
  · simp only [Stepwise.bind_apply, World.guarding] at made
    rcases told : Image.examine session.kit file.path none {} between with ⟨_ | examined, last⟩ <;>
      rw [told] at made
    · cases made
    · cases made
      obtain ⟨palette, frames, seen, rfl⟩ := Image.examine_ok told
      rw [show between.tool = session.world.tool from steady] at seen
      exact .loaded (congrArg Prod.fst minted) seen

theorem making_made {session : Session} {origin : Origin} {act : Act Image} {image : Image}
    {after : World} (found : session.making origin = some act)
    (made : act session.world = (.ok image, after)) : session.Made image := by
  cases origin <;> simp only [making, Option.map_eq_some_iff, Option.some.injEq] at found
  case file path =>
    subst found
    rw [Image.openFile_eq] at made
    split at made
    · obtain ⟨palette, frames, seen, rfl⟩ := Image.examine_ok made
      exact .opened _ seen
    · cases made
  case bytes bytes =>
    subst found
    exact load_made made
  case stream stream =>
    subst found
    unfold Image.read at made
    rw [Stepwise.bind_apply] at made
    cases read : stream.readAll with
    | error cause =>
      rw [read] at made
      cases made
    | ok bytes =>
      rw [read] at made
      exact load_made made
  case canvas size background =>
    subst found
    cases blank : Image.canvas size background with
    | error cause =>
      rw [blank] at made
      cases made
    | ok image =>
      rw [blank] at made
      cases made
      exact .canvas blank
  case copyOf name =>
    obtain ⟨before, held, rfl⟩ := found
    cases made
    exact .copied ⟨name, held⟩
  case maskOf name =>
    obtain ⟨before, held, rfl⟩ := found
    cases made
    exact .masked ⟨name, held⟩

/-- What a command on an image makes of it, where it does not replace it. -/
inductive Becomes (session : Session) (image : Image) : Command → Image → Prop
  | learned {command : Command} {after : Image} : command.saves = false →
      image.Learned session.kit session.world after → Becomes session image command after
  | edited {name : String} {edit : Alteration String} {before : Image}
      {resolved : Alteration Image} (own : Size) {file : ScratchFile} :
      image.Learned session.kit session.world before →
      (∀ other ∈ resolved.operand?, session.Holds other) →
      (∀ content ∈ resolved.fileContent?,
        (World.mint session.kit.tempDir "ip" content session.world).1 = .ok file) →
      Becomes session image (.alter name edit) (resolved.outcome own file before)
  | saved {command : Command} : command.saves = true →
      Becomes session image command (image.committed (session.carried? image command))
  | noted {command : Command} (notes : Metadata) : command.saves = false →
      Becomes session image command { image with notes }

theorem becomes_kept {session : Session} {image : Image} {command : Command}
    (asks : command.saves = false) : session.Becomes image command image :=
  .learned asks (.inl rfl)

theorem becomes_apply {session : Session} {name : String} {edit : Alteration String}
    {resolved : Alteration Image} {image : Image}
    (operands : ∀ other ∈ resolved.operand?, session.Holds other) :
    session.Becomes image (.alter name edit)
      (resolved.apply session.kit ⟨image, session.world⟩).2.image := by
  have learned : image.Learned session.kit session.world
      (resolved.sized (image.measure session.kit session.world).1 image) :=
    Image.learned_sized resolved image session.world
  rw [Alteration.apply_eq]
  cases settled : resolved.settle (resolved.needs session.kit image session.world)
      (resolved.sized (image.measure session.kit session.world).1 image) with
  | error cause => exact .learned rfl learned
  | ok after =>
    obtain ⟨own, file, -, made, rfl⟩ := Alteration.settle_ok settled
    refine .edited own learned operands ?_
    intro content filed
    cases resolved
    case profile data =>
      rw [← Alteration.needs_file filed]
      exact made data rfl
    all_goals cases filed

theorem perform_becomes {session : Session} {command : Command} {image : Image}
    (keeps : command.replaces = false) (held : session.image? command.name = some image) :
    ∃ after, (session.perform command).2.image? command.name = some after ∧
      session.Becomes image command after := by
  simp only [image?_perform]
  cases command <;> simp only [Command.name] at held ⊢ <;> simp only [step, alter, edit_work]
  case make name origin => cases keeps
  case drop name => cases keeps
  case inspect name => exact ⟨image, image?_work held _, becomes_kept rfl⟩
  case alter name edit =>
    split
    · exact ⟨image, held, becomes_kept rfl⟩
    next resolved found =>
      exact ⟨_, image?_work held _,
        becomes_apply fun other operand => resolve?_operand found operand⟩
  case size name =>
    exact ⟨_, image?_work held _, .learned rfl (Image.learned_resolve image session.world)⟩
  case colorAt name point =>
    exact ⟨_, image?_work held _, .learned rfl (Image.learned_colorAt point image session.world)⟩
  case histogram name => exact ⟨image, image?_work held _, becomes_kept rfl⟩
  case plan name path options =>
    refine ⟨image, ?_, becomes_kept rfl⟩
    rw [image?_work held]
    simp only [planned_eq]
  case save name path options =>
    refine ⟨_, ?_, .saved rfl⟩
    rw [image?_work held]
    simp only [(Image.save_carried session.kit path options _).1]
    rfl
  case get name format options =>
    refine ⟨_, ?_, .saved rfl⟩
    rw [image?_work held]
    simp only [Image.get_image]
    rfl
  case present name format options room =>
    refine ⟨_, ?_, .saved rfl⟩
    rw [image?_work held]
    have presented := Image.present_image session.kit format options ⟨image, session.world⟩ room
    exact congrArg some presented
  case insertNote name key value => exact ⟨_, image?_work held _, .noted _ rfl⟩
  case eraseNote name key => exact ⟨_, image?_work held _, .noted _ rfl⟩
  case note name key => exact ⟨_, image?_work held _, .noted _ rfl⟩

theorem perform_saved {session : Session} {command : Command} {image : Image}
    (saves : command.saves = true) (held : session.image? command.name = some image) :
    (session.perform command).2.image? command.name =
      some (image.committed (session.carried? image command)) := by
  have keeps : command.replaces = false := by
    cases command <;> first | rfl | cases saves
  obtain ⟨after, found, becomes⟩ := perform_becomes keeps held
  rw [found]
  cases becomes with
  | learned asks _ => simp [saves] at asks
  | edited => cases saves
  | saved _ => rfl
  | noted _ asks => simp [saves] at asks

/-- The command has put an image that is new under its name. -/
def renews (session : Session) (command : Command) : Bool :=
  match command, (session.step command).1 with
  | .make .., .answered _ => true
  | _, _ => false

theorem make_handle {session : Session} {name : String} {origin : Origin} {after : Image}
    (held : (session.make name origin).2.image? name = some after) :
    session.renews (.make name origin) = true ∧ session.Made after ∨
      session.renews (.make name origin) = false ∧ session.image? name = some after := by
  simp only [renews, step]
  unfold make at held ⊢
  cases found : session.making origin with
  | none =>
    rw [found] at held
    exact .inr ⟨rfl, held⟩
  | some act =>
    simp only [found] at held ⊢
    rcases made : act session.world with ⟨cause | image, world⟩ <;> simp only [made] at held ⊢
    · exact .inr ⟨trivial, held⟩
    · rw [image?_put, if_pos rfl, Option.some.injEq] at held
      subst held
      exact .inl ⟨trivial, making_made found made⟩

theorem perform_absent {session : Session} {command : Command} (keeps : command.replaces = false)
    (missing : session.image? command.name = none) :
    (session.perform command).2.image? command.name = none := by
  rw [image?_perform]
  cases command <;> simp only [Command.name] at missing ⊢ <;>
    simp only [step, alter, annotate, edit_work]
  case make name origin => cases keeps
  case drop name => cases keeps
  case alter name edit =>
    split
    · exact missing
    · rw [work_absent missing]
      exact missing
  all_goals
    rw [work_absent missing]
    exact missing

/-- What has become of the image that is to be edited: either the edit has failed, or it is what
the change has made of it. -/
theorem alter_handle {session : Session} {name : String} {edit : Alteration String} {after : Image}
    (held : (session.step (.alter name edit)).2.image? name = some after) :
    ∃ image, session.image? name = some image ∧
      ((∀ answer, (session.step (.alter name edit)).1 ≠ .answered answer) ∧
          image.Learned session.kit session.world after ∨
        (session.step (.alter name edit)).1 = .answered .done ∧
          ∃ resolved needs before, edit.resolve? session.image? = some resolved ∧
            image.Learned session.kit session.world before ∧
            resolved.settle needs before = .ok after) := by
  simp only [step, alter] at held ⊢
  cases found : edit.resolve? session.image? with
  | none =>
    rw [found] at held
    exact ⟨after, held, .inl ⟨by simp, .inl rfl⟩⟩
  | some resolved =>
    simp only [found] at held ⊢
    cases present : session.image? name with
    | none =>
      rw [edit_absent present, present] at held
      cases held
    | some image =>
      have learned : image.Learned session.kit session.world
          (resolved.sized (image.measure session.kit session.world).1 image) :=
        Image.learned_sized resolved image session.world
      rw [edit_eq present, image?_put, if_pos rfl, Option.some.injEq] at held
      rw [edit_eq present]
      rw [Alteration.apply_eq] at held ⊢
      refine ⟨image, rfl, ?_⟩
      cases settled : resolved.settle (resolved.needs session.kit image session.world)
          (resolved.sized (image.measure session.kit session.world).1 image) with
      | error cause =>
        rw [settled] at held
        subst held
        exact .inl ⟨by simp [Edit.ended, told], learned⟩
      | ok out =>
        rw [settled] at held
        subst held
        exact .inr ⟨rfl, resolved, _, _, rfl, learned, settled⟩

/-- Where the image that a name has after a command comes from. -/
theorem perform_handle {session : Session} {command : Command} {name : String} {after : Image}
    (held : (session.perform command).2.image? name = some after) :
    command.name ≠ name ∧ session.image? name = some after ∨
      command.name = name ∧ session.renews command = true ∧ session.Made after ∨
      command.name = name ∧ session.renews command = false ∧
        ∃ image, session.image? name = some image ∧ session.Becomes image command after := by
  by_cases named : command.name = name
  · subst named
    right
    cases replaces : command.replaces with
    | false =>
      right
      have same : session.renews command = false := by
        cases command <;> first | rfl | cases replaces
      cases before : session.image? command.name with
      | none =>
        rw [perform_absent replaces before] at held
        cases held
      | some image =>
        obtain ⟨between, found, becomes⟩ := perform_becomes replaces before
        obtain rfl := Option.some.inj (found.symm.trans held)
        exact ⟨rfl, same, image, rfl, becomes⟩
    | true =>
      rw [image?_perform] at held
      cases command with
      | make name origin =>
        rcases make_handle held with ⟨renewed, made⟩ | ⟨kept, same⟩
        · exact .inl ⟨rfl, renewed, made⟩
        · exact .inr ⟨rfl, kept, after, same, becomes_kept rfl⟩
      | drop name =>
        simp only [step, Command.name] at held
        split at held
        next missing =>
          rw [missing] at held
          cases held
        · simp [image?_erase] at held
      | _ => cases replaces
  · rw [perform_apart (Ne.symm named)] at held
    exact .inl ⟨named, held⟩

end Session

end Retouch
