import Retouch.Image.Origin
import Retouch.Proofs.Image.Rendering

/-!
What acts and edits do to the world, in terms of the steps they are made of: a relation between
worlds that holds across every step holds across the whole.
-/
namespace Retouch

def Act.Keeps {α : Type} (relation : World → World → Prop) (act : Act α) : Prop :=
  ∀ world, relation world (act world).2

def Edit.Keeps {α : Type} (relation : World → World → Prop) (edit : Edit α) : Prop :=
  ∀ desk, relation desk.world (edit desk).2.world

theorem Image.resolve_eq (kit : Tool.Kit) (image : Image) (world : World) :
    Image.resolve kit ⟨image, world⟩ = match image.measure kit world with
      | (.ok size, after) => (.ok size, ⟨image.resized (some size), after⟩)
      | (.error cause, after) => (.error cause, ⟨image, after⟩) := by
  have plain : Image.resolve kit ⟨image, world⟩ = (Image.resolve kit >>= pure) ⟨image, world⟩ := by
    rw [bind_pure]
  rw [plain, Edit.bind_resolve]
  rcases image.measure kit world with ⟨_ | size, after⟩ <;> rfl

theorem Image.resolve_world (kit : Tool.Kit) (image : Image) (world : World) :
    (Image.resolve kit ⟨image, world⟩).2.world = (image.measure kit world).2 := by
  rw [Image.resolve_eq]
  rcases image.measure kit world with ⟨_ | size, after⟩ <;> rfl

theorem Image.openFile_eq (kit : Tool.Kit) (path : String) (world : World) :
    Image.openFile kit path world =
      if world.files.isFile path then
        Image.examine kit path (some path) (Metadata.insert {} "filepath" path) world
      else (.error (.invalidArgument s!"file '{path}' does not exist"), world) := by
  unfold Image.openFile
  rw [Stepwise.bind_apply]
  change (if world.files.isFile path = true then _ else _ : Act Image) world = _
  split <;> rfl

structure World.Course (relation : World → World → Prop) : Prop where
  refl : ∀ world, relation world world
  trans : ∀ {a b c}, relation a b → relation b c → relation a c

namespace World.Course
variable {relation : World → World → Prop} (course : Course relation) {α β : Type}
include course

theorem bind {act : Act α} {next : α → Act β} (first : act.Keeps relation)
    (later : ∀ value, (next value).Keeps relation) : (act >>= next).Keeps relation := by
  intro world
  have before := first world
  rw [Stepwise.bind_apply]
  rcases ran : act world with ⟨_ | value, after⟩ <;> rw [ran] at before
  · exact before
  · exact course.trans before (later value after)

theorem guarding {file : ScratchFile} {act : Act α} (kept : act.Keeps relation)
    (gone : ∀ world, relation world (World.discard world file)) :
    (World.guarding file act).Keeps relation := by
  intro world
  have before := kept world
  unfold World.guarding
  rcases ran : act world with ⟨_ | value, after⟩ <;> rw [ran] at before
  · exact course.trans before (gone after)
  · exact before

theorem mint {directory stem : String} {content : Bytes}
    (created : (World.create directory stem "").Keeps relation)
    (filled : ∀ file, (World.fill file content).Keeps relation)
    (gone : ∀ file world, relation world (World.discard world file)) :
    (World.mint directory stem content).Keeps relation := by
  apply course.bind created
  intro file
  apply course.bind (course.guarding (filled file) (gone file))
  exact fun _ => course.refl

theorem checked (result : Except Cause α) : (liftM result : Act α).Keeps relation := by
  intro world
  cases result <;> exact course.refl world

theorem run {argv : Argv} (called : (execute argv).Keeps relation) :
    (World.run argv).Keeps relation := by
  apply course.bind called
  intro output
  split <;> exact course.refl

theorem ask {argv : Argv} (called : (execute argv).Keeps relation)
    (read : Tool.Output → Except Cause α) :
    (World.run argv >>= fun output => (liftM (read output) : Act α)).Keeps relation :=
  course.bind (course.run called) fun output => course.checked (read output)

theorem measure {kit : Tool.Kit} {image : Image}
    (called : (execute (kit.sizeCall image.tokens)).Keeps relation) :
    (image.measure kit).Keeps relation := by
  unfold Image.measure
  split
  · exact course.refl
  · exact course.ask called _

theorem examine {kit : Tool.Kit} {path : String}
    (colorspace : (execute (kit.colorspaceCall path)).Keeps relation)
    (frames : (execute (kit.framesCall path)).Keeps relation) (source : Option String)
    (notes : Metadata) : (Image.examine kit path source notes).Keeps relation := by
  apply course.bind (course.ask colorspace _)
  intro palette
  apply course.bind (course.ask frames _)
  intro count
  exact course.refl

theorem openFile {kit : Tool.Kit} {path : String}
    (colorspace : (execute (kit.colorspaceCall path)).Keeps relation)
    (frames : (execute (kit.framesCall path)).Keeps relation) :
    (Image.openFile kit path).Keeps relation := by
  intro world
  rw [Image.openFile_eq]
  split
  · exact course.examine colorspace frames _ _ world
  · exact course.refl world

theorem alteration {kit : Tool.Kit} {edit : Alteration Image} {image : Image}
    (own : (image.measure kit).Keeps relation)
    (other : ∀ operand ∈ edit.operand?, (operand.measure kit).Keeps relation)
    (made : ∀ content ∈ edit.fileContent?,
      (World.mint kit.tempDir "ip" content).Keeps relation) (world : World) :
    relation world (edit.apply kit ⟨image, world⟩).2.world := by
  have settled (result : Except Cause Image) (before : Image) (after : World) :
      (Edit.ended result before after).2.world = after := by cases result <;> rfl
  have both (operand : Image) (kept : (operand.measure kit).Keeps relation) :
      relation world (Alteration.afterwards.both kit image world operand) := by
    have first := own world
    unfold Alteration.afterwards.both
    rcases measured : image.measure kit world with ⟨_ | size, between⟩ <;> rw [measured] at first
    · exact first
    · exact course.trans first (kept between)
  rw [Alteration.apply_eq, settled]
  cases edit <;> simp only [Alteration.afterwards]
  case crop start size => exact own world
  case fill content => exact own world
  case applyMask mask => exact both mask (other mask rfl)
  case profile data => exact made data.data rfl world
  case paste pasted start alpha =>
    split
    · exact course.refl world
    · exact both pasted (other pasted rfl)
  all_goals exact course.refl world

theorem colorAt {kit : Tool.Kit} {image : Image} {point : Point}
    (own : (image.measure kit).Keeps relation)
    (pixel : (execute (kit.pixelCall image.tokens point)).Keeps relation) (world : World) :
    relation world (Image.colorAt kit point ⟨image, world⟩).2.world := by
  have before := own world
  unfold Image.colorAt
  rw [Edit.bind_resolve]
  rcases measured : image.measure kit world with ⟨_ | size, after⟩ <;> rw [measured] at before
  · exact before
  · simp only
    split
    · rw [Edit.bind_image]
      exact course.trans before (course.ask pixel _ after)
    · exact before

theorem histogram {kit : Tool.Kit} {image : Image}
    (called : (execute (kit.histogramCall image.tokens)).Keeps relation) (world : World) :
    relation world (Image.histogram kit ⟨image, world⟩).2.world := by
  unfold Image.histogram
  rw [Edit.bind_image]
  exact course.ask called _ world

theorem save {kit : Tool.Kit} {path : Option String} {image : Image}
    (parent : ∀ destination, (path <|> image.source) = some destination →
      (Image.makeParent destination).Keeps relation)
    (rendered : ∀ destination, (path <|> image.source) = some destination →
      ∀ argv, argv.getLast? = some destination → (execute argv).Keeps relation)
    (options : Save.Options) (world : World) :
    relation world (Image.save kit path options ⟨image, world⟩).2.world := by
  rw [Image.save_eq]
  cases settled : image.plan kit path options with
  | error cause => exact course.refl world
  | ok planned =>
    obtain ⟨chosen, last, -⟩ := Image.plan_ok settled
    have made := parent _ chosen world
    simp only
    rcases ran : Image.makeParent planned.destination world with ⟨_ | _, between⟩ <;>
      rw [ran] at made
    · exact made
    · have called := course.run (rendered _ chosen planned.argv last) between
      simp only
      rcases ran : World.run planned.argv between with ⟨_ | _, after⟩ <;> rw [ran] at called <;>
        exact course.trans made called

end World.Course

/-- A course that every step of every act keeps to. -/
structure World.Steady (relation : World → World → Prop) : Prop extends Course relation where
  execute : ∀ argv, (World.execute argv).Keeps relation
  create : ∀ directory stem suffix, (World.create directory stem suffix).Keeps relation
  fill : ∀ file content, (World.fill file content).Keeps relation
  makeParent : ∀ path, (Image.makeParent path).Keeps relation
  discard : ∀ file world, relation world (World.discard world file)

namespace World.Steady
variable {relation : World → World → Prop} (steady : Steady relation)
include steady

theorem mint (directory stem : String) (content : Bytes) :
    (World.mint directory stem content).Keeps relation :=
  steady.toCourse.mint (steady.create _ _ _) (steady.fill · content) steady.discard

theorem load (kit : Tool.Kit) (bytes : Bytes) : (Image.load kit bytes).Keeps relation := by
  apply steady.bind (steady.mint _ _ _)
  intro file
  have examined := steady.examine (steady.execute (kit.colorspaceCall file.path))
    (steady.execute (kit.framesCall file.path)) none {}
  apply steady.bind (steady.guarding examined (steady.discard file))
  exact fun _ => steady.refl

theorem alteration (kit : Tool.Kit) (edit : Alteration Image) (image : Image) (world : World) :
    relation world (edit.apply kit ⟨image, world⟩).2.world :=
  steady.toCourse.alteration (steady.measure (steady.execute _))
    (fun _ _ => steady.measure (steady.execute _)) (fun _ _ => steady.mint _ _ _) world

theorem save (kit : Tool.Kit) (path : Option String) (options : Save.Options) :
    (Image.save kit path options).Keeps relation := fun desk =>
  steady.toCourse.save (fun destination _ => steady.makeParent destination)
    (fun _ _ argv _ => steady.execute argv) options desk.world

theorem get (kit : Tool.Kit) (format : String) (options : Save.Options) :
    (Image.get kit format options).Keeps relation := by
  intro desk
  obtain ⟨image, world⟩ := desk
  have made := steady.create kit.tempDir "im" ("." ++ Text.lowercase format) world
  rw [Image.get_eq]
  rcases minted : World.create kit.tempDir "im" ("." ++ Text.lowercase format) world with
    ⟨_ | file, between⟩ <;> rw [minted] at made
  · exact made
  · have saved := steady.save kit (some file.path) { options with format := some format }
      ⟨image, between⟩
    apply steady.trans made
    simp only
    rcases ran : Image.save kit (some file.path) { options with format := some format }
      ⟨image, between⟩ with ⟨_ | _, desk⟩ <;> rw [ran] at saved <;>
      exact steady.trans saved (steady.discard file _)

theorem present (kit : Tool.Kit) (format : String) (options : Save.Options) (room : Option Nat)
    (desk : Desk) : relation desk.world (Image.present kit format options room desk).2.world := by
  rw [Image.present_eq]
  split
  · exact steady.refl desk.world
  · exact steady.get kit format options desk

end World.Steady

theorem World.steady_tool : World.Steady fun before after => after.tool = before.tool where
  refl _ := rfl
  trans first second := second.trans first
  execute argv world := by
    unfold World.execute
    split <;> rfl
  create directory stem suffix world := by
    unfold World.create
    simp only
    split <;> rfl
  fill file content world := by
    unfold World.fill
    simp only
    split <;> rfl
  makeParent path world := by
    unfold Image.makeParent
    split
    · rfl
    · split
      · rfl
      · simp only
        split <;> rfl
  discard _ _ := rfl

structure Tool.Kit.Examined (kit : Tool.Kit) (tool : Responder) (path : String) (palette : Palette)
    (frames : UInt64) : Prop where
  palette : ∃ world : World, world.tool = tool ∧ (kit.palette path world).1 = .ok palette
  frames : ∃ world : World, world.tool = tool ∧ (kit.frames path world).1 = .ok frames

theorem Image.examine_ok {kit : Tool.Kit} {path : String} {source : Option String}
    {notes : Metadata} {world after : World} {image : Image}
    (told : Image.examine kit path source notes world = (.ok image, after)) :
    ∃ palette frames, kit.Examined world.tool path palette frames ∧
      image = .ofFile path source palette frames notes := by
  unfold Image.examine at told
  rw [Stepwise.bind_apply] at told
  have steady := World.steady_tool.ask (World.steady_tool.execute (kit.colorspaceCall path))
    (fun output => Palette.ofColorspace (Tool.Readout.firstLine output.text)) world
  rcases first : kit.palette path world with ⟨_ | palette, between⟩
  · rw [first] at told
    cases told
  · rw [first] at told
    simp only [Stepwise.bind_apply] at told
    rcases second : kit.frames path between with ⟨_ | frames, last⟩
    · rw [second] at told
      cases told
    · rw [second] at told
      cases told
      have same : between.tool = world.tool := by
        have kept : (kit.palette path world).2.tool = world.tool := steady
        rwa [first] at kept
      exact ⟨palette, frames,
        ⟨⟨world, rfl, congrArg Prod.fst first⟩, ⟨between, same, congrArg Prod.fst second⟩⟩, rfl⟩

end Retouch
