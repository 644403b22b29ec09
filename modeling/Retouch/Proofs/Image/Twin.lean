import Retouch.Image.Alteration
import Retouch.Proofs.Image.Course
import Retouch.Proofs.Save.Steps
import Retouch.Proofs.Tool.Twin

/-!
Every act on an image goes the same way with two kits. No act looks into a call, so it is enough to
follow how the acts are put together; a plan is the only result that names a program.
-/
namespace Retouch
open Tool (Kit)

/-- The plans are for the same words to the program that converts. -/
inductive Save.Plan.Twin (kit kit' : Kit) : Plan → Plan → Prop
  | intro (words : List String) (said : words ≠ []) (format destination : String)
      (layers : Layers) : Twin kit kit' ⟨kit.convert ++ words, format, destination, layers⟩
        ⟨kit'.convert ++ words, format, destination, layers⟩

/-- The same image on both desks, in parallel worlds. -/
structure Desk.Parallel (kit kit' : Kit) (desk desk' : Desk) : Prop where
  image : desk.image = desk'.image
  world : desk.world.Parallel kit kit' desk'.world

variable {kit kit' : Kit}

namespace Edit
variable {α : Type}

theorem inStep_outside {act act' : Act α} (here : InStep (World.Parallel kit kit') act act') :
    InStep (Desk.Parallel kit kit') (outside act) (outside act') := by
  intro desk desk' same
  obtain ⟨equal, after⟩ := here desk.world desk'.world same.world
  exact ⟨equal, same.image, after⟩

theorem inStep_image : InStep (Desk.Parallel kit kit') image image :=
  fun _ _ same => ⟨congrArg Except.ok same.image, same⟩

theorem inStep_revise (revision : Revision α) :
    InStep (Desk.Parallel kit kit') (revise revision) (revise revision) := by
  intro desk desk' same
  unfold revise
  rw [← same.image]
  exact ⟨rfl, rfl, same.world⟩

end Edit

namespace Image

theorem inStep_examine (path : String) (source : Option String) (notes : Metadata) :
    InStep (World.Parallel kit kit') (examine kit path source notes)
      (examine kit' path source notes) := by
  apply (Kit.inStep_palette path).bind
  intro palette
  apply (Kit.inStep_frames path).bind
  intro frames
  exact .settled _

theorem inStep_openFile (path : String) :
    InStep (World.Parallel kit kit') (openFile kit path) (openFile kit' path) := by
  intro world world' same
  rw [openFile_eq, openFile_eq, ← same.files]
  split
  · exact inStep_examine path _ _ world world' same
  · exact ⟨rfl, same⟩

theorem inStep_load (bytes : Bytes) (temp : kit.tempDir = kit'.tempDir) :
    InStep (World.Parallel kit kit') (load kit bytes) (load kit' bytes) := by
  unfold load
  rw [← temp]
  apply (World.inStep_mint kit.tempDir "im" bytes).bind
  intro file
  apply (World.inStep_guarding file (inStep_examine file.path none {})).bind
  exact fun _ => .settled _

theorem inStep_read (stream : Stream) (temp : kit.tempDir = kit'.tempDir) :
    InStep (World.Parallel kit kit') (read kit stream) (read kit' stream) :=
  (InStep.checked stream.readAll).bind fun bytes => inStep_load bytes temp

theorem inStep_measure (image : Image) :
    InStep (World.Parallel kit kit') (image.measure kit) (image.measure kit') := by
  unfold measure
  cases image.size with
  | some size => exact .settled _
  | none => exact Kit.inStep_size image.tokens

theorem inStep_resolve : InStep (Desk.Parallel kit kit') (resolve kit) (resolve kit') := by
  apply Edit.inStep_image.bind
  intro image
  apply (Edit.inStep_outside (inStep_measure image)).bind
  intro size
  apply (Edit.inStep_revise _).bind
  intro done
  exact .settled _

theorem inStep_colorAt (point : Point) :
    InStep (Desk.Parallel kit kit') (colorAt kit point) (colorAt kit' point) := by
  apply inStep_resolve.bind
  intro size
  split
  · apply Edit.inStep_image.bind
    intro image
    exact Edit.inStep_outside (Kit.inStep_colorAt image.tokens point)
  · exact .settled _

theorem inStep_histogram : InStep (Desk.Parallel kit kit') (histogram kit) (histogram kit') := by
  apply Edit.inStep_image.bind
  intro image
  exact Edit.inStep_outside (Kit.inStep_histogram image.tokens)

end Image

theorem Alteration.inStep_apply (edit : Alteration Image) (temp : kit.tempDir = kit'.tempDir) :
    InStep (Desk.Parallel kit kit') (edit.apply kit) (edit.apply kit') := by
  have measured (other : Image) : InStep (Desk.Parallel kit kit')
      (Edit.outside (other.measure kit)) (Edit.outside (other.measure kit')) :=
    Edit.inStep_outside (Image.inStep_measure other)
  cases edit with
  | crop start size => exact Image.inStep_resolve.bind fun bounds => Edit.inStep_revise _
  | fill content => exact Image.inStep_resolve.bind fun size => Edit.inStep_revise _
  | applyMask mask =>
    apply Image.inStep_resolve.bind
    intro size
    exact (measured mask).bind fun maskSize => Edit.inStep_revise _
  | paste other start alpha =>
    apply (InStep.checked (Revision.checkAlpha alpha)).bind
    intro passed
    apply Image.inStep_resolve.bind
    intro bounds
    exact (measured other).bind fun size => Edit.inStep_revise _
  | profile data =>
    simp only [apply]
    rw [← temp]
    apply (Edit.inStep_outside (World.inStep_mint kit.tempDir "ip" data.data)).bind
    intro file
    exact Edit.inStep_revise _
  | _ => exact Edit.inStep_revise _

namespace Image

theorem plan_twin (image : Image) (path : Option String) (options : Save.Options) :
    (∃ cause, image.plan kit path options = .error cause ∧
      image.plan kit' path options = .error cause) ∨
    ∃ planned planned', image.plan kit path options = .ok planned ∧
      image.plan kit' path options = .ok planned' ∧ planned.Twin kit kit' planned' := by
  unfold plan
  cases path <|> image.source with
  | none => exact .inl ⟨_, rfl, rfl⟩
  | some destination =>
    simp only
    cases made : Save.plan (image.request kit) destination options with
    | error cause =>
      refine .inl ⟨cause, rfl, ?_⟩
      rw [Save.plan_eq_error] at made ⊢
      exact made
    | ok planned =>
      obtain ⟨format, layers, quality, resolved, chosen, compressed, rfl⟩ := Save.plan_eq_ok.1 made
      have made' : Save.plan (image.request kit') destination options =
          .ok ((image.request kit').drafted destination options format layers quality) :=
        Save.plan_eq_ok.2 ⟨format, layers, quality, resolved, chosen, compressed, rfl⟩
      refine .inr ⟨_, _, rfl, made', ?_⟩
      simp only [Save.Request.drafted, List.append_assoc]
      exact .intro _ (by simp) format destination layers

theorem inStep_makeParent (path : String) :
    InStep (World.Parallel kit kit') (makeParent path) (makeParent path) := by
  intro world world' same
  unfold makeParent
  rw [← same.files]
  split
  · exact ⟨rfl, same⟩
  · split
    · exact ⟨rfl, same⟩
    next parent _ _ =>
      simp only
      cases (world.files.makeDirectories parent).1 <;> exact ⟨rfl, same.withFiles _⟩

theorem inStep_save (path : Option String) (options : Save.Options) :
    InStep (Desk.Parallel kit kit') (save kit path options) (save kit' path options) := by
  apply Edit.inStep_image.bind
  intro image
  rcases image.plan_twin path options with
    ⟨cause, refused, refused'⟩ | ⟨planned, planned', made, made', twin⟩
  · rw [refused, refused']
    exact .settled _
  · rw [made, made']
    obtain ⟨words, said, format, destination, layers⟩ := twin
    apply (Edit.inStep_outside (inStep_makeParent destination)).bind
    intro ready
    apply (Edit.inStep_outside (World.inStep_run (.convert said))).bind
    intro output
    exact Edit.inStep_revise _

theorem inStep_readRendered (path : String) :
    InStep (World.Parallel kit kit') (readRendered path) (readRendered path) := by
  intro world world' same
  unfold readRendered
  rw [← same.files]
  cases world.files.read path <;> exact ⟨rfl, same⟩

theorem inStep_withScratch {α : Type} {act act' : String → Edit α} (suffix : String)
    (temp : kit.tempDir = kit'.tempDir)
    (here : ∀ path, InStep (Desk.Parallel kit kit') (act path) (act' path)) :
    InStep (Desk.Parallel kit kit') (withScratch kit suffix act)
      (withScratch kit' suffix act') := by
  unfold withScratch
  rw [← temp]
  apply (Edit.inStep_outside (World.inStep_create kit.tempDir "im" suffix)).bind
  intro file desk desk' same
  obtain ⟨equal, after⟩ := here file.path desk desk' same
  exact ⟨equal, after.image, after.world.discard file⟩

theorem inStep_get (format : String) (options : Save.Options) (temp : kit.tempDir = kit'.tempDir) :
    InStep (Desk.Parallel kit kit') (get kit format options) (get kit' format options) := by
  apply inStep_withScratch _ temp
  intro path
  exact (inStep_save (some path) _).bind fun _ => Edit.inStep_outside (inStep_readRendered path)

theorem inStep_present (format : String) (options : Save.Options) (room : Option Nat)
    (temp : kit.tempDir = kit'.tempDir) : InStep (Desk.Parallel kit kit')
      (present kit format options room) (present kit' format options room) := by
  unfold present
  cases Save.mediaType format with
  | error cause => exact .settled _
  | ok type =>
    apply (inStep_get format options temp).seq
    intro result
    cases result <;> exact .settled _

end Image

end Retouch
