import Retouch.Proofs.Image.Course
import Retouch.Proofs.Tool.Answer
import Retouch.Proofs.Tool.FirstLine
import Retouch.Tool.Script

/-!
What one answer of the tool tells. Whichever the question was, the first line that is not blank
decides; and an image that cannot read its size in the answer is left as it was.
-/
namespace Retouch

/-- The edit comes to ask for the size of the image. -/
def Alteration.measures {ι : Type} : Alteration ι → Bool
  | crop .. | applyMask _ | fill _ => true
  | paste _ _ alpha => !(100 < alpha)
  | _ => false

/-- It fails with the cause, and the image is the one before. -/
def Edit.Declines {α : Type} (edit : Edit α) (desk : Desk) (cause : Cause) : Prop :=
  (edit desk).1 = .error cause ∧ (edit desk).2.image = desk.image

namespace Image
variable {kit : Tool.Kit} {image : Image} {world : World}

theorem measure_asked (unknown : image.size = none) :
    image.measure kit world = kit.size image.tokens world := by
  unfold measure
  rw [unknown]

theorem resolve_asked (unknown : image.size = none) :
    (resolve kit ⟨image, world⟩).1 = (kit.size image.tokens world).1 := by
  rw [resolve_eq, measure_asked unknown]
  rcases kit.size image.tokens world with ⟨_ | size, after⟩ <;> rfl

section Failed
variable {cause : Cause} {after : World} (failed : image.measure kit world = (.error cause, after))
include failed

theorem resolve_declines : (resolve kit).Declines ⟨image, world⟩ cause := by
  unfold Edit.Declines
  rw [resolve_eq, failed]
  exact ⟨rfl, rfl⟩

theorem colorAt_declines (point : Point) : (colorAt kit point).Declines ⟨image, world⟩ cause := by
  unfold Edit.Declines colorAt
  rw [Edit.bind_resolve, failed]
  exact ⟨rfl, rfl⟩

theorem apply_declines {edit : Alteration Image} (measures : edit.measures = true) :
    (edit.apply kit).Declines ⟨image, world⟩ cause := by
  unfold Edit.Declines
  cases edit with
  | crop | applyMask | fill =>
    simp only [Alteration.apply, Edit.bind_resolve, failed, and_self]
  | paste other start alpha =>
    have small : ¬100 < alpha := by simpa [Alteration.measures] using measures
    have passed : Revision.checkAlpha alpha = .ok () := by
      rw [Revision.checkAlpha, decide_eq_false small, refuseIf_false]
    simp only [Alteration.apply, Stepwise.bind_checked, passed, Edit.bind_resolve, failed, and_self]
  | _ => cases measures

end Failed

open Tool.Readout

section Told
variable {output : Tool.Output} (unknown : image.size = none)
  (told : world.Tells (kit.sizeCall image.tokens) output)
include unknown told

theorem resolve_told :
    (resolve kit ⟨image, world⟩).1 = Tool.Readout.size (firstLine output.text) := by
  rw [resolve_asked unknown, Tool.Kit.size_told told]

theorem measure_refused {cause : Cause}
    (refused : Tool.Readout.size (firstLine output.text) = .error cause) :
    image.measure kit world = (.error cause, (kit.size image.tokens world).2) := by
  rw [measure_asked unknown, ← refused, ← Tool.Kit.size_told told]
  rfl

end Told

/-- What the questions come to when the tool answers with the output, of which one line counts. -/
structure ReadsLine (kit : Tool.Kit) (world : World) (output : Tool.Output) (line : String) :
    Prop where
  palette : ∀ path, world.Tells (kit.colorspaceCall path) output →
    (kit.palette path world).1 = Palette.ofColorspace line
  frames : ∀ path, world.Tells (kit.framesCall path) output →
    Exact (fun count => Text.Numeral 0x10000000000000000 line.toList count.toNat) "frame count"
      line (kit.frames path world).1
  color : ∀ source point, world.Tells (kit.pixelCall source point) output →
    (kit.colorAt source point world).1 = pixel line
  size : ∀ source, world.Tells (kit.sizeCall source) output →
    Exact (Measures line.toList) "WxH" line (kit.size source world).1
  resolved : ∀ image : Image, image.size = none →
    world.Tells (kit.sizeCall image.tokens) output →
    Exact (Measures line.toList) "WxH" line (resolve kit ⟨image, world⟩).1
  declined : ∀ image : Image, image.size = none →
    world.Tells (kit.sizeCall image.tokens) output → (∀ size, ¬Measures line.toList size) →
    let cause := Cause.externalTool "unexpected output" s!"expected WxH, got '{line}'"
    (resolve kit).Declines ⟨image, world⟩ cause ∧
      (∀ point, (colorAt kit point).Declines ⟨image, world⟩ cause) ∧
      ∀ edit : Alteration Image, edit.measures = true →
        (edit.apply kit).Declines ⟨image, world⟩ cause

theorem readsLine_firstLine (kit : Tool.Kit) (world : World) (output : Tool.Output) :
    ReadsLine kit world output (firstLine output.text) where
  palette path := Tool.Kit.palette_told
  frames path told := by
    rw [Tool.Kit.frames_told told]
    exact frames_exact _
  color source point := Tool.Kit.colorAt_told
  size source told := by
    rw [Tool.Kit.size_told told]
    exact size_exact _
  resolved image unknown told := by
    rw [resolve_told unknown told]
    exact size_exact _
  declined image unknown told unread := by
    have refused := (size_exact (firstLine output.text)).2.resolve_left (not_exists.mpr unread)
    have failed := measure_refused unknown told refused
    exact ⟨resolve_declines failed, colorAt_declines failed, fun edit => apply_declines failed⟩

theorem answers_read_line (output : Tool.Output) : ∃ line : String,
    (∀ other, Text.Leads output.text.toList other ↔ other = line.toList) ∧
    (∀ kit world, ReadsLine kit world output line) ∧
    ∀ (size : Size) (gap : String) (later : Bytes),
      (∀ c ∈ gap.toList, Text.isBlank c = true) → EndsLine later →
      output.stdout = Text.Utf8.encode gap ++ (Text.Utf8.encode size.text ++ later) →
      ∀ (kit : Tool.Kit) (world : World) (source : List String),
        world.Tells (kit.sizeCall source) output → (kit.size source world).1 = .ok size := by
  refine ⟨firstLine output.text, fun other => ⟨fun leads => (firstLine_of_leads leads).symm, ?_⟩,
    fun kit world => readsLine_firstLine kit world output, ?printed⟩
  · intro same
    rw [same]
    exact leads_firstLine output.text
  case printed =>
    intro size gap later blanks ends printed kit world source told
    rw [Tool.Kit.size_told told, Tool.Output.text, printed]
    exact size.read_among blanks ends

/-- Blanks of all kinds around a size with a sign and a leading zero, one line for each of three
frames, and a size that cannot be read. -/
theorem answers_read_line_frames :
    let kit : Tool.Kit := ⟨["convert"], ["identify"], "systmp"⟩
    let photo : Image := .ofFile "a.gif" none .rgb 3 {}
    let saying (text : String) : Tool.Output := .ok (Text.Utf8.encode text)
    let world (text : String) : World := { tool := Tool.steady (.ran (saying text) []) }
    let padded := "\u3000\r\n\t\n 640 x +0480\u00a0\r\n9x9\n"
    let wordy := "640xtall\n640x480\n"
    let cause := Cause.externalTool "unexpected output" "expected WxH, got '640xtall'"
    (Text.Leads (saying padded).text.toList "640 x +0480".toList ∧
      (kit.size photo.tokens (world padded)).1 = .ok ⟨640, 480⟩) ∧
    (kit.size photo.tokens (world "\n100x50\r\n100x50\r\n")).1 = .ok ⟨100, 50⟩ ∧
    (kit.frames "a.gif" (world "3\n3\n3\n")).1 = .ok 3 ∧
    (resolve kit).Declines ⟨photo, world wordy⟩ cause ∧
    ((Alteration.crop ⟨0, 0⟩ ⟨1, 1⟩).apply kit).Declines ⟨photo, world wordy⟩ cause := by
  intro kit photo saying world padded wordy cause
  have said (text : String) : (saying text).text = text := Text.Utf8.lossy_encode text
  -- The line is what the theorem says it is, once it is known to lead the output.
  have line {text led : String} (first : firstLine text = led) :
      Text.Leads (saying text).text.toList led.toList := by
    rw [said]
    exact firstLine_eq_iff.mp first
  refine ⟨?padded, ?framed, ?counted, ?refused⟩
  case padded =>
    obtain ⟨led, only, reads, -⟩ := answers_read_line (saying padded)
    have leads : Text.Leads (saying padded).text.toList "640 x +0480".toList :=
      line (by decide +kernel)
    obtain rfl := String.toList_injective ((only _).mp leads)
    refine ⟨leads, ((reads kit (world padded)).size photo.tokens rfl).1 _ |>.mpr ?_⟩
    exact size?_eq_some.mp (by decide +kernel)
  case framed =>
    obtain ⟨led, -, -, back⟩ := answers_read_line (saying "\n100x50\r\n100x50\r\n")
    have blank : ∀ c ∈ "\n".toList, Text.isBlank c = true := List.forall_mem_singleton.mpr rfl
    have printed : Text.Utf8.encode "\n100x50\r\n100x50\r\n" = Text.Utf8.encode "\n" ++
        (Text.Utf8.encode (⟨100, 50⟩ : Size).text ++
          0x0D :: 0x0A :: Text.Utf8.encode "100x50\r\n") := by decide +kernel
    exact back ⟨100, 50⟩ "\n" _ blank (.carriage _) printed kit (world _) photo.tokens rfl
  case counted =>
    obtain ⟨led, only, reads, -⟩ := answers_read_line (saying "3\n3\n3\n")
    obtain rfl := String.toList_injective ((only _).mp (line (by decide +kernel : _ = "3")))
    exact ((reads kit (world _)).frames "a.gif" rfl).1 3 |>.mpr
      (Text.unsigned?_eq_some.mp (by decide +kernel))
  case refused =>
    obtain ⟨led, only, reads, -⟩ := answers_read_line (saying wordy)
    obtain rfl := String.toList_injective ((only _).mp (line (by decide +kernel : _ = "640xtall")))
    have unread (size : Size) : ¬Measures "640xtall".toList size := by
      rw [← size?_eq_some]
      have nothing : size? "640xtall".toList = none := by decide +kernel
      rw [nothing]
      exact nofun
    have refused := (reads kit (world wordy)).declined photo rfl rfl unread
    exact ⟨refused.1, refused.2.2 _ rfl⟩

end Image

end Retouch
