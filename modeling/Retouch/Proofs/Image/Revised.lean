import Retouch.Image.Alteration
import Retouch.Proofs.Effect.Written

/-!
What a revision comes to. Either the check it begins with objects, and nothing has been appended, or
all of it is done, which `Alteration.outcome` says one component of the image at a time.
-/
namespace Retouch

namespace Alteration
variable {ι : Type}

/-- The tokens that an edit appends to an image in a palette. -/
@[simp] def appended (palette : Palette) (own : Size) (file : ScratchFile) :
    Alteration Image → List String
  | crop start size => ["-crop", size.text ++ start.offset]
  | flipHorizontally => ["-flop"]
  | flipVertically => ["-flip"]
  | strip => ["-strip"]
  | resize size filter =>
    ["-resize", size.text] ++ match filter.toolName? with
      | some name => ["-filter", name]
      | none => []
  | rotate angle background =>
    (match background with
      | some color => ["-background", color.text]
      | none => []) ++ ["-rotate", angle.text]
  | interlace scheme => ["-interlace", scheme.toolName]
  | profile _ => ["-profile", file.path]
  | usePalette target =>
    if palette = target then [] else ["-type", target.matteType, "-colorspace", target.colorspace]
  | paste other start alpha =>
    "(" :: other.tokens ++ [")", "-geometry", start.offset] ++
      (if alpha == 100 then ["-compose", "Over"]
        else ["-compose", "Dissolve", "-define", s!"compose:args={alpha}"]) ++ ["-composite"]
  | applyMask mask =>
    "(" :: mask.tokens ++ ["-alpha", "off", ")", "-alpha", "off", "-compose", "CopyOpacity",
      "-composite"]
  | fill content => "(" :: content.canvas own ++ [")", "-compose", "Over", "-composite"]
  | effect chosen => chosen.appended
  | addLayer other => "(" :: other.tokens ++ [")"]
  | removeLayer index => ["-delete", toString index]
  | coalesce => ["-coalesce"]

/-- The temporary files that the image holds after an edit, besides those it held before. -/
@[simp] def adopted (file : ScratchFile) : Alteration Image → List ScratchFile
  | profile _ => [file]
  | paste other .. | applyMask other | addLayer other => other.arguments.resources
  | _ => []

@[simp] def paletteAfter (palette : Palette) : Alteration ι → Palette
  | usePalette target => target
  | _ => palette

/-- The size known after an edit: the one resized to, none where the edit may change it, and else
the one known before. -/
@[simp] def sizeAfter (size : Option Size) : Alteration ι → Option Size
  | resize target _ => some target
  | crop .. | rotate .. | removeLayer _ | coalesce => none
  | _ => size

@[simp] def layersAfter (layers : Layers) : Alteration Image → Layers
  | addLayer other => layers.append other.layers
  | removeLayer _ => layers.removed
  | _ => layers

def outcome (own : Size) (file : ScratchFile) (image : Image) (edit : Alteration Image) : Image :=
  { image with
    arguments :=
      ⟨image.arguments.tokens ++ edit.appended image.palette own file,
        image.arguments.resources ++ edit.adopted file⟩
    palette := edit.paletteAfter image.palette
    size := edit.sizeAfter image.size
    layers := edit.layersAfter image.layers }

theorem tokens_outcome (own : Size) (file : ScratchFile) (image : Image)
    (edit : Alteration Image) : (edit.outcome own file image).tokens =
      image.tokens ++ edit.appended image.palette own file := by
  simp only [outcome, Image.tokens, List.append_assoc]

/-- The edits after which a size that was known still is. -/
def keepsSize : Alteration ι → Bool
  | crop .. | resize .. | rotate .. | removeLayer _ | coalesce => false
  | _ => true

theorem sizeAfter_eq {edit : Alteration ι} (keeps : edit.keepsSize = true) (size : Option Size) :
    edit.sizeAfter size = size := by
  cases edit <;> first | rfl | cases keeps

end Alteration

namespace Revision

/-- How a revision ends, once it is known what its checks come to. -/
def ended (objection : Except Cause Unit) (before after : Image) : Except Cause Unit × Image :=
  match objection with
  | .ok _ => (.ok (), after)
  | .error cause => (.error cause, before)

/-- A revision that makes its check before anything else. -/
theorem checked {objection : Except Cause Unit} {rest : Revision Unit} {image out : Image}
    (done : rest image = (.ok (), out)) :
    ((liftM objection : Revision Unit) >>= fun _ => rest) image = ended objection image out := by
  rw [Stepwise.bind_checked]
  cases objection with
  | ok _ => exact done
  | error cause => rfl

theorem bind_update {α : Type} (next : Image → Image) (rest : Unit → Revision α) (image : Image) :
    (update next >>= rest) image = rest () (next image) := Stepwise.bind_apply _ _ image

theorem bind_push {α : Type} (flag : String) (values : List String) (rest : Unit → Revision α)
    (image : Image) : (push flag values >>= rest) image = rest () (image.push flag values) :=
  bind_update _ rest image

theorem bind_get {α : Type} (rest : Image → Revision α) (image : Image) :
    (get >>= rest : Revision α) image = rest image image := Stepwise.bind_apply _ _ image

variable (own : Size) (file : ScratchFile) (image : Image)

theorem crop_eq (bounds : Size) (start : Point) (size : Size) :
    crop bounds start size image = ended (checkCrop bounds start size) image
      ((Alteration.crop start size).outcome own file image) := by
  apply checked
  rw [bind_push]
  simp [forgetSize, update, Alteration.outcome, Image.push, Image.resized, Arguments.push]

theorem resize_eq (size : Size) (filter : Filter) :
    resize size filter image = ended (checkResize size) image
      ((Alteration.resize size filter).outcome own file image) := by
  apply checked
  rw [bind_push]
  cases named : filter.toolName? with
  | none =>
    simp [update, named, Alteration.outcome, Image.push, Image.resized, Arguments.push]
  | some name =>
    simp only [bind_push]
    simp [update, named, Alteration.outcome, Image.push, Image.resized, Arguments.push]

theorem rotate_eq (angle : Binary64) (background : Option Color) :
    rotate angle background image = ended (checkAngle angle) image
      ((Alteration.rotate angle background).outcome own file image) := by
  apply checked
  cases background with
  | none =>
    simp only [bind_push]
    simp [forgetSize, update, Alteration.outcome, Image.push, Image.resized, Arguments.push]
  | some color =>
    simp only [bind_push]
    simp [forgetSize, update, Alteration.outcome, Image.push, Image.resized, Arguments.push]

theorem profile_eq (data : Profile) :
    profile file image = (.ok (), (Alteration.profile data).outcome own file image) := by
  unfold profile
  rw [bind_push]
  simp [update, Alteration.outcome, Image.push, Image.attach, Arguments.push, Arguments.attach]

theorem usePalette_eq (palette : Palette) :
    usePalette palette image =
      (.ok (), (Alteration.usePalette palette).outcome own file image) := by
  unfold usePalette
  rw [bind_get]
  by_cases same : image.palette = palette
  · subst same
    simp [Alteration.outcome]
    rfl
  · simp only [same, if_false, bind_push]
    simp [update, same, Alteration.outcome, Image.push, Arguments.push]

theorem paste_eq (other : Image) (bounds size : Size) (start : Point) (alpha : UInt8) :
    paste other bounds size start alpha image = ended (checkPaste bounds size start) image
      ((Alteration.paste other start alpha).outcome own file image) := by
  apply checked
  by_cases full : alpha = 100
  · simp only [full, beq_self_eq_true, if_true, group, compose, bind_update, bind_push]
    simp [push, update, Alteration.outcome, Image.push, Image.group, Arguments.push,
      Arguments.group]
  · simp only [beq_eq_false_iff_ne.mpr full, Bool.false_eq_true, if_false, group, compose,
      bind_update, bind_push]
    simp [push, update, full, Alteration.outcome, Image.push, Image.group, Arguments.push,
      Arguments.group]

theorem applyMask_eq (mask : Image) (size maskSize : Size) :
    applyMask mask size maskSize image = ended (checkMask size maskSize) image
      ((Alteration.applyMask mask).outcome own file image) := by
  apply checked
  simp only [group, compose, bind_update, bind_push]
  simp [push, update, Alteration.outcome, Image.push, Image.group, Arguments.push,
    Arguments.group]

theorem fill_eq (content : Fill) :
    fill own content image = (.ok (), (Alteration.fill content).outcome own file image) := by
  unfold fill
  simp only [compose, bind_update, bind_push]
  simp [push, update, Alteration.outcome, Image.push, Arguments.push, Arguments.group]

theorem affect_eq (effect : Effect) :
    affect effect image =
      ended effect.check image ((Alteration.effect effect).outcome own file image) := by
  unfold affect
  rw [Effect.apply_eq]
  cases effect.check with
  | ok _ => simp [ended, Alteration.outcome]
  | error cause => rfl

theorem addLayer_eq (other : Image) :
    addLayer other image = (.ok (), (Alteration.addLayer other).outcome own file image) := by
  unfold addLayer
  simp only [group, bind_update]
  simp [update, Alteration.outcome, Image.group, Arguments.group]

theorem removeLayer_eq (index : Nat) :
    removeLayer index image = ended (image.layers.checkRemovable index) image
      ((Alteration.removeLayer index).outcome own file image) := by
  unfold removeLayer
  rw [bind_get]
  apply checked
  simp only [bind_push, bind_update]
  simp [forgetSize, update, Alteration.outcome, Image.push, Image.resized, Arguments.push]

/-- Any edit that only writes a flag. -/
theorem push_eq {edit : Alteration Image} {flag : String} {values : List String}
    (appended : edit.appended image.palette own file = flag :: values)
    (adopted : edit.adopted file = []) (palette : edit.paletteAfter image.palette = image.palette)
    (size : edit.sizeAfter image.size = image.size)
    (layers : edit.layersAfter image.layers = image.layers) :
    push flag values image = (.ok (), edit.outcome own file image) := by
  simp only [push, update, Alteration.outcome, appended, adopted, palette, size, layers,
    List.append_nil]
  rfl

theorem coalesce_eq :
    coalesce image = (.ok (), (Alteration.coalesce).outcome own file image) := by
  unfold coalesce
  rw [bind_push]
  simp [forgetSize, update, Alteration.outcome, Image.push, Image.resized, Arguments.push]

end Revision

end Retouch
