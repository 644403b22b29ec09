import Retouch.Image.Desk

/-!
The edits as data, over any way `ι` of naming other images, and what each does to an image. Sizes
are asked for first, the image's own before another one's, and the revision comes last.
-/
namespace Retouch

inductive Alteration (ι : Type)
  | crop (start : Point) (size : Size)
  /-- Left and right change places. -/
  | flipHorizontally
  | flipVertically
  /-- Profiles and comments go. -/
  | strip
  | resize (size : Size) (filter : Filter)
  /-- Clockwise, in degrees; the background shows in the corners. -/
  | rotate (angle : Binary64) (background : Option Color)
  | interlace (scheme : Interlace)
  | profile (profile : Profile)
  | usePalette (palette : Palette)
  | paste (other : ι) (start : Point) (alpha : UInt8)
  /-- The brightness of the mask becomes the opacity of the image. -/
  | applyMask (mask : ι)
  | fill (content : Fill)
  | effect (effect : Effect)
  | addLayer (other : ι)
  | removeLayer (index : Nat)
  /-- Every frame is given the full canvas. -/
  | coalesce

namespace Alteration

def operand? {ι : Type} : Alteration ι → Option ι
  | paste other .. => some other
  | applyMask mask => some mask
  | addLayer other => some other
  | _ => none

/-- Puts images in the place of their names, or fails where a name stands for none. -/
def resolve? {ι κ : Type} (find : ι → Option κ) : Alteration ι → Option (Alteration κ)
  | crop start size => some (crop start size)
  | flipHorizontally => some flipHorizontally
  | flipVertically => some flipVertically
  | strip => some strip
  | resize size filter => some (resize size filter)
  | rotate angle background => some (rotate angle background)
  | interlace scheme => some (interlace scheme)
  | profile data => some (profile data)
  | usePalette palette => some (usePalette palette)
  | paste other start alpha => (find other).map (paste · start alpha)
  | applyMask mask => (find mask).map applyMask
  | fill content => some (fill content)
  | effect chosen => some (effect chosen)
  | addLayer other => (find other).map addLayer
  | removeLayer index => some (removeLayer index)
  | coalesce => some coalesce

def apply (kit : Tool.Kit) : Alteration Image → Edit Unit
  | crop start size => do
    let bounds ← Image.resolve kit
    Edit.revise (Revision.crop bounds start size)
  | flipHorizontally => Edit.revise (Revision.push "-flop" [])
  | flipVertically => Edit.revise (Revision.push "-flip" [])
  | strip => Edit.revise (Revision.push "-strip" [])
  | resize size filter => Edit.revise (Revision.resize size filter)
  | rotate angle background => Edit.revise (Revision.rotate angle background)
  | interlace scheme => Edit.revise (Revision.push "-interlace" [scheme.toolName])
  | profile data => do
    let file ← Edit.outside (World.mint kit.tempDir "ip" data.data)
    Edit.revise (Revision.profile file)
  | usePalette palette => Edit.revise (Revision.usePalette palette)
  | paste other start alpha => do
    Revision.checkAlpha alpha
    let bounds ← Image.resolve kit
    let size ← Edit.outside (other.measure kit)
    Edit.revise (Revision.paste other bounds size start alpha)
  | applyMask mask => do
    let size ← Image.resolve kit
    let maskSize ← Edit.outside (mask.measure kit)
    Edit.revise (Revision.applyMask mask size maskSize)
  | fill content => do
    let size ← Image.resolve kit
    Edit.revise (Revision.fill size content)
  | effect chosen => Edit.revise (Revision.affect chosen)
  | addLayer other => Edit.revise (Revision.addLayer other)
  | removeLayer index => Edit.revise (Revision.removeLayer index)
  | coalesce => Edit.revise Revision.coalesce

end Alteration

end Retouch
