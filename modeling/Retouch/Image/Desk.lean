import Retouch.Image.Revision
import Retouch.Profile
import Retouch.Tool.Probe

/-!
Working on one image, in a world that it can ask about itself.
-/
namespace Retouch

structure Desk where
  image : Image
  world : World

abbrev Edit := Stepwise Desk

namespace Edit

def image : Edit Image := do return (← get).image

def outside {α : Type} (act : Act α) : Edit α := fun desk =>
  let (result, world) := act desk.world
  (result, { desk with world })

def revise {α : Type} (revision : Revision α) : Edit α := fun desk =>
  let (result, image) := revision desk.image
  (result, { desk with image })

end Edit

namespace Image

def measure (kit : Tool.Kit) (image : Image) : Act Size :=
  match image.size with
  | some size => return size
  | none => kit.size image.tokens

/-- The size of the image at hand, known from here on. -/
def resolve (kit : Tool.Kit) : Edit Size := do
  let size ← Edit.outside (measure kit (← Edit.image))
  Edit.revise (Revision.update (·.resized (some size)))
  return size

def colorAt (kit : Tool.Kit) (point : Point) : Edit Color := do
  let size ← resolve kit
  if point.isIn size then Edit.outside (kit.colorAt (← Edit.image).tokens point)
  else throw (.outOfRange s!"point {point.offset} is outside the {size.text} image")

def histogram (kit : Tool.Kit) : Edit (List Color) := do
  Edit.outside (kit.histogram (← Edit.image).tokens)

end Image

end Retouch
