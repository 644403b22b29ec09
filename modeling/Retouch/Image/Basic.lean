import Retouch.Arguments
import Retouch.Color
import Retouch.Geometry
import Retouch.Layers
import Retouch.Metadata
import Retouch.Vocabulary

/-!
An image that has not been rendered: tokens that read its source, the arguments that change it, and
what is known about the result without asking.
-/
namespace Retouch

structure Image where
  /-- Tokens that read the source, a path or a canvas. -/
  input : List String
  /-- The file it was opened from, where a save without a path goes. -/
  source : Option String := none
  arguments : Arguments := {}
  palette : Palette
  /-- The size under all arguments, when it is known. -/
  size : Option Size := none
  layers : Layers
  notes : Metadata := {}
deriving Repr

namespace Image

def tokens (image : Image) : List String := image.input ++ image.arguments.tokens

/-- An image in one or more frames that a path leads to. -/
def ofFile (path : String) (source : Option String) (palette : Palette) (frames : UInt64)
    (notes : Metadata) : Image where
  input := [path]
  source := source
  palette := palette
  layers := .ofFrames frames
  notes := notes

/-- A blank image, white unless another color is given. -/
def canvas (size : Size) (background : Option Color) : Except Cause Image :=
  if size.isEmpty then
    .error (.invalidArgument s!"canvas size {size.text} must be positive")
  else .ok {
    input := ["-size", size.text, s!"xc:{(background.getD .white).text}"]
    palette := .rgb
    size := some size
    layers := .ofFrames 1 }

/-- A branch: later changes to either image do not reach the other. -/
def copy (image : Image) : Image := { image with layers := image.layers.fresh }

def push (image : Image) (flag : String) (values : List String) : Image :=
  { image with arguments := image.arguments.push flag values }

def attach (image : Image) (file : ScratchFile) : Image :=
  { image with arguments := image.arguments.attach file }

/-- Adds another image, with the tokens `more` after its own, as a group. -/
def group (image other : Image) (more : List String) : Image :=
  { image with
    arguments := image.arguments.group (other.tokens ++ more) other.arguments.resources }

/-- Forgets the size, so that the tool is asked for it when it is needed. -/
def resized (image : Image) (size : Option Size) : Image := { image with size }

/-- A gray branch without alpha, which can serve as a mask. -/
def mask (image : Image) : Image :=
  (image.copy.push "-modulate" ["100,0,100"]).push "-alpha" ["off"]

end Image

end Retouch
