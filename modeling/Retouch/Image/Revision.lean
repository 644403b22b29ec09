import Retouch.Effect
import Retouch.Fill
import Retouch.Image.Basic

/-!
Changes to an image, given the sizes they depend on. Each checks what it is given and then appends
flags and groups, one after the other: nothing takes back what an earlier step has done.
-/
namespace Retouch

abbrev Revision := Stepwise Image

namespace Revision

def update (next : Image → Image) : Revision Unit := fun image => (.ok (), next image)

def push (flag : String) (values : List String) : Revision Unit := update (·.push flag values)

/-- Appends another image, with the tokens `more` after its own, as a group. -/
def group (other : Image) (more : List String) : Revision Unit := update (·.group other more)

def compose (mode : String) : Revision Unit := push "-compose" [mode]

def forgetSize : Revision Unit := update (·.resized none)

def checkCrop (bounds : Size) (start : Point) (size : Size) : Except Cause Unit :=
  refuseIf (size.isEmpty || !start.isIn bounds || !bounds.contains size start)
    (.outOfRange (s!"crop {size.text}{start.offset} must start inside and stay " ++
      s!"within the {bounds.text} image"))

def crop (bounds : Size) (start : Point) (size : Size) : Revision Unit := do
  checkCrop bounds start size
  push "-crop" [size.text ++ start.offset]
  forgetSize

def checkResize (size : Size) : Except Cause Unit :=
  refuseIf size.isEmpty (.invalidArgument s!"resize target {size.text} must be positive")

def resize (size : Size) (filter : Filter) : Revision Unit := do
  checkResize size
  push "-resize" [size.text]
  match filter.toolName? with
  | some name => push "-filter" [name]
  | none => pure ()
  update (·.resized (some size))

def checkAngle (angle : Binary64) : Except Cause Unit :=
  refuseIf (!angle.isFinite)
    (.invalidArgument s!"rotation angle must be finite, got {angle.text}")

def rotate (angle : Binary64) (background : Option Color) : Revision Unit := do
  checkAngle angle
  match background with
  | some color => push "-background" [color.text]
  | none => pure ()
  push "-rotate" [angle.text]
  forgetSize

/-- The profile is read from a file that lasts as long as the arguments do. -/
def profile (file : ScratchFile) : Revision Unit := do
  push "-profile" [file.path]
  update (·.attach file)

/-- An image that is in the palette already is left as it is. -/
def usePalette (palette : Palette) : Revision Unit := do
  unless (← get).palette = palette do
    push "-type" [palette.matteType]
    push "-colorspace" [palette.colorspace]
    update ({ · with palette })

def checkAlpha (alpha : UInt8) : Except Cause Unit :=
  refuseIf (100 < alpha)
    (.invalidArgument s!"paste alpha must be a percentage from 0 to 100, got {alpha}")

def checkPaste (bounds size : Size) (start : Point) : Except Cause Unit :=
  refuseIf (!bounds.contains size start)
    (.outOfRange (s!"cannot paste a {size.text} image at {start.offset}, it moves " ++
      s!"outside the {bounds.text} image"))

def paste (other : Image) (bounds size : Size) (start : Point) (alpha : UInt8) :
    Revision Unit := do
  checkPaste bounds size start
  group other []
  push "-geometry" [start.offset]
  if alpha == 100 then compose "Over"
  else
    compose "Dissolve"
    push "-define" [s!"compose:args={alpha}"]
  push "-composite" []

def checkMask (size maskSize : Size) : Except Cause Unit :=
  refuseIf (size != maskSize)
    (.invalidArgument (s!"the mask is {maskSize.text} while the image is {size.text}; " ++
      "sizes must match"))

def applyMask (mask : Image) (size maskSize : Size) : Revision Unit := do
  checkMask size maskSize
  group mask ["-alpha", "off"]
  push "-alpha" ["off"]
  compose "CopyOpacity"
  push "-composite" []

def fill (size : Size) (fill : Fill) : Revision Unit := do
  update fun image => { image with arguments := image.arguments.group (fill.canvas size) [] }
  compose "Over"
  push "-composite" []

def affect (effect : Effect) : Revision Unit := fun image =>
  let (result, arguments) := effect.apply image.arguments
  (result, { image with arguments })

/-- Every frame of the other image comes after the frames of this one. -/
def addLayer (other : Image) : Revision Unit := do
  group other []
  update fun image => { image with layers := image.layers.append other.layers }

/-- The first frame, whose size counts, may be another one now. -/
def removeLayer (index : Nat) : Revision Unit := do
  (← get).layers.checkRemovable index
  push "-delete" [toString index]
  update fun image => { image with layers := image.layers.removed }
  forgetSize

def coalesce : Revision Unit := do
  push "-coalesce" []
  forgetSize

end Revision

end Retouch
