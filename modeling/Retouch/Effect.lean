import Retouch.Arguments
import Retouch.Binary64.Decimal
import Retouch.Color

/-!
Effects on the colors of an image, each checked and then written as tokens. The number of values
that a kernel needs is taken modulo `2 ^ 64`, as its dimensions are words.
-/
namespace Retouch

structure Kernel where
  width : UInt64
  height : UInt64
  values : List Binary64
deriving DecidableEq, Repr

def Kernel.ofValues (width height : UInt64) (values : List Binary64) : Except Cause Kernel :=
  let wanted := width * height
  if width == 0 || height == 0 || values.length != wanted.toNat then
    .error (.invalidArgument
      s!"kernel of {width}x{height} needs {wanted} values, got {values.length}")
  else .ok ⟨width, height, values⟩

inductive Effect
  | gamma (correction : Binary64)
  | negative
  | grayscale
  /-- Every pixel takes on the color. -/
  | colorize (color : Color)
  | sharpen
  | blur (sigma : Binary64)
  /-- A shift in percent, rounded to a whole number. -/
  | brightness (shift : Binary64)
  | convolve (kernel : Kernel)
deriving DecidableEq, Repr

namespace Effect

def checkGamma (correction : Binary64) : Except Cause Unit :=
  refuseIf (!correction.isPositive)
    (.invalidArgument s!"gamma correction must be positive, got {correction.text}")

def checkBlur (sigma : Binary64) : Except Cause Unit :=
  refuseIf (!sigma.isNonnegative)
    (.invalidArgument s!"blur sigma must be non-negative, got {sigma.text}")

/-- The whole percentage that a shift comes to. -/
def percentage (shift : Binary64) : Except Cause Int :=
  let refused :=
    Cause.invalidArgument s!"brightness can range from -100 to 100, got {shift.rounded.text}"
  match shift.round? with
  | none => .error refused
  | some percent => if -100 ≤ percent && percent ≤ 100 then .ok percent else .error refused

def checkConvolve (kernel : Kernel) : Except Cause Unit :=
  refuseIf (kernel.width != 3 || kernel.height != 3)
    (.invalidArgument
      s!"a convolution matrix must be 3x3 ({kernel.width}x{kernel.height} provided)")

def apply : Effect → Draft Unit
  | gamma correction => do
    checkGamma correction
    Draft.push "-gamma" [correction.text]
  | negative => Draft.push "-negate" []
  | grayscale => Draft.push "-colorspace" ["Gray"]
  | colorize color => do
    Draft.push "-fill" [color.text]
    Draft.push "-colorize" ["100"]
  | sharpen => Draft.push "-sharpen" ["2x1"]
  | blur sigma => do
    checkBlur sigma
    Draft.push "-gaussian-blur" [s!"0x{sigma.text}"]
  | brightness shift => do
    let percent ← percentage shift
    Draft.push "-brightness-contrast" [s!"{percent}x0"]
  | convolve kernel => do
    checkConvolve kernel
    Draft.push "-convolve" [",".intercalate (kernel.values.map Binary64.text)]

end Effect

end Retouch
