import Retouch.Cause
import Retouch.Text.Blank

/-!
The closed vocabularies of the tool: filters, interlace schemes, resolution units and palettes.
Each value has the key it is chosen by and the name the tool knows it by; keys are read in any
ASCII case with blanks around them, and a refused text is quoted as it was given.
-/
namespace Retouch

/-- The value whose key the text is, once trimmed and in lower case. -/
def choose {α : Type} (keys : List (String × α)) (kind : Unsupported) (s : String) :
    Except Cause α :=
  match keys.lookup (Text.lowercase (Text.trim s)) with
  | some value => .ok value
  | none => .error (.unsupported kind s)

inductive Filter
  | undefined
  | bessel
  | blackman
  | box
  | catrom
  | cubic
  | gaussian
  | hanning
  | hamming
  | hermite
  | lanczos
  | mitchell
  | point
  | quadratic
  | sinc
  | triangle
deriving DecidableEq, Repr

namespace Filter

def all : List Filter :=
  [undefined, bessel, blackman, box, catrom, cubic, gaussian, hanning, hamming, hermite, lanczos,
    mitchell, point, quadratic, sinc, triangle]

def title : Filter → String
  | undefined => "Undefined"
  | bessel => "Bessel"
  | blackman => "Blackman"
  | box => "Box"
  | catrom => "Catrom"
  | cubic => "Cubic"
  | gaussian => "Gaussian"
  | hanning => "Hanning"
  | hamming => "Hamming"
  | hermite => "Hermite"
  | lanczos => "Lanczos"
  | mitchell => "Mitchell"
  | point => "Point"
  | quadratic => "Quadratic"
  | sinc => "Sinc"
  | triangle => "Triangle"

def key (filter : Filter) : String := Text.lowercase filter.title

/-- The tool calls the Bessel filter by its window. The undefined filter leaves the choice to it. -/
def toolName? : Filter → Option String
  | undefined => none
  | bessel => some "Kaiser"
  | filter => some filter.title

def parse : String → Except Cause Filter := choose (all.map fun f => (f.key, f)) .option

end Filter

inductive Interlace
  | none
  | line
  | plane
  | partition
deriving DecidableEq, Repr

namespace Interlace

def toolName : Interlace → String
  | none => "none"
  | line => "line"
  | plane => "plane"
  | partition => "partition"

def title : Interlace → String
  | none => "None"
  | line => "Line"
  | plane => "Plane"
  | partition => "Partition"

def parse : String → Except Cause Interlace :=
  choose ([none, line, plane, partition].map fun s => (s.toolName, s)) .option

end Interlace

inductive ResolutionUnit
  | perCentimeter
  | perInch
deriving DecidableEq, Repr

namespace ResolutionUnit

def toolName : ResolutionUnit → String
  | perCentimeter => "PixelsPerCentimeter"
  | perInch => "PixelsPerInch"

def parse : String → Except Cause ResolutionUnit :=
  choose [("ppc", perCentimeter), ("ppi", perInch), ("pixelspercentimeter", perCentimeter),
    ("pixelsperinch", perInch)] .unit

end ResolutionUnit

inductive Palette
  | rgb
  | cmyk
  | gray
deriving DecidableEq, Repr

namespace Palette

def name : Palette → String
  | rgb => "rgb"
  | cmyk => "cmyk"
  | gray => "gray"

def title : Palette → String
  | rgb => "Rgb"
  | cmyk => "Cmyk"
  | gray => "Grayscale"

def colorspace : Palette → String
  | rgb => "sRGB"
  | cmyk => "CMYK"
  | gray => "Gray"

/-- The image type that keeps the alpha channel. -/
def matteType : Palette → String
  | gray => "GrayscaleMatte"
  | _ => "TrueColorMatte"

def parse : String → Except Cause Palette :=
  choose [("rgb", rgb), ("cmyk", cmyk), ("gray", gray), ("grayscale", gray)] .palette

/-- The palette of a colorspace as the tool reports it. Here the case of letters counts. -/
def ofColorspace (s : String) : Except Cause Palette :=
  match [("RGB", rgb), ("sRGB", rgb), ("CMYK", cmyk), ("Gray", gray)].lookup (Text.trim s) with
  | some palette => .ok palette
  | none => .error (.unsupported .colorspace (Text.trim s))

end Palette

end Retouch
