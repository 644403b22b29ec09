import Retouch.Fill
import Retouch.Json.Variant
import Retouch.Save.Options
import Retouch.Tool.Settings

/-!
How values of the library are written as JSON. Positions and sizes have required fields and pass
over others; settings and options have defaults and refuse fields they do not know.
-/
namespace Retouch.Json

def color : Reader Color := named Color.parse

def filter : Reader Filter := named Filter.parse

def interlace : Reader Interlace := named Interlace.parse

def resolutionUnit : Reader ResolutionUnit := named ResolutionUnit.parse

def palette : Reader Palette := named Palette.parse

def pointRecord : Record Point where
  initial := {}
  fields := [
    (Field.of "x" word32 fun x point => { point with x }).demanded,
    (Field.of "y" word32 fun y point => { point with y }).demanded]

def point : Reader Point := pointRecord.read .direct

def sizeRecord : Record Size where
  initial := ⟨0, 0⟩
  fields := [
    (Field.of "width" word32 fun width size => { size with width }).demanded,
    (Field.of "height" word32 fun height size => { size with height }).demanded]

def size : Reader Size := sizeRecord.read .direct

def writeColor (color : Color) : String := s!"\"{color.text}\""

def writePoint (point : Point) : String := s!"\x7b\"x\":{point.x},\"y\":{point.y}\x7d"

def writeSize (size : Size) : String := s!"\x7b\"width\":{size.width},\"height\":{size.height}\x7d"

/-- The two colors of a gradient, under these names. -/
def gradient (first second : String) : Record (Color × Color) where
  initial := (.white, .white)
  fields := [
    (Field.of first color fun value pair => (value, pair.2)).demanded,
    (Field.of second color fun value pair => (pair.1, value)).demanded]

def fill (reading : Reading) : Reader Fill :=
  oneOf reading [
    .holding "solid" color .solid,
    .holding "horizontal" ((gradient "start" "end").read reading) fun (a, b) => .horizontal a b,
    .holding "vertical" ((gradient "start" "end").read reading) fun (a, b) => .vertical a b,
    .holding "radial" ((gradient "inner" "outer").read reading) fun (a, b) => .radial a b]

def toolchain : Reader Tool.Toolchain :=
  oneOf .direct (Tool.Toolchain.all.map fun kind => .bare kind.name kind)

def settingsRecord : Record Tool.Settings where
  initial := {}
  strict := true
  fields := [
    .of "toolchain" toolchain fun toolchain settings => { settings with toolchain },
    .of "bin_dir" (optional text) fun binDir settings => { settings with binDir },
    .of "temp_dir" (optional text) fun tempDir settings => { settings with tempDir },
    .of "check_version" boolean fun checkVersion settings => { settings with checkVersion }]

def settings : Reader Tool.Settings := settingsRecord.read .direct

def optionsRecord : Record Save.Options where
  initial := {}
  strict := true
  fields := [
    .of "format" (optional text) fun format options => { options with format },
    .of "quality" (optional word32) fun quality options => { options with quality },
    .of "jpeg_quality" (optional word32) fun jpegQuality options => { options with jpegQuality },
    .of "png_compression_level" (optional integer32)
      fun pngLevel options => { options with pngLevel },
    .of "png_compression_filter" (optional integer32)
      fun pngFilter options => { options with pngFilter },
    (Field.of "resolution_units" (optional resolutionUnit)
      fun unit options => { options with unit }).spelled ["resolution-units"],
    (Field.of "resolution_x" (optional word32)
      fun resolutionX options => { options with resolutionX }).spelled ["resolution-x"],
    (Field.of "resolution_y" (optional word32)
      fun resolutionY options => { options with resolutionY }).spelled ["resolution-y"],
    (Field.of "resampling_filter" (optional filter)
      fun resampling options => { options with resampling }).spelled ["resampling-filter"],
    .of "animated" boolean fun animated options => { options with animated },
    .of "animated.delay" (optional word32) fun delay options => { options with delay },
    .of "animated.loops" (optional word32) fun loops options => { options with loops },
    .of "flatten" (optional boolean) fun flatten options => { options with flatten }]

def options : Reader Save.Options := optionsRecord.read .direct

end Retouch.Json
