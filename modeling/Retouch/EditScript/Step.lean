import Retouch.Binary64.Decimal
import Retouch.Image.Alteration

/-!
The steps of an edit script: the edits that need no second image, with the choices a script can
leave open. A step is shown as a record of its fields.
-/
namespace Retouch.EditScript

inductive Step
  | crop (start : Point) (size : Size)
  | resize (size : Size) (filter : Option Filter)
  | rotate (angle : Binary64) (background : Option Color)
  | flipHorizontally
  | flipVertically
  | strip
  | interlace (scheme : Interlace)
  | usePalette (palette : Palette)
  | fill (content : Fill)
  | gamma (correction : Binary64)
  | negative
  | grayscale
  | sharpen
  | blur (sigma : Binary64)
  | brightness (shift : Binary64)
  | coalesce
deriving DecidableEq, Repr

namespace Step

/-- The edit that the step asks for. A filter that is left open is left to the tool. -/
def alteration {ι : Type} : Step → Alteration ι
  | crop start size => .crop start size
  | resize size filter => .resize size (filter.getD .undefined)
  | rotate angle background => .rotate angle background
  | flipHorizontally => .flipHorizontally
  | flipVertically => .flipVertically
  | strip => .strip
  | interlace scheme => .interlace scheme
  | usePalette palette => .usePalette palette
  | fill content => .fill content
  | gamma correction => .effect (.gamma correction)
  | negative => .effect .negative
  | grayscale => .effect .grayscale
  | sharpen => .effect .sharpen
  | blur sigma => .effect (.blur sigma)
  | brightness shift => .effect (.brightness shift)
  | coalesce => .coalesce

def recordText (name : String) (fields : List (String × String)) : String :=
  let body := ", ".intercalate (fields.map fun (field, value) => s!"{field}: {value}")
  s!"{name} \x7b {body} \x7d"

def optionText : Option String → String
  | some value => s!"Some({value})"
  | none => "None"

def fillText : Fill → String
  | .solid color => s!"Solid({color.record})"
  | .horizontal start finish => gradientText "Horizontal" "start" "end" start finish
  | .vertical start finish => gradientText "Vertical" "start" "end" start finish
  | .radial inner outer => gradientText "Radial" "inner" "outer" inner outer
where
  gradientText (name first second : String) (a b : Color) : String :=
    recordText name [(first, a.record), (second, b.record)]

def text : Step → String
  | crop start size =>
    recordText "Crop" [("x", toString start.x), ("y", toString start.y),
      ("width", toString size.width), ("height", toString size.height)]
  | resize size filter =>
    recordText "Resize" [("width", toString size.width), ("height", toString size.height),
      ("filter", optionText (filter.map Filter.title))]
  | rotate angle background =>
    recordText "Rotate" [("angle", Binary64.exact.write angle),
      ("background", optionText (background.map Color.record))]
  | flipHorizontally => "FlipHorizontally"
  | flipVertically => "FlipVertically"
  | strip => "Strip"
  | interlace scheme => recordText "Interlace" [("scheme", scheme.title)]
  | usePalette palette => recordText "UsePalette" [("palette", palette.title)]
  | fill content => recordText "Fill" [("fill", fillText content)]
  | gamma correction => recordText "Gamma" [("correction", Binary64.exact.write correction)]
  | negative => "Negative"
  | grayscale => "Grayscale"
  | sharpen => "Sharpen"
  | blur sigma => recordText "Blur" [("sigma", Binary64.exact.write sigma)]
  | brightness shift => recordText "Brightness" [("value", Binary64.exact.write shift)]
  | coalesce => "Coalesce"

end Step

end Retouch.EditScript
