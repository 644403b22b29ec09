import Retouch.Color
import Retouch.Geometry

/-!
Content that can cover a whole image: one color, or a gradient between two.
-/
namespace Retouch

inductive Fill
  | solid (color : Color)
  /-- From left to right. -/
  | horizontal (start finish : Color)
  /-- From top to bottom. -/
  | vertical (start finish : Color)
  /-- From the center to the edge. -/
  | radial (inner outer : Color)
deriving DecidableEq, Repr

namespace Fill

def canvas (fill : Fill) (size : Size) : List String :=
  "-size" :: size.text :: match fill with
    | solid color => [s!"xc:{color.text}"]
    | horizontal start finish =>
      ["-define", "gradient:direction=East", s!"gradient:{start.text}-{finish.text}"]
    | vertical start finish => [s!"gradient:{start.text}-{finish.text}"]
    | radial inner outer => [s!"radial-gradient:{inner.text}-{outer.text}"]

end Fill

end Retouch
