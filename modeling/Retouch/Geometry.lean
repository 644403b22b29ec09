/-!
Positions and sizes in pixels, counted from the top-left corner. Sums are taken in `Nat`, so a box
that runs past the largest coordinate is never inside anything.
-/
namespace Retouch

structure Point where
  x : UInt32 := 0
  y : UInt32 := 0
deriving DecidableEq, Repr

structure Size where
  width : UInt32
  height : UInt32
deriving DecidableEq, Repr

namespace Point

def isIn (point : Point) (size : Size) : Bool :=
  point.x < size.width && point.y < size.height

def offset (point : Point) : String := s!"+{point.x}+{point.y}"

end Point

namespace Size

def isEmpty (size : Size) : Bool := size.width == 0 || size.height == 0

/-- The box of size `inner` whose corner is at `start` does not leave the canvas. -/
def contains (outer inner : Size) (start : Point) : Bool :=
  start.x.toNat + inner.width.toNat ≤ outer.width.toNat &&
    start.y.toNat + inner.height.toNat ≤ outer.height.toNat

def text (size : Size) : String := s!"{size.width}x{size.height}"

end Size

end Retouch
