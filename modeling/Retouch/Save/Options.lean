import Retouch.Vocabulary

/-!
What a caller asks of one save. An option that is not given stays absent; which ones count for a
format is decided by the plan.
-/
namespace Retouch.Save

structure Options where
  /-- An output format that wins over the extension of the destination. -/
  format : Option String := none
  quality : Option UInt32 := none
  jpegQuality : Option UInt32 := none
  pngLevel : Option Int32 := none
  pngFilter : Option Int32 := none
  unit : Option ResolutionUnit := none
  resolutionX : Option UInt32 := none
  resolutionY : Option UInt32 := none
  resampling : Option Filter := none
  animated : Bool := false
  /-- The delay between frames, in milliseconds. -/
  delay : Option UInt32 := none
  /-- How often an animation runs; zero is without end. -/
  loops : Option UInt32 := none
  /-- Whether the frames become one. -/
  flatten : Option Bool := none
deriving DecidableEq, Repr

namespace Options

/-- Frames are merged unless that is ruled out. -/
def flattens (options : Options) : Bool := options.flatten != some false

def withResolution (options : Options) (unit : ResolutionUnit) (x y : UInt32) : Options :=
  { options with unit := some unit, resolutionX := some x, resolutionY := some y }

def withAnimation (options : Options) (delay loops : Option UInt32) : Options :=
  { options with animated := true, delay, loops }

end Options

end Retouch.Save
