import Retouch.Tool.Kit
import Retouch.Tool.Readout
import Retouch.Vocabulary

/-!
Questions that the tool answers: the palette and the frames of a file, and the size, a pixel and the
colors of an image that has not been rendered. Each is one call, whose tokens end in what is asked.
-/
namespace Retouch.Tool

namespace Kit

def identifyCall (kit : Kit) (format path : String) : Argv :=
  kit.identify ++ ["-format", format, path]

def infoCall (kit : Kit) (source : List String) (format : String) : Argv :=
  kit.convert ++ source ++ ["-format", format, "info:"]

def colorspaceCall (kit : Kit) (path : String) : Argv := kit.identifyCall "%[colorspace]\n" path

def framesCall (kit : Kit) (path : String) : Argv := kit.identifyCall "%n\n" path

def sizeCall (kit : Kit) (source : List String) : Argv := kit.infoCall source "%wx%h\n"

def pixelCall (kit : Kit) (source : List String) (point : Point) : Argv :=
  kit.infoCall source s!"%[hex:p\x7b{point.x},{point.y}\x7d]\n"

def histogramCall (kit : Kit) (source : List String) : Argv :=
  kit.convert ++ source ++ ["-format", "%c", "histogram:info:-"]

def palette (kit : Kit) (path : String) : Act Palette := do
  let output ← World.run (kit.colorspaceCall path)
  Palette.ofColorspace (Readout.firstLine output.text)

def frames (kit : Kit) (path : String) : Act UInt64 := do
  let output ← World.run (kit.framesCall path)
  Readout.frames (Readout.firstLine output.text)

def size (kit : Kit) (source : List String) : Act Size := do
  let output ← World.run (kit.sizeCall source)
  Readout.size (Readout.firstLine output.text)

def colorAt (kit : Kit) (source : List String) (point : Point) : Act Color := do
  let output ← World.run (kit.pixelCall source point)
  Readout.pixel (Readout.firstLine output.text)

def histogram (kit : Kit) (source : List String) : Act (List Color) := do
  let output ← World.run (kit.histogramCall source)
  Readout.histogram output.text

end Kit

end Retouch.Tool
