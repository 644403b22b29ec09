import Retouch.Layers
import Retouch.Save.Format
import Retouch.Save.Options

/-!
The command line of one save, worked out before anything runs. Three things can stand in its way,
and are looked at in this order: no format, an animation in a format without frames, and a
compression setting that is no digit.
-/
namespace Retouch.Save

structure Request where
  convert : List String
  input : List String
  arguments : List String
  source : Option String
  layers : Layers

structure Plan where
  argv : List String
  format : String
  destination : String
  /-- What the layers are once the save has succeeded. -/
  layers : Layers
deriving DecidableEq, Repr

def digit (name : String) (value : Int32) : Except Cause Nat :=
  if 0 ≤ value.toInt && value.toInt ≤ 9 then .ok value.toInt.toNat
  else .error (.invalidArgument
    s!"{name} option should be an integer from 0 to 9, got {value.toInt}")

def jpegFormats : List String := ["jpeg", "jpg", "pjpeg"]

/-- The quality that is passed on, from the first option that applies. The two digits for the
lossless format stand side by side. -/
def compression (format : String) (options : Options) : Except Cause (Option Nat) :=
  match options.quality with
  | some quality => .ok (some quality.toNat)
  | none =>
    match options.jpegQuality, jpegFormats.contains format with
    | some quality, true => .ok (some quality.toNat)
    | _, _ =>
      if format == "png" && (options.pngLevel.isSome || options.pngFilter.isSome) then do
        let level ← digit "png_compression_level" (options.pngLevel.getD 7)
        let filter ← digit "png_compression_filter" (options.pngFilter.getD 5)
        return some (level * 10 + filter)
      else .ok none

/-- Tokens for a resolution, which needs its unit and both numbers. -/
def resolution (options : Options) : List String :=
  match options.unit, options.resolutionX, options.resolutionY with
  | some unit, some x, some y =>
    let density := s!"{x}x{y}"
    ["-units", unit.toolName, "-density", density, "-resample", density] ++
      match options.resampling.bind Filter.toolName? with
      | some name => ["-filter", name]
      | none => []
  | _, _, _ => []

/-- What a save in this format makes of the layers, whatever an earlier one made of them. -/
def layersFor (format : String) (options : Options) (layers : Layers) : Except Cause Layers :=
  let layers := layers.fresh
  if options.animated then layers.animate format options.delay (options.loops.getD 0)
  else if 1 < layers.size && options.flattens then .ok layers.merge
  else .ok layers

def plan (request : Request) (destination : String) (options : Options) : Except Cause Plan := do
  let format ← resolveFormat options.format destination request.source
  let layers ← layersFor format options request.layers
  let quality ← compression format options
  return {
    argv := request.convert ++ request.input ++ request.arguments ++ layers.tokens ++
      (match quality with
        | some value => ["-quality", toString value]
        | none => []) ++
      resolution options ++ ["-format", format, destination]
    format, destination, layers }

end Retouch.Save
