import Retouch.EditScript.Step
import Retouch.Json.Schema

/-!
Edit scripts in JSON: a list of steps, each an object with its kind under `op`, or an array that
begins with the kind. The kind is looked at as soon as it is met; all else in a step is taken in
before any of it is looked at, so an error of form anywhere in a step comes before an error of
content in its fields.
-/
namespace Retouch.EditScript

open Retouch.Json (Fault Field Node Reader Record)

structure Kind where
  tag : String
  content : Reader Step

/-- A step without fields. An object may hold anything, an array nothing. -/
def Kind.bare (tag : String) (step : Step) : Kind where
  tag := tag
  content := fun
    | .array items _ => if items.isEmpty then .ok step else .error (.wrongLength items.length)
    | _ => .ok step

def Kind.holding {σ : Type} (tag : String) (record : Record σ) (make : σ → Step) : Kind where
  tag := tag
  content := fun node => (record.read .buffered node).map make

/-- A record of one field that has to be given. -/
def single {α : Type} (name : String) (read : Reader α) (initial : α) : Record α where
  initial := initial
  fields := [(Field.of name read fun value _ => value).demanded]

def cropRecord : Record (Point × Size) where
  initial := ({}, ⟨0, 0⟩)
  fields := [
    .of "x" Json.word32 fun x (point, size) => ({ point with x }, size),
    .of "y" Json.word32 fun y (point, size) => ({ point with y }, size),
    (Field.of "width" Json.word32
      fun width (point, size) => (point, { size with width })).demanded,
    (Field.of "height" Json.word32
      fun height (point, size) => (point, { size with height })).demanded]

def resizeRecord : Record (Size × Option Filter) where
  initial := (⟨0, 0⟩, none)
  fields := [
    (Field.of "width" Json.word32
      fun width (size, filter) => ({ size with width }, filter)).demanded,
    (Field.of "height" Json.word32
      fun height (size, filter) => ({ size with height }, filter)).demanded,
    .of "filter" (Json.optional Json.filter) fun filter (size, _) => (size, filter)]

def rotateRecord : Record (Binary64 × Option Color) where
  initial := (.zero false, none)
  fields := [
    (Field.of "angle" Json.double fun angle (_, background) => (angle, background)).demanded,
    .of "background" (Json.optional Json.color) fun background (angle, _) => (angle, background)]

def kinds : List Kind :=
  [.holding "crop" cropRecord fun (start, size) => .crop start size,
    .holding "resize" resizeRecord fun (size, filter) => .resize size filter,
    .holding "rotate" rotateRecord fun (angle, background) => .rotate angle background,
    .bare "flip_horizontally" .flipHorizontally,
    .bare "flip_vertically" .flipVertically,
    .bare "strip" .strip,
    .holding "interlace" (single "scheme" Json.interlace .none) .interlace,
    .holding "use_palette" (single "palette" Json.palette .rgb) .usePalette,
    .holding "fill" (single "fill" (Json.fill .buffered) (.solid .white)) .fill,
    .holding "gamma" (single "correction" Json.double (.zero false)) .gamma,
    .bare "negative" .negative,
    .bare "grayscale" .grayscale,
    .bare "sharpen" .sharpen,
    .holding "blur" (single "sigma" Json.double (.zero false)) .blur,
    .holding "brightness" (single "value" Json.double (.zero false)) .brightness,
    .bare "coalesce" .coalesce]

def kind : Reader Kind := fun node => do
  let tag ← Json.text node
  match kinds.find? (·.tag == tag) with
  | some kind => .ok kind
  | none => .error (.unknownVariant tag)

def maxDepth : Nat := 125

/-- Takes one member in: the kind, once it has been met, and the other members. -/
def takeIn (state : Option Kind × List (Node × Node)) (entry : Node × Node) :
    Except Fault (Option Kind × List (Node × Node)) :=
  match entry.1 with
  | .text key =>
    if key == "op" then
      if state.1.isSome then .error (.duplicateField key)
      else (kind entry.2).map fun found => (some found, state.2)
    else if entry.2.isReadable maxDepth then .ok (state.1, state.2 ++ [entry])
    else .error .malformed
  | _ => .error .malformed

def step : Reader Step
  | .object members closed => do
    let (found, rest) ← members.foldlM takeIn (none, [])
    if !closed then .error .malformed
    else match found with
      | some kind => kind.content (.object rest true)
      | none => .error (.missingField "op")
  | .array [] closed => .error (if closed then .missingField "op" else .malformed)
  | .array (first :: rest) closed => do
    let kind ← kind first
    if closed && rest.all (·.isReadable maxDepth) then kind.content (.array rest true)
    else .error .malformed
  | node => .error node.mismatch

def steps : Reader (List Step) := Json.each step

end Retouch.EditScript
