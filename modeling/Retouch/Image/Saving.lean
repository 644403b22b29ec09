import Retouch.Image.Desk
import Retouch.Save.Plan

/-!
Rendering: one call of the tool for each save. A plan that cannot be made stops a save before
anything is touched, and a render that fails leaves the image as it was.
-/
namespace Retouch.Image

def noDestination : Cause :=
  .precondition "a save path can only be omitted for images opened from a file"

def request (kit : Tool.Kit) (image : Image) : Save.Request where
  convert := kit.convert
  input := image.input
  arguments := image.arguments.tokens
  source := image.source
  layers := image.layers

def plan (kit : Tool.Kit) (image : Image) (path : Option String) (options : Save.Options) :
    Except Cause Save.Plan :=
  match path <|> image.source with
  | some destination => Save.plan (image.request kit) destination options
  | none => .error noDestination

def makeParent (path : String) : Act Unit := fun world =>
  match Path.parent? path with
  | none => (.ok (), world)
  | some parent =>
    if parent.isEmpty then (.ok (), world)
    else
      let (obstacle, files) := world.files.makeDirectories parent
      let world := { world with files }
      match obstacle with
      | none => (.ok (), world)
      | some obstacle =>
        (.error (.other s!"failed to create output directory '{parent}'" [obstacle.message]), world)

/-- Runs a plan; the image takes on the layers of the plan when the tool has succeeded. -/
def render (plan : Save.Plan) : Edit Unit := do
  let _ ← Edit.outside (World.run plan.argv)
  Edit.revise (Revision.update ({ · with layers := plan.layers }))

def save (kit : Tool.Kit) (path : Option String) (options : Save.Options) : Edit Unit := do
  let plan ← (← Edit.image).plan kit path options
  Edit.outside (makeParent plan.destination)
  render plan

/-- Does something with an empty temporary file that is gone afterwards, whatever comes of it. -/
def withScratch {α : Type} (kit : Tool.Kit) (suffix : String) (act : String → Edit α) : Edit α := do
  let file ← Edit.outside (World.create kit.tempDir "im" suffix)
  fun desk =>
    let (result, desk) := act file.path desk
    (result, { desk with world := desk.world.discard file })

def readRendered (path : String) : Act Bytes := fun world =>
  match world.files.read path with
  | .ok bytes => (.ok bytes, world)
  | .error obstacle =>
    (.error (.other s!"failed to read rendered image '{path}'" [obstacle.message]), world)

def get (kit : Tool.Kit) (format : String) (options : Save.Options) : Edit Bytes :=
  withScratch kit ("." ++ Text.lowercase format) fun path => do
    save kit (some path) { options with format := some format }
    Edit.outside (readRendered path)

/-- What arrives at a receiver with room for so many bytes, and whether that is all of them. -/
def deliver (room : Option Nat) (bytes : Bytes) : Bytes × Except Cause Unit :=
  match room with
  | some room =>
    if bytes.length ≤ room then (bytes, .ok ())
    else (bytes.take room, .error (.other "failed to write rendered image" []))
  | none => (bytes, .ok ())

/-- Sends the image to a receiver: the bytes that arrive, and the media type if all went well. -/
def present (kit : Tool.Kit) (format : String) (options : Save.Options) (room : Option Nat) :
    StateM Desk (Bytes × Except Cause String) := do
  match Save.mediaType format with
  | .error cause => return ([], .error cause)
  | .ok type =>
    match ← (get kit format options).run with
    | .error cause => return ([], .error cause)
    | .ok bytes =>
      let (arrived, outcome) := deliver room bytes
      return (arrived, outcome.map fun _ => type)

end Retouch.Image
