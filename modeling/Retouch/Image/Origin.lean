import Retouch.Image.Desk

/-!
Where images come from. An image opened from a file writes back to it; one made from bytes keeps
them in a temporary file, which is gone at once when the tool cannot tell what it is.
-/
namespace Retouch.Image

/-- Asks the tool about a file: its palette first, then its frames. -/
def examine (kit : Tool.Kit) (path : String) (source : Option String) (notes : Metadata) :
    Act Image := do
  let palette ← kit.palette path
  let frames ← kit.frames path
  return ofFile path source palette frames notes

def openFile (kit : Tool.Kit) (path : String) : Act Image := do
  if (← get).files.isFile path then
    examine kit path (some path) (Metadata.insert {} "filepath" path)
  else throw (.invalidArgument s!"file '{path}' does not exist")

def load (kit : Tool.Kit) (bytes : Bytes) : Act Image := do
  let file ← World.mint kit.tempDir "im" bytes
  let image ← World.guarding file (examine kit file.path none {})
  return image.attach file

/-- A stream of bytes, which may break off after so many. -/
structure Stream where
  bytes : Bytes
  breaksAt : Option Nat := none

/-- A stream that breaks off where its bytes end has broken off too. -/
def Stream.readAll (stream : Stream) : Except Cause Bytes :=
  match stream.breaksAt with
  | some limit =>
    if limit ≤ stream.bytes.length then .error (.other "failed to read image stream" [])
    else .ok stream.bytes
  | none => .ok stream.bytes

def read (kit : Tool.Kit) (stream : Stream) : Act Image := do
  load kit (← stream.readAll)

end Retouch.Image
