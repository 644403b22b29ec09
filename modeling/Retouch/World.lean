import Retouch.ScratchFile
import Retouch.Tool.Output

/-!
What an act can touch: the files, the tool, the log of the calls made to it, and the temporary
files minted so far.
-/
namespace Retouch

abbrev Argv := List String

/-- What a run of the tool does to the file named last on its command line. -/
inductive Change
  | write (content : Bytes)
  | remove
deriving DecidableEq, Repr

/-- A change that cannot be made is skipped. -/
def Change.apply (path : String) (files : Files) : Change → Files
  | .write content => (files.write path content).toOption.getD files
  | .remove => (files.remove path).toOption.getD files

inductive Reply
  | ran (output : Tool.Output) (changes : List Change)
  /-- The call was made, and no output came of it. -/
  | refused (cause : Cause)
  /-- There was nothing to call. -/
  | unstarted (cause : Cause)
deriving Repr

/-- Stands for the tool: answers a call in view of the calls before it. -/
abbrev Responder := List Argv → Argv → Reply

/-- Stands for the system's choice of a name: the tag of the next temporary file, in view of the
files, of the temporary files made before, and of what each tag would name. -/
abbrev Namer := Files → List ScratchFile → (Tag → ScratchFile) → Tag

/-- The first ordinal that has not been used and whose path is free. One ordinal more than there are
entries is enough to find it. -/
def Namer.numbering : Namer := fun files minted named =>
  let next := minted.length + 1
  let free (ordinal : Nat) : Bool := match files.find (named (.ofOrdinal ordinal)).path with
    | .ok _ => false
    | .error _ => true
  .ofOrdinal (((List.range' next (files.entries.length + 1)).find? free).getD next)

structure World where
  tool : Responder
  files : Files := {}
  systemTemp : String := "systmp"
  namer : Namer := .numbering
  /-- What keeps the system from writing this content into the temporary file made last. -/
  hindrance : List ScratchFile → Bytes → Option Obstacle := fun _ _ => none
  /-- The calls made, oldest first. -/
  calls : List Argv := []
  /-- Every temporary file ever made, oldest first. -/
  minted : List ScratchFile := []

abbrev Act := Stepwise World

namespace World

def execute (argv : Argv) : Act Tool.Output := fun world =>
  let logged := { world with calls := world.calls ++ [argv] }
  match world.tool world.calls argv with
  | .unstarted cause => (.error cause, world)
  | .refused cause => (.error cause, logged)
  | .ran output changes =>
    (.ok output,
      { logged with files := changes.foldl (Change.apply (argv.getLast?.getD "")) world.files })

/-- Makes one call and refuses a run that did not succeed. -/
def run (argv : Argv) : Act Tool.Output := do
  match (← execute argv).result with
  | .ok output => return output
  | .error cause => throw cause

def nextName (world : World) (directory stem suffix : String) : ScratchFile :=
  let named (tag : Tag) : ScratchFile := ⟨directory, stem, tag, suffix⟩
  named (world.namer world.files world.minted named)

/-- Makes an empty temporary file. Its name may have served before, but must lead to nothing now. -/
def create (directory stem suffix : String) : Act ScratchFile := fun world =>
  let file := world.nextName directory stem suffix
  match world.files.create file.path [] with
  | .ok files => (.ok file, { world with files, minted := world.minted ++ [file] })
  | .error obstacle =>
    let what := s!"failed to create temporary file '{stem}*{suffix}'"
    (.error (.other what [obstacle.message]), world)

/-- Writes into the temporary file made last. -/
def fill (file : ScratchFile) (content : Bytes) : Act Unit := fun world =>
  let written : Except Obstacle Files := match world.hindrance world.minted content with
    | some obstacle => .error obstacle
    | none => world.files.write file.path content
  match written with
  | .ok files => (.ok (), { world with files })
  | .error obstacle =>
    (.error (.other s!"failed to write temporary file '{file.path}'" [obstacle.message]), world)

def discard (world : World) (file : ScratchFile) : World :=
  { world with files := (world.files.remove file.path).toOption.getD world.files }

/-- Does something for a temporary file, which goes again when that fails. -/
def guarding {α : Type} (file : ScratchFile) (act : Act α) : Act α := fun world =>
  match act world with
  | (.ok value, world) => (.ok value, world)
  | (.error cause, world) => (.error cause, world.discard file)

/-- Makes a temporary file with this content. -/
def mint (directory stem : String) (content : Bytes) : Act ScratchFile := do
  let file ← create directory stem ""
  guarding file (fill file content)
  return file

/-- Deletes those of some temporary files that are not held. -/
def discardUnheld (world : World) (files held : List ScratchFile) : World :=
  (files.filter (!held.contains ·)).foldl discard world

/-- Deletes every temporary file that is not among those held. -/
def release (world : World) (held : List ScratchFile) : World :=
  world.discardUnheld world.minted held

end World

end Retouch
