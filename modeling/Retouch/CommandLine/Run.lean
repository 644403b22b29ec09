import Retouch.CommandLine.Usage
import Retouch.EditScript.Decode
import Retouch.Image.Origin
import Retouch.Image.Saving
import Retouch.Json.Reader
import Retouch.Text.Shell

/-!
One job from start to end: settings, script and options are read, the image is opened and edited
step by step, and then the save is run, or its command line shown. The first failure ends the job.
-/
namespace Retouch.CommandLine

/-- One line of the account of a failure. -/
inductive Link
  | message (text : String)
  | fault (fault : Json.Fault)
deriving DecidableEq, Repr

def Link.text : Link → String
  | message text => text
  | fault found => s!"json: {found.message}"

/-- Something that fails with an account, outermost message first. -/
abbrev Task := ExceptT (List Link) (StateM World)

namespace Task

def lift {α : Type} (act : Act α) : Task α := fun world =>
  match act world with
  | (.ok value, world) => (.ok value, world)
  | (.error cause, world) => (.error (cause.chain.map .message), world)

def within {α : Type} (context : String) (task : Task α) : Task α := fun world =>
  match task world with
  | (.ok value, world) => (.ok value, world)
  | (.error account, world) => (.error (.message context :: account), world)

def readFile (path : String) : Task Bytes := within s!"read '{path}'" do
  match (← get).files.read path with
  | .ok bytes => return bytes
  | .error obstacle => throw [.message obstacle.message]

def readJson {α : Type} (read : Json.Reader α) (path : String) : Task α := do
  let bytes ← readFile path
  within s!"parse json '{path}'" do
    match Json.decode read (.ofBytes bytes) with
    | .ok value => return value
    | .error fault => throw [.fault fault]

end Task

def readOr {α : Type} (fallback : α) (read : Json.Reader α) : Option String → Task α
  | some path => Task.readJson read path
  | none => return fallback

/-- The settings of a job. A dry run does not look at the version. -/
def settingsFor (job : Job) (settings : Tool.Settings) : Tool.Settings where
  toolchain := job.toolchain.getD settings.toolchain
  binDir := settings.binDir
  tempDir := settings.tempDir
  checkVersion := settings.checkVersion && !job.dryRun

/-- Works on an image that is handed over and handed back. -/
def onImage (image : Image) (edit : Edit Unit) : Task Image := fun world =>
  let (result, desk) := edit ⟨image, world⟩
  match result with
  | .ok () => (.ok desk.image, desk.world)
  | .error cause => (.error (cause.chain.map .message), desk.world)

/-- Applies the steps in turn, counting from the number given. -/
def applySteps (kit : Tool.Kit) (image : Image) : List EditScript.Step → Nat → Task Image
  | [], _ => return image
  | step :: rest, number => do
    let image ← Task.within s!"op #{number} ({step.text}) failed"
      (onImage image (step.alteration.apply kit))
    applySteps kit image rest (number + 1)

structure Printed where
  stdout : String := ""
  stderr : String := ""
deriving DecidableEq, Repr

/-- The planned command line as a shell would read it. -/
def planLine (plan : Save.Plan) : Task String := do
  match Text.Shell.join? plan.argv with
  | some line => return line
  | none =>
    throw [.message "cannot quote the planned command line",
      .message "cannot shell-quote string containing nul byte"]

def finish (kit : Tool.Kit) (image : Image) (job : Job) (options : Save.Options) :
    Task Printed := do
  if job.dryRun then
    let plan ← Task.lift (image.plan kit (some job.output) options)
    return { stdout := (← planLine plan) ++ "\n" }
  else
    let _ ← onImage image (Image.save kit (some job.output) options)
    return { stderr := s!"wrote {job.output}\n" }

def run (job : Job) : Task Printed := do
  let settings ← readOr {} Json.settings job.config
  let steps ← Task.readJson EditScript.steps job.ops
  let options ← readOr {} Json.options job.options
  let kit ← Task.lift (Tool.Kit.prepare (settingsFor job settings))
  let image ← Task.lift (Image.openFile kit job.input)
  let image ← applySteps kit image steps 0
  finish kit image job options

end Retouch.CommandLine
