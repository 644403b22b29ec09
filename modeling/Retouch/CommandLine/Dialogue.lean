import Retouch.CommandLine.Run

/-!
A job whose tool is at the other end of a line. A call is asked there once and its reply is kept;
the job is then carried out from the start with every reply so far, until it needs none that is
missing. As a job sees nothing but the files and the replies, it comes to the same call every
time.
-/
namespace Retouch.CommandLine

def unanswered : Cause := .precondition "the tool has not answered yet"

/-- A tool that has given these replies and no other yet. -/
def answered (replies : List Tool.Output) : Responder := fun log _ =>
  match replies[log.length]? with
  | some output => .ran output []
  | none => .refused unanswered

inductive Turn
  /-- The reply to a call, once these directories have been made. -/
  | ask (argv : Argv) (directories : List String)
  /-- Nothing: it has come to an end. -/
  | finish (result : Except (List Link) Printed)

def turn (job : Job) (files : Files) (replies : List Tool.Output) : Turn :=
  let (result, world) := run job { tool := answered replies, files }
  if replies.length < world.calls.length then
    .ask (world.calls.getLast?.getD []) (world.files.paths.filter (·.endsWith "/"))
  else .finish result

/-- A reply in JSON: the exit code, which is null when a signal ended the run, and the outputs. -/
def outputRecord : Json.Record Tool.Output where
  initial := .ok []
  strict := true
  fields := [
    .of "code" (Json.optional (Json.integerIn (-0x80000000) 0x7FFFFFFF))
      fun code output => { output with code, success := code == some 0 },
    .of "stdout" Json.text fun s output => { output with stdout := Text.Utf8.encode s },
    .of "stderr" Json.text fun s output => { output with stderr := Text.Utf8.encode s }]

def readOutput (line : String) : Except Json.Fault Tool.Output :=
  Json.decode (outputRecord.read .direct) (.ofText line)

def Job.reads (job : Job) : List String :=
  [job.input, job.ops] ++ job.options.toList ++ job.config.toList

/-- The directories that the settings of a job name, as far as the settings can be read. -/
def Job.directories (job : Job) (files : Files) : List String :=
  match job.config.map fun path => (files.read path).toOption with
  | some (some bytes) =>
    match Json.decode Json.settings (.ofBytes bytes) with
    | .ok settings => settings.binDir.toList ++ settings.tempDir.toList
    | .error _ => []
  | _ => []

/-- The working directory and the directories above it. -/
def filesAt (path : String) : Files :=
  let workdir := (Path.segments path).filter (!Files.isNameless ·)
  { entries := (List.range workdir.length).map fun n => (workdir.take (n + 1), .directory)
    workdir }

/-- An account of a failure: the outermost message, and below it the causes. -/
def accountText (account : List Link) : String :=
  match account.map Link.text with
  | [] => ""
  | [message] => s!"Error: {message}"
  | message :: causes =>
    "\n".intercalate ([s!"Error: {message}", "", "Caused by:"] ++ causes.map fun c => s!"    {c}")

def usageText : String :=
  "Usage: retouch [--verbose] edit --in <PATH> --ops <PATH> --out <PATH> [--options <PATH>]\n" ++
    "  [--config <PATH>] [--toolchain imagemagick6|imagemagick7] [--dry-run]"

namespace Refusal

def message : Refusal → String
  | help => usageText
  | version => "retouch"
  | noArguments => usageText
  | missingSubcommand => "error: a subcommand is required"
  | invalidSubcommand => "error: there is no such subcommand"
  | unknownArgument => "error: unexpected argument"
  | invalidValue => "error: a value is missing or not possible"
  | missingArgument => "error: a required argument was not provided"
  | repeatedArgument => "error: an argument was given more than once"
  | unwantedValue => "error: a value was given to an argument that takes none"

/-- Whether what was asked for has been shown, so that nothing went wrong. -/
def isAnswer : Refusal → Bool
  | help => true
  | version => true
  | _ => false

end Refusal

end Retouch.CommandLine
