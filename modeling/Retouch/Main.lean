import Retouch.CommandLine.Dialogue

/-!
The program: reads the files that a job names, writes each call of the tool as a line and reads its
reply as a line of JSON, and prints what comes of the job.
-/
namespace Retouch.CommandLine

/-- Adds what is on disk under a path, a file with its content or a directory. -/
def observe (files : Files) (path : String) : IO Files := do
  try
    let content ← IO.FS.readBinFile path
    let (_, files) := files.makeDirectories ((Path.parent? path).getD "")
    return (files.write path content.toList).toOption.getD files
  catch
    | .inappropriateType .. => return (files.makeDirectories path).2
    | _ => return files

def report (result : Except (List Link) Printed) : IO UInt32 := do
  match result with
  | .ok printed =>
    IO.print printed.stdout
    IO.eprint printed.stderr
    return 0
  | .error account =>
    IO.eprintln (accountText account)
    return 1

partial def converse (job : Job) (files : Files) (replies : List Tool.Output) : IO UInt32 := do
  match turn job files replies with
  | .finish result => report result
  | .ask argv directories =>
    directories.forM fun directory => IO.FS.createDirAll directory
    IO.println ((Text.Shell.join? argv).getD "")
    match readOutput (← (← IO.getStdin).getLine) with
    | .ok output => converse job files (replies ++ [output])
    | .error fault => report (.error [.message "read the tool's reply", .fault fault])

def start (args : List String) : IO UInt32 := do
  match job args with
  | .error refusal =>
    if refusal.isAnswer then
      IO.println refusal.message
      return 0
    else
      IO.eprintln refusal.message
      return 2
  | .ok job =>
    let files := filesAt (← IO.currentDir).toString
    let files ← job.reads.foldlM observe files
    let files ← (job.directories files).foldlM observe files
    converse job files []

end Retouch.CommandLine

def main (args : List String) : IO UInt32 := Retouch.CommandLine.start args
