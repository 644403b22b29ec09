import Retouch.Cause
import Retouch.Files

/-!
What one run of the tool leaves behind. `result` turns a run that did not succeed into the cause
that carries its report.
-/
namespace Retouch.Tool

structure Output where
  success : Bool
  /-- The exit code, absent when a signal ended the run. -/
  code : Option Int
  stdout : Bytes := []
  stderr : Bytes := []
deriving DecidableEq, Repr

namespace Output

def ok (stdout : Bytes) : Output := ⟨true, some 0, stdout, []⟩

def failed (code : Int) (stderr : Bytes) : Output := ⟨false, some code, [], stderr⟩

def text (output : Output) : String := Text.Utf8.lossy output.stdout

def report (output : Output) : String := Text.Utf8.lossy output.stderr

def status (output : Output) : String :=
  match output.code with
  | some code => s!"exit status: {code}"
  | none => "terminated by signal"

def result (output : Output) : Except Cause Output :=
  if output.success then .ok output
  else .error (.externalTool output.status (Text.trim output.report))

end Output

end Retouch.Tool
