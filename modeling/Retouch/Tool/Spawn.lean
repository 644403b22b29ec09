import Retouch.World

/-!
A tool whose programs have to be started: a call without a program, with a zero byte in it, or
with a program that does not exist never begins.
-/
namespace Retouch.Tool

def spawnFailure (program obstacle : String) : Cause :=
  .externalTool "spawn failed"
    s!"failed to spawn '{program}' (is it installed and on PATH?): {obstacle}"

def spawned (exists? : String → Bool) (tool : Responder) : Responder := fun log argv =>
  match argv with
  | [] => .unstarted (.invalidArgument "cannot execute an empty argv")
  | program :: _ =>
    if argv.any (·.toList.contains '\x00') then
      .unstarted (spawnFailure program "nul byte found in provided data")
    else if exists? program then tool log argv
    else .unstarted (spawnFailure program Obstacle.missing.message)

/-- The end of a process, of whose exit code eight bits are seen; a process that was killed has
none. -/
def exited (code : Option Int) (stdout stderr : Bytes) : Output :=
  let seen := code.map (· % 256)
  ⟨seen == some 0, seen, stdout, stderr⟩

/-- Whether a program can be asked for its version. -/
def isAvailable (program : String) : StateM World Bool := do
  match ← (World.execute [program, "-version"]).run with
  | .ok output => return output.success
  | .error _ => return false

end Retouch.Tool
