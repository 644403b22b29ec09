import Retouch.Tool.Probe

/-!
What a question comes to depends on the reply of the tool and on nothing else in the world.
-/
namespace Retouch

def Reply.answer : Reply → Except Cause Tool.Output
  | .ran output _ => output.result
  | .refused cause | .unstarted cause => .error cause

theorem World.run_answer (argv : Argv) (world : World) :
    (World.run argv world).1 = (world.tool world.calls argv).answer := by
  unfold World.run
  rw [Stepwise.bind_apply]
  simp only [World.execute]
  rcases world.tool world.calls argv with ⟨output, changes⟩ | cause | cause
  · simp only [Reply.answer]
    cases output.result <;> rfl
  · rfl
  · rfl

theorem World.ask_answer {α : Type} (argv : Argv) (read : Tool.Output → Except Cause α)
    (world : World) :
    ((World.run argv >>= fun output => (liftM (read output) : Act α)) world).1 =
      (world.tool world.calls argv).answer >>= read := by
  rw [Stepwise.bind_apply, ← World.run_answer]
  rcases World.run argv world with ⟨_ | output, after⟩
  · rfl
  · simp only [bind, Except.bind]
    cases read output <;> rfl

/-- The tool answers the call with the output. -/
def World.Tells (world : World) (argv : Argv) (output : Tool.Output) : Prop :=
  (world.tool world.calls argv).answer = .ok output

theorem World.ask_told {α : Type} {argv : Argv} {world : World} {output : Tool.Output}
    (told : world.Tells argv output) (read : Tool.Output → Except Cause α) :
    ((World.run argv >>= fun output => (liftM (read output) : Act α)) world).1 = read output := by
  rw [ask_answer, told]
  rfl

namespace Tool.Kit

theorem size_answer (kit : Kit) (source : List String) (world : World) :
    (kit.size source world).1 = (world.tool world.calls (kit.sizeCall source)).answer >>=
      fun output => Readout.size (Readout.firstLine output.text) :=
  World.ask_answer _ _ world

theorem colorAt_answer (kit : Kit) (source : List String) (point : Point) (world : World) :
    (kit.colorAt source point world).1 =
      (world.tool world.calls (kit.pixelCall source point)).answer >>=
        fun output => Readout.pixel (Readout.firstLine output.text) :=
  World.ask_answer _ _ world

theorem histogram_answer (kit : Kit) (source : List String) (world : World) :
    (kit.histogram source world).1 =
      (world.tool world.calls (kit.histogramCall source)).answer >>=
        fun output => Readout.histogram output.text :=
  World.ask_answer _ _ world

section Told
variable {kit : Kit} {world : World} {output : Output}

theorem palette_told {path : String}
    (told : world.Tells (kit.colorspaceCall path) output) :
    (kit.palette path world).1 = Palette.ofColorspace (Readout.firstLine output.text) :=
  World.ask_told told _

theorem frames_told {path : String}
    (told : world.Tells (kit.framesCall path) output) :
    (kit.frames path world).1 = Readout.frames (Readout.firstLine output.text) :=
  World.ask_told told _

theorem size_told {source : List String}
    (told : world.Tells (kit.sizeCall source) output) :
    (kit.size source world).1 = Readout.size (Readout.firstLine output.text) :=
  World.ask_told told _

theorem colorAt_told {source : List String} {point : Point}
    (told : world.Tells (kit.pixelCall source point) output) :
    (kit.colorAt source point world).1 = Readout.pixel (Readout.firstLine output.text) :=
  World.ask_told told _

end Told

/-- The questions that are asked to find out what an edit needs to know. -/
inductive IsProbe (kit : Kit) : Argv → Prop
  | palette (path : String) : IsProbe kit (kit.colorspaceCall path)
  | frames (path : String) : IsProbe kit (kit.framesCall path)
  | size (source : List String) : IsProbe kit (kit.sizeCall source)

/-- What a probe is answered does not depend on when it is made. -/
def Steadfast (kit : Kit) (tool : Responder) : Prop :=
  ∀ argv, kit.IsProbe argv → ∀ log log', (tool log argv).answer = (tool log' argv).answer

section Steadfast
variable {kit : Kit} {before after : World} (steadfast : kit.Steadfast before.tool)
  (same : after.tool = before.tool)
include steadfast same

theorem size_steadfast (source : List String) :
    (kit.size source after).1 = (kit.size source before).1 := by
  rw [size_answer, size_answer, same, steadfast _ (.size source) after.calls before.calls]

end Steadfast

theorem size_printed {kit : Kit} {source : List String} {world : World} {stdout : Bytes}
    {changes : List Change}
    (printed : world.tool world.calls (kit.sizeCall source) = .ran (.ok stdout) changes) :
    (kit.size source world).1 = Readout.size (Readout.firstLine (Text.Utf8.lossy stdout)) := by
  have told : world.Tells (kit.sizeCall source) (.ok stdout) := by
    rw [World.Tells, printed]
    rfl
  have text : (Output.ok stdout).text = Text.Utf8.lossy stdout := rfl
  rw [size_told told, text]

end Tool.Kit

end Retouch
