import Retouch.Proofs.Tool.Calls
import Retouch.Tool.Probe
import Retouch.Tool.Script
import Mathlib.Data.List.Forall2

/-!
Two kits side by side. They say the same to different programs, so two worlds in which the programs
reply alike stay alike in all that does not name a program: this is a relation between worlds that
holds again after the same act with either kit, whatever the act is made of.
-/
namespace Retouch

/-- The two runs lead from related states to one result and to related states. -/
def InStep {σ α : Type} (related : σ → σ → Prop) (run run' : σ → α × σ) : Prop :=
  ∀ state state', related state state' →
    (run state).1 = (run' state').1 ∧ related (run state).2 (run' state').2

namespace InStep
variable {σ α β ε : Type} {related : σ → σ → Prop}

theorem settled (result : α) :
    InStep related (fun state => (result, state)) fun state => (result, state) :=
  fun _ _ same => ⟨rfl, same⟩

theorem seq {run run' : StateM σ α} {next next' : α → StateM σ β} (here : InStep related run run')
    (there : ∀ value, InStep related (next value) (next' value)) :
    InStep related (run >>= next) (run' >>= next') := by
  intro state state' same
  have first := here state state' same
  rcases ran : run state with ⟨value, after⟩
  rcases ran' : run' state' with ⟨value', after'⟩
  rw [ran, ran'] at first
  obtain ⟨rfl, between⟩ := first
  simp only [Bind.bind, StateT.bind, ran, ran']
  exact there value after after' between

theorem bind {act act' : ExceptT ε (StateM σ) α} {next next' : α → ExceptT ε (StateM σ) β}
    (here : InStep related act act') (there : ∀ value, InStep related (next value) (next' value)) :
    InStep related (act >>= next) (act' >>= next') := by
  have continued (result : Except ε α) :
      InStep related (ExceptT.bindCont next result) (ExceptT.bindCont next' result) := by
    cases result with
    | error cause => exact settled (Except.error cause)
    | ok value => exact there value
  exact seq here continued

theorem checked (result : Except ε α) :
    InStep related (liftM result : ExceptT ε (StateM σ) α)
      (liftM result : ExceptT ε (StateM σ) α) := by
  cases result <;> exact settled _

end InStep

namespace Tool.Kit

/-- Two calls with the same words to the program that converts, or to the one that identifies. -/
inductive Twin (kit kit' : Kit) : Argv → Argv → Prop
  | convert {words : List String} (said : words ≠ []) :
      Twin kit kit' (kit.convert ++ words) (kit'.convert ++ words)
  | identify {words : List String} (said : words ≠ []) :
      Twin kit kit' (kit.identify ++ words) (kit'.identify ++ words)

variable {kit kit' : Kit}

theorem Twin.getLast? {argv argv' : Argv} (twin : kit.Twin kit' argv argv') :
    argv.getLast? = argv'.getLast? := by
  cases twin with
  | convert said | identify said =>
    rw [List.getLast?_append_of_ne_nil _ said, List.getLast?_append_of_ne_nil _ said]

/-- The two tools reply alike to twin calls. -/
def Matched (kit kit' : Kit) (tool tool' : Responder) : Prop :=
  ∀ log log' argv argv', List.Forall₂ (kit.Twin kit') log log' → kit.Twin kit' argv argv' →
    tool log argv = tool' log' argv'

end Tool.Kit

namespace World
open Tool (Kit)

/-- The worlds differ in the programs that are there and that have been called. -/
structure Parallel (kit kit' : Kit) (world world' : World) : Prop where
  tool : kit.Matched kit' world.tool world'.tool
  files : world.files = world'.files
  systemTemp : world.systemTemp = world'.systemTemp
  namer : world.namer = world'.namer
  hindrance : world.hindrance = world'.hindrance
  calls : List.Forall₂ (kit.Twin kit') world.calls world'.calls
  minted : world.minted = world'.minted

variable {kit kit' : Kit} {world world' : World}

theorem Parallel.withFiles (same : world.Parallel kit kit' world') (files : Files) :
    Parallel kit kit' { world with files } { world' with files } :=
  { same with files := rfl }

theorem Parallel.logged (same : world.Parallel kit kit' world') {argv argv' : Argv}
    (twin : kit.Twin kit' argv argv') :
    Parallel kit kit' { world with calls := world.calls ++ [argv] }
      { world' with calls := world'.calls ++ [argv'] } :=
  { same with calls := List.rel_append same.calls (.cons twin .nil) }

theorem Parallel.discard (same : world.Parallel kit kit' world') (file : ScratchFile) :
    Parallel kit kit' (world.discard file) (world'.discard file) := by
  unfold World.discard
  rw [← same.files]
  exact same.withFiles _

theorem Parallel.discardUnheld (same : world.Parallel kit kit' world')
    (files held : List ScratchFile) :
    Parallel kit kit' (world.discardUnheld files held) (world'.discardUnheld files held) := by
  unfold World.discardUnheld
  induction files.filter (!held.contains ·) generalizing world world' with
  | nil => exact same
  | cons file rest ih => exact ih (same.discard file)

theorem inStep_execute {argv argv' : Argv} (twin : kit.Twin kit' argv argv') :
    InStep (Parallel kit kit') (execute argv) (execute argv') := by
  intro world world' same
  have replied := same.tool _ _ _ _ same.calls twin
  unfold execute
  rw [← replied, ← twin.getLast?]
  cases world.tool world.calls argv with
  | unstarted cause => exact ⟨rfl, same⟩
  | refused cause => exact ⟨rfl, same.logged twin⟩
  | ran output changes =>
    have logged := (same.logged twin).withFiles
      (changes.foldl (Change.apply (argv.getLast?.getD "")) world.files)
    rw [same.files] at logged ⊢
    exact ⟨rfl, logged⟩

theorem inStep_run {argv argv' : Argv} (twin : kit.Twin kit' argv argv') :
    InStep (Parallel kit kit') (run argv) (run argv') := by
  apply (inStep_execute twin).bind
  intro output
  cases output.result <;> exact .settled _

theorem inStep_ask {α : Type} {argv argv' : Argv} (twin : kit.Twin kit' argv argv')
    (read : Tool.Output → Except Cause α) : InStep (Parallel kit kit')
      (run argv >>= fun output => (liftM (read output) : Act α))
      (run argv' >>= fun output => (liftM (read output) : Act α)) :=
  (inStep_run twin).bind fun output => .checked (read output)

theorem inStep_create (directory stem suffix : String) :
    InStep (Parallel kit kit') (create directory stem suffix) (create directory stem suffix) := by
  intro world world' same
  have named : world.nextName directory stem suffix = world'.nextName directory stem suffix := by
    simp only [nextName, same.namer, same.files, same.minted]
  unfold create
  rw [← named, ← same.files]
  simp only
  cases world.files.create (world.nextName directory stem suffix).path [] with
  | error obstacle => exact ⟨rfl, same⟩
  | ok files =>
    refine ⟨rfl, { same.withFiles files with minted := ?_ }⟩
    simp only [same.minted]

theorem inStep_fill (file : ScratchFile) (content : Bytes) :
    InStep (Parallel kit kit') (fill file content) (fill file content) := by
  intro world world' same
  unfold fill
  simp only [same.hindrance, same.minted, same.files]
  split
  · exact ⟨rfl, { same with files := rfl, hindrance := rfl, minted := rfl }⟩
  · exact ⟨rfl, same⟩

theorem inStep_guarding {α : Type} (file : ScratchFile) {act act' : Act α}
    (here : InStep (Parallel kit kit') act act') :
    InStep (Parallel kit kit') (guarding file act) (guarding file act') := by
  intro world world' same
  have ran := here world world' same
  unfold guarding
  rcases done : act world with ⟨result, after⟩
  rcases done' : act' world' with ⟨result', after'⟩
  rw [done, done'] at ran
  obtain ⟨rfl, last⟩ := ran
  cases result with
  | error cause => exact ⟨rfl, last.discard file⟩
  | ok value => exact ⟨rfl, last⟩

theorem inStep_mint (directory stem : String) (content : Bytes) :
    InStep (Parallel kit kit') (mint directory stem content) (mint directory stem content) := by
  apply (inStep_create directory stem "").bind
  intro file
  apply (inStep_guarding file (inStep_fill file content)).bind
  exact fun _ => .settled _

end World

namespace Tool.Kit
variable {kit kit' : Kit}

theorem inStep_palette (path : String) :
    InStep (World.Parallel kit kit') (kit.palette path) (kit'.palette path) :=
  World.inStep_ask (.identify (List.cons_ne_nil _ _)) _

theorem inStep_frames (path : String) :
    InStep (World.Parallel kit kit') (kit.frames path) (kit'.frames path) :=
  World.inStep_ask (.identify (List.cons_ne_nil _ _)) _

/-- What is asked about a source comes after the tokens that make it. -/
theorem twin_about (source : List String) {question : List String} (asked : question ≠ []) :
    kit.Twin kit' (kit.convert ++ source ++ question) (kit'.convert ++ source ++ question) := by
  rw [List.append_assoc, List.append_assoc]
  exact .convert (List.append_ne_nil_of_right_ne_nil source asked)

theorem inStep_size (source : List String) :
    InStep (World.Parallel kit kit') (kit.size source) (kit'.size source) :=
  World.inStep_ask (twin_about source (List.cons_ne_nil _ _)) _

theorem inStep_colorAt (source : List String) (point : Point) :
    InStep (World.Parallel kit kit') (kit.colorAt source point) (kit'.colorAt source point) :=
  World.inStep_ask (twin_about source (List.cons_ne_nil _ _)) _

theorem inStep_histogram (source : List String) :
    InStep (World.Parallel kit kit') (kit.histogram source) (kit'.histogram source) :=
  World.inStep_ask (twin_about source (List.cons_ne_nil _ _)) _

section Scripted
variable (plain : ∀ token ∈ kit.convert ++ kit.identify, CallClass.ofToken? token = none)
  (plain' : ∀ token ∈ kit'.convert ++ kit'.identify, CallClass.ofToken? token = none)
include plain plain'

/-- The class of a call is found in its words, if no program is mistaken for one of them. -/
theorem Twin.ofArgv {argv argv' : Argv} (twin : kit.Twin kit' argv argv') :
    CallClass.ofArgv argv = CallClass.ofArgv argv' := by
  have passed {program words : List String}
      (plain : ∀ token ∈ program, CallClass.ofToken? token = none) :
      CallClass.ofArgv (program ++ words) = CallClass.ofArgv words := by
    rw [CallClass.ofArgv, List.findSome?_append, List.findSome?_eq_none_iff.2 plain]
    rfl
  simp only [List.mem_append, or_imp, forall_and] at plain plain'
  cases twin with
  | convert said => rw [passed plain.1, passed plain'.1]
  | identify said => rw [passed plain.2, passed plain'.2]

theorem matched_script (script : Script) : kit.Matched kit' script.responder script.responder := by
  intro log log' argv argv' logs twin
  have counted (kind : CallClass) : (log.countP fun call => CallClass.ofArgv call = kind) =
      log'.countP fun call => CallClass.ofArgv call = kind := by
    induction logs with
    | nil => rfl
    | cons here _ ih => simp only [List.countP_cons, ih, here.ofArgv plain plain']
  simp only [Script.responder, twin.ofArgv plain plain', counted]

end Scripted

end Tool.Kit

end Retouch
