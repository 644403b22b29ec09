/-!
Why a call is refused or fails: six categories, each with the text that completes its message.
-/
namespace Retouch

/-- What sort of value has no counterpart in the tool's vocabulary. -/
inductive Unsupported
  | format
  | unit
  | option
  | colorspace
  | palette
  | toolchain
deriving DecidableEq, Repr

def Unsupported.name : Unsupported → String
  | .format => "format"
  | .unit => "unit"
  | .option => "option"
  | .colorspace => "colorspace"
  | .palette => "palette"
  | .toolchain => "toolchain"

inductive Cause
  /-- An argument that no image could make usable. -/
  | invalidArgument (reason : String)
  /-- A position or index outside the image at hand. -/
  | outOfRange (reason : String)
  | unsupported (kind : Unsupported) (value : String)
  /-- The tool ran and failed, or answered in no known form. -/
  | externalTool (status report : String)
  /-- The call is not possible in the present state. -/
  | precondition (reason : String)
  /-- A failure from outside: what was being done, then the messages beneath it. -/
  | other (context : String) (beneath : List String)
deriving DecidableEq, Repr

namespace Cause

def message : Cause → String
  | .invalidArgument reason => s!"invalid argument: {reason}"
  | .outOfRange reason => s!"out of range: {reason}"
  | .unsupported kind value => s!"unsupported {kind.name}: {value}"
  | .externalTool status report => s!"external tool failed ({status}): {report}"
  | .precondition reason => s!"precondition failed: {reason}"
  | .other context _ => context

/-- The message and every message beneath it, outermost first. -/
def chain (cause : Cause) : List String :=
  cause.message :: match cause with
    | .other _ beneath => beneath
    | _ => []

end Cause

/-- Fails for a cause if something is the case. -/
def refuseIf (case : Bool) (cause : Cause) : Except Cause Unit :=
  if case then .error cause else .ok ()

theorem refuseIf_eq_ok {case : Bool} {cause : Cause} :
    refuseIf case cause = .ok () ↔ case = false := by
  cases case <;> simp [refuseIf]

theorem refuseIf_true (cause : Cause) : refuseIf true cause = .error cause := rfl

theorem refuseIf_false (cause : Cause) : refuseIf false cause = .ok () := rfl

/-- Work on a state in place. What has been done stays when a later step fails. -/
abbrev Stepwise (σ : Type) := ExceptT Cause (StateM σ)

namespace Stepwise
variable {σ ε α β : Type}

theorem bind_apply (first : ExceptT ε (StateM σ) α) (next : α → ExceptT ε (StateM σ) β)
    (state : σ) :
    (first >>= next) state = match first state with
      | (.ok value, after) => next value after
      | (.error cause, after) => (.error cause, after) := by
  simp only [bind, ExceptT.bind, ExceptT.mk, StateT.bind, ExceptT.bindCont]
  rcases first state with ⟨_ | _, after⟩ <;> rfl

theorem bind_checked (result : Except Cause α) (next : α → Stepwise σ β) (state : σ) :
    ((liftM result : Stepwise σ α) >>= next) state = match result with
      | .ok value => next value state
      | .error cause => (.error cause, state) := by
  rw [bind_apply]
  cases result <;> rfl

end Stepwise

end Retouch
