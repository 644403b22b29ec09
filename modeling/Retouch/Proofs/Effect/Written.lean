import Retouch.Effect

/-!
What an effect comes to: whether it is refused, and else the tokens that it writes. Nothing is
written before the last check has passed, so an effect that is refused leaves the arguments alone.
-/
namespace Retouch.Effect

def check : Effect → Except Cause Unit
  | gamma correction => checkGamma correction
  | blur sigma => checkBlur sigma
  | brightness shift => (percentage shift).map fun _ => ()
  | convolve kernel => checkConvolve kernel
  | _ => .ok ()

def appended : Effect → List String
  | gamma correction => ["-gamma", correction.text]
  | negative => ["-negate"]
  | grayscale => ["-colorspace", "Gray"]
  | colorize color => ["-fill", color.text, "-colorize", "100"]
  | sharpen => ["-sharpen", "2x1"]
  | blur sigma => ["-gaussian-blur", s!"0x{sigma.text}"]
  | brightness shift => ["-brightness-contrast", s!"{shift.round?.getD 0}x0"]
  | convolve kernel => ["-convolve", ",".intercalate (kernel.values.map Binary64.text)]

theorem round?_of_percentage {shift : Binary64} {percent : Int}
    (told : percentage shift = .ok percent) : shift.round? = some percent := by
  unfold percentage at told
  cases rounded : shift.round? with
  | none => simp [rounded] at told
  | some whole =>
    simp only [rounded] at told
    split at told
    · rw [Except.ok.inj told]
    · cases told

theorem checked_push (result : Except Cause Unit) (flag : String) (values : List String)
    (arguments : Arguments) :
    ((liftM result : Draft Unit) >>= fun _ => Draft.push flag values) arguments =
      match result with
      | .ok _ => (.ok (), arguments.push flag values)
      | .error cause => (.error cause, arguments) := by
  rw [Stepwise.bind_checked]
  cases result <;> rfl

theorem apply_eq (effect : Effect) (arguments : Arguments) :
    effect.apply arguments = match effect.check with
      | .ok _ => (.ok (), { arguments with tokens := arguments.tokens ++ effect.appended })
      | .error cause => (.error cause, arguments) := by
  cases effect with
  | gamma correction => exact checked_push (checkGamma correction) _ _ arguments
  | blur sigma => exact checked_push (checkBlur sigma) _ _ arguments
  | convolve kernel => exact checked_push (checkConvolve kernel) _ _ arguments
  | brightness shift =>
    simp only [apply, check, Stepwise.bind_checked]
    cases told : percentage shift with
    | error cause => rfl
    | ok percent =>
      simp only [appended, round?_of_percentage told, Option.getD_some]
      rfl
  | colorize color =>
    simp [apply, check, Stepwise.bind_apply, Draft.push, Arguments.push, appended]
  | negative | grayscale | sharpen => rfl

end Retouch.Effect
