import Retouch.Proofs.Session.Handle
import Retouch.Tool.Script

/-!
What a save that fails leaves of an image, and a rendering that does. Up to the call of the tool, and
with a call that fails, nothing has changed. But a rendering goes on after the call: when its file
cannot be read, or not all of it is received, the image has taken on the layers of the plan already.
-/
namespace Retouch

/-- Why a command has failed. A rendering has failed that did not arrive whole. -/
def Outcome.failure? : Outcome → Option Cause
  | .failed cause | .answered (.presented _ (.error cause)) => some cause
  | _ => none

/-- What can go wrong when the tool has done its part. -/
inductive Cause.Late : Cause → Prop
  | unread (path : String) (obstacle : Obstacle) :
      Late (.other s!"failed to read rendered image '{path}'" [obstacle.message])
  | undelivered : Late (.other "failed to write rendered image" [])

namespace Image
variable {kit : Tool.Kit} {format : String} {options : Save.Options} {desk : Desk}
  {planned : Save.Plan} {cause : Cause}

theorem get_late (fetched : fetched? kit format options desk = some planned)
    (failed : (get kit format options desk).1 = .error cause) : cause.Late := by
  obtain ⟨image, world⟩ := desk
  unfold fetched? at fetched
  rw [get_eq] at failed
  rcases minted : World.create kit.tempDir "im" ("." ++ Text.lowercase format) world with
    ⟨obstacle | file, between⟩ <;> simp only [minted] at fetched failed
  · cases fetched
  · have succeeded := (save_carried kit (some file.path) { options with format := some format }
      ⟨image, between⟩).2.mpr (by rw [fetched]; rfl)
    rcases ran : save kit (some file.path) { options with format := some format }
      ⟨image, between⟩ with ⟨_ | _, after⟩ <;> rw [ran] at succeeded failed
    · cases succeeded
    · simp only [readRendered] at failed
      split at failed
      · cases failed
      next obstacle unread =>
        obtain rfl := Except.error.inj failed
        exact .unread file.path obstacle

theorem deliver_late {room : Option Nat} {bytes : Bytes}
    (failed : (deliver room bytes).2 = .error cause) : cause.Late := by
  unfold deliver at failed
  cases room with
  | none => cases failed
  | some room =>
    simp only at failed
    split at failed
    · cases failed
    · obtain rfl := Except.error.inj failed
      exact .undelivered

theorem present_type (kit : Tool.Kit) (format : String) (options : Save.Options)
    (room : Option Nat) (desk : Desk) : (present kit format options room desk).1.2 =
      match Save.mediaType format with
      | .error cause => .error cause
      | .ok type => match (get kit format options desk).1 with
        | .error cause => .error cause
        | .ok bytes => (deliver room bytes).2.map fun _ => type := by
  cases known : Save.mediaType format with
  | error cause => rw [present_hidden known]
  | ok type =>
    rw [present_shown known]
    rcases get kit format options desk with ⟨cause | bytes, after⟩ <;> rfl

theorem present_late {room : Option Nat}
    (presented : presented? kit format options desk = some planned)
    (failed : (present kit format options room desk).1.2 = .error cause) : cause.Late := by
  unfold presented? at presented
  rw [present_type] at failed
  cases known : Save.mediaType format with
  | error other =>
    rw [known] at presented
    cases presented
  | ok type =>
    simp only [known] at presented failed
    cases fetched : (get kit format options desk).1 with
    | error other =>
      rw [fetched] at failed
      obtain rfl := Except.error.inj failed
      exact get_late presented fetched
    | ok bytes =>
      simp only [fetched] at failed
      cases delivered : (deliver room bytes).2 with
      | error other =>
        rw [delivered] at failed
        obtain rfl := Except.error.inj failed
        exact deliver_late delivered
      | ok _ =>
        rw [delivered] at failed
        cases failed

end Image

namespace Session

theorem edit_failure {α : Type} {session : Session} {name : String} {image : Image}
    {edit : Edit α} {answer : α → Answer} {cause : Cause}
    (held : session.image? name = some image)
    (whole : ∀ value, (Outcome.answered (answer value)).failure? = none)
    (failed : (session.edit name edit answer).1.failure? = some cause) :
    (edit ⟨image, session.world⟩).1 = .error cause := by
  rw [edit_eq held] at failed
  cases result : (edit ⟨image, session.world⟩).1 with
  | error other =>
    rw [result] at failed
    obtain rfl := Option.some.inj failed
    rfl
  | ok value =>
    rw [result] at failed
    exact absurd failed (by simp [told, whole])

theorem present_failure {session : Session} {name format : String} {options : Save.Options}
    {room : Option Nat} {image : Image} {cause : Cause}
    (held : session.image? name = some image)
    (failed : (session.step (.present name format options room)).1.failure? = some cause) :
    (Image.present session.kit format options room ⟨image, session.world⟩).1.2 =
      .error cause := by
  simp only [step, work_eq held] at failed
  change (Outcome.answered (.presented _
    (Image.present session.kit format options room ⟨image, session.world⟩).1.2)).failure? = _
    at failed
  cases result : (Image.present session.kit format options room ⟨image, session.world⟩).1.2 with
  | error other =>
    rw [result] at failed
    obtain rfl := Option.some.inj failed
    rfl
  | ok type =>
    rw [result] at failed
    cases failed

theorem carried_failed {session : Session} {name : String} {path : Option String}
    {options : Save.Options} {image : Image} {cause : Cause}
    (held : session.image? name = some image)
    (failed : (session.perform (.save name path options)).1.failure? = some cause) :
    session.carried? image (.save name path options) = none := by
  have told : (session.step (.save name path options)).1.failure? = some cause := failed
  have refused : (Image.save session.kit path options ⟨image, session.world⟩).1 = .error cause :=
    edit_failure held (fun _ => rfl) told
  have succeeds := (Image.save_carried session.kit path options ⟨image, session.world⟩).2
  rw [refused] at succeeds
  simpa [carried?] using succeeds

theorem late_of_carried {session : Session} {command : Command} {image : Image} {cause : Cause}
    {planned : Save.Plan} (held : session.image? command.name = some image)
    (carried : session.carried? image command = some planned)
    (failed : (session.perform command).1.failure? = some cause) : cause.Late := by
  have told : (session.step command).1.failure? = some cause := failed
  cases command
  case save name path options =>
    have uncarried : session.carried? image (.save name path options) = none :=
      carried_failed held failed
    rw [uncarried] at carried
    cases carried
  case get name format options =>
    have refused : (Image.get session.kit format options ⟨image, session.world⟩).1 = .error cause :=
      edit_failure held (fun _ => rfl) told
    have fetched : Image.fetched? session.kit format options ⟨image, session.world⟩ =
      some planned := carried
    exact Image.get_late fetched refused
  case present name format options room =>
    have presented : Image.presented? session.kit format options ⟨image, session.world⟩ =
      some planned := carried
    exact Image.present_late presented (present_failure held told)
  all_goals cases carried

theorem failed_save_leaves {session : Session} {command : Command} {image : Image} {cause : Cause}
    (saves : command.saves = true) (held : session.image? command.name = some image)
    (failed : (session.perform command).1.failure? = some cause) :
    match session.carried? image command with
    | none => (session.perform command).2.image? command.name = some image
    | some planned =>
      (session.perform command).2.image? command.name =
        some { image with layers := planned.layers } ∧ cause.Late := by
  have after := perform_saved saves held
  cases carried : session.carried? image command with
  | none =>
    rw [carried] at after
    exact after
  | some planned =>
    rw [carried] at after
    exact ⟨after, late_of_carried held carried failed⟩

/-- The receiver of three frames in one file has no room for the last bytes of it. -/
theorem failed_save_leaves_undelivered :
    let session : Session := ⟨⟨["convert"], ["identify"], "systmp"⟩,
      [("a", .ofFile "a.gif" (some "a.gif") .rgb 3 {})],
      { tool := Tool.steady (.ran (.ok []) [.write [1, 2, 3, 4]])
        files := { entries := [(["systmp".toList], .directory)] } }⟩
    let image : Image := .ofFile "a.gif" (some "a.gif") .rgb 3 {}
    let command : Command := .present "a" "png" {} (some 3)
    let cause : Cause := .other "failed to write rendered image" []
    session.image? "a" = some image ∧
      (session.perform command).1.failure? = some cause ∧
      (session.perform command).2.image? "a" = some { image with layers := ⟨3, .merged⟩ } ∧
      cause.Late := by
  intro session image command cause
  have held : session.image? "a" = some image := rfl
  have failed : (session.perform command).1.failure? = some cause := by decide +kernel
  have carried : (session.carried? image command).map (·.layers) = some ⟨3, .merged⟩ := by
    decide +kernel
  obtain ⟨planned, found, layers⟩ := Option.map_eq_some_iff.mp carried
  have left := failed_save_leaves rfl held failed
  simp only [found, layers] at left
  exact ⟨held, failed, left⟩

/-- The tool deletes the one file that it has made of three frames: the rendering has failed, and
the image is merged. -/
theorem unread_rendering_merges :
    let start : Session := ⟨⟨["convert"], ["identify"], "systmp"⟩, [], {
      tool := Tool.Script.responder fun
        | .frames => [.ran (.ok (Text.Utf8.encode "3\n")) []]
        | .save => [.ran (.ok []) [.remove]]
        | _ => []
      files := { entries := [(["a.gif".toList], .file []), (["systmp".toList], .directory)] } }⟩
    let session := start.follow [.make "a" (.file "a.gif")]
    let command : Command := .get "a" "png" {}
    Reaches start session ∧
      (session.image? "a").map (·.layers) = some ⟨3, .single⟩ ∧
      (session.perform command).1.failure? = some
        (.other "failed to read rendered image 'systmp/im000001.png'"
          ["No such file or directory (os error 2)"]) ∧
      ((session.perform command).2.image? "a").map (·.layers) = some ⟨3, .merged⟩ :=
  ⟨reaches_follow _ _, rfl, by decide +kernel, by decide +kernel⟩

end Session

end Retouch
