import Retouch.Proofs.Session.Run
import Retouch.Tool.Script

/-!
An edit or a question that fails leaves everything as it was, but that the size of the image may
have become known on the way. This holds at each place where one can fail: the checks of its own,
either question for a size, the run of the tool, the reading of its answer, the temporary file.
-/
namespace Retouch

namespace Session

theorem edit_failed {α : Type} {session : Session} {name : String} {edit : Edit α}
    {answer : α → Answer} {cause : Cause}
    (learns : ∀ image, (edit ⟨image, session.world⟩).1 = .error cause →
      image.Learned session.kit session.world (edit ⟨image, session.world⟩).2.image)
    (failed : (session.edit name edit answer).1 = .failed cause) :
    ∃ image learned, session.image? name = some image ∧
      image.Learned session.kit session.world learned ∧
      ∀ other, (session.edit name edit answer).2.image? other =
        if other = name then some learned else session.image? other := by
  cases held : session.image? name with
  | none =>
    rw [edit_absent held] at failed
    cases failed
  | some image =>
    rw [edit_eq held] at failed ⊢
    rcases ran : edit ⟨image, session.world⟩ with ⟨told | value, desk⟩
    · rw [ran] at failed
      cases failed
      have learned := learns image (congrArg Prod.fst ran)
      rw [ran] at learned
      exact ⟨image, desk.image, rfl, learned, fun other => image?_put _ name other desk.image⟩
    · rw [ran] at failed
      cases failed

end Session

def Command.subject? : Command → Option String
  | .alter name _ | .size name | .colorAt name _ | .histogram name => some name
  | _ => none

namespace Session

theorem failure_leaves_images {session : Session} {command : Command} {name : String}
    {cause : Cause} (subject : command.subject? = some name)
    (failed : (session.perform command).1 = .failed cause) :
    ∃ image learned, session.image? name = some image ∧
      image.Learned session.kit session.world learned ∧
      ∀ other, (session.perform command).2.image? other =
        if other = name then some learned else session.image? other := by
  simp only [perform, image?_release] at failed ⊢
  cases command <;> cases subject
  case alter edit =>
    simp only [step, alter] at failed ⊢
    split at failed
    · cases failed
    next resolved _ => exact edit_failed (fun image => Image.learned_refused) failed
  case size =>
    exact edit_failed (fun image _ => Image.learned_resolve image session.world) failed
  case colorAt point =>
    exact edit_failed (fun image _ => Image.learned_colorAt point image session.world) failed
  case histogram =>
    exact edit_failed (fun image _ => Image.learned_histogram image session.world) failed

/-- A box that reaches past the right edge: the size has been asked for when that is noticed. -/
theorem failure_leaves_images_crop :
    let tool := Tool.steady (.ran (.ok (Text.Utf8.encode "100x50\n")) [])
    let session : Session :=
      ⟨⟨["convert"], ["identify"], "systmp"⟩, [("a", .ofFile "a.png" none .rgb 1 {})], { tool }⟩
    let command : Command := .alter "a" (.crop ⟨60, 0⟩ ⟨50, 50⟩)
    command.subject? = some "a" ∧
      (session.perform command).1 = .failed (.outOfRange
        "crop 50x50+60+0 must start inside and stay within the 100x50 image") ∧
      ∃ image learned, session.image? "a" = some image ∧
        image.Learned session.kit session.world learned ∧
        ∀ other, (session.perform command).2.image? other =
          if other = "a" then some learned else session.image? other :=
  ⟨rfl, rfl, failure_leaves_images rfl rfl⟩

end Session

end Retouch
