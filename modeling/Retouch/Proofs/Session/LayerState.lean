import Retouch.Proofs.Session.Meaning

/-!
The layer state along a run. Only a save that the tool carries out changes it, so that it tells what
the last of these has planned since the image was made. It is for the caller to see: planning does
not look at it, and so no plan depends on the saves before it. The count of frames is not changed by
a save either, but where it has started over at zero, which a save takes for one.
-/
namespace Retouch

/-- Commands that put another image in the place of the one of their name, or change the command line
of that one. -/
def Command.revises : Command → Bool
  | .make .. | .drop _ | .alter .. => true
  | _ => false

theorem Command.keeps_of_leaves {command : Command} (leaves : command.revises = false) :
    command.replaces = false := by
  cases command <;> first | rfl | cases leaves

theorem Command.leaves_of_saves {command : Command} (saves : command.saves = true) :
    command.revises = false := by
  cases command <;> first | rfl | cases saves

namespace Alteration

end Alteration

namespace Session
variable {session : Session} {command : Command} {image after : Image}

theorem carried_asks (asks : command.saves = false) : session.carried? image command = none := by
  cases command <;> simp_all [Command.saves, carried?]

theorem becomes_frames (leaves : command.revises = false)
    (becomes : session.Becomes image command after) :
    after.layers.frames = match session.carried? image command with
      | some _ => max image.layers.frames 1
      | none => image.layers.frames := by
  cases becomes with
  | learned asks learned => rw [carried_asks asks, learned.layers]
  | edited => cases leaves
  | saved _ =>
    cases carried : session.carried? image command with
    | none => rfl
    | some planned =>
      obtain ⟨path, options, settled⟩ := carried_planned carried
      exact (Image.plan_ok settled).2.2
  | noted notes asks => rw [carried_asks asks]

theorem Made.layers (made : session.Made image) :
    ∃ count, image.layers = .ofFrames count := by
  cases made with
  | opened | loaded => exact ⟨_, rfl⟩
  | canvas blank =>
    unfold Image.canvas at blank
    split at blank <;> cases blank
    exact ⟨1, rfl⟩
  | copied | masked => exact ⟨_, rfl⟩

/-- The plans carried out for the image that has the name after a command, given those for the one
that had it before. -/
def record (session : Session) (name : String) (plans : List Save.Plan) (command : Command) :
    List Save.Plan :=
  if command.name = name then
    if session.renews command then []
    else plans ++ ((session.image? name).bind (session.carried? · command)).toList
  else plans

end Session

end Retouch
