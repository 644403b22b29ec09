import Retouch.Proofs.Grammar.Spelled
import Retouch.Proofs.Session.Handle
import Retouch.Tool.Script

/-!
The pending command line only ever grows, and by whole units. It can be read in one way, and so can
what a command appends to it, though a file may be called like a flag or like a parenthesis.
-/
namespace Retouch

open Grammar

namespace Grammar.Units

theorem existsUnique_tokens (units : Units) : ∃! other : Units, other.tokens = units.tokens :=
  ⟨units, rfl, fun _ same => tokens_injective same⟩

theorem existsUnique_added {tokens : List String} {before : List String} {added : Units}
    (grown : tokens = before ++ added.tokens) :
    ∃! other : Units, tokens = before ++ other.tokens := by
  refine ⟨added, grown, fun other same => ?_⟩
  have ends : other.tokens = added.tokens := List.append_cancel_left (same.symm.trans grown)
  exact tokens_injective ends

end Grammar.Units

theorem Image.mask_grown (image : Image) : image.mask.arguments.tokens =
    image.arguments.tokens ++
      (Units.row [⟨"-modulate", ["100,0,100"], rfl⟩, ⟨"-alpha", ["off"], rfl⟩]).tokens := by
  simp [mask, copy, push]

namespace Session

theorem becomes_grown {session : Session} {image after : Image} {command : Command}
    (spelled : ∀ other, session.Holds other → ∃ source body, other.Spelled source body)
    (becomes : session.Becomes image command after) :
    ∃ added : Units, after.arguments.tokens = image.arguments.tokens ++ added.tokens := by
  have still {later : Image} (same : later.arguments = image.arguments) :
      ∃ added : Units, later.arguments.tokens = image.arguments.tokens ++ added.tokens :=
    ⟨.done, by rw [same]; exact (List.append_nil _).symm⟩
  cases becomes with
  | learned _ learned => exact still learned.arguments
  | @edited name edit before resolved own file learned operands minted =>
    obtain ⟨source, body, operand⟩ := operand_read spelled operands
    let added := resolved.units before.palette own file source body
    have appended : added.tokens = resolved.appended before.palette own file :=
      Alteration.tokens_units fun other needed => (operand other needed).tokens
    refine ⟨added, ?_⟩
    rw [appended, ← learned.arguments]
    rfl
  | saved _ => cases session.carried? image command <;> exact still rfl
  | noted notes _ => exact still rfl

theorem perform_grown {start session : Session} {name : String} {image : Image}
    {command : Command} (empty : start.images = []) (reached : Reaches start session)
    (held : session.image? name = some image)
    (keeps : command.name = name → command.replaces = false) :
    ∃ after, (session.perform command).2.image? name = some after ∧
      ∃ added : Units, after.arguments.tokens = image.arguments.tokens ++ added.tokens := by
  by_cases named : command.name = name
  · subst named
    obtain ⟨after, found, becomes⟩ := perform_becomes (keeps rfl) held
    have spelled (other : Image) (held : session.Holds other) := reaches_spelled empty reached held
    exact ⟨after, found, becomes_grown spelled becomes⟩
  · have found := (perform_apart (Ne.symm named)).trans held
    exact ⟨image, found, .done, (List.append_nil _).symm⟩

theorem follow_grown {start session : Session} {name : String} {image : Image}
    {later : List Command} (empty : start.images = []) (reached : Reaches start session)
    (held : session.image? name = some image)
    (keep : ∀ command ∈ later, command.name = name → command.replaces = false) :
    ∃ after, (session.follow later).image? name = some after ∧
      ∃ added : Units, after.arguments.tokens = image.arguments.tokens ++ added.tokens := by
  induction later generalizing session image with
  | nil => exact ⟨image, held, .done, (List.append_nil _).symm⟩
  | cons command rest ih =>
    have keepRest := fun other member => keep other (List.mem_cons_of_mem command member)
    obtain ⟨between, found, first, grown⟩ :=
      perform_grown empty reached held (keep command List.mem_cons_self)
    obtain ⟨after, found', second, grown'⟩ := ih (reached.step command) found keepRest
    refine ⟨after, found', first ++ second, ?_⟩
    rw [grown', grown, Units.tokens_append, List.append_assoc]

/-- What is said of the commands to come holds of each one of them, whether it succeeds or not. -/
theorem arguments_append_only {start session : Session} {name : String} {image : Image}
    (empty : start.images = []) (reached : Reaches start session)
    (held : session.image? name = some image) :
    (∃! units : Units, units.tokens = image.arguments.tokens) ∧
    (∀ later : List Command,
      (∀ command ∈ later, command.name = name → command.replaces = false) →
      ∃ after, (session.follow later).image? name = some after ∧
        ∃! added : Units, after.arguments.tokens = image.arguments.tokens ++ added.tokens) ∧
    image.copy.arguments.tokens = image.arguments.tokens ∧
    ∃! added : Units,
      image.mask.arguments.tokens = image.arguments.tokens ++ added.tokens := by
  obtain ⟨source, body, spelled⟩ := reaches_spelled empty reached ⟨name, held⟩
  refine ⟨?_, ?_, rfl, Units.existsUnique_added image.mask_grown⟩
  · rw [spelled.arguments]
    exact body.existsUnique_tokens
  · intro later keep
    obtain ⟨after, found, added, grown⟩ := follow_grown empty reached held keep
    exact ⟨after, found, Units.existsUnique_added grown⟩

/-- A darkened file that is called like a parenthesis, as a layer over one that is called like a
flag, which then turns backwards. -/
theorem arguments_append_only_parenthesis :
    let start : Session := ⟨⟨["convert"], ["identify"], "systmp"⟩, [], {
      tool := Tool.Script.responder fun _ => []
      files := { entries := [([")".toList], .file []), (["-size".toList], .file [])] } }⟩
    let session := start.follow [.make "a" (.file ")"),
      .alter "a" (.effect (.brightness (.ofInt (-40)))), .make "b" (.file "-size"),
      .alter "b" (.addLayer "a")]
    let turn : Command := .alter "b" (.rotate (.ofInt (-90)) none)
    start.images = [] ∧ Reaches start session ∧ ∃ image, session.image? "b" = some image ∧
      image.arguments.tokens = ["(", ")", "-brightness-contrast", "-40x0", ")"] ∧
      (∃! units : Units, units.tokens = image.arguments.tokens) ∧
      ∃ after, (session.perform turn).2.image? "b" = some after ∧
        ∃! added : Units, after.arguments.tokens = image.arguments.tokens ++ added.tokens := by
  intro start session turn
  have reached : Reaches start session := reaches_follow start _
  have tokens : (session.image? "b").map (·.arguments.tokens) =
      some ["(", ")", "-brightness-contrast", "-40x0", ")"] := by decide +kernel
  obtain ⟨image, held, spelled⟩ := Option.map_eq_some_iff.mp tokens
  obtain ⟨unique, grown, -⟩ := arguments_append_only rfl reached held
  exact ⟨rfl, reached, image, held, spelled, unique, grown [turn] (by simp [turn, Command.replaces])⟩

end Session

end Retouch
