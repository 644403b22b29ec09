import Retouch.Proofs.Text.Letters
import Retouch.Save.Plan

/-!
A plan is made in three steps, for the format, the layers and the quality, and put together from
what they come to. The format is found in lower case, so the letter case of its candidates is lost.
-/
namespace Retouch.Save

def qualityTokens : Option Nat → List String
  | some value => ["-quality", toString value]
  | none => []

/-- The plan that the three results make. -/
def Request.drafted (request : Request) (destination : String) (options : Options)
    (format : String) (layers : Layers) (quality : Option Nat) : Plan where
  argv := request.convert ++ request.input ++ request.arguments ++ layers.tokens ++
    qualityTokens quality ++ resolution options ++ ["-format", format, destination]
  format := format
  destination := destination
  layers := layers

section Steps
variable {request : Request} {destination : String} {options : Options}

theorem plan_unresolved {cause : Cause}
    (unresolved : resolveFormat options.format destination request.source = .error cause) :
    plan request destination options = .error cause := by
  rw [plan, unresolved]
  rfl

theorem plan_resolved {format : String}
    (resolved : resolveFormat options.format destination request.source = .ok format) :
    plan request destination options = layersFor format options request.layers >>= fun layers =>
      (compression format options).map (request.drafted destination options format layers) := by
  rw [plan, resolved]
  simp only [bind, Except.bind]
  cases layersFor format options request.layers with
  | error cause => rfl
  | ok layers =>
    simp only
    cases compression format options with
    | error cause => rfl
    | ok quality => cases quality <;> rfl

theorem plan_eq_ok {planned : Plan} : plan request destination options = .ok planned ↔
    ∃ format layers quality,
      resolveFormat options.format destination request.source = .ok format ∧
      layersFor format options request.layers = .ok layers ∧
      compression format options = .ok quality ∧
      request.drafted destination options format layers quality = planned := by
  cases resolved : resolveFormat options.format destination request.source with
  | error cause => simp [plan_unresolved resolved]
  | ok format =>
    rw [plan_resolved resolved]
    cases chosen : layersFor format options request.layers with
    | error cause => simp [bind, Except.bind, chosen]
    | ok layers =>
      cases compressed : compression format options <;>
        simp [bind, Except.bind, Except.map, chosen, compressed]

theorem plan_eq_error {cause : Cause} : plan request destination options = .error cause ↔
    resolveFormat options.format destination request.source = .error cause ∨
    ∃ format, resolveFormat options.format destination request.source = .ok format ∧
      (layersFor format options request.layers = .error cause ∨
        (∃ layers, layersFor format options request.layers = .ok layers) ∧
          compression format options = .error cause) := by
  cases resolved : resolveFormat options.format destination request.source with
  | error other => simp [plan_unresolved resolved]
  | ok format =>
    rw [plan_resolved resolved]
    cases chosen : layersFor format options request.layers with
    | error other => simp [bind, Except.bind, chosen]
    | ok layers =>
      cases compressed : compression format options <;>
        simp [bind, Except.bind, Except.map, chosen, compressed]

end Steps

/-- The three candidates for a format, the first of which that says something is taken. -/
def candidate? (asked : Option String) (destination : String) (source : Option String) :
    Option String :=
  usable (asked.map Text.trim) <|> usable (Path.extension? destination) <|>
    usable (source.bind Path.extension?)
where
  usable (s : Option String) : Option String := (s.map Text.lowercase).bind nonempty?

theorem nonempty?_lowercase (s : String) :
    (nonempty? s).map Text.lowercase = nonempty? (Text.lowercase s) := by
  have same : (Text.lowercase s).isEmpty = s.isEmpty := by
    rw [Bool.eq_iff_iff, String.isEmpty_iff, String.isEmpty_iff, ← String.toList_eq_nil_iff,
      ← String.toList_eq_nil_iff, Text.toList_lowercase, List.map_eq_nil_iff]
  unfold nonempty?
  rw [same]
  split <;> rfl

theorem resolveFormat_eq (asked : Option String) (destination : String) (source : Option String) :
    resolveFormat asked destination source = match candidate? asked destination source with
      | some format => .ok format
      | none => .error (undetermined destination) := by
  have lower (s : Option String) :
      (s.bind nonempty?).map Text.lowercase = candidate?.usable s := by
    cases s with
    | none => rfl
    | some text => exact nonempty?_lowercase text
  have first : (asked.bind fun s => nonempty? (Text.trim s)).map Text.lowercase =
      candidate?.usable (asked.map Text.trim) := by
    rw [← lower, Option.bind_map]
    rfl
  have last : (source.bind fun path => (Path.extension? path).bind nonempty?).map Text.lowercase =
      candidate?.usable (source.bind Path.extension?) := by
    rw [← lower, Option.bind_assoc]
  have gathered (a b c : Option String) :
      (match a <|> b <|> c with
        | some format => Except.ok (Text.lowercase format)
        | none => .error (undetermined destination)) =
      match a.map Text.lowercase <|> b.map Text.lowercase <|> c.map Text.lowercase with
        | some format => .ok format
        | none => .error (undetermined destination) := by
    cases a <;> cases b <;> cases c <;> rfl
  rw [candidate?, ← first, ← lower, ← last]
  exact gathered _ _ _

theorem resolveFormat_eq_ok {asked source : Option String} {destination format : String} :
    resolveFormat asked destination source = .ok format ↔
      candidate? asked destination source = some format := by
  rw [resolveFormat_eq]
  cases candidate? asked destination source <;> simp

theorem resolveFormat_lower {asked source : Option String} {destination format : String}
    (resolved : resolveFormat asked destination source = .ok format) :
    Text.lowercase format = format := by
  unfold resolveFormat at resolved
  simp only at resolved
  split at resolved
  · obtain rfl := Except.ok.inj resolved
    exact Text.lowercase_lowercase _
  · cases resolved

/-- Two texts, or none, that differ in the case of their letters at the most. -/
def Recased (first second : Option String) : Prop :=
  first.map Text.lowercase = second.map Text.lowercase

theorem usable_recased {first second : Option String} (recased : Recased first second) :
    candidate?.usable first = candidate?.usable second :=
  congrArg (Option.bind · nonempty?) recased

theorem Recased.trim {first second : Option String} (recased : Recased first second) :
    Recased (first.map Text.trim) (second.map Text.trim) := by
  have lower (s : Option String) :
      (s.map Text.trim).map Text.lowercase = (s.map Text.lowercase).map Text.trim := by
    simp only [Option.map_map, Function.comp_def, Text.lowercase_trim]
  rw [Recased, lower, lower, recased]

theorem candidate?_recased {asked asked' source source' : Option String}
    {destination destination' : String} (explicit : Recased asked asked')
    (target : Recased (Path.extension? destination) (Path.extension? destination'))
    (origin : Recased (source.bind Path.extension?) (source'.bind Path.extension?)) :
    candidate? asked destination source = candidate? asked' destination' source' := by
  rw [candidate?, candidate?, usable_recased explicit.trim, usable_recased target,
    usable_recased origin]

end Retouch.Save
