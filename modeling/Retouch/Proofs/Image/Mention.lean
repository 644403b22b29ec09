import Retouch.Proofs.Files.Naming
import Retouch.Proofs.Image.Outcome
import Retouch.Proofs.Text.Unmarked

/-!
Which temporary files the tokens of an edit can mention. A token that is made out of keywords,
numbers and colors never reads like the path of a file that stays with an image: the last name in
that path starts with one of two pairs of letters.
-/
namespace Retouch

open Text

/-- The first two characters of the last name in a path. -/
def Path.initials (path : String) : List Char := ((segments path).getLast?.getD []).take 2

/-- A token that is not the path of a temporary file that stays with an image. -/
def Plain (token : String) : Prop :=
  Path.initials token ≠ ['i', 'm'] ∧ Path.initials token ≠ ['i', 'p']

instance (token : String) : Decidable (Plain token) := inferInstanceAs (Decidable (_ ∧ _))

theorem Path.initials_subset (path : String) : initials path ⊆ path.toList := by
  unfold initials
  cases last : (segments path).getLast? with
  | none => exact List.nil_subset _
  | some name =>
    exact List.Subset.trans (List.take_subset 2 name)
      (subset_of_mem_splitAll (List.mem_of_getLast? last))

theorem plain_of_unmarked {token : String} (unmarked : Unmarked token.toList) : Plain token := by
  constructor <;> intro same
  · exact unmarked.1 (Path.initials_subset token (by simp [same]))
  · exact unmarked.2 (Path.initials_subset token (by simp [same]))

theorem ScratchFile.Lasting.not_plain {directory : String} {file : ScratchFile}
    (lasting : Lasting directory file) : ¬ Plain file.path := by
  obtain ⟨letter, known, spelled⟩ := lasting.name_eq
  have read : Path.initials file.path = ['i', letter] := by
    rw [Path.initials, lasting.last, spelled]
    rfl
  rintro ⟨first, second⟩
  rcases known with rfl | rfl
  · exact first read
  · exact second read

theorem Plain.of_last {token other : String} (plain : Plain token)
    (last : (Path.segments token).getLast? = (Path.segments other).getLast?) : Plain other := by
  have same : Path.initials token = Path.initials other := by
    simp only [Path.initials, last]
  rwa [Plain, same] at plain

theorem Fill.plain_canvas (fill : Fill) (size : Size) :
    ∀ token ∈ fill.canvas size, Plain token := by
  have sized : Plain size.text := plain_of_unmarked size.unmarked_text
  have ramp (kind : String) (start finish : Color) (known : Unmarked kind.toList) :
      Plain (kind ++ start.text ++ "-" ++ finish.text) := by
    apply plain_of_unmarked
    simp only [String.toList_append, unmarked_append, known, Color.unmarked_text, true_and,
      and_true]
    decide
  cases fill <;> simp only [canvas, List.forall_mem_cons, List.not_mem_nil, false_imp_iff,
    implies_true, and_true]
  case solid color =>
    have blank : Plain s!"xc:{color.text}" := by
      apply plain_of_unmarked
      simp only [String.toList_append, unmarked_append]
      exact ⟨by decide, color.unmarked_text⟩
    exact ⟨by decide, sized, blank⟩
  case horizontal start finish =>
    exact ⟨by decide, sized, by decide, by decide, ramp "gradient:" start finish (by decide)⟩
  case vertical start finish =>
    exact ⟨by decide, sized, ramp "gradient:" start finish (by decide)⟩
  case radial inner outer =>
    exact ⟨by decide, sized, ramp "radial-gradient:" inner outer (by decide)⟩

theorem Effect.plain_appended (effect : Effect) : ∀ token ∈ effect.appended, Plain token := by
  cases effect <;> simp only [appended, List.forall_mem_cons, List.not_mem_nil, false_imp_iff,
    implies_true, and_true]
  case gamma correction => exact ⟨by decide, plain_of_unmarked correction.unmarked_text⟩
  case colorize color =>
    exact ⟨by decide, plain_of_unmarked color.unmarked_text, by decide, by decide⟩
  case blur sigma =>
    refine ⟨by decide, plain_of_unmarked ?_⟩
    simp only [String.toList_append, unmarked_append]
    exact ⟨by decide, sigma.unmarked_text⟩
  case brightness shift =>
    refine ⟨by decide, plain_of_unmarked ?_⟩
    simp only [String.toList_append, unmarked_append]
    exact ⟨unmarked_int _, by decide⟩
  case convolve kernel =>
    refine ⟨by decide, plain_of_unmarked (unmarked_intercalate (by decide) ?_)⟩
    intro part member
    obtain ⟨value, -, rfl⟩ := List.mem_map.mp member
    exact value.unmarked_text
  all_goals decide

theorem plain_compose (alpha : UInt8) : Plain s!"compose:args={alpha}" := by
  have spelled : (s!"compose:args={alpha}").toList =
      "compose:args=".toList ++ Nat.toDigits 10 alpha.toNat := by
    rw [String.toList_append, show (toString alpha).toList = Nat.toDigits 10 alpha.toNat by
      simp [toString, Nat.repr]]
    rfl
  have whole : '/' ∉ "compose:args=".toList ++ Nat.toDigits 10 alpha.toNat := by
    rw [List.mem_append, not_or]
    exact ⟨by decide, fun member => absurd (isDigit_of_mem member) (by decide)⟩
  have read : Path.initials s!"compose:args={alpha}" = ['c', 'o'] := by
    rw [Path.initials, Path.segments, spelled, splitAll_eq whole]
    rfl
  rw [Plain, read]
  decide

namespace Alteration
variable {palette : Palette} {own : Size} {file : ScratchFile}

theorem plain_appended {edit : Alteration Image} (alone : edit.operand? = none)
    (filed : edit.fileContent? = none) : ∀ token ∈ edit.appended palette own file, Plain token := by
  cases edit <;> simp only [appended]
  case crop start size =>
    have box : Plain (size.text ++ start.offset) := by
      apply plain_of_unmarked
      rw [String.toList_append, unmarked_append]
      exact ⟨size.unmarked_text, start.unmarked_offset⟩
    simp [box]
    decide
  case resize size filter =>
    have sized : Plain size.text := plain_of_unmarked size.unmarked_text
    rw [List.forall_mem_append]
    refine ⟨by simp [sized]; decide, ?_⟩
    cases filter <;> decide
  case rotate angle background =>
    have turned : Plain angle.text := plain_of_unmarked angle.unmarked_text
    rw [List.forall_mem_append]
    refine ⟨?_, by simp [turned]; decide⟩
    cases background with
    | none => simp
    | some color =>
      have colored : Plain color.text := plain_of_unmarked color.unmarked_text
      simp [colored]
      decide
  case interlace scheme => cases scheme <;> decide
  case profile data => cases filed
  case usePalette target => cases palette <;> cases target <;> decide
  case paste => cases alone
  case applyMask => cases alone
  case addLayer => cases alone
  case fill content =>
    have inside := content.plain_canvas own
    intro token member
    simp only [List.mem_append, List.mem_cons, List.not_mem_nil, or_false] at member
    rcases member with (rfl | canvas) | rfl | rfl | rfl | rfl
    · decide
    · exact inside token canvas
    all_goals decide
  case effect chosen => exact chosen.plain_appended
  case removeLayer index =>
    have counted : Plain (toString index) := plain_of_unmarked (unmarked_toString index)
    simp only [List.forall_mem_cons, List.not_mem_nil, false_imp_iff, implies_true, and_true]
    exact ⟨by decide, counted⟩
  all_goals decide

/-- The tokens of the other image are taken over as they are, and one token can be the path of the
temporary file that the edit makes. -/
theorem mem_appended {edit : Alteration Image} {token : String}
    (member : token ∈ edit.appended palette own file) :
    Plain token ∨ (∃ other ∈ edit.operand?, token ∈ other.tokens) ∨
      ((edit.fileContent?).isSome = true ∧ token = file.path) := by
  cases edit
  case profile data =>
    simp only [appended, List.mem_cons, List.not_mem_nil, or_false] at member
    rcases member with rfl | rfl
    · exact .inl (by decide)
    · exact .inr (.inr ⟨rfl, rfl⟩)
  case paste other start alpha =>
    simp only [appended, List.mem_append, List.mem_cons, List.not_mem_nil, or_false] at member
    rcases member with (((rfl | inner) | rfl | rfl | rfl) | mode) | rfl
    · exact .inl (by decide)
    · exact .inr (.inl ⟨other, rfl, inner⟩)
    · exact .inl (by decide)
    · exact .inl (by decide)
    · exact .inl (plain_of_unmarked start.unmarked_offset)
    · left
      split at mode
      · simp only [List.mem_cons, List.not_mem_nil, or_false] at mode
        rcases mode with rfl | rfl <;> decide
      · simp only [List.mem_cons, List.not_mem_nil, or_false] at mode
        rcases mode with rfl | rfl | rfl | rfl
        · decide
        · decide
        · decide
        · exact plain_compose alpha
    · exact .inl (by decide)
  case applyMask mask =>
    simp only [appended, List.mem_append, List.mem_cons, List.not_mem_nil, or_false] at member
    rcases member with (rfl | inner) | rest
    · exact .inl (by decide)
    · exact .inr (.inl ⟨mask, rfl, inner⟩)
    · rcases rest with rfl | rfl | rfl | rfl | rfl | rfl | rfl | rfl <;> exact .inl (by decide)
  case addLayer other =>
    simp only [appended, List.mem_append, List.mem_cons, List.not_mem_nil, or_false] at member
    rcases member with (rfl | inner) | rfl
    · exact .inl (by decide)
    · exact .inr (.inl ⟨other, rfl, inner⟩)
    · exact .inl (by decide)
  all_goals exact .inl (plain_appended rfl rfl token member)

theorem operand_mem {edit : Alteration Image} {other : Image} {token : String}
    (operand : other ∈ edit.operand?) (member : token ∈ other.tokens) :
    token ∈ edit.appended palette own file := by
  cases edit <;> cases operand <;> simp [member]

theorem file_mem {edit : Alteration Image} (filed : (edit.fileContent?).isSome = true) :
    file.path ∈ edit.appended palette own file := by
  cases edit
  case profile data => simp
  all_goals cases filed

theorem mem_adopted {edit : Alteration Image} {held : ScratchFile} :
    held ∈ edit.adopted file ↔
      (∃ other ∈ edit.operand?, held ∈ other.arguments.resources) ∨
        ((edit.fileContent?).isSome = true ∧ held = file) := by
  cases edit <;> simp [operand?, fileContent?]

end Alteration

end Retouch
