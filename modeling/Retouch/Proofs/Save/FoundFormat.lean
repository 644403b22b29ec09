import Retouch.Proofs.Files.Extension
import Retouch.Proofs.Save.Steps

/-!
Which format a save is in. Three texts can name it, and the first that says something does: a text of
blanks, and a path that ends in a dot, are passed over like those that are not there.
-/
namespace Retouch.Save

def Silent (asked : Option String) : Prop := ∀ text, asked = some text → Text.trim text = ""

/-- A path whose extension is absent or empty. -/
def Bare (path : String) : Prop := ∀ ending, Path.Extension path (some ending) → ending = ""

/-- What is found, one rule for each text that can be the first to say something. -/
inductive Found (asked : Option String) (destination : String) (source : Option String) :
    Except Cause String → Prop
  | asked {text : String} (given : asked = some text) (filled : Text.trim text ≠ "") :
      Found asked destination source (.ok (Text.lowercase (Text.trim text)))
  | destination {ending : String} (silent : Silent asked)
      (named : Path.Extension destination (some ending)) (filled : ending ≠ "") :
      Found asked destination source (.ok (Text.lowercase ending))
  | source {path ending : String} (silent : Silent asked) (bare : Bare destination)
      (given : source = some path) (named : Path.Extension path (some ending))
      (filled : ending ≠ "") : Found asked destination source (.ok (Text.lowercase ending))
  | nothing (silent : Silent asked) (bare : Bare destination)
      (unnamed : ∀ path, source = some path → Bare path) :
      Found asked destination source
        (.error (.unsupported .format s!"cannot determine an output format for '{destination}'"))

theorem nonempty?_empty : nonempty? "" = none := rfl

theorem nonempty?_filled {s : String} (filled : s ≠ "") : nonempty? s = some s :=
  if_neg (by simpa using filled)

theorem silent_iff {asked : Option String} :
    Silent asked ↔ asked.bind (fun text => nonempty? (Text.trim text)) = none := by
  cases asked with
  | none => simp [Silent]
  | some text =>
    by_cases empty : Text.trim text = ""
    · simp [Silent, empty, nonempty?_empty]
    · simp [Silent, empty, nonempty?_filled empty]

theorem bare_iff {path : String} :
    Bare path ↔ (Path.extension? path).bind nonempty? = none := by
  unfold Bare
  simp only [← Path.extension?_eq_iff]
  cases Path.extension? path with
  | none => simp
  | some ending =>
    by_cases empty : ending = ""
    · simp [empty, nonempty?_empty]
    · simp [empty, nonempty?_filled empty]

theorem extension_filled {path ending : String} (named : Path.Extension path (some ending))
    (filled : ending ≠ "") : (Path.extension? path).bind nonempty? = some ending := by
  rw [Path.extension?_eq_iff.mpr named]
  exact nonempty?_filled filled

theorem exists_extension {path : String} (named : ¬Bare path) :
    ∃ ending, Path.Extension path (some ending) ∧ ending ≠ "" := by
  simpa [Bare] using named

variable {asked source : Option String} {destination : String} {result : Except Cause String}

theorem resolveFormat_of_found (found : Found asked destination source result) :
    resolveFormat asked destination source = result := by
  unfold resolveFormat
  cases found with
  | asked given filled =>
    simp only [given, Option.bind_some, nonempty?_filled filled]
    rfl
  | destination silent named filled =>
    simp only [silent_iff.mp silent, extension_filled named filled]
    rfl
  | source silent bare given named filled =>
    simp only [silent_iff.mp silent, bare_iff.mp bare, given, Option.bind_some,
      extension_filled named filled]
    rfl
  | nothing silent bare unnamed =>
    have last : (source.bind fun path => (Path.extension? path).bind nonempty?) = none := by
      cases source with
      | none => rfl
      | some path => exact bare_iff.mp (unnamed path rfl)
    simp only [silent_iff.mp silent, bare_iff.mp bare, last]
    rfl

theorem found_resolveFormat (asked : Option String) (destination : String)
    (source : Option String) :
    Found asked destination source (resolveFormat asked destination source) := by
  have found {result : Except Cause String} (rule : Found asked destination source result) :
      Found asked destination source (resolveFormat asked destination source) :=
    resolveFormat_of_found rule ▸ rule
  by_cases silent : Silent asked
  · by_cases bare : Bare destination
    · by_cases unnamed : ∀ path, source = some path → Bare path
      · exact found (.nothing silent bare unnamed)
      · obtain ⟨path, given, named⟩ : ∃ path, source = some path ∧ ¬Bare path := by
          simpa using unnamed
        obtain ⟨ending, named, filled⟩ := exists_extension named
        exact found (.source silent bare given named filled)
    · obtain ⟨ending, named, filled⟩ := exists_extension bare
      exact found (.destination silent named filled)
  · obtain ⟨text, given, filled⟩ : ∃ text, asked = some text ∧ Text.trim text ≠ "" := by
      simpa [Silent] using silent
    exact found (.asked given filled)

theorem resolveFormat_eq_iff :
    resolveFormat asked destination source = result ↔ Found asked destination source result :=
  ⟨fun same => same ▸ found_resolveFormat asked destination source, resolveFormat_of_found⟩

theorem lowercase_ne_empty {s : String} (filled : s ≠ "") : Text.lowercase s ≠ "" := by
  intro empty
  have chars := congrArg String.toList empty
  rw [Text.toList_lowercase] at chars
  exact filled (String.toList_eq_nil_iff.mp (List.map_eq_nil_iff.mp chars))

theorem Found.filled {format : String} (found : Found asked destination source (.ok format)) :
    format ≠ "" := by
  cases found with
  | asked _ filled => exact lowercase_ne_empty filled
  | destination _ _ filled => exact lowercase_ne_empty filled
  | source _ _ _ _ filled => exact lowercase_ne_empty filled

theorem format_first_usable (asked : Option String) (destination : String)
    (source : Option String) :
    (∀ result, resolveFormat asked destination source = result ↔
      Found asked destination source result) ∧
    ((∃ cause, resolveFormat asked destination source = .error cause) ↔
      Silent asked ∧ Bare destination ∧ ∀ path, source = some path → Bare path) ∧
    ∀ format, resolveFormat asked destination source = .ok format →
      format ≠ "" ∧ ∀ c ∈ format.toList, c.isUpper = false := by
  refine ⟨fun _ => resolveFormat_eq_iff, ⟨?_, ?_⟩, fun format resolved => ?_⟩
  · rintro ⟨cause, failed⟩
    cases resolveFormat_eq_iff.mp failed with
    | nothing silent bare unnamed => exact ⟨silent, bare, unnamed⟩
  · rintro ⟨silent, bare, unnamed⟩
    exact ⟨_, resolveFormat_of_found (.nothing silent bare unnamed)⟩
  · refine ⟨(resolveFormat_eq_iff.mp resolved).filled, fun c member => ?_⟩
    rw [← resolveFormat_lower resolved, Text.toList_lowercase] at member
    obtain ⟨d, -, rfl⟩ := List.mem_map.mp member
    exact Text.isUpper_toLower d

/-- Blanks are asked for, and the file is to have a name that ends in a dot. -/
theorem format_first_usable_blank :
    resolveFormat (some " \t") "out." (some "d/photo.tar.GIF/.") = .ok "gif" ∧ "gif" ≠ "" ∧
      ∀ c ∈ "gif".toList, c.isUpper = false := by
  have resolved : resolveFormat (some " \t") "out." (some "d/photo.tar.GIF/.") = .ok "gif" := by
    decide +kernel
  exact ⟨resolved, (format_first_usable _ _ _).2.2 "gif" resolved⟩

end Retouch.Save
