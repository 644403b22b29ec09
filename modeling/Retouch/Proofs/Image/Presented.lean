import Retouch.Proofs.Image.Fetched
import Retouch.Proofs.Save.FoundFormat
import Retouch.Tool.Script

/-!
What a receiver gets. A format without a media type is refused before anything is done, and in any
other the receiver gets what a rendering into memory gives.
-/
namespace Retouch

namespace Save

/-- The formats with a media type. -/
def shownFormats : List String := ["jpeg", "jpg", "gif", "png", "wbmp", "xbm"]

theorem mediaType_eq_ok {format type : String} :
    mediaType format = .ok type ↔ mediaTypes.lookup (Text.lowercase format) = some type := by
  unfold mediaType
  cases mediaTypes.lookup (Text.lowercase format) <;> simp

theorem shown_of_mediaType {format type : String}
    (listed : mediaTypes.lookup (Text.lowercase format) = some type) :
    Text.lowercase format ∈ shownFormats := by
  obtain ⟨before, after, split, -⟩ := List.lookup_eq_some_iff.mp listed
  have keys : shownFormats = mediaTypes.map (·.1) := rfl
  rw [keys, split]
  simp

theorem mediaType_hidden {format : String} (hidden : Text.lowercase format ∉ shownFormats) :
    mediaType format = .error
      (.unsupported .format s!"{format} (only jpeg, jpg, gif, png, wbmp, xbm are supported)") := by
  have missing : mediaTypes.lookup (Text.lowercase format) = none := by
    cases listed : mediaTypes.lookup (Text.lowercase format) with
    | none => rfl
    | some type => exact (hidden (shown_of_mediaType listed)).elim
  have known : " (only " ++ ", ".intercalate (mediaTypes.map (·.1)) ++ " are supported)" =
      " (only jpeg, jpg, gif, png, wbmp, xbm are supported)" := by decide +kernel
  simp only [mediaType, missing, toString, ← known, String.append_assoc]

/-- A format with a media type is asked for without blanks. -/
theorem resolveFormat_shown {format : String} (shown : Text.lowercase format ∈ shownFormats)
    (path : String) (source : Option String) :
    resolveFormat (some format) path source = .ok (Text.lowercase format) := by
  have tight : ∀ s ∈ shownFormats, s ≠ "" ∧ Text.trim s = s := by decide +kernel
  obtain ⟨filled, trimmed⟩ := tight _ shown
  rw [← Text.lowercase_trim] at trimmed
  have letters : Text.trim format ≠ "" := by
    intro blank
    rw [blank, Text.lowercase_empty] at trimmed
    exact filled trimmed.symm
  have found := resolveFormat_of_found (.asked rfl letters : Found (some format) path source _)
  rwa [trimmed] at found

end Save

namespace Image

theorem deliver_ok {room : Option Nat} {bytes : Bytes} (fits : ∀ most, room = some most →
    bytes.length ≤ most) : deliver room bytes = (bytes, .ok ()) := by
  cases room with
  | none => rfl
  | some most => exact if_pos (fits most rfl)

theorem deliver_failed {most : Nat} {bytes : Bytes} (large : most < bytes.length) :
    deliver (some most) bytes =
      (bytes.take most, .error (.other "failed to write rendered image" [])) :=
  if_neg (by omega)

/-- A receiver that gets all of it gets what a rendering into memory gives. -/
theorem present_eq_ok {kit : Tool.Kit} {format : String} {options : Save.Options}
    {room : Option Nat} {desk after : Desk} {arrived : Bytes} {type : String} :
    present kit format options room desk = ((arrived, .ok type), after) ↔
      Save.mediaTypes.lookup (Text.lowercase format) = some type ∧
        get kit format options desk = (.ok arrived, after) ∧
        ∀ most, room = some most → arrived.length ≤ most := by
  rw [← Save.mediaType_eq_ok]
  cases shown : Save.mediaType format with
  | error cause =>
    rw [present_hidden shown]
    constructor
    · intro same
      cases same
    · rintro ⟨refused, -⟩
      cases refused
  | ok known =>
    rw [present_shown shown]
    rcases get kit format options desk with ⟨cause | bytes, between⟩
    · constructor
      · intro same
        cases same
      · rintro ⟨-, refused, -⟩
        cases refused
    · by_cases fits : ∀ most, room = some most → bytes.length ≤ most
      · simp only [deliver_ok fits, Except.map]
        constructor
        · intro same
          cases same
          exact ⟨rfl, rfl, fits⟩
        · rintro ⟨same, got, -⟩
          cases same
          cases got
          rfl
      · obtain ⟨most, rfl, large⟩ : ∃ most, room = some most ∧ most < bytes.length := by
          simpa using fits
        simp only [deliver_failed large, Except.map]
        constructor
        · intro same
          cases same
        · rintro ⟨-, got, fits'⟩
          cases got
          exact (fits fits').elim

theorem present_as_get (kit : Tool.Kit) (format : String) (options : Save.Options)
    (room : Option Nat) (desk : Desk) :
    (Text.lowercase format ∉ ["jpeg", "jpg", "gif", "png", "wbmp", "xbm"] →
      present kit format options room desk = (([], .error (.unsupported .format
        s!"{format} (only jpeg, jpg, gif, png, wbmp, xbm are supported)")), desk)) ∧
    (∀ arrived type after, present kit format options room desk = ((arrived, .ok type), after) ↔
      Save.mediaTypes.lookup (Text.lowercase format) = some type ∧
        get kit format options desk = (.ok arrived, after) ∧
        ∀ most, room = some most → arrived.length ≤ most) ∧
    ∀ arrived type after, present kit format options room desk = ((arrived, .ok type), after) →
      ∃ file front files output changes,
        let argv := front ++ ["-format", Text.lowercase format, file.path]
        let left := changes.foldl (Change.apply file.path) files
        desk.world.tool desk.world.calls argv = .ran output changes ∧
        Files.read files file.path = .ok [] ∧ left.read file.path = .ok arrived ∧
        after.world = World.discard { desk.world with
          files := left
          calls := desk.world.calls ++ [argv]
          minted := desk.world.minted ++ [file] } file := by
  refine ⟨fun hidden => present_hidden (Save.mediaType_hidden hidden),
    fun _ _ _ => present_eq_ok, ?_⟩
  intro arrived type after presented
  obtain ⟨listed, got, -⟩ := present_eq_ok.mp presented
  rcases get_called kit format options desk with
    ⟨cause, failed, -⟩ | ⟨file, planned, ready, aimed, came⟩
  · rw [got] at failed
    cases failed
  · obtain ⟨output, changes, replied, -, read, last⟩ := received_ok (came.symm.trans got)
    obtain ⟨⟨front, argv⟩, resolved⟩ := aimed.argv
    have word : planned.format = Text.lowercase format := by
      rw [Save.resolveFormat_shown (Save.shown_of_mediaType listed)] at resolved
      exact (Except.ok.inj resolved).symm
    have aim : planned.destination = file.path :=
      (Option.some.inj (plan_ok aimed.settled).1).symm
    have before := aimed.ready_eq
    rw [word] at argv
    rw [aim] at read last
    refine ⟨file, front, ready.files, output, changes, argv ▸ replied, aimed.empty, read, ?_⟩
    rw [last, argv, before]

/-- A format in capital letters is shown, and one with a blank after it is refused. -/
theorem present_as_get_capitals :
    let kit : Tool.Kit := ⟨["convert"], ["identify"], "systmp"⟩
    let desk : Desk := ⟨.ofFile "a.png" (some "a.png") .rgb 1 {}, {
      tool := Tool.steady (.ran (.ok []) [.write [1, 2]])
      files := { entries := [(["systmp".toList], .directory)] } }⟩
    (present kit "GIF" {} (some 2) desk).1 = ([1, 2], .ok "image/gif") ∧
      (get kit "GIF" {} desk).1 = .ok [1, 2] ∧
      (∃ file front, (get kit "GIF" {} desk).2.world.calls =
        [front ++ ["-format", Text.lowercase "GIF", ScratchFile.path file]]) ∧
      present kit "gif " {} none desk = (([], .error (.unsupported .format
        "gif  (only jpeg, jpg, gif, png, wbmp, xbm are supported)")), desk) := by
  intro kit desk
  have arrived : (present kit "GIF" {} (some 2) desk).1 = ([1, 2], .ok "image/gif") := by
    decide +kernel
  have whole : present kit "GIF" {} (some 2) desk = (([1, 2], .ok "image/gif"),
      (present kit "GIF" {} (some 2) desk).2) := Prod.ext arrived rfl
  obtain ⟨-, shown, called⟩ := present_as_get kit "GIF" {} (some 2) desk
  obtain ⟨-, got, -⟩ := (shown [1, 2] "image/gif" _).mp whole
  obtain ⟨file, front, files, output, changes, -, -, -, last⟩ := called [1, 2] "image/gif" _ whole
  have refused := (present_as_get kit "gif " {} none desk).1 (by decide +kernel)
  exact ⟨arrived, congrArg Prod.fst got,
    ⟨file, front, by rw [congrArg Prod.snd got, last]; rfl⟩, refused⟩

end Image

end Retouch
