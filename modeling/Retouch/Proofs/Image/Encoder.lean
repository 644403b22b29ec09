import Retouch.Proofs.Image.Fetched
import Retouch.Proofs.Save.FoundFormat
import Retouch.Proofs.Session.Run
import Retouch.Tool.Script

/-!
Which encoder a rendering into memory calls for. The format is named twice on the command line, as a
word of its own and as the extension of the temporary file, and each is made of the format that is
asked for in its own way: the word is trimmed, the extension is not. They agree for a format that the
name of a file can end in as it is.
-/
namespace Retouch

namespace Save

/-- A format that is not empty, has no mark of a path in it, and is trimmed or blank. -/
structure Suits (format : String) : Prop where
  filled : format ≠ ""
  dotless : '.' ∉ format.toList
  slashless : '/' ∉ format.toList
  tight : Text.trim format = format ∨ Text.trim format = ""

/-- What the word for the format is, one rule for each sort of text that can be asked for. -/
inductive Worded (format : String) (source : Option String) : String → Prop
  | trimmed (filled : Text.trim format ≠ "") :
      Worded format source (Text.lowercase (Text.trim format))
  | blanks (blank : Text.trim format = "") (filled : format ≠ "") :
      Worded format source (Text.lowercase format)
  | source {path ending : String} (empty : format = "") (given : source = some path)
      (named : Path.Extension path (some ending)) (filled : ending ≠ "") :
      Worded format source (Text.lowercase ending)

end Save

theorem ScratchFile.stemmed (directory : String) (tag : Tag) (kind : String) :
    Path.Stemmed (path ⟨directory, "im", tag, "." ++ kind⟩) kind.toList := by
  obtain ⟨before, bounded, spelled⟩ :=
    Path.child_ends directory ("im" ++ tag.text ++ ("." ++ kind))
  have absent (c : Char) (other : c.isAlphanum = false) (here : c ∉ "im".toList) :
      c ∉ "im".toList ++ tag.text.toList := by
    intro member
    rcases List.mem_append.mp member with early | tagged
    · exact here early
    · rw [tag.plain c tagged] at other
      cases other
  refine ⟨before, "im".toList ++ tag.text.toList, bounded, by simp,
    absent '.' rfl (by decide), absent '/' rfl (by decide), ?_⟩
  rw [path, spelled]
  simp [String.toList_append]

theorem Path.stemmed_im (kind : String) : Path.Stemmed ("im." ++ kind) kind.toList :=
  ⟨[], "im".toList, .inl rfl, by decide, by decide, by decide, String.toList_append⟩

/-- The tag makes no difference to the extension, nor does the directory. -/
theorem ScratchFile.extension?_path {files : Files} {place : Location} {directory kind : String}
    {tag : Tag} (found : files.vacancy (path ⟨directory, "im", tag, "." ++ kind⟩) = .ok place) :
    Path.extension? (path ⟨directory, "im", tag, "." ++ kind⟩) =
      Path.extension? ("im." ++ kind) := by
  have stemmed := stemmed directory tag kind
  refine stemmed.extension?_eq (Path.stemmed_im kind) fun outer inner split whole => ?_
  -- A file is never made at a path that ends in a segment without a name.
  obtain ⟨-, -, -, name, -, -, -, proper, last, -⟩ := Files.vacancy_ok found
  obtain ⟨before, stem, -, -, -, -, spelled⟩ := stemmed.shape
  have around : before ++ (stem ++ '.' :: (outer ++ '/' :: inner)) =
      (before ++ stem ++ '.' :: outer) ++ '/' :: inner := by simp
  rw [Path.segments, spelled, split, around, Text.splitAll_last, Text.splitAll_eq whole] at last
  obtain rfl := Option.some.inj last
  exact proper.1

namespace Save

theorem extension?_unmarked {format : String} (dotless : '.' ∉ format.toList)
    (slashless : '/' ∉ format.toList) :
    Path.extension? ("im." ++ Text.lowercase format) = some (Text.lowercase format) := by
  have plain := (Path.stemmed_im (Text.lowercase format)).plain
    (by rwa [Text.mem_lowercase (by decide)]) (by rwa [Text.mem_lowercase (by decide)])
  rwa [String.ofList_toList] at plain

theorem not_mem_blank {format : String} (blank : Text.trim format = "") {c : Char}
    (letter : Text.isBlank c = false) : c ∉ format.toList := by
  rw [← Text.mem_trimChars letter, ← Text.toList_trim, blank]
  simp

theorem worded_of_resolved {format path named : String} {source : Option String}
    (ends : Path.extension? path = Path.extension? ("im." ++ Text.lowercase format))
    (resolved : resolveFormat (some format) path source = .ok named) :
    Worded format source named := by
  cases resolveFormat_eq_iff.mp resolved with
  | asked given filled =>
    obtain rfl := Option.some.inj given
    exact .trimmed filled
  | @destination ending silent extension filled =>
    have blank := silent format rfl
    have kept := extension?_unmarked (not_mem_blank blank (by decide : Text.isBlank '.' = false))
      (not_mem_blank blank (by decide : Text.isBlank '/' = false))
    rw [← ends, Path.extension?_eq_iff.mpr extension, Option.some.injEq] at kept
    subst kept
    rw [Text.lowercase_lowercase]
    refine .blanks blank ?_
    rintro rfl
    exact filled Text.lowercase_empty
  | source silent bare given extension filled =>
    have blank := silent format rfl
    have kept := extension?_unmarked (not_mem_blank blank (by decide : Text.isBlank '.' = false))
      (not_mem_blank blank (by decide : Text.isBlank '/' = false))
    rw [← ends] at kept
    have empty : format = "" := by
      by_contra letters
      exact lowercase_ne_empty letters (bare _ (Path.extension?_eq_iff.mp kept))
    exact .source empty given extension filled

namespace Worded
variable {format named : String} {source : Option String}

theorem filled (worded : Worded format source named) : named ≠ "" := by
  cases worded with
  | trimmed filled => exact lowercase_ne_empty filled
  | blanks _ filled => exact lowercase_ne_empty filled
  | source _ _ _ filled => exact lowercase_ne_empty filled

/-- A mark in the format stays in the word. -/
theorem mem {c : Char} (worded : Worded format source named) (letter : Text.isBlank c = false)
    (small : c.toNat < 65) (member : c ∈ format.toList) : c ∈ named.toList := by
  cases worded with
  | trimmed _ =>
    rwa [Text.mem_lowercase small, Text.toList_trim, Text.mem_trimChars letter]
  | blanks blank _ => exact (not_mem_blank blank letter member).elim
  | source empty _ _ _ =>
    rw [empty] at member
    cases member

theorem extension?_iff (worded : Worded format source named) :
    Path.extension? ("im." ++ Text.lowercase format) = some named ↔ Suits format := by
  constructor
  · intro same
    obtain ⟨dot, slash⟩ := (Path.extension?_eq_iff.mp same).unmarked
    have dotless : '.' ∉ format.toList := fun member => dot (worded.mem rfl (by decide) member)
    have slashless : '/' ∉ format.toList := fun member => slash (worded.mem rfl (by decide) member)
    have whole : Text.lowercase format = named :=
      Option.some.inj ((extension?_unmarked dotless slashless).symm.trans same)
    refine ⟨?_, dotless, slashless, ?_⟩
    · rintro rfl
      exact worded.filled (whole.symm.trans Text.lowercase_empty)
    · cases worded with
      | trimmed filled =>
        left
        have lengths := congrArg (fun s : String => s.toList.length) whole
        simp only [Text.toList_lowercase, List.length_map, Text.toList_trim] at lengths
        apply String.toList_injective
        rw [Text.toList_trim]
        exact Text.trimChars_of_length (by omega)
      | blanks blank _ => exact .inr blank
      | source empty _ _ _ => exact .inl (by rw [empty]; rfl)
  · intro suits
    rw [extension?_unmarked suits.dotless suits.slashless]
    cases worded with
    | trimmed filled => rw [suits.tight.resolve_right filled]
    | blanks _ _ => rfl
    | source empty _ _ _ => exact (suits.filled empty).elim

end Worded

end Save

namespace Image

theorem rendering_format (kit : Tool.Kit) (format : String) (options : Save.Options)
    (desk : Desk) :
    (∀ asked, get kit format { options with format := asked } desk =
      get kit format options desk) ∧
    ((get kit format options desk).2.world.calls ≠ desk.world.calls →
      ∃ file front named,
        (get kit format options desk).2.world.minted = desk.world.minted ++ [file] ∧
        (get kit format options desk).2.world.calls =
          desk.world.calls ++ [front ++ ["-format", named, file.path]] ∧
        Path.extension? file.path = Path.extension? ("im." ++ Text.lowercase format) ∧
        Save.Worded format desk.image.source named ∧
        (Path.extension? file.path = some named ↔ Save.Suits format)) := by
  refine ⟨fun _ => rfl, fun reached => ?_⟩
  rcases get_called kit format options desk with
    ⟨cause, -, silent⟩ | ⟨file, planned, ready, aimed, got⟩
  · exact (reached silent).elim
  · rw [got] at reached ⊢
    obtain ⟨minted, calls⟩ := received_world file planned desk.image ready
      (desk.world.tool desk.world.calls planned.argv)
    have before := aimed.ready_eq
    obtain ⟨⟨front, argv⟩, resolved⟩ := aimed.argv
    obtain ⟨⟨tag, made⟩, place, found⟩ := aimed.named
    have ends : Path.extension? file.path =
        Path.extension? ("im." ++ Text.lowercase format) := by
      rw [made] at found ⊢
      exact ScratchFile.extension?_path found
    have worded := Save.worded_of_resolved ends resolved
    refine ⟨file, front, planned.format, ?_, ?_, ends, worded, ?_⟩
    · rw [minted, before]
    · rw [before] at calls reached
      rw [before, ← argv]
      exact calls.resolve_left reached
    · rw [ends]
      exact worded.extension?_iff

/-- A format in capital letters, for an image that comes from a file of another. -/
theorem rendering_format_capitals :
    let kit : Tool.Kit := ⟨["convert"], ["identify"], "systmp"⟩
    let desk : Desk := ⟨.ofFile "a.png" (some "a.png") .rgb 1 {}, {
      tool := Tool.steady (.ran (.ok []) [.write [1, 2]])
      files := { entries := [(["systmp".toList], .directory)] } }⟩
    let world := (get kit "GIF" { format := some "xbm" } desk).2.world
    world.calls ≠ desk.world.calls ∧ Save.Suits "GIF" ∧ ∃ file front named,
      world.minted = [file] ∧ world.calls = [front ++ ["-format", named, file.path]] ∧
      Save.Worded "GIF" (some "a.png") named ∧ Path.extension? file.path = some named := by
  intro kit desk world
  have reached : world.calls ≠ desk.world.calls := by decide +kernel
  have suits : Save.Suits "GIF" :=
    ⟨by decide, by decide, by decide, .inl (by decide +kernel)⟩
  obtain ⟨file, front, named, minted, calls, -, worded, same⟩ :=
    (rendering_format kit "GIF" { format := some "xbm" } desk).2 reached
  exact ⟨reached, suits, file, front, named, minted, calls, worded, same.mpr suits⟩

end Image

/-- A blank after the format stays in the name of the file, and an empty format leaves the word to
the file that the image comes from. -/
theorem Session.blank_misnames :
    let start : Session := ⟨⟨["convert"], ["identify"], "systmp"⟩, [], {
      tool := Tool.Script.responder fun _ => []
      files := { entries := [(["a.gif".toList], .file []), (["systmp".toList], .directory)] } }⟩
    let session := start.follow [.make "a" (.file "a.gif")]
    Reaches start session ∧
      (session.perform (.get "a" "png " {})).2.world.calls.getLast? =
        some ["convert", "a.gif", "-format", "png", "systmp/im000001.png "] ∧
      Path.extension? "systmp/im000001.png " = some "png " ∧
      (session.perform (.get "a" "" {})).2.world.calls.getLast? =
        some ["convert", "a.gif", "-format", "gif", "systmp/im000001."] ∧
      Path.extension? "systmp/im000001." = some "" :=
  ⟨reaches_follow _ _, by decide +kernel, by decide +kernel, by decide +kernel, by decide +kernel⟩

end Retouch
