import Mathlib.Data.List.Forall2
import Retouch.Proofs.Color.Depths
import Retouch.Proofs.Text.Lines

/-!
What a histogram is read to. Every line with a word after its first hash sign gives a color, in the
order of the lines, and the first word that is no pixel ends it. What stands around the words, and
how the lines end, makes no difference.
-/
namespace Retouch

section
variable {α β ε : Type} {f : α → Except ε β} {items : List α}

theorem mapM_eq_ok {results : List β} :
    items.mapM f = .ok results ↔ List.Forall₂ (fun item result => f item = .ok result) items results := by
  induction items generalizing results with
  | nil => cases results <;> simp [pure, Except.pure]
  | cons item rest ih =>
    rw [List.mapM_cons]
    cases first : f item with
    | error cause => cases results <;> simp [bind, Except.bind, first]
    | ok result =>
      cases later : rest.mapM f with
      | error cause => cases results <;> simp_all [bind, Except.bind]
      | ok found => cases results <;> simp_all [bind, Except.bind, pure, Except.pure]

theorem mapM_ok_mem {results : List β} (all : items.mapM f = .ok results) :
    ∀ item ∈ items, ∃ result, f item = .ok result := by
  have each := mapM_eq_ok.mp all
  clear all
  induction each with
  | nil => exact List.forall_mem_nil _
  | cons fine later ih => exact List.forall_mem_cons.mpr ⟨⟨_, fine⟩, ih⟩

theorem mapM_eq_error {cause : ε} : items.mapM f = .error cause ↔
    ∃ before item after, items = before ++ item :: after ∧ f item = .error cause ∧
      ∀ other ∈ before, ∃ result, f other = .ok result := by
  induction items with
  | nil => simp [pure, Except.pure]
  | cons item rest ih =>
    have step : (item :: rest).mapM f = .error cause ↔
        f item = .error cause ∨ (∃ result, f item = .ok result) ∧ rest.mapM f = .error cause := by
      rw [List.mapM_cons]
      cases f item <;> cases rest.mapM f <;> simp [bind, Except.bind, pure, Except.pure]
    rw [step, ih]
    constructor
    · rintro (refused | ⟨fine, before, other, after, rfl, refused, every⟩)
      · exact ⟨[], item, rest, rfl, refused, List.forall_mem_nil _⟩
      · exact ⟨item :: before, other, after, rfl, refused, List.forall_mem_cons.mpr ⟨fine, every⟩⟩
    · rintro ⟨before, other, after, split, refused, every⟩
      cases before with
      | nil =>
        obtain ⟨rfl, rfl⟩ := List.cons.inj split
        exact .inl refused
      | cons first before =>
        obtain ⟨rfl, rfl⟩ := List.cons.inj split
        obtain ⟨fine, later⟩ := List.forall_mem_cons.mp every
        exact .inr ⟨fine, before, other, after, rfl, refused, later⟩

end

end Retouch

namespace Retouch.Tool

/-- A pixel in one of the depths that the tool prints. -/
inductive Pixel
  | narrow (red green blue : UInt8) (alpha : Option UInt8)
  | wide (pixel : WidePixel)

namespace Pixel

def digits : Pixel → List Char
  | narrow red green blue alpha =>
    Color.chars.hex red ++ Color.chars.hex green ++ Color.chars.hex blue ++
      (alpha.map Color.chars.hex).getD []
  | wide pixel => pixel.digits

def color : Pixel → Color
  | narrow red green blue alpha => ⟨red, green, blue, alpha.getD 255⟩
  | wide pixel => pixel.color

theorem isHex_digits (pixel : Pixel) : ∀ c ∈ pixel.digits, Text.IsHex c := by
  cases pixel with
  | wide pixel => exact pixel.isHex_digits
  | narrow red green blue alpha =>
    simp only [digits, List.forall_mem_append]
    refine ⟨⟨⟨Text.isHex_hexByte _, Text.isHex_hexByte _⟩, Text.isHex_hexByte _⟩, ?_⟩
    cases alpha with
    | none => exact List.forall_mem_nil _
    | some alpha => exact Text.isHex_hexByte _

/-- Its digits are read to the pixel, in letters of any case. -/
theorem read_digits {pixel : Pixel} {word : List Char} (spelled : word.map Char.toLower = pixel.digits) :
    Readout.pixel (.ofList word) = .ok pixel.color := by
  have shown : Text.Shows (.ofList word) pixel.digits := spelled ▸ Text.shows_ofList word
  cases pixel with
  | wide pixel => exact Readout.pixel_wide shown
  | narrow red green blue alpha =>
    cases alpha with
    | none =>
      refine Readout.pixel_narrow shown (isHex_digits _) (.inl rfl) ?_
      simpa [digits, color] using Color.ofBody?_opaque red green blue
    | some alpha =>
      refine Readout.pixel_narrow shown (isHex_digits _) (.inr rfl) ?_
      simpa [digits, color] using Color.ofBody?_whole red green blue alpha

end Pixel

namespace Readout

/-- What stands on a line after the first hash sign, up to the next blank. -/
inductive Marked : List Char → List Char → Prop
  | intro {before rest word : List Char} (first : '#' ∉ before) (begun : Text.FirstWord rest word) :
      Marked (before ++ '#' :: rest) word

/-- A line that shows a pixel, whatever stands before the digits and a blank after them. -/
inductive Displays : List Char → Pixel → Prop
  | intro {before word after : List Char} {pixel : Pixel} (first : '#' ∉ before)
      (spelled : word.map Char.toLower = pixel.digits) (ended : Text.EndsWord after) :
      Displays (before ++ '#' :: (word ++ after)) pixel

/-- How a line can end in view of what follows it. -/
inductive Ending : List Char → List Char → Prop
  | feed (rest : List Char) : Ending ['\n'] rest
  | carriage (rest : List Char) : Ending ['\r', '\n'] rest
  | none : Ending [] []

/-- An output with these pixels on its lines, and other lines between them. -/
inductive Prints : List Char → List Pixel → Prop
  | nil : Prints [] []
  | other {line ending rest : List Char} {pixels : List Pixel} (whole : '\n' ∉ line)
      (unmarked : '#' ∉ line) (ended : Ending ending rest) (later : Prints rest pixels) :
      Prints (line ++ ending ++ rest) pixels
  | pixel {line ending rest : List Char} {pixel : Pixel} {pixels : List Pixel} (whole : '\n' ∉ line)
      (shown : Displays line pixel) (ended : Ending ending rest) (later : Prints rest pixels) :
      Prints (line ++ ending ++ rest) (pixel :: pixels)

theorem pixelWord?_eq_some {line word : List Char} :
    pixelWord? line = some word ↔ Marked line word := by
  simp only [pixelWord?, Option.bind_eq_some_iff, Prod.exists, Text.firstWord?_eq_some]
  constructor
  · rintro ⟨before, rest, split, begun⟩
    obtain ⟨rfl, first⟩ := Text.splitOnce_eq_some split
    exact .intro first begun
  · rintro ⟨first, begun⟩
    exact ⟨_, _, Text.splitOnce_append first _, begun⟩

theorem pixelWord?_unmarked {line : List Char} (unmarked : '#' ∉ line) : pixelWord? line = none := by
  rw [Option.eq_none_iff_forall_ne_some]
  intro word found
  obtain ⟨first, -⟩ := pixelWord?_eq_some.mp found
  exact unmarked (by simp)

theorem pixelWord?_carriage (line : List Char) :
    pixelWord? (line ++ ['\r']) = pixelWord? line := by
  by_cases marked : '#' ∈ line
  · obtain ⟨before, rest, rfl, first⟩ := List.eq_append_cons_of_mem marked
    have blank : Text.isBlank '\r' = true := rfl
    rw [List.append_assoc, List.cons_append, pixelWord?, pixelWord?, Text.splitOnce_append first,
      Text.splitOnce_append first]
    exact Text.firstWord?_concat blank rest
  · rw [pixelWord?_unmarked marked, pixelWord?_unmarked (by simpa using marked)]

theorem pixelWord?_endLine (line : List Char) :
    pixelWord? (Text.endLine line.reverse) = pixelWord? line := by
  by_cases bare : line.getLast? = some '\r'
  · obtain ⟨line, rfl⟩ := List.getLast?_eq_some_iff.mp bare
    rw [Text.endLine_carriage, pixelWord?_carriage]
  · rw [Text.endLine_bare bare]

theorem pixelWord?_displays {line : List Char} {pixel : Pixel} (shown : Displays line pixel) :
    ∃ word, pixelWord? line = some word ∧ word.map Char.toLower = pixel.digits := by
  obtain @⟨before, word, after, _, first, spelled, ended⟩ := shown
  have digits : ∀ c ∈ word, Text.IsHex c := by
    rw [← Text.isHex_map_toLower, spelled]
    exact pixel.isHex_digits
  have filled : word ≠ [] := by
    rintro rfl
    cases pixel with
    | narrow => simp [Pixel.digits, Color.chars.hex, Text.hexByte] at spelled
    | wide => simp [Pixel.digits, WidePixel.digits, Text.hexWord] at spelled
  have begun : Text.FirstWord (word ++ after) word :=
    @Text.FirstWord.intro [] word after (List.forall_mem_nil _) filled
      (fun c member => (digits c member).plain.1) ended
  exact ⟨word, pixelWord?_eq_some.mpr (.intro first begun), spelled⟩

/-- The words of all lines that have one. -/
def pixelWords (output : List Char) : List (List Char) := (Text.lines output).filterMap pixelWord?

theorem pixelWords_line {line ending rest : List Char} (whole : '\n' ∉ line)
    (ended : Ending ending rest) :
    pixelWords (line ++ ending ++ rest) = (pixelWord? line).toList ++ pixelWords rest := by
  have fed (line : List Char) (whole : '\n' ∉ line) :
      pixelWords (line ++ '\n' :: rest) = (pixelWord? line).toList ++ pixelWords rest := by
    rw [pixelWords, Text.lines_append whole, List.filterMap_cons, pixelWord?_endLine]
    cases pixelWord? line <;> rfl
  cases ended with
  | feed => simpa using fed line whole
  | carriage =>
    have longer := fed (line ++ ['\r']) (by simpa using whole)
    rw [pixelWord?_carriage] at longer
    simpa using longer
  | none =>
    by_cases filled : line = []
    · subst filled
      rfl
    · have alone : Text.lines line = [line] := Text.linesFrom_eq [] whole filled
      have nothing : pixelWords [] = [] := rfl
      rw [List.append_nil, List.append_nil, nothing, List.append_nil, pixelWords, alone]
      cases found : pixelWord? line <;> simp [found]

theorem pixelWords_prints {output : List Char} {pixels : List Pixel} (prints : Prints output pixels) :
    List.Forall₂ (fun word pixel => word.map Char.toLower = pixel.digits) (pixelWords output)
      pixels := by
  induction prints with
  | nil => exact .nil
  | other whole unmarked ended later ih =>
    rw [pixelWords_line whole ended, pixelWord?_unmarked unmarked]
    exact ih
  | pixel whole shown ended later ih =>
    obtain ⟨word, found, spelled⟩ := pixelWord?_displays shown
    rw [pixelWords_line whole ended, found]
    exact .cons spelled ih

theorem histogram_eq_ok {output : String} {colors : List Color} : histogram output = .ok colors ↔
    List.Forall₂ (fun word color => pixel (.ofList word) = .ok color) (pixelWords output.toList)
      colors :=
  mapM_eq_ok

/-- The first word that is no pixel, and the lines before it without such a word. -/
theorem histogram_eq_error {output : String} {lines : List (List Char)} {cause : Cause}
    (cut : Text.Cut output.toList lines) : histogram output = .error cause ↔
      ∃ earlier line later word, lines = earlier ++ line :: later ∧ Marked line word ∧
        pixel (.ofList word) = .error cause ∧
        ∀ other ∈ earlier, ∀ word, Marked other word → ∃ color, pixel (.ofList word) = .ok color := by
  have words : histogram output =
      (lines.filterMap pixelWord?).mapM fun word => pixel (.ofList word) := by
    rw [histogram, cut.lines]
  rw [words, mapM_eq_error]
  constructor
  · rintro ⟨before, word, after, split, refused, every⟩
    obtain ⟨front, rest, rfl, read, split⟩ := List.filterMap_eq_append_iff.mp split
    obtain ⟨silent, line, later, rfl, none, found, -⟩ := List.filterMap_eq_cons_iff.mp split
    refine ⟨front ++ silent, line, later, word, by simp, pixelWord?_eq_some.mp found, refused, ?_⟩
    intro other member word marked
    have found := pixelWord?_eq_some.mpr marked
    rcases List.mem_append.mp member with early | unmarked
    · exact every word (read ▸ List.mem_filterMap.mpr ⟨other, early, found⟩)
    · rw [none other unmarked] at found
      cases found
  · rintro ⟨earlier, line, later, word, rfl, marked, refused, every⟩
    refine ⟨earlier.filterMap pixelWord?, word, later.filterMap pixelWord?, ?_, refused, ?_⟩
    · rw [List.filterMap_append, List.filterMap_cons, pixelWord?_eq_some.mpr marked]
    · intro other member
      obtain ⟨line, early, found⟩ := List.mem_filterMap.mp member
      exact every line early other (pixelWord?_eq_some.mp found)

theorem histogram_fails {output : String} {lines : List (List Char)}
    (cut : Text.Cut output.toList lines) : (∃ cause, histogram output = .error cause) ↔
      ∃ line ∈ lines, ∃ word, Marked line word ∧ ∃ cause, pixel (.ofList word) = .error cause := by
  constructor
  · rintro ⟨cause, failed⟩
    obtain ⟨earlier, line, later, word, rfl, marked, refused, -⟩ := (histogram_eq_error cut).mp failed
    exact ⟨line, by simp, word, marked, cause, refused⟩
  · rintro ⟨line, member, word, marked, cause, refused⟩
    cases read : histogram output with
    | error cause => exact ⟨cause, rfl⟩
    | ok colors =>
      have found : word ∈ pixelWords output.toList := by
        rw [pixelWords, cut.lines]
        exact List.mem_filterMap.mpr ⟨line, member, pixelWord?_eq_some.mpr marked⟩
      obtain ⟨color, fine⟩ := mapM_ok_mem read word found
      rw [refused] at fine
      cases fine

theorem histogram_prints {output : String} {pixels : List Pixel}
    (prints : Prints output.toList pixels) : histogram output = .ok (pixels.map Pixel.color) := by
  rw [histogram_eq_ok, List.forall₂_map_right_iff]
  exact (pixelWords_prints prints).imp fun _ _ => Pixel.read_digits

theorem histogram_exact :
    (∀ output pixels, Prints output.toList pixels →
      histogram output = .ok (pixels.map Pixel.color)) ∧
    ∀ output, ∃ lines, Text.Cut output.toList lines ∧
      ((∃ cause, histogram output = .error cause) ↔ ∃ line ∈ lines, ∃ word,
        Marked line word ∧ ∃ cause, pixel (.ofList word) = .error cause) ∧
      ∀ cause, histogram output = .error cause ↔
        ∃ earlier line later word, lines = earlier ++ line :: later ∧ Marked line word ∧
          pixel (.ofList word) = .error cause ∧
          ∀ other ∈ earlier, ∀ word, Marked other word → ∃ color, pixel (.ofList word) = .ok color := by
  refine ⟨fun _ _ => histogram_prints, fun output => ?_⟩
  have cut := Text.cut_lines output.toList
  exact ⟨_, cut, histogram_fails cut, fun _ => histogram_eq_error cut⟩

/-- Both depths, both ways to end a line, a second hash sign, and lines without a pixel. -/
theorem histogram_exact_mixed :
    let output := "Colors:\r\n 3: (255,0,0) #FF0000 red #1\n\n1: #FfFF80aB0000\r\n2: #0a020304"
    let pixels : List Pixel :=
      [.narrow 255 0 0 none, .wide ⟨0xffff, 0x80ab, 0, none⟩, .narrow 10 2 3 (some 4)]
    Prints output.toList pixels ∧
      histogram output = .ok [⟨255, 0, 0, 255⟩, ⟨255, 128, 0, 255⟩, ⟨10, 2, 3, 4⟩] := by
  intro output pixels
  have lines : output.toList = "Colors:".toList ++ ['\r', '\n'] ++
      (" 3: (255,0,0) #FF0000 red #1".toList ++ ['\n'] ++ ([] ++ ['\n'] ++
        ("1: #FfFF80aB0000".toList ++ ['\r', '\n'] ++ ("2: #0a020304".toList ++ [] ++ [])))) := by
    decide +kernel
  have printed : Prints output.toList pixels := by
    rw [lines]
    refine .other (by decide) (by decide) (.carriage _) (.pixel (by decide) ?_ (.feed _)
      (.other (by decide) (by decide) (.feed _) (.pixel (by decide) ?_ (.carriage _)
        (.pixel (by decide) ?_ .none .nil))))
    · exact @Displays.intro " 3: (255,0,0) ".toList "FF0000".toList " red #1".toList _ (by decide)
        (by decide +kernel) (Eq.refl true)
    · exact @Displays.intro "1: ".toList "FfFF80aB0000".toList [] _ (by decide)
        (by decide +kernel) trivial
    · exact @Displays.intro "2: ".toList "0a020304".toList [] _ (by decide) (by decide +kernel)
        trivial
  exact ⟨printed, histogram_exact.1 output pixels printed⟩

end Readout

end Retouch.Tool
