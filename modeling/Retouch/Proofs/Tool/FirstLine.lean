import Retouch.Files
import Retouch.Proofs.Text.Encoded
import Retouch.Proofs.Text.Numerals
import Retouch.Proofs.Tool.Histogram

/-!
The line that a readout is made of. It is the first one that is not blank, and what stands before
and after it does not count; a size is two numerals on it with an `x` between them, and a number of
frames is one numeral.
-/
namespace Retouch

namespace Tool.Readout

theorem firstLine_chars (text : String) : (firstLine text).toList =
    (((Text.lines text.toList).find? fun line => !(Text.trimChars line).isEmpty).map
      Text.trimChars).getD [] := by
  rw [firstLine, String.toList_ofList, List.find?_map]
  rfl

theorem trimChars_isEmpty {line : List Char} :
    (Text.trimChars line).isEmpty = true ↔ ∀ c ∈ line, Text.isBlank c = true := by
  rw [List.isEmpty_iff, (Text.trims_trimChars line).eq_nil_iff]

theorem firstLine_of_leads {text : String} {body : List Char}
    (leads : Text.Leads text.toList body) : (firstLine text).toList = body := by
  have passed {earlier : List (List Char)}
      (blanks : ∀ line ∈ earlier, ∀ c ∈ line, Text.isBlank c = true) :
      earlier.find? (fun line => !(Text.trimChars line).isEmpty) = none := by
    rw [List.find?_eq_none]
    intro line member
    simp [trimChars_isEmpty.mpr (blanks line member)]
  rw [firstLine_chars]
  cases leads with
  | blank cut blanks =>
    rw [cut.lines, passed blanks]
    rfl
  | @filled earlier later line _ cut blanks filled trims =>
    have found : (Text.trimChars line).isEmpty = false := by
      rw [← Bool.not_eq_true, trimChars_isEmpty]
      simpa using filled
    rw [cut.lines, List.find?_append, passed blanks, Option.none_or,
      List.find?_cons_of_pos (by simp [found])]
    exact trims.trimChars_eq

theorem leads_firstLine (text : String) : Text.Leads text.toList (firstLine text).toList := by
  have cut := Text.cut_lines text.toList
  rw [firstLine_chars]
  cases found : (Text.lines text.toList).find? fun line => !(Text.trimChars line).isEmpty with
  | none =>
    refine .blank cut fun line member => trimChars_isEmpty.mp ?_
    simpa using List.find?_eq_none.mp found line member
  | some line =>
    obtain ⟨filled, earlier, later, split, silent⟩ := List.find?_eq_some_iff_append.mp found
    rw [split] at cut
    refine .filled cut (fun other member => trimChars_isEmpty.mp ?_) ?_ (Text.trims_trimChars line)
    · simpa using silent other member
    · by_contra blank
      have empty := trimChars_isEmpty.mpr (by simpa using blank)
      simp [empty] at filled

theorem firstLine_eq_iff {text line : String} :
    firstLine text = line ↔ Text.Leads text.toList line.toList := by
  constructor
  · rintro rfl
    exact leads_firstLine text
  · exact fun leads => String.toList_injective (firstLine_of_leads leads)

/-- The line among blanks, whatever comes after its end. -/
theorem leads_between {gap body ending rest : List Char} (blanks : ∀ c ∈ gap, Text.isBlank c = true)
    (filled : body ≠ []) (tight : Text.Trims body body) (whole : '\n' ∉ body)
    (ended : Ending ending rest) : Text.Leads (gap ++ (body ++ ending ++ rest)) body := by
  refine Text.leads_below (fun indent single blank => ?_) blanks
  have trims : Text.Trims (indent ++ body) body :=
    ⟨⟨indent, [], by simp, blank, List.forall_mem_nil _⟩, tight.first, tight.last⟩
  have shown : ∃ c ∈ indent ++ body, Text.isBlank c = false := by
    by_contra hidden
    exact filled (trims.eq_nil_iff.mpr (by simpa using hidden))
  have one : '\n' ∉ indent ++ body := by simp [single, whole]
  have cut : ∃ later, Text.Cut (indent ++ (body ++ ending ++ rest)) ((indent ++ body) :: later) := by
    cases ended with
    | feed =>
      have bare : (indent ++ body).getLast? ≠ some '\r' := by
        intro last
        rw [List.getLast?_append_of_ne_nil _ filled] at last
        exact absurd (tight.last _ last) (by decide)
      exact ⟨_, by simpa using Text.Cut.feed one bare (Text.cut_lines rest)⟩
    | carriage => exact ⟨_, by simpa using Text.Cut.carriage one (Text.cut_lines rest)⟩
    | none => exact ⟨[], by simpa using Text.Cut.last (by simp [filled]) one⟩
  obtain ⟨later, cut⟩ := cut
  exact @Text.Leads.filled _ [] later _ _ cut (List.forall_mem_nil _) shown trims

/-- Two numerals, with blanks around them, and the first `x` of the line between them. -/
inductive Measures : List Char → Size → Prop
  | intro {before after width height : List Char} {size : Size} (first : 'x' ∉ before)
      (left : Text.Trims before width) (right : Text.Trims after height)
      (across : Text.Numeral 0x100000000 width size.width.toNat)
      (down : Text.Numeral 0x100000000 height size.height.toNat) :
      Measures (before ++ 'x' :: after) size

theorem size?_eq_some {line : List Char} {size : Size} :
    size? line = some size ↔ Measures line size := by
  constructor
  · intro read
    simp only [size?, Option.bind_eq_bind, Option.bind_eq_some_iff, Prod.exists, Option.pure_def,
      Option.some.injEq] at read
    obtain ⟨before, after, split, width, across, height, down, rfl⟩ := read
    obtain ⟨rfl, first⟩ := Text.splitOnce_eq_some split
    exact .intro first (Text.trims_trimChars before) (Text.trims_trimChars after)
      (Text.word32?_eq_some.mp across) (Text.word32?_eq_some.mp down)
  · rintro ⟨first, left, right, across, down⟩
    rw [size?, Text.splitOnce_append first]
    simp [left.trimChars_eq, right.trimChars_eq, Text.word32?_eq_some.mpr across,
      Text.word32?_eq_some.mpr down]

/-- What is read is what the line spells, and when it spells nothing the cause quotes the line. -/
def Exact {α : Type} (spells : α → Prop) (what line : String) (result : Except Cause α) : Prop :=
  (∀ value, result = .ok value ↔ spells value) ∧
    ((∃ value, spells value) ∨
      result = .error (.externalTool "unexpected output" s!"expected {what}, got '{line}'"))

theorem exact_read {α : Type} {spells : α → Prop} {read : Option α} {what line : String}
    {result : Except Cause α} (reads : ∀ value, read = some value ↔ spells value)
    (found : ∀ value, read = some value → result = .ok value)
    (missing : read = none → result = .error (unexpected what line)) :
    Exact spells what line result := by
  cases read with
  | none => exact ⟨fun value => by simp [← reads, missing], .inr (missing rfl)⟩
  | some value => exact ⟨fun other => by simp [← reads, found], .inl ⟨value, (reads value).mp rfl⟩⟩

theorem size_exact (line : String) :
    Exact (Measures line.toList) "WxH" line (Readout.size line) := by
  refine exact_read (fun _ => size?_eq_some) (fun size read => ?_) fun read => ?_ <;>
    rw [Readout.size, read]

theorem frames_exact (line : String) :
    Exact (fun count => Text.Numeral 0x10000000000000000 line.toList count.toNat) "frame count" line
      (frames line) := by
  refine exact_read (fun _ => Text.word64?_eq_some) (fun count read => ?_) fun read => ?_ <;>
    rw [frames, read]

/-- Bytes that end a line before anything else. -/
inductive EndsLine : Bytes → Prop
  | none : EndsLine []
  | feed (later : Bytes) : EndsLine (0x0A :: later)
  | carriage (later : Bytes) : EndsLine (0x0D :: 0x0A :: later)

theorem EndsLine.ending {bytes : Bytes} (ends : EndsLine bytes) : ∃ ending rest,
    Ending ending rest ∧ (Text.Utf8.lossy bytes).toList = ending ++ rest := by
  cases ends with
  | none => exact ⟨_, _, .none, rfl⟩
  | feed later => exact ⟨_, _, .feed _, Text.Utf8.toList_lossy_encode "\n" later⟩
  | carriage later => exact ⟨_, _, .carriage _, Text.Utf8.toList_lossy_encode "\r\n" later⟩

end Tool.Readout

namespace Size
open Tool.Readout

variable {gap : String} {later : Bytes}

theorem leads_printed (size : Size) (blanks : ∀ c ∈ gap.toList, Text.isBlank c = true)
    (ends : EndsLine later) : Text.Leads
      (Text.Utf8.lossy (Text.Utf8.encode gap ++ (Text.Utf8.encode size.text ++ later))).toList
      size.text.toList := by
  obtain ⟨ending, rest, ended, after⟩ := ends.ending
  rw [Text.Utf8.toList_lossy_encode, Text.Utf8.toList_lossy_encode, after, ← List.append_assoc]
  have tight : Text.Trims size.text.toList size.text.toList :=
    ⟨⟨[], [], by simp, List.forall_mem_nil _, List.forall_mem_nil _⟩,
      fun c head => isBlank_text (List.mem_of_mem_head? head),
      fun c last => isBlank_text (List.mem_of_mem_getLast? last)⟩
  have whole : '\n' ∉ size.text.toList := by
    intro member
    exact absurd (isBlank_text member) (by decide)
  simpa using leads_between blanks size.text_ne_nil tight whole ended

/-- A size is read back, below lines that are blank and above whatever else is printed. -/
theorem read_among (size : Size) (blanks : ∀ c ∈ gap.toList, Text.isBlank c = true)
    (ends : EndsLine later) : Tool.Readout.size (firstLine
      (Text.Utf8.lossy (Text.Utf8.encode gap ++ (Text.Utf8.encode size.text ++ later)))) =
      .ok size := by
  rw [firstLine_eq_iff.mpr (leads_printed size blanks ends), (size_exact size.text).1,
    ← size?_eq_some, read_text]

theorem read_printed (size : Size) :
    Tool.Readout.size (firstLine (Text.Utf8.lossy (Text.Utf8.encode size.text))) = .ok size := by
  have alone := @read_among "" [] size (List.forall_mem_nil _) .none
  rwa [List.append_nil] at alone

end Size

end Retouch
