import Retouch.Text.Shell

/-!
How a shell reads a command line, and that it reads the words back that were joined to one.
-/
namespace Retouch.Text.Shell

/-- Where in a line a character stands. -/
inductive Mode
  | bare
  | single
  | double
  /-- After a backslash, outside of quotes. -/
  | escape
  /-- After a backslash, in double quotes. -/
  | doubleEscape

/-- Reads the words of a line, the first of which may have been begun. -/
def words : Mode → Option (List Char) → List Char → Option (List (List Char))
  | .bare, word, [] => some word.toList
  | _, _, [] => none
  | .bare, word, c :: rest =>
    if c = ' ' then (words .bare none rest).map (word.toList ++ ·)
    else if c = '\'' then words .single (some (word.getD [])) rest
    else if c = '"' then words .double (some (word.getD [])) rest
    else if c = '\\' then words .escape word rest
    else words .bare (some (word.getD [] ++ [c])) rest
  | .single, word, c :: rest =>
    if c = '\'' then words .bare word rest else words .single (some (word.getD [] ++ [c])) rest
  | .double, word, c :: rest =>
    if c = '"' then words .bare word rest
    else if c = '\\' then words .doubleEscape word rest
    else words .double (some (word.getD [] ++ [c])) rest
  | .escape, word, c :: rest => words .bare (some (word.getD [] ++ [c])) rest
  | .doubleEscape, word, c :: rest =>
    words .double (some (word.getD [] ++ escapedBy c)) rest
where
  /-- In double quotes a backslash stays before a character that needs none. -/
  escapedBy (c : Char) : List Char :=
    if ['"', '\\', '$', '\x60'].contains c then [c] else ['\\', c]

def split? (line : String) : Option (List String) :=
  (words .bare none line.toList).map (·.map String.ofList)

/-- A chunk in a style that can hold all its characters. -/
structure Chunk.Sound (chunk : Chunk) : Prop where
  filled : chunk.content ≠ []
  plain : chunk.styles.plain = true → ∀ c ∈ chunk.content, Styles.isPlain c = true
  single : chunk.styles.single = true → ∀ c ∈ chunk.content, c ≠ '\''

theorem sound_first (c : Char) : Chunk.Sound ⟨.ofFirst c, [c]⟩ := by
  refine ⟨by simp, fun plain => ?_, fun single => ?_⟩
  · unfold Styles.ofFirst at plain
    split at plain
    · cases plain
    · simpa [Styles.holding] using plain
  · by_cases caret : c = '^'
    · simp [caret]
    · simp only [Styles.ofFirst, caret, if_false, Styles.holding] at single
      simp only [List.mem_singleton, forall_eq]
      rintro rfl
      cases single

theorem sound_narrow {chunk : Chunk} (sound : chunk.Sound) (c : Char) :
    Chunk.Sound ⟨chunk.styles.narrow c, chunk.content ++ [c]⟩ := by
  refine ⟨by simp, fun plain => ?_, fun single => ?_⟩
  · obtain ⟨before, here⟩ := Bool.and_eq_true_iff.mp plain
    intro d member
    rcases List.mem_append.mp member with early | last
    · exact sound.plain before d early
    · obtain rfl := List.mem_singleton.mp last
      exact here
  · obtain ⟨before, here⟩ := Bool.and_eq_true_iff.mp single
    intro d member
    rcases List.mem_append.mp member with early | last
    · exact sound.single before d early
    · obtain rfl := List.mem_singleton.mp last
      rintro rfl
      cases here

theorem sound_extend {chunk : Chunk} (sound : chunk.Sound) (rest : List Char) :
    ∀ other ∈ extend chunk rest, other.Sound := by
  induction rest generalizing chunk with
  | nil => simpa [extend] using sound
  | cons c rest ih =>
    simp only [extend]
    split
    · exact ih (sound_narrow sound c)
    · intro other member
      rcases List.mem_cons.mp member with rfl | later
      · exact sound
      · exact ih (sound_first c) other later

theorem sound_chunks (word : List Char) : ∀ chunk ∈ chunks word, chunk.Sound := by
  cases word with
  | nil => simp [chunks]
  | cons c rest => exact sound_extend (sound_first c) rest

theorem not_isPlain {c : Char} (plain : Styles.isPlain c = true) :
    c ≠ ' ' ∧ c ≠ '\'' ∧ c ≠ '"' ∧ c ≠ '\\' := by
  refine ⟨?_, ?_, ?_, ?_⟩ <;> rintro rfl <;> revert plain <;> decide

theorem words_plain {content : List Char} (plain : ∀ c ∈ content, Styles.isPlain c = true)
    (word rest : List Char) :
    words .bare (some word) (content ++ rest) = words .bare (some (word ++ content)) rest := by
  induction content generalizing word with
  | nil => simp
  | cons c content ih =>
    obtain ⟨blank, quote, quotes, slash⟩ := not_isPlain (plain c List.mem_cons_self)
    have later := ih (fun d member => plain d (List.mem_cons_of_mem c member)) (word ++ [c])
    simpa [words, blank, quote, quotes, slash] using later

theorem words_single {content : List Char} (single : ∀ c ∈ content, c ≠ '\'')
    (word rest : List Char) :
    words .single (some word) (content ++ '\'' :: rest) =
      words .bare (some (word ++ content)) rest := by
  induction content generalizing word with
  | nil => simp [words]
  | cons c content ih =>
    have later := ih (fun d member => single d (List.mem_cons_of_mem c member)) (word ++ [c])
    simpa [words, single c List.mem_cons_self] using later

theorem words_double (content word rest : List Char) :
    words .double (some word) (content.flatMap escaped ++ '"' :: rest) =
      words .bare (some (word ++ content)) rest := by
  induction content generalizing word with
  | nil => simp [words]
  | cons c content ih =>
    have later := ih (word ++ [c])
    by_cases special : ['"', '\\', '$', '\x60'].contains c = true
    · have written : escaped c = ['\\', c] := if_pos special
      have back : words.escapedBy c = [c] := if_pos special
      rw [List.flatMap_cons, written]
      simpa [words, back] using later
    · have written : escaped c = [c] := if_neg special
      have other : c ≠ '"' ∧ c ≠ '\\' := by
        constructor <;> rintro rfl <;> exact special rfl
      rw [List.flatMap_cons, written]
      simpa [words, other] using later

theorem words_chunk {chunk : Chunk} (sound : chunk.Sound) (word rest : List Char) :
    words .bare (some word) (chunk.write ++ rest) =
      words .bare (some (word ++ chunk.content)) rest := by
  unfold Chunk.write
  split
  next plain => exact words_plain (sound.plain plain) word rest
  next =>
    split
    next single => simpa [words] using words_single (sound.single single) word rest
    next => simpa [words] using words_double chunk.content word rest

theorem words_chunks {cut : List Chunk} (sound : ∀ chunk ∈ cut, chunk.Sound)
    (word rest : List Char) :
    words .bare (some word) (cut.flatMap Chunk.write ++ rest) =
      words .bare (some (word ++ cut.flatMap Chunk.content)) rest := by
  induction cut generalizing word with
  | nil => simp
  | cons chunk cut ih =>
    have later := ih (fun other member => sound other (List.mem_cons_of_mem chunk member))
      (word ++ chunk.content)
    rw [List.flatMap_cons, List.append_assoc, words_chunk (sound chunk List.mem_cons_self), later]
    simp

/-- A word that is written begins with no blank. -/
theorem words_begun {chunk : Chunk} (sound : chunk.Sound) (rest : List Char) :
    words .bare none (chunk.write ++ rest) = words .bare (some []) (chunk.write ++ rest) := by
  unfold Chunk.write
  split
  next plain =>
    obtain ⟨c, content, found⟩ := List.exists_cons_of_ne_nil sound.filled
    have unlike := not_isPlain (sound.plain plain c (by rw [found]; exact List.mem_cons_self))
    simp [found, words, unlike]
  next => split <;> simp [words]

theorem words_quote (word rest : List Char) :
    words .bare none (quote word ++ rest) = words .bare (some word) rest := by
  have sound := sound_chunks word
  have whole := flatMap_content_chunks word
  cases word with
  | nil => simp [quote, words]
  | cons c word =>
    obtain ⟨chunk, cut, found⟩ : ∃ chunk cut, chunks (c :: word) = chunk :: cut := by
      cases made : chunks (c :: word) with
      | nil => simp [made] at whole
      | cons chunk cut => exact ⟨chunk, cut, rfl⟩
    have read := words_chunks sound [] rest
    rw [whole, found, List.nil_append] at read
    rw [found] at sound
    have quoted : quote (c :: word) = (chunk :: cut).flatMap Chunk.write := by
      rw [← found]
      rfl
    rw [quoted, ← read, List.flatMap_cons, List.append_assoc]
    exact words_begun (sound chunk List.mem_cons_self) _

theorem split?_join? {tokens : List String} {line : String} (joined : join? tokens = some line) :
    split? line = some tokens := by
  have read : ∀ tokens : List String, words .bare none
      (" ".intercalate (tokens.map fun word => .ofList (quote word.toList))).toList =
        some (tokens.map String.toList) := by
    intro tokens
    induction tokens with
    | nil => rfl
    | cons token rest ih =>
      cases rest with
      | nil =>
        have last := words_quote token.toList []
        simpa [words] using last
      | cons next rest =>
        simp only [List.map_cons, String.intercalate_cons_cons, String.toList_append] at ih ⊢
        rw [String.toList_ofList, List.append_assoc, words_quote]
        simp only [show " ".toList = [' '] from rfl, List.cons_append, List.nil_append, words,
          if_true, ih]
        simp
  unfold join? at joined
  split at joined
  · cases joined
  · obtain rfl := Option.some.inj joined
    rw [split?, read]
    simp [Function.comp_def]

example : split? "convert 'b c.png' \"it's\"" = some ["convert", "b c.png", "it's"] := by
  decide +kernel

end Retouch.Text.Shell
