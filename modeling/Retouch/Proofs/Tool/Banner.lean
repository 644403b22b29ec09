import Retouch.Proofs.Files.Extension
import Retouch.Proofs.Text.Lines
import Retouch.Proofs.Text.Numerals
import Retouch.Tool.Kit

/-!
Which version a banner states. The first word after the first name of the tool counts, of that word
the part before a hyphen, and of the numerals in it the first three, one of which has to be there.
-/
namespace Retouch

namespace Text
variable {mark before rest cs : List Char}

theorem afterFirst?_append (begun : mark <+: cs) : afterFirst? mark cs = some (cs.drop mark.length) := by
  have starts : mark.isPrefixOf cs = true := List.isPrefixOf_iff_prefix.mpr begun
  cases cs with
  | nil =>
    obtain rfl := List.prefix_nil.mp begun
    rfl
  | cons c rest => rw [afterFirst?, if_pos starts]

theorem afterFirst?_cons {c : Char} (other : ¬mark <+: c :: rest) :
    afterFirst? mark (c :: rest) = afterFirst? mark rest := by
  rw [afterFirst?, if_neg (by rwa [List.isPrefixOf_iff_prefix])]

/-- A mark that ends in a character of its own does not overlap another one. -/
theorem not_prefix_mark {stem : List Char} {tip : Char} (own : tip ∉ stem)
    (marked : mark = stem ++ [tip]) (absent : ¬mark <+: before) (filled : before ≠ []) :
    ¬mark <+: before ++ mark ++ rest := by
  rintro ⟨after, spelled⟩
  rw [List.append_assoc, List.append_eq_append_iff] at spelled
  rcases spelled with ⟨more, rfl, -⟩ | ⟨piece, split, overlap⟩
  · exact absent (List.prefix_append mark more)
  · rcases List.eq_nil_or_concat' piece with rfl | ⟨init, last, rfl⟩
    · rw [List.append_nil] at split
      exact absent (split ▸ List.prefix_rfl)
    · have whole : stem ++ [tip] = (before ++ init) ++ [last] := by
        rw [← marked, split, List.append_assoc]
      obtain ⟨rfl, same⟩ := List.append_inj' whole rfl
      obtain rfl := List.singleton_inj.mp same
      have longer : 0 < before.length := List.length_pos_iff.mpr filled
      rw [marked, List.append_assoc (before ++ init)] at overlap
      have inside : init ++ [tip] <+: before ++ init :=
        List.prefix_of_prefix_length_le ⟨after, overlap.symm⟩ (List.prefix_append _ _)
          (by simp only [List.length_append, List.length_singleton]; omega)
      exact own (inside.subset (by simp))

theorem afterFirst?_eq_some {stem : List Char} {tip : Char} (own : tip ∉ stem)
    (marked : mark = stem ++ [tip]) : afterFirst? mark cs = some rest ↔
      ∃ before, cs = before ++ mark ++ rest ∧ ¬mark <:+: before := by
  have filled : mark ≠ [] := by simp [marked]
  constructor
  · intro found
    induction cs with
    | nil => simp [afterFirst?, filled] at found
    | cons c cs ih =>
      by_cases begun : mark <+: c :: cs
      · rw [afterFirst?_append begun] at found
        obtain ⟨later, spelled⟩ := begun
        rw [← spelled, List.drop_left, Option.some.injEq] at found
        exact ⟨[], by rw [← spelled, found, List.nil_append], by simpa using filled⟩
      · rw [afterFirst?_cons begun] at found
        obtain ⟨before, rfl, first⟩ := ih found
        refine ⟨c :: before, rfl, fun inside => ?_⟩
        rcases List.infix_cons_iff.mp inside with early | later
        · exact begun (early.trans ⟨mark ++ rest, by simp⟩)
        · exact first later
  · rintro ⟨before, rfl, first⟩
    induction before with
    | nil =>
      rw [List.nil_append, afterFirst?_append (List.prefix_append mark rest), List.drop_left]
    | cons c before ih =>
      have absent : ¬mark <+: c :: before := fun early => first early.isInfix
      have other : ¬mark <+: c :: (before ++ mark ++ rest) :=
        not_prefix_mark own marked absent (List.cons_ne_nil c before)
      rw [List.cons_append, List.cons_append, afterFirst?_cons other]
      exact ih fun inside => first (List.infix_cons inside)

end Text

namespace Tool.Version

/-- The first word after the first name of the tool. -/
inductive Announces : List Char → List Char → Prop
  | intro {before rest word : List Char} (first : ¬"ImageMagick ".toList <:+: before)
      (begun : Text.FirstWord rest word) :
      Announces (before ++ "ImageMagick ".toList ++ rest) word

theorem word?_eq_some {banner word : List Char} : word? banner = some word ↔ Announces banner word := by
  have own : ' ' ∉ "ImageMagick".toList := by decide
  have marked : "ImageMagick ".toList = "ImageMagick".toList ++ [' '] := by decide
  simp only [word?, Option.bind_eq_some_iff, Text.afterFirst?_eq_some own marked,
    Text.firstWord?_eq_some]
  constructor
  · rintro ⟨rest, ⟨before, rfl, first⟩, begun⟩
    exact .intro first begun
  · rintro ⟨first, begun⟩
    exact ⟨_, ⟨_, rfl, first⟩, begun⟩

abbrev IsWord (cs : List Char) (value : UInt32) : Prop := Text.Numeral 0x100000000 cs value.toNat

/-- The parts of a version. What is not given is zero, and what follows the third is not read. -/
inductive Counts : List (List Char) → Version → Prop
  | major {a : List Char} {major : UInt32} (first : IsWord a major) : Counts [a] ⟨major, 0, 0⟩
  | minor {a b : List Char} {major minor : UInt32} (first : IsWord a major)
      (second : IsWord b minor) : Counts [a, b] ⟨major, minor, 0⟩
  | patch {a b c : List Char} {major minor patch : UInt32} (first : IsWord a major)
      (second : IsWord b minor) (third : IsWord c patch) (surplus : List (List Char)) :
      Counts (a :: b :: c :: surplus) ⟨major, minor, patch⟩

/-- The parts of a text between its dots. -/
structure Dotted (cs first : List Char) (rest : List (List Char)) : Prop where
  spelled : cs = first ++ rest.flatMap ('.' :: ·)
  first : '.' ∉ first
  rest : ∀ part ∈ rest, '.' ∉ part

/-- A word up to its first hyphen. -/
inductive Release : List Char → List Char → Prop
  | whole {word : List Char} (plain : '-' ∉ word) : Release word word
  | before {number : List Char} (build : List Char) (plain : '-' ∉ number) :
      Release (number ++ '-' :: build) number

def States (word : List Char) (version : Version) : Prop :=
  ∃ number first rest, Release word number ∧ Dotted number first rest ∧
    Counts (first :: rest) version

theorem ofParts?_eq_some {parts : List (List Char)} {version : Version} :
    ofParts? parts = some version ↔ Counts parts version := by
  constructor
  · intro read
    match parts with
    | [] => cases read
    | [a] =>
      simp only [ofParts?, List.take, List.mapM_cons, List.mapM_nil, bind, pure,
        Option.bind_eq_some_iff, Option.some.injEq] at read
      obtain ⟨_, ⟨major, first, _, rfl, rfl⟩, made⟩ := read
      obtain rfl : ⟨major, 0, 0⟩ = version := Option.some.inj made
      exact .major (Text.word32?_eq_some.mp first)
    | [a, b] =>
      simp only [ofParts?, List.take, List.mapM_cons, List.mapM_nil, bind, pure,
        Option.bind_eq_some_iff, Option.some.injEq] at read
      obtain ⟨_, ⟨major, first, _, ⟨minor, second, _, rfl, rfl⟩, rfl⟩, made⟩ := read
      obtain rfl : ⟨major, minor, 0⟩ = version := Option.some.inj made
      exact .minor (Text.word32?_eq_some.mp first) (Text.word32?_eq_some.mp second)
    | a :: b :: c :: surplus =>
      simp only [ofParts?, List.take, List.mapM_cons, List.mapM_nil, bind, pure,
        Option.bind_eq_some_iff, Option.some.injEq] at read
      obtain ⟨_, ⟨major, first, _, ⟨minor, second, _, ⟨patch, third, _, rfl, rfl⟩, rfl⟩, rfl⟩, made⟩ :=
        read
      obtain rfl : ⟨major, minor, patch⟩ = version := Option.some.inj made
      exact .patch (Text.word32?_eq_some.mp first) (Text.word32?_eq_some.mp second)
        (Text.word32?_eq_some.mp third) surplus
  · intro counts
    cases counts with
    | major first => simp [ofParts?, Text.word32?_eq_some.mpr first]
    | minor first second =>
      simp [ofParts?, Text.word32?_eq_some.mpr first, Text.word32?_eq_some.mpr second]
    | patch first second third surplus =>
      simp [ofParts?, Text.word32?_eq_some.mpr first, Text.word32?_eq_some.mpr second,
        Text.word32?_eq_some.mpr third]

theorem release_iff {word number : List Char} :
    word.takeWhile (· != '-') = number ↔ Release word number := by
  have plainly {number : List Char} (plain : '-' ∉ number) (rest : List Char) :
      (number ++ rest).takeWhile (· != '-') = number ++ rest.takeWhile (· != '-') :=
    List.takeWhile_append_of_pos fun c member => by
      simpa using fun same : c = '-' => plain (same ▸ member)
  constructor
  · rintro rfl
    by_cases hyphen : '-' ∈ word
    · obtain ⟨number, build, rfl, plain⟩ := List.eq_append_cons_of_mem hyphen
      rw [plainly plain]
      simpa using Release.before build plain
    · have whole := plainly hyphen []
      rw [List.append_nil] at whole
      rw [whole]
      simpa using Release.whole hyphen
  · rintro (plain | ⟨build, plain⟩)
    · simpa using plainly plain []
    · simpa using plainly plain ('-' :: build)

theorem dotted_iff {cs first : List Char} {rest : List (List Char)} :
    Text.splitAll '.' cs = first :: rest ↔ Dotted cs first rest := by
  rw [Text.splitAll_eq_cons]
  exact ⟨fun ⟨spelled, whole, every⟩ => ⟨spelled, whole, every⟩,
    fun dotted => ⟨dotted.spelled, dotted.first, dotted.rest⟩⟩

theorem ofWord?_eq_some {word : List Char} {version : Version} :
    ofWord? word = some version ↔ States word version := by
  constructor
  · intro read
    obtain ⟨first, rest, split⟩ :=
      List.exists_cons_of_ne_nil (Text.splitAll_ne_nil '.' (word.takeWhile (· != '-')))
    rw [ofWord?, split, ofParts?_eq_some] at read
    exact ⟨_, first, rest, release_iff.mp rfl, dotted_iff.mp split, read⟩
  · rintro ⟨number, first, rest, release, dotted, counts⟩
    rw [ofWord?, release_iff.mpr release, dotted_iff.mpr dotted, ofParts?_eq_some]
    exact counts

def Stated (banner : List Char) (version : Version) : Prop :=
  ∃ word, Announces banner word ∧ States word version

theorem stated_iff {banner : List Char} {version : Version} :
    (word? banner).bind ofWord? = some version ↔ Stated banner version := by
  simp only [Option.bind_eq_some_iff, word?_eq_some, ofWord?_eq_some, Stated]

theorem ofBanner_eq_ok {banner : String} {version : Version} :
    ofBanner banner = .ok version ↔ Stated banner.toList version := by
  rw [← stated_iff, ofBanner]
  cases (word? banner.toList).bind ofWord? <;> simp

theorem ofBanner_silent {banner : String} (silent : ∀ version, ¬Stated banner.toList version) :
    ofBanner banner = .error notInstalled := by
  have none : (word? banner.toList).bind ofWord? = none := by
    rw [Option.eq_none_iff_forall_ne_some]
    exact fun version stated => silent version (stated_iff.mp stated)
  rw [ofBanner, none]

/-- What may follow a version without becoming a part of its numerals. -/
def EndsVersion : List Char → Prop
  | [] => True
  | c :: _ => Text.isBlank c = true ∨ c = '-' ∨ c = '.'

theorem text_chars (version : Version) : version.text.toList =
    Nat.toDigits 10 version.major.toNat ++ '.' :: (Nat.toDigits 10 version.minor.toNat ++
      '.' :: Nat.toDigits 10 version.patch.toNat) := by
  simp only [text, String.toList_append, toList_toString_word, List.append_assoc]
  rfl

theorem mem_text {version : Version} {c : Char} (member : c ∈ version.text.toList) :
    c.isDigit = true ∨ c = '.' := by
  simp only [text_chars, List.mem_append, List.mem_cons] at member
  rcases member with major | dot | minor | dot | patch
  · exact .inl (Text.isDigit_of_mem major)
  · exact .inr dot
  · exact .inl (Text.isDigit_of_mem minor)
  · exact .inr dot
  · exact .inl (Text.isDigit_of_mem patch)

theorem isBlank_text {version : Version} {c : Char} (member : c ∈ version.text.toList) :
    Text.isBlank c = false := by
  rcases mem_text member with digit | rfl
  · exact Text.isBlank_of_isDigit digit
  · decide

/-- More parts after the three numerals. -/
theorem exists_surplus {cs : List Char} (begun : cs = [] ∨ cs.head? = some '.') :
    ∃ parts : List (List Char), cs = parts.flatMap ('.' :: ·) ∧ ∀ part ∈ parts, '.' ∉ part := by
  rcases begun with rfl | dot
  · exact ⟨[], rfl, List.forall_mem_nil _⟩
  · obtain ⟨cs, rfl⟩ := List.head?_eq_some_iff.mp dot
    obtain ⟨first, rest, split⟩ := List.exists_cons_of_ne_nil (Text.splitAll_ne_nil '.' cs)
    obtain ⟨rfl, whole, every⟩ := Text.splitAll_eq_cons.mp split
    exact ⟨first :: rest, rfl, List.forall_mem_cons.mpr ⟨whole, every⟩⟩

theorem counted_text (version : Version) {parts : List (List Char)}
    (every : ∀ part ∈ parts, '.' ∉ part) : ∃ first rest,
      Dotted (version.text.toList ++ parts.flatMap ('.' :: ·)) first rest ∧
        Counts (first :: rest) version := by
  have dotless (word : UInt32) : '.' ∉ Nat.toDigits 10 word.toNat := fun member =>
    absurd (Text.isDigit_of_mem member) (by decide)
  refine ⟨_, _ :: _ :: parts, ⟨?_, dotless version.major, ?_⟩,
    .patch (Text.numeral_toDigits version.major) (Text.numeral_toDigits version.minor)
      (Text.numeral_toDigits version.patch) parts⟩
  · simp [text_chars]
  · simpa [dotless] using every

theorem states_text (version : Version) {tail : List Char}
    (ended : tail = [] ∨ tail.head? = some '-' ∨ tail.head? = some '.') :
    States (version.text.toList ++ tail) version := by
  have begun : tail.takeWhile (· != '-') = [] ∨ (tail.takeWhile (· != '-')).head? = some '.' := by
    rcases ended with rfl | hyphen | dot
    · exact .inl rfl
    · obtain ⟨rest, rfl⟩ := List.head?_eq_some_iff.mp hyphen
      exact .inl rfl
    · obtain ⟨rest, rfl⟩ := List.head?_eq_some_iff.mp dot
      exact .inr rfl
  obtain ⟨parts, spelled, every⟩ := exists_surplus begun
  obtain ⟨first, rest, dotted, counts⟩ := counted_text version every
  have plain : ∀ c ∈ version.text.toList, (c != '-') = true := by
    intro c member
    rcases mem_text member with digit | rfl
    · simpa using fun same : c = '-' => absurd (same ▸ digit : '-'.isDigit = true) (by decide)
    · decide
  have number : (version.text.toList ++ tail).takeWhile (· != '-') =
      version.text.toList ++ parts.flatMap ('.' :: ·) := by
    rw [List.takeWhile_append_of_pos plain, spelled]
  exact ⟨_, first, rest, release_iff.mp number, dotted, counts⟩

/-- A version that is written out is stated, with anything before it but the name of the tool. -/
theorem stated_text (version : Version) {before gap after : List Char}
    (first : ¬"ImageMagick ".toList <:+: before) (blanks : ∀ c ∈ gap, Text.isBlank c = true)
    (ended : EndsVersion after) :
    Stated (before ++ "ImageMagick ".toList ++ (gap ++ (version.text.toList ++ after))) version := by
  have tail : after.takeWhile (!Text.isBlank ·) = [] ∨
      (after.takeWhile (!Text.isBlank ·)).head? = some '-' ∨
      (after.takeWhile (!Text.isBlank ·)).head? = some '.' := by
    cases after with
    | nil => exact .inl rfl
    | cons c rest =>
      rcases ended with blank | rfl | rfl
      · exact .inl (List.takeWhile_cons_of_neg (by simp [blank]))
      · exact .inr (.inl rfl)
      · exact .inr (.inr rfl)
  have filled : version.text.toList ++ after.takeWhile (!Text.isBlank ·) ≠ [] := by
    simp [text_chars]
  have whole : ∀ c ∈ version.text.toList ++ after.takeWhile (!Text.isBlank ·),
      Text.isBlank c = false := by
    intro c member
    rcases List.mem_append.mp member with written | later
    · exact isBlank_text written
    · simpa using List.mem_takeWhile_imp later
  have begun := Text.FirstWord.intro blanks filled whole (Text.endsWord_dropWhile after)
  rw [List.append_assoc, List.append_assoc version.text.toList, List.takeWhile_append_dropWhile]
    at begun
  exact ⟨_, .intro first begun, states_text version tail⟩

end Tool.Version

end Retouch
