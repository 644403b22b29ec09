/-!
White space, words and lines. The functions work on lists of characters; `trim` and `lowercase`
are their forms on strings. `splitOnce_eq_some` says that a split loses nothing but the mark.
-/
namespace Retouch.Text

/-- The characters with the Unicode property White_Space. -/
def isBlank (c : Char) : Bool :=
  let n := c.toNat
  (0x09 ≤ n && n ≤ 0x0D) || n == 0x20 || n == 0x85 || n == 0xA0 || n == 0x1680 ||
    (0x2000 ≤ n && n ≤ 0x200A) || n == 0x2028 || n == 0x2029 || n == 0x202F || n == 0x205F ||
    n == 0x3000

/-- Drops the longest ending whose characters all satisfy `p`. -/
def dropEnd (p : Char → Bool) (cs : List Char) : List Char :=
  (cs.reverse.dropWhile p).reverse

def trimChars (cs : List Char) : List Char := dropEnd isBlank (cs.dropWhile isBlank)

def trim (s : String) : String := .ofList (trimChars s.toList)

/-- Lower case for the letters A to Z only; every other character is kept. -/
def lowercase (s : String) : String := s.map Char.toLower

def firstWord? (cs : List Char) : Option (List Char) :=
  let word := (cs.dropWhile isBlank).takeWhile (!isBlank ·)
  if word.isEmpty then none else some word

/-- A line read backwards; a carriage return before its line feed is not part of it. -/
def endLine : List Char → List Char
  | '\r' :: reversed => reversed.reverse
  | reversed => reversed.reverse

def linesFrom (reversed : List Char) : List Char → List (List Char)
  | [] => if reversed.isEmpty then [] else [reversed.reverse]
  | c :: rest =>
    if c = '\n' then endLine reversed :: linesFrom [] rest else linesFrom (c :: reversed) rest

/-- Cuts after each line feed. Text after the last one is a line only when it is not empty. -/
def lines (cs : List Char) : List (List Char) := linesFrom [] cs

/-- The text before and after the first `mark`. -/
def splitOnce (mark : Char) : List Char → Option (List Char × List Char)
  | [] => none
  | c :: rest =>
    if c = mark then some ([], rest) else (splitOnce mark rest).map fun (a, b) => (c :: a, b)

/-- The pieces between the occurrences of `mark`: one more than there are marks. -/
def splitAll (mark : Char) : List Char → List (List Char)
  | [] => [[]]
  | c :: rest =>
    if c = mark then [] :: splitAll mark rest
    else match splitAll mark rest with
      | [] => [[c]]
      | piece :: pieces => (c :: piece) :: pieces

/-- The text after the first occurrence of `mark`. -/
def afterFirst? (mark : List Char) : List Char → Option (List Char)
  | [] => if mark.isEmpty then some [] else none
  | c :: rest =>
    if mark.isPrefixOf (c :: rest) then some ((c :: rest).drop mark.length)
    else afterFirst? mark rest

theorem splitAll_ne_nil (mark : Char) (cs : List Char) : splitAll mark cs ≠ [] := by
  cases cs with
  | nil => simp [splitAll]
  | cons c rest => simp only [splitAll]; split <;> (try split) <;> simp

theorem splitOnce_eq_some {mark : Char} {cs a b : List Char}
    (found : splitOnce mark cs = some (a, b)) :
    cs = a ++ mark :: b ∧ mark ∉ a := by
  induction cs generalizing a b with
  | nil => simp [splitOnce] at found
  | cons c rest ih =>
    by_cases same : c = mark
    · simp_all [splitOnce]
    · simp only [splitOnce, same, if_false, Option.map_eq_some_iff] at found
      obtain ⟨⟨a', b'⟩, tail, pair⟩ := found
      obtain ⟨rfl, rfl⟩ := Prod.mk.inj pair
      obtain ⟨joined, absent⟩ := ih tail
      exact ⟨by simp [joined], by simp [absent, Ne.symm same]⟩

end Retouch.Text
