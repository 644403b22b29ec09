/-!
Words of a command line as a shell reads them. A word is cut into chunks, each as long as one of
three styles of quoting can hold it, and each is written in the first style that does.
-/
namespace Retouch.Text.Shell

/-- The styles that can hold all of a chunk. -/
structure Styles where
  plain : Bool
  single : Bool
  double : Bool
deriving DecidableEq, Repr

namespace Styles

def any (styles : Styles) : Bool := styles.plain || styles.single || styles.double

def isPlain (c : Char) : Bool := c.isAlphanum || "+-./:@]_".toList.contains c

/-- The styles that can hold the character. -/
def holding (c : Char) : Styles where
  plain := isPlain c
  single := not (['\'', '^', '\\'].contains c)
  double := not (['\x60', '$', '!', '^'].contains c)

def narrow (styles : Styles) (c : Char) : Styles where
  plain := styles.plain && (holding c).plain
  single := styles.single && (holding c).single
  double := styles.double && (holding c).double

/-- The styles of a chunk with this first character. A caret may come first in single quotes. -/
def ofFirst (c : Char) : Styles :=
  if c = '^' then ⟨false, true, false⟩ else holding c

end Styles

structure Chunk where
  styles : Styles
  content : List Char
deriving DecidableEq, Repr

/-- Appends characters to a chunk, and begins a new one where no style could go on. -/
def extend (chunk : Chunk) : List Char → List Chunk
  | [] => [chunk]
  | c :: rest =>
    let styles := chunk.styles.narrow c
    if styles.any then extend ⟨styles, chunk.content ++ [c]⟩ rest
    else chunk :: extend ⟨.ofFirst c, [c]⟩ rest

def chunks : List Char → List Chunk
  | [] => []
  | c :: rest => extend ⟨.ofFirst c, [c]⟩ rest

theorem flatMap_content_chunks (word : List Char) :
    (chunks word).flatMap Chunk.content = word := by
  have appended : ∀ (rest : List Char) (chunk : Chunk),
      (extend chunk rest).flatMap Chunk.content = chunk.content ++ rest := by
    intro rest
    induction rest with
    | nil => intro chunk; simp [extend]
    | cons c rest ih => intro chunk; simp only [extend]; split <;> simp [ih]
  cases word with
  | nil => rfl
  | cons c rest => simp [chunks, appended]

def escaped (c : Char) : List Char :=
  if ['"', '\\', '$', '\x60'].contains c then ['\\', c] else [c]

def Chunk.write (chunk : Chunk) : List Char :=
  if chunk.styles.plain then chunk.content
  else if chunk.styles.single then '\'' :: chunk.content ++ ['\'']
  else '"' :: chunk.content.flatMap escaped ++ ['"']

/-- An empty word is a pair of quotes. -/
def quote (word : List Char) : List Char :=
  if word.isEmpty then ['\'', '\''] else (chunks word).flatMap Chunk.write

/-- The words with blanks between them, unless one holds a zero byte. -/
def join? (words : List String) : Option String :=
  if words.any (·.toList.contains '\x00') then none
  else some (" ".intercalate (words.map fun word => .ofList (quote word.toList)))

end Retouch.Text.Shell
