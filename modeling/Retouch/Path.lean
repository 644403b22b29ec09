import Retouch.Text.Blank

/-!
Paths as text. A path is read as segments between slashes; an empty segment and a `.` that is not
the first one carry no name. `extension?` looks at the last name only: a `..` has none, nor has a
name whose only dot is its first character.
-/
namespace Retouch.Path

abbrev Segment := List Char

def segments (path : String) : List Segment := Text.splitAll '/' path.toList

def join (cs : List Segment) : String := .ofList (List.intercalate ['/'] cs)

theorem join_segments (path : String) : join (segments path) = path := by
  have splitBack : ∀ cs : List Char, List.intercalate ['/'] (Text.splitAll '/' cs) = cs := by
    intro cs
    induction cs with
    | nil => rfl
    | cons c rest ih =>
      obtain ⟨piece, pieces, split⟩ := List.exists_cons_of_ne_nil (Text.splitAll_ne_nil '/' rest)
      by_cases mark : c = '/'
      · simp [Text.splitAll, mark, split, List.intercalate] at ih ⊢
        exact ih
      · rw [split] at ih
        cases pieces <;> simp_all [Text.splitAll, List.intercalate]
  simp [join, segments, splitBack]

/-- Segments without the nameless ones at their end. The first one stays: a leading dot names the
working directory, and an empty one before a slash the root. -/
def dropNameless : List Segment → List Segment
  | [] => []
  | first :: rest => first :: (rest.reverse.dropWhile fun s => s == [] || s == ['.']).reverse

/-- The last name of the path, unless it is `.` or `..` or there is none. -/
def fileName? (path : String) : Option Segment :=
  match (dropNameless (segments path)).getLast? with
  | none => none
  | some name => if name == [] || name == ['.'] || name == ['.', '.'] then none else some name

/-- A name cut at its last dot, unless that dot comes first. -/
def splitName (name : Segment) : Segment × Option Segment :=
  match Text.splitOnce '.' name.reverse with
  | none => (name, none)
  | some (_, []) => (name, none)
  | some (reversed, stem) => (stem.reverse, some reversed.reverse)

def extension? (path : String) : Option String :=
  (fileName? path).bind fun name => (splitName name).2.map .ofList

def stem? (path : String) : Option String :=
  (fileName? path).map fun name => .ofList (splitName name).1

/-- The path without its last segment, or `none` for the empty path and the root. -/
def parent? (path : String) : Option String :=
  match dropNameless (segments path) with
  | [] => none
  | [[]] => none
  | [_] => some ""
  | [] :: rest =>
    match dropNameless ([] :: rest.dropLast) with
    | [_] => some "/"
    | outer => some (join outer)
  | first :: rest => some (join (dropNameless (first :: rest.dropLast)))

def ancestors (path : String) : List String := upward path.length path
where
  upward : Nat → String → List String
    | 0, path => [path]
    | fuel + 1, path =>
      path :: match parent? path with
        | none => []
        | some outer => upward fuel outer

/-- The path of `name` below `directory`. A name that begins at the root stands for itself. -/
def child (directory name : String) : String :=
  if name.toList.head? == some '/' || directory.isEmpty then name
  else if directory.toList.getLast? == some '/' then directory ++ name
  else directory ++ "/" ++ name

end Retouch.Path
