import Retouch.Path
import Retouch.Text.Utf8

/-!
A tree of files with a working directory in it. Every operation either succeeds or names the
obstacle, and walks a path one segment at a time: what is walked through has to be a directory.
-/
namespace Retouch

abbrev Bytes := List UInt8

inductive Obstacle
  | missing
  | occupied
  | notDirectory
  | isDirectory
  | nameTooLong
  | nulInName
  | noSpace
deriving DecidableEq, Repr

def Obstacle.message : Obstacle → String
  | .missing => "No such file or directory (os error 2)"
  | .occupied => "File exists (os error 17)"
  | .notDirectory => "Not a directory (os error 20)"
  | .isDirectory => "Is a directory (os error 21)"
  | .nameTooLong => "File name too long (os error 36)"
  | .nulInName => "file name contained an unexpected NUL byte"
  | .noSpace => "No space left on device (os error 28)"

inductive Entry
  | directory
  | file (content : Bytes)
deriving DecidableEq, Repr

abbrev Location := List Path.Segment

structure Files where
  entries : List (Location × Entry) := []
  /-- Where a path starts that does not start at the root. -/
  workdir : Location := []
deriving DecidableEq, Repr

namespace Files

private theorem lookup_others (entries : List (Location × Entry)) (location other : Location) :
    (entries.filter (·.1 != location)).lookup other =
      if other = location then none else entries.lookup other := by
  induction entries with
  | nil => simp
  | cons head rest ih =>
    obtain ⟨place, entry⟩ := head
    by_cases kept : place = location
    · subst kept
      by_cases same : other = place
      · simp [same] at ih ⊢
        exact ih
      · have far : (other == place) = false := beq_eq_false_iff_ne.mpr same
        simpa [same, List.lookup_cons, far] using ih
    · have stays : (place != location) = true := by simpa using kept
      simp only [List.filter_cons, stays, if_true, List.lookup_cons, ih]
      by_cases here : other = place
      · subst here
        simp [kept]
      · simp [beq_eq_false_iff_ne.mpr here]

/-- The root is a directory that needs no entry. -/
def at? (files : Files) (location : Location) : Option Entry :=
  if location.isEmpty then some .directory else files.entries.lookup location

def put (files : Files) (location : Location) (entry : Entry) : Files :=
  { files with entries := files.entries.filter (·.1 != location) ++ [(location, entry)] }

def erase (files : Files) (location : Location) : Files :=
  { files with entries := files.entries.filter (·.1 != location) }

theorem at?_put (files : Files) {location : Location} (entry : Entry) (other : Location)
    (named : location ≠ []) :
    (files.put location entry).at? other =
      if other = location then some entry else files.at? other := by
  by_cases root : other = []
  · simp [at?, root, Ne.symm named]
  · have present : other.isEmpty = false := by simpa using root
    simp only [at?, put, present, List.lookup_append, lookup_others]
    by_cases same : other = location
    · subst same; simp
    · simp [same, List.lookup_cons, beq_eq_false_iff_ne.mpr same]

theorem at?_erase (files : Files) (location other : Location) (named : other ≠ []) :
    (files.erase location).at? other =
      if other = location then none else files.at? other := by
  have present : other.isEmpty = false := by simpa using named
  simp [at?, erase, present, lookup_others]

/-- A segment that leads nowhere else. -/
def isNameless (segment : Path.Segment) : Bool := segment == [] || segment == ['.']

def isUpward (segment : Path.Segment) : Bool := segment == ['.', '.']

def isTooLong (segment : Path.Segment) : Bool := 255 < Text.Utf8.size segment

/-- Follows segments. A nameless segment asks for a directory and stays in it; above the root there
is only the root. -/
def walk (files : Files) (location : Location) : List Path.Segment → Except Obstacle Location
  | [] => .ok location
  | segment :: rest =>
    match files.at? location with
    | none => .error .missing
    | some (.file _) => .error .notDirectory
    | some .directory =>
      if isNameless segment then walk files location rest
      else if isUpward segment then walk files location.dropLast rest
      else if isTooLong segment then .error .nameTooLong
      else if (files.at? (location ++ [segment])).isNone then .error .missing
      else walk files (location ++ [segment]) rest

def start (files : Files) (path : String) : Except Obstacle (Location × List Path.Segment) :=
  if path.toList.contains '\x00' then .error .nulInName
  else match Path.segments path with
    | [[]] => .error .missing
    | [] :: rest => .ok ([], rest)
    | all => .ok (files.workdir, all)

def find (files : Files) (path : String) : Except Obstacle Location := do
  let (location, segments) ← files.start path
  files.walk location segments

/-- The directory that holds the last of some segments, and that segment. -/
def holder (files : Files) (location : Location) (segments : List Path.Segment) :
    Except Obstacle (Location × Path.Segment) := do
  let directory ← files.walk location segments.dropLast
  match files.at? directory with
  | some .directory => return (directory, segments.getLast?.getD [])
  | some (.file _) => throw .notDirectory
  | none => throw .missing

/-- The location that a path would give a file. The path has to end in a name. -/
def vacancy (files : Files) (path : String) : Except Obstacle Location := do
  let (location, segments) ← files.start path
  let (directory, name) ← files.holder location segments
  if isNameless name || isUpward name then .error .isDirectory
  else if isTooLong name then .error .nameTooLong
  else return directory ++ [name]

def isFile (files : Files) (path : String) : Bool :=
  match files.find path with
  | .ok location => match files.at? location with
    | some (.file _) => true
    | _ => false
  | .error _ => false

def isDirectory (files : Files) (path : String) : Bool :=
  match files.find path with
  | .ok location => files.at? location == some .directory
  | .error _ => false

def read (files : Files) (path : String) : Except Obstacle Bytes := do
  let location ← files.find path
  match files.at? location with
  | some (.file content) => .ok content
  | some .directory => .error .isDirectory
  | none => .error .missing

/-- Gives the path this content, in place of the file that is there, if any. -/
def write (files : Files) (path : String) (content : Bytes) : Except Obstacle Files := do
  let location ← files.vacancy path
  if files.at? location == some .directory then .error .isDirectory
  else .ok (files.put location (.file content))

/-- Makes a file only where nothing is yet. -/
def create (files : Files) (path : String) (content : Bytes) : Except Obstacle Files := do
  let location ← files.vacancy path
  if (files.at? location).isSome then .error .occupied
  else .ok (files.put location (.file content))

def remove (files : Files) (path : String) : Except Obstacle Files := do
  let location ← files.find path
  match files.at? location with
  | some (.file _) => .ok (files.erase location)
  | some .directory => .error .isDirectory
  | none => .error .missing

def makeDirectory (files : Files) (path : String) : Except Obstacle Files := do
  let (location, segments) ← files.start path
  let (directory, name) ← files.holder location (segments.reverse.dropWhile (· == [])).reverse
  if isNameless name || isUpward name then .error .occupied
  else if isTooLong name then .error .nameTooLong
  else if (files.at? (directory ++ [name])).isSome then .error .occupied
  else .ok (files.put (directory ++ [name]) .directory)

/-- Makes the first of these directories, and those after it as far as they are wanting. What has
been made stays when a later step fails. -/
def makeEach (files : Files) : List String → Option Obstacle × Files
  | [] => (none, files)
  | path :: outer =>
    if path.isEmpty then (none, files)
    else match files.makeDirectory path with
      | .ok made => (none, made)
      | .error .missing =>
        match makeEach files outer with
        | (some obstacle, made) => (some obstacle, made)
        | (none, made) => settle made path (made.makeDirectory path)
      | .error obstacle => settle files path (.error obstacle)
where
  settle (files : Files) (path : String) : Except Obstacle Files → Option Obstacle × Files
    | .ok made => (none, made)
    | .error obstacle => (if files.isDirectory path then none else some obstacle, files)

def makeDirectories (files : Files) (path : String) : Option Obstacle × Files :=
  files.makeEach (Path.ancestors path)

def filesIn (files : Files) (path : String) : List Location :=
  match files.find path with
  | .ok directory => files.entries.filterMap fun
    | (location, .file _) => if location.dropLast = directory then some location else none
    | _ => none
  | _ => []

/-- Every path below the working directory, sorted, with a slash after a directory. -/
def paths (files : Files) : List String :=
  (files.entries.filterMap fun (location, entry) =>
    if files.workdir.isPrefixOf location && location != files.workdir then
      some (Path.join (location.drop files.workdir.length) ++
        if entry == .directory then "/" else "")
    else none).mergeSort (· ≤ ·)

end Files

end Retouch
