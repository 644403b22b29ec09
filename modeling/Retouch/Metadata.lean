/-!
The text notes attached to an image: at most one value a key, kept in the order of the keys.
-/
namespace Retouch

structure Metadata where
  entries : List (String × String) := []
deriving DecidableEq, Repr

namespace Metadata

def get? (notes : Metadata) (key : String) : Option String := notes.entries.lookup key

private def place (key value : String) : List (String × String) → List (String × String)
  | [] => [(key, value)]
  | (k, v) :: rest =>
    if key < k then (key, value) :: (k, v) :: rest
    else if key = k then (key, value) :: rest
    else (k, v) :: place key value rest

def insert (notes : Metadata) (key value : String) : Metadata := ⟨place key value notes.entries⟩

def erase (notes : Metadata) (key : String) : Metadata :=
  ⟨notes.entries.filter (·.1 != key)⟩

def size (notes : Metadata) : Nat := notes.entries.length

def isEmpty (notes : Metadata) : Bool := notes.entries.isEmpty

private theorem lookup_place (key value other : String) (entries : List (String × String)) :
    (place key value entries).lookup other =
      if other = key then some value else entries.lookup other := by
  induction entries with
  | nil =>
    by_cases same : other = key
    · simp [place, same]
    · have far : (other == key) = false := by simpa using same
      simp [place, List.lookup_cons, same, far]
  | cons head rest ih =>
    obtain ⟨k, v⟩ := head
    by_cases same : other = key
    · subst same
      simp only [place]
      split
      · simp
      · split
        · simp
        · next different =>
          have : (other == k) = false := by simpa using different
          simpa [List.lookup_cons, this] using ih
    · have far : (other == key) = false := by simpa using same
      simp only [place]
      split
      · simp [List.lookup_cons, far]
      · split
        · next equal => subst equal; simp [List.lookup_cons, far]
        · simp only [List.lookup_cons, ih, same, if_false]

theorem get?_insert (notes : Metadata) (key value other : String) :
    (notes.insert key value).get? other = if other = key then some value else notes.get? other :=
  lookup_place key value other notes.entries

end Metadata

end Retouch
