import Retouch.Proofs.Grammar.Units
import Retouch.Vocabulary

/-!
What units say of an image when they are replayed one after the other: the palette it is in, the
frames it has, and the size it is known to have.
-/
namespace Retouch.Grammar

def paletteNamed? (name : String) : Option Palette :=
  [("sRGB", Palette.rgb), ("CMYK", .cmyk), ("Gray", .gray)].lookup name

theorem paletteNamed?_colorspace (palette : Palette) :
    paletteNamed? palette.colorspace = some palette := by
  cases palette <;> rfl

namespace Flag

/-- A colorspace counts when a type has been set just before it; that is what the flag says. -/
def retint (flag : Flag) (state : Palette × Bool) : Palette × Bool :=
  if flag.name = "-type" then (state.1, true)
  else if flag.name = "-colorspace" ∧ state.2 = true then
    ((flag.values.head?.bind paletteNamed?).getD state.1, false)
  else (state.1, false)

def recount (flag : Flag) (count : Nat) : Nat :=
  if flag.name = "-delete" then max (count - 1) 1 else count

def resize (flag : Flag) (size : Option Size) : Option Size :=
  if flag.name = "-resize" then
    flag.values.head?.bind fun value => Tool.Readout.size? value.toList
  else if ["-crop", "-rotate", "-delete", "-coalesce"].contains flag.name then none
  else size

end Flag

namespace Units

/-- The palette, and whether a type has just been set. -/
def palette : Units → Palette × Bool → Palette × Bool
  | done, state => state
  | flag first rest, state => rest.palette (first.retint state)
  | group _ _ rest, state => rest.palette (state.1, false)

/-- The units make one image of the group before them and of what came before that. -/
def composes : Units → Bool
  | flag first _ => ["-geometry", "-compose", "-alpha"].contains first.name
  | _ => false

end Units

/-- The frames of a source, given how many each file has. -/
def Source.frames (probed : String → Nat) : Source → Nat
  | file path => probed path
  | canvas .. => 1

def Source.known : Source → Option Size
  | file _ => none
  | canvas size _ => some size

namespace Units

def frames (probed : String → Nat) : Units → Nat → Nat
  | done, count => count
  | flag first rest, count => rest.frames probed (first.recount count)
  | group source body rest, count =>
    rest.frames probed
      (if rest.composes then count else count + body.frames probed (source.frames probed))

/-- The counts that are met on the way to the last one, with those of the layers added. -/
def counts (probed : String → Nat) : Units → Nat → List Nat
  | done, count => [count]
  | flag first rest, count => count :: rest.counts probed (first.recount count)
  | group source body rest, count =>
    if rest.composes then count :: rest.counts probed count
    else
      count :: body.counts probed (source.frames probed) ++
        rest.counts probed (count + body.frames probed (source.frames probed))

def known : Units → Option Size → Option Size
  | done, size => size
  | flag first rest, size => rest.known (first.resize size)
  | group _ _ rest, size => rest.known size

theorem palette_append (units later : Units) (state : Palette × Bool) :
    (units ++ later).palette state = later.palette (units.palette state) := by
  induction units generalizing state with
  | done => rfl
  | flag first rest ih => exact ih _
  | group source body rest _ ih => exact ih _

theorem known_append (units later : Units) (size : Option Size) :
    (units ++ later).known size = later.known (units.known size) := by
  induction units generalizing size with
  | done => rfl
  | flag first rest ih => exact ih _
  | group source body rest _ ih => exact ih _

/-- A group at the end of the units stays a layer of its own. -/
theorem composes_append (units : Units) {later : Units} (apart : later.composes = false) :
    (units ++ later).composes = units.composes := by
  cases units with
  | done => exact apart
  | flag first rest => rfl
  | group source body rest => rfl

theorem frames_append (probed : String → Nat) (units : Units) {later : Units}
    (apart : later.composes = false) (count : Nat) :
    (units ++ later).frames probed count = later.frames probed (units.frames probed count) := by
  induction units generalizing count with
  | done => rfl
  | flag first rest ih => exact ih _
  | group source body rest _ ih =>
    simp only [group_append, frames, composes_append rest apart]
    exact ih _

theorem mem_counts (probed : String → Nat) (units : Units) (count : Nat) :
    count ∈ units.counts probed count ∧
      units.frames probed count ∈ units.counts probed count := by
  induction units generalizing count with
  | done => exact ⟨List.mem_cons_self, List.mem_cons_self⟩
  | flag first rest ih => exact ⟨List.mem_cons_self, List.mem_cons_of_mem count (ih _).2⟩
  | group source body rest _ ih =>
    simp only [counts, frames]
    split
    · exact ⟨List.mem_cons_self, List.mem_cons_of_mem count (ih _).2⟩
    · exact ⟨List.mem_cons_self, List.mem_cons_of_mem count (List.mem_append_right _ (ih _).2)⟩

theorem counts_append (probed : String → Nat) (units : Units) {later : Units}
    (apart : later.composes = false) (count : Nat) :
    units.counts probed count ⊆ (units ++ later).counts probed count ∧
      later.counts probed (units.frames probed count) ⊆ (units ++ later).counts probed count := by
  induction units generalizing count with
  | done =>
    refine ⟨?_, fun met member => member⟩
    exact List.cons_subset.mpr ⟨(later.mem_counts probed count).1, List.nil_subset _⟩
  | flag first rest ih =>
    obtain ⟨before, after⟩ := ih (first.recount count)
    exact ⟨List.cons_subset_cons count before, List.subset_cons_of_subset count after⟩
  | group source body rest _ ih =>
    simp only [group_append, counts, frames, composes_append rest apart]
    split
    · obtain ⟨before, after⟩ := ih count
      exact ⟨List.cons_subset_cons count before, List.subset_cons_of_subset count after⟩
    · obtain ⟨before, after⟩ := ih (count + body.frames probed (source.frames probed))
      refine ⟨List.cons_subset_cons count ?_, List.subset_cons_of_subset count ?_⟩
      · exact List.append_subset.mpr ⟨List.subset_append_left _ _,
          List.subset_append_of_subset_right _ before⟩
      · exact List.subset_append_of_subset_right _ after

theorem one_le_frames {probed : String → Nat} (units : Units) {count : Nat} (some : 1 ≤ count) :
    1 ≤ units.frames probed count := by
  induction units generalizing count with
  | done => exact some
  | flag first rest ih =>
    apply ih
    unfold Flag.recount
    split <;> omega
  | group source body rest _ ih =>
    apply ih
    split <;> omega

def row (flags : List Flag) : Units := flags.foldr flag done

@[simp] theorem tokens_row (flags : List Flag) :
    (row flags).tokens = flags.flatMap fun flag => flag.name :: flag.values := by
  induction flags with
  | nil => rfl
  | cons first rest ih => simpa [row] using ih

theorem palette_row (flags : List Flag) (state : Palette × Bool) :
    (row flags).palette state = flags.foldl (fun state flag => flag.retint state) state := by
  induction flags generalizing state with
  | nil => rfl
  | cons first rest ih => exact ih _

theorem known_row (flags : List Flag) (size : Option Size) :
    (row flags).known size = flags.foldl (fun size flag => flag.resize size) size := by
  induction flags generalizing size with
  | nil => rfl
  | cons first rest ih => exact ih _

theorem frames_row (probed : String → Nat) (flags : List Flag) (count : Nat) :
    (row flags).frames probed count = flags.foldl (fun count flag => flag.recount count) count := by
  induction flags generalizing count with
  | nil => rfl
  | cons first rest ih => exact ih _

end Units

end Retouch.Grammar
