import Retouch.Proofs.Files.Place
import Retouch.Proofs.Text.Reading
import Retouch.ScratchFile

/-!
The names of the temporary files that stay with an image: two letters, then a tag. In one directory
such a name tells the files apart, and so does the place that its path leads to.
-/
namespace Retouch

namespace Text

theorem splitAll_eq {mark : Char} {cs : List Char} (absent : mark ∉ cs) :
    splitAll mark cs = [cs] := by
  induction cs with
  | nil => rfl
  | cons c rest ih =>
    obtain ⟨other, later⟩ : mark ≠ c ∧ mark ∉ rest := by simpa using absent
    rw [splitAll, if_neg (Ne.symm other), ih later]

theorem splitAll_append (mark : Char) (before after : List Char) : ∃ piece pieces,
    splitAll mark (before ++ mark :: after) = piece :: (pieces ++ splitAll mark after) := by
  induction before with
  | nil => exact ⟨[], [], by simp [splitAll]⟩
  | cons c rest ih =>
    obtain ⟨piece, pieces, cut⟩ := ih
    rw [List.cons_append, splitAll, cut]
    by_cases same : c = mark
    · exact ⟨[], piece :: pieces, if_pos same⟩
    · exact ⟨c :: piece, pieces, if_neg same⟩

theorem splitAll_last (mark : Char) (before after : List Char) :
    (splitAll mark (before ++ mark :: after)).getLast? = (splitAll mark after).getLast? := by
  obtain ⟨piece, pieces, cut⟩ := splitAll_append mark before after
  have filled := splitAll_ne_nil mark after
  rw [cut, List.getLast?_cons_of_ne_nil (by simp [filled]),
    List.getLast?_append_of_ne_nil _ filled]

theorem subset_of_mem_splitAll {mark : Char} {cs piece : List Char}
    (member : piece ∈ splitAll mark cs) : piece ⊆ cs := by
  induction cs generalizing piece with
  | nil =>
    obtain rfl := List.mem_singleton.mp member
    exact List.Subset.refl []
  | cons c rest ih =>
    obtain ⟨head, pieces, split⟩ := List.exists_cons_of_ne_nil (splitAll_ne_nil mark rest)
    rw [splitAll, split] at member
    rw [split] at ih
    split at member
    · rcases List.mem_cons.mp member with rfl | later
      · exact List.nil_subset _
      · exact List.Subset.trans (ih later) (List.subset_cons_self c rest)
    · rcases List.mem_cons.mp member with rfl | later
      · exact List.cons_subset_cons c (ih (List.mem_cons_self ..))
      · exact List.Subset.trans (ih (List.mem_cons_of_mem _ later)) (List.subset_cons_self c rest)

end Text

/-- A path below a directory ends in the name, after a slash if anything stands before it. -/
theorem Path.child_ends (directory name : String) : ∃ before : List Char,
    (before = [] ∨ before.getLast? = some '/') ∧
      (child directory name).toList = before ++ name.toList := by
  unfold child
  split
  · exact ⟨[], .inl rfl, rfl⟩
  · split
    next ended => exact ⟨_, .inr (beq_iff_eq.mp ended), String.toList_append⟩
    next =>
      refine ⟨directory.toList ++ ['/'], .inr List.getLast?_concat, ?_⟩
      rw [String.toList_append, String.toList_append]
      rfl

theorem Path.segments_child (directory : String) {name : String} (whole : '/' ∉ name.toList) :
    (segments (child directory name)).getLast? = some name.toList := by
  have alone : (Text.splitAll '/' name.toList).getLast? = some name.toList := by
    rw [Text.splitAll_eq whole]
    rfl
  obtain ⟨before, bounded, spelled⟩ := child_ends directory name
  rw [segments, spelled]
  rcases bounded with rfl | ended
  · exact alone
  · obtain ⟨outer, rfl⟩ := List.getLast?_eq_some_iff.mp ended
    rw [List.append_assoc]
    exact (Text.splitAll_last '/' outer name.toList).trans alone

namespace ScratchFile

/-- A temporary file in the directory that stays with an image, for its source or for a profile. -/
structure Lasting (directory : String) (file : ScratchFile) : Prop where
  directory : file.directory = directory
  stem : file.stem = "im" ∨ file.stem = "ip"
  suffix : file.suffix = ""

def name (file : ScratchFile) : List Char := (file.stem ++ file.tag.text).toList

namespace Lasting
variable {directory : String} {file other : ScratchFile}

theorem name_eq (lasting : Lasting directory file) : ∃ letter,
    (letter = 'm' ∨ letter = 'p') ∧ file.name = 'i' :: letter :: file.tag.text.toList := by
  rw [name, String.toList_append]
  rcases lasting.stem with stem | stem
  · exact ⟨'m', .inl rfl, by simp [stem]⟩
  · exact ⟨'p', .inr rfl, by simp [stem]⟩

theorem slash_not_mem (lasting : Lasting directory file) : '/' ∉ file.name := by
  obtain ⟨letter, named, spelled⟩ := lasting.name_eq
  rw [spelled]
  intro member
  simp only [List.mem_cons] at member
  rcases member with first | second | tagged
  · cases first
  · rcases named with rfl | rfl <;> cases second
  · exact absurd (file.tag.plain _ tagged) (by decide)

theorem last (lasting : Lasting directory file) :
    (Path.segments file.path).getLast? = some file.name := by
  have plain : file.stem ++ file.tag.text ++ file.suffix = file.stem ++ file.tag.text := by
    rw [lasting.suffix, String.append_empty]
  rw [path, plain]
  exact Path.segments_child file.directory lasting.slash_not_mem

theorem isName (lasting : Lasting directory file) :
    Files.isNameless file.name = false ∧ Files.isUpward file.name = false := by
  obtain ⟨letter, -, spelled⟩ := lasting.name_eq
  rw [spelled]
  exact ⟨by simp [Files.isNameless], by simp [Files.isUpward]⟩

theorem eq_of_name (first : Lasting directory file) (second : Lasting directory other)
    (same : file.name = other.name) : file = other := by
  rw [name, name, String.toList_append, String.toList_append] at same
  have lengths : file.stem.toList.length = other.stem.toList.length := by
    rcases first.stem with stem | stem <;> rcases second.stem with stem' | stem' <;>
      simp [stem, stem']
  obtain ⟨stems, tags⟩ := List.append_inj same lengths
  have stem := String.toList_inj.mp stems
  have tag := String.toList_inj.mp tags
  have inside := first.directory.trans second.directory.symm
  have suffix := first.suffix.trans second.suffix.symm
  obtain ⟨d, s, ⟨t, _⟩, x⟩ := file
  obtain ⟨d', s', ⟨t', _⟩, x'⟩ := other
  simp only at stem tag inside suffix
  subst stem tag inside suffix
  rfl

theorem eq_of_path (first : Lasting directory file) (second : Lasting directory other)
    (same : file.path = other.path) : file = other := by
  apply eq_of_name first second
  have last := first.last
  rw [same, second.last] at last
  exact (Option.some.inj last).symm

theorem eq_of_place {files : Files} {place : Location} (first : Lasting directory file)
    (second : Lasting directory other) (found : files.vacancy file.path = .ok place)
    (found' : files.vacancy other.path = .ok place) : file = other := by
  apply eq_of_name first second
  have last := Files.vacancy_last found
  rw [Files.vacancy_last found', second.last, first.last] at last
  exact (Option.some.inj last).symm

end Lasting

end ScratchFile

end Retouch
