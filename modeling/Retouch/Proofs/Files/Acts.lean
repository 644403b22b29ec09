import Retouch.Proofs.Files.Changes
import Retouch.Proofs.Image.Course

/-!
What acts do to the files: calls of the tool, temporary files made and deleted, directories made on
the way to a save. The tool can be told apart from all else by what it is asked to write to.
-/
namespace Retouch

open Files

/-- The tool deletes nothing. -/
def Responder.Spares (tool : Responder) : Prop :=
  ∀ log argv output changes, tool log argv = .ran output changes → Change.remove ∉ changes

namespace World
variable {world after : World} {file : ScratchFile} {place : Location}

theorem create_ok {directory stem suffix : String}
    (created : create directory stem suffix world = (.ok file, after)) :
    (∃ tag, file = ⟨directory, stem, tag, suffix⟩) ∧
      ∃ place, world.files.vacancy file.path = .ok place ∧ world.files.at? place = none ∧
        after = { world with
          files := world.files.put place (.file []), minted := world.minted ++ [file] } := by
  unfold create at created
  simp only at created
  split at created
  next files made =>
    obtain ⟨named, rfl⟩ := Prod.mk.inj created
    obtain rfl := Except.ok.inj named
    obtain ⟨place, found, free, rfl⟩ := Files.create_ok made
    exact ⟨⟨_, rfl⟩, place, found, free, rfl⟩
  · cases created

theorem create_error {directory stem suffix : String} {cause : Cause}
    (failed : create directory stem suffix world = (.error cause, after)) :
    after = world := by
  unfold create at failed
  simp only at failed
  split at failed
  · cases failed
  · exact (Prod.mk.inj failed).2.symm

theorem holdsFile_discard (found : world.files.vacancy file.path = .ok place)
    (location : Location) : (world.discard file).files.HoldsFile location ↔
      location ≠ place ∧ world.files.HoldsFile location := by
  obtain ⟨origin, first, directory, name, started, walked, here, proper, -, rfl⟩ := vacancy_ok found
  have there := find_eq started walked here proper
  unfold discard
  cases removed : world.files.remove file.path with
  | ok files =>
    obtain ⟨place, led, filed, rfl⟩ := remove_ok removed
    have same : place = directory ++ [name] := by
      rw [there] at led
      split at led
      · cases led
      · exact (Except.ok.inj led).symm
    rw [same]
    exact holdsFile_erase _ _
  | error obstacle =>
    have empty : ¬ world.files.HoldsFile (directory ++ [name]) := by
      rintro ⟨content, filed⟩
      rw [filed] at there
      simp [Files.remove, there, filed, bind, Except.bind] at removed
    constructor
    · intro filed
      refine ⟨?_, filed⟩
      rintro rfl
      exact empty filed
    · exact fun filed => filed.2

theorem shelters_discard (world : World) (file : ScratchFile) :
    Shelters world.files (world.discard file).files := by
  unfold discard
  cases removed : world.files.remove file.path with
  | ok files =>
    obtain ⟨place, -, filed, rfl⟩ := remove_ok removed
    exact shelters_erase filed
  | error obstacle => exact Shelters.refl world.files

theorem shelters_discards (world : World) (files : List ScratchFile) :
    Shelters world.files (files.foldl discard world).files := by
  induction files generalizing world with
  | nil => exact Shelters.refl world.files
  | cons file rest ih => exact (shelters_discard world file).trans (ih _)

theorem minted_discards (world : World) (files : List ScratchFile) :
    (files.foldl discard world).minted = world.minted := by
  induction files generalizing world with
  | nil => rfl
  | cons file rest ih => exact ih (world.discard file)

theorem holdsFile_discards {files : List ScratchFile}
    (placed : ∀ file ∈ files, ∃ place, world.files.vacancy file.path = .ok place)
    (location : Location) : (files.foldl discard world).files.HoldsFile location ↔
      world.files.HoldsFile location ∧
        ∀ file ∈ files, world.files.vacancy file.path ≠ .ok location := by
  induction files generalizing world with
  | nil => simp
  | cons file rest ih =>
    have shelters := shelters_discard world file
    obtain ⟨place, found⟩ := placed file (List.mem_cons_self ..)
    have same : ∀ other ∈ rest, (world.discard file).files.vacancy other.path =
        world.files.vacancy other.path := by
      intro other member
      obtain ⟨there, led⟩ := placed other (List.mem_cons_of_mem _ member)
      rw [led, vacancy_stable shelters led]
    have later : ∀ other ∈ rest, ∃ place,
        (world.discard file).files.vacancy other.path = .ok place := by
      intro other member
      rw [same other member]
      exact placed other (List.mem_cons_of_mem _ member)
    rw [List.foldl_cons, ih later, holdsFile_discard found, List.forall_mem_cons, found]
    constructor
    · rintro ⟨⟨other, here⟩, unlike⟩
      refine ⟨here, fun led => other (Except.ok.inj led).symm, fun next member => ?_⟩
      rw [← same next member]
      exact unlike next member
    · rintro ⟨here, other, unlike⟩
      refine ⟨⟨fun led => other (congrArg Except.ok led.symm), here⟩, fun next member => ?_⟩
      rw [same next member]
      exact unlike next member

theorem apply_write (path : String) (files : Files) (content : Bytes) :
    Change.apply path files (.write content) = files ∨ ∃ place, files.vacancy path = .ok place ∧
      files.at? place ≠ some .directory ∧
      Change.apply path files (.write content) = files.put place (.file content) := by
  simp only [Change.apply]
  cases written : files.write path content with
  | error obstacle => exact .inl rfl
  | ok after =>
    obtain ⟨place, found, free, rfl⟩ := write_ok written
    exact .inr ⟨place, found, free, rfl⟩

theorem apply_remove (path : String) (files : Files) :
    Change.apply path files .remove = files ∨
      ∃ place, files.HoldsFile place ∧ Change.apply path files .remove = files.erase place := by
  simp only [Change.apply]
  cases removed : files.remove path with
  | error obstacle => exact .inl rfl
  | ok after =>
    obtain ⟨place, -, filed, rfl⟩ := remove_ok removed
    exact .inr ⟨place, filed, rfl⟩

theorem shelters_change (path : String) (files : Files) (change : Change) :
    Shelters files (change.apply path files) := by
  cases change with
  | write content =>
    rcases apply_write path files content with same | ⟨place, found, free, put⟩
    · rw [same]
      exact Shelters.refl files
    · rw [put]
      exact shelters_put (vacancy_ne_root found) free _
  | remove =>
    rcases apply_remove path files with same | ⟨place, filed, erased⟩
    · rw [same]
      exact Shelters.refl files
    · rw [erased]
      exact shelters_erase filed

theorem writes_change (path : String) (files : Files) (change : Change) :
    Writes path files (change.apply path files) := by
  refine ⟨shelters_change path files change, fun location here => ?_⟩
  cases change with
  | write content =>
    rcases apply_write path files content with same | ⟨place, found, free, put⟩
    · rw [same] at here
      exact .inl here
    · have shelters := shelters_change path files (.write content)
      rw [put] at here shelters ⊢
      rw [holdsFile_put (vacancy_ne_root found)] at here
      split at here
      next same =>
        subst same
        exact .inr (vacancy_stable shelters found)
      next => exact .inl here
  | remove =>
    rcases apply_remove path files with same | ⟨place, filed, erased⟩
    · rw [same] at here
      exact .inl here
    · rw [erased, holdsFile_erase] at here
      exact .inl here.2

theorem writes_changes (path : String) (files : Files) (changes : List Change) :
    Writes path files (changes.foldl (Change.apply path) files) := by
  induction changes generalizing files with
  | nil => exact Writes.refl path files
  | cons change rest ih => exact (writes_change path files change).trans (ih _)

theorem spared_changes {path : String} {changes : List Change} (writes : Change.remove ∉ changes)
    (files : Files) : Spared files (changes.foldl (Change.apply path) files) := by
  induction changes generalizing files with
  | nil => exact fun _ here => here
  | cons change rest ih =>
    simp only [List.mem_cons, not_or] at writes
    cases change with
    | remove => exact (writes.1 rfl).elim
    | write content =>
      intro location here
      apply ih writes.2 _ location
      rcases apply_write path files content with same | ⟨place, found, -, put⟩
      · rw [same]
        exact here
      · rw [put, holdsFile_put (vacancy_ne_root found)]
        split
        · exact ⟨content, rfl⟩
        · exact here

/-- An act that makes no temporary file, and writes to one path at most. A tool that spares files
leaves those that are there. -/
structure Writes (path : String) (before after : World) : Prop where
  tool : after.tool = before.tool
  minted : after.minted = before.minted
  files : before.files.Writes path after.files
  spared : before.tool.Spares → before.files.Spared after.files

theorem course_writes (path : String) : Course (Writes path) where
  refl world := ⟨rfl, rfl, .refl path world.files, fun _ _ here => here⟩
  trans first second := ⟨second.tool.trans first.tool, second.minted.trans first.minted,
    first.files.trans second.files, fun spares location here =>
      second.spared (by rwa [first.tool]) location (first.spared spares location here)⟩

theorem writes_execute {path : String} {argv : Argv} (last : argv.getLast? = some path) :
    (execute argv).Keeps (Writes path) := by
  intro world
  unfold execute
  rw [last]
  cases replied : world.tool world.calls argv with
  | unstarted cause => exact (course_writes path).refl world
  | refused cause => exact ⟨rfl, rfl, .refl path world.files, fun _ _ here => here⟩
  | ran output changes =>
    exact ⟨rfl, rfl, writes_changes path world.files changes, fun spares =>
      spared_changes (spares _ _ _ _ replied) world.files⟩

theorem writes_fill (file : ScratchFile) (content : Bytes) :
    (fill file content).Keeps (Writes file.path) := by
  intro world
  have kept := (course_writes file.path).refl world
  have written := writes_change file.path world.files (.write content)
  have spared : world.files.Spared (Change.apply file.path world.files (.write content)) :=
    @spared_changes file.path [.write content] (by simp) world.files
  unfold fill
  cases world.hindrance world.minted content with
  | some obstacle => exact kept
  | none =>
    simp only [Change.apply] at written spared ⊢
    cases done : world.files.write file.path content with
    | error obstacle => exact kept
    | ok files =>
      rw [done] at written spared
      exact ⟨rfl, rfl, written, fun _ => spared⟩

theorem writes_makeParent (path other : String) :
    (Image.makeParent other).Keeps (Writes path) := by
  intro world
  have made (directory : String) : Writes path world
      { world with files := (world.files.makeDirectories directory).2 } := by
    have same := holdsFile_makeDirectories world.files directory
    exact ⟨rfl, rfl, ⟨shelters_makeDirectories world.files directory,
      fun location here => .inl ((same location).mp here)⟩, fun _ location => (same location).mpr⟩
  unfold Image.makeParent
  split
  · exact (course_writes path).refl world
  · split
    · exact (course_writes path).refl world
    · simp only
      split <;> exact made _

end World

end Retouch
