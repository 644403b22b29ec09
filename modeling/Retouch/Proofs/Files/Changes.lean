import Retouch.Proofs.Files.Place

/-!
What each operation on files does: which file or directory comes or goes, and that all else stays.
-/
namespace Retouch.Files

variable {files after : Files} {path : String} {place : Location} {content : Bytes}

theorem holdsFile_put (named : place ≠ []) (entry : Entry) (location : Location) :
    (files.put place entry).HoldsFile location ↔
      if location = place then ∃ content, entry = .file content else files.HoldsFile location := by
  unfold HoldsFile
  rw [at?_put files entry location named]
  split
  · simp
  · rfl

theorem holdsFile_erase (place location : Location) :
    (files.erase place).HoldsFile location ↔ location ≠ place ∧ files.HoldsFile location := by
  by_cases root : location = []
  · subst root
    constructor
    · intro here
      exact (not_holdsFile_root _ here).elim
    · rintro ⟨-, here⟩
      exact (not_holdsFile_root _ here).elim
  · unfold HoldsFile
    rw [at?_erase files place location root]
    by_cases same : location = place <;> simp [same]

theorem shelters_put (named : place ≠ []) (free : files.at? place ≠ some .directory)
    (entry : Entry) : Shelters files (files.put place entry) := by
  refine ⟨rfl, fun location here => ?_⟩
  have other : location ≠ place := by
    rintro rfl
    exact free here
  rw [at?_put files entry location named, if_neg other]
  exact here

theorem shelters_erase (there : files.HoldsFile place) : Shelters files (files.erase place) := by
  obtain ⟨content, filed⟩ := there
  refine ⟨rfl, fun location here => ?_⟩
  by_cases root : location = []
  · subst root
    rfl
  · have other : location ≠ place := by
      rintro rfl
      rw [filed] at here
      cases here
    rw [at?_erase files place location root, if_neg other]
    exact here

theorem write_ok (written : files.write path content = .ok after) :
    ∃ place, files.vacancy path = .ok place ∧ files.at? place ≠ some .directory ∧
      after = files.put place (.file content) := by
  unfold write at written
  cases found : files.vacancy path with
  | error obstacle =>
    rw [found] at written
    cases written
  | ok place =>
    rw [found] at written
    simp only [bind, Except.bind] at written
    split at written
    · cases written
    next free => exact ⟨place, rfl, by simpa using free, (Except.ok.inj written).symm⟩

theorem create_ok (created : files.create path content = .ok after) :
    ∃ place, files.vacancy path = .ok place ∧ files.at? place = none ∧
      after = files.put place (.file content) := by
  unfold create at created
  cases found : files.vacancy path with
  | error obstacle =>
    rw [found] at created
    cases created
  | ok place =>
    rw [found] at created
    simp only [bind, Except.bind] at created
    split at created
    · cases created
    next free => exact ⟨place, rfl, by simpa using free, (Except.ok.inj created).symm⟩

theorem remove_ok (removed : files.remove path = .ok after) :
    ∃ place, files.find path = .ok place ∧ files.HoldsFile place ∧ after = files.erase place := by
  unfold remove at removed
  cases found : files.find path with
  | error obstacle =>
    rw [found] at removed
    cases removed
  | ok place =>
    rw [found] at removed
    simp only [bind, Except.bind] at removed
    split at removed
    next content here => exact ⟨place, rfl, ⟨content, here⟩, (Except.ok.inj removed).symm⟩
    · cases removed
    · cases removed

theorem makeDirectory_ok (made : files.makeDirectory path = .ok after) :
    ∃ place, place ≠ [] ∧ files.at? place = none ∧ after = files.put place .directory := by
  unfold makeDirectory at made
  cases started : files.start path with
  | error obstacle =>
    rw [started] at made
    cases made
  | ok pair =>
    obtain ⟨origin, segments⟩ := pair
    rw [started] at made
    simp only [bind, Except.bind] at made
    split at made
    · cases made
    next held =>
      split at made
      · cases made
      · split at made
        · cases made
        · split at made
          · cases made
          next free =>
            exact ⟨_, by simp, by simpa using free, (Except.ok.inj made).symm⟩

theorem makeDirectories_of {relation : Files → Files → Prop} (refl : ∀ files, relation files files)
    (trans : ∀ {a b c}, relation a b → relation b c → relation a c)
    (made : ∀ {files after path}, files.makeDirectory path = .ok after → relation files after)
    (files : Files) (path : String) : relation files (files.makeDirectories path).2 := by
  have settled (files : Files) (path : String) (result : Except Obstacle Files)
      (kept : ∀ after, result = .ok after → relation files after) :
      relation files (makeEach.settle files path result).2 := by
    cases result with
    | ok after => exact kept after rfl
    | error obstacle => exact refl files
  unfold makeDirectories
  induction Path.ancestors path with
  | nil => exact refl files
  | cons path outer ih =>
    unfold makeEach
    split
    · exact refl files
    · split
      next after done => exact made done
      next =>
        split
        next obstacle after ran => rw [ran] at ih; exact ih
        next after ran =>
          rw [ran] at ih
          exact trans ih (settled after path _ fun later done => made done)
      next => exact settled files path _ fun later done => by cases done

theorem shelters_makeDirectories (files : Files) (path : String) :
    Shelters files (files.makeDirectories path).2 := by
  apply makeDirectories_of Shelters.refl Shelters.trans
  intro files after path made
  obtain ⟨place, named, free, rfl⟩ := makeDirectory_ok made
  exact shelters_put named (by rw [free]; simp) _

theorem holdsFile_makeDirectories (files : Files) (path : String) (location : Location) :
    (files.makeDirectories path).2.HoldsFile location ↔ files.HoldsFile location := by
  let Alike (before after : Files) : Prop :=
    ∀ location, after.HoldsFile location ↔ before.HoldsFile location
  have alike : Alike files (files.makeDirectories path).2 := by
    apply makeDirectories_of
    · exact fun _ _ => Iff.rfl
    · exact fun first second location => (second location).trans (first location)
    · intro files after path made location
      obtain ⟨place, named, free, rfl⟩ := makeDirectory_ok made
      rw [holdsFile_put named]
      split
      next same =>
        subst same
        simp [HoldsFile, free]
      next => rfl
  exact alike location

end Retouch.Files
