import Retouch.Proofs.Session.Turn

/-!
The invariant that ties temporary files to images: the tokens of an image name the files it holds
and no others, a file that is named is there, and one that no image holds is not, unless a save has
put one in its place. Each command keeps it, through every way that tokens get into an image.
-/
namespace Retouch.Session

open Files World

def Distinct (session : Session) : Prop :=
  ∀ entry ∈ session.images, session.image? entry.1 = some entry.2

theorem distinct_put {session : Session} (distinct : session.Distinct) (name : String)
    (image : Image) : (session.put name image).Distinct := by
  intro entry member
  rw [image?_put]
  rcases List.mem_cons.mp member with rfl | old
  · exact if_pos rfl
  · obtain ⟨there, other⟩ := List.mem_filter.mp old
    rw [if_neg (by simpa using other)]
    exact distinct entry there

theorem distinct_erase {session : Session} (distinct : session.Distinct) (name : String) :
    (session.erase name).Distinct := by
  intro entry member
  obtain ⟨there, other⟩ := List.mem_filter.mp member
  rw [image?_erase, if_neg (by simpa using other)]
  exact distinct entry there

theorem distinct_step {session : Session} (distinct : session.Distinct) (command : Command) :
    (session.step command).2.Distinct := by
  have ended := session.ends_step command
  generalize (session.step command).2 = after at ended ⊢
  cases ended with
  | same world => exact distinct
  | put world name image => exact distinct_put distinct name image
  | erased name => exact distinct_erase distinct name

theorem mem_held {session : Session} (distinct : session.Distinct) {file : ScratchFile} :
    file ∈ session.held ↔ ∃ image, session.Holds image ∧ file ∈ image.arguments.resources := by
  unfold held
  rw [List.mem_flatMap]
  constructor
  · rintro ⟨⟨name, image⟩, member, inside⟩
    exact ⟨image, ⟨name, distinct _ member⟩, inside⟩
  · rintro ⟨image, ⟨name, found⟩, inside⟩
    obtain ⟨before, later, split, -⟩ := List.lookup_eq_some_iff.mp found
    exact ⟨(name, image), by rw [split]; simp, inside⟩

/-- What a turn comes to, whichever kind it is. -/
structure Moves (session : Session) (command : Command) (made : Option ScratchFile)
    (after : Session) : Prop where
  shelters : Shelters session.world.files after.world.files
  spared : session.world.files.Spared after.world.files
  minted : ∀ file ∈ session.world.minted, file ∈ after.world.minted
  fresh : ∀ file ∈ after.world.minted, file ∈ session.world.minted ∨
    (file.suffix = "" → file.Lasting session.kit.tempDir) ∧
      ∃ place, session.world.files.vacancy file.path = .ok place ∧
        ¬ session.world.files.HoldsFile place
  there : ∀ file ∈ made, file.Lasting session.kit.tempDir ∧ file ∈ after.world.minted ∧
    after.world.files.isFile file.path = true
  assembled : ∀ image, after.Holds image → session.Assembled made image
  apart : ∀ file ∈ after.world.minted, file.Lasting session.kit.tempDir → file ∉ session.held →
    (∀ image, after.Holds image → file ∉ image.arguments.resources) →
    ∀ place, after.world.files.vacancy file.path = .ok place → after.world.files.HoldsFile place →
      file ∈ session.world.minted ∧
        (session.world.files.HoldsFile place ∨ session.Revives command file)

theorem moves_same {session after : Session} {command : Command} (same : after.world = session.world)
    (assembled : ∀ image, after.Holds image → session.Assembled none image) :
    session.Moves command none after where
  shelters := by
    rw [same]
    exact Shelters.refl _
  spared := by
    rw [same]
    exact fun _ here => here
  minted file member := by rwa [same]
  fresh file member := by
    rw [same] at member
    exact .inl member
  there file absent := by cases absent
  assembled := assembled
  apart file member _ _ _ place _ here := by
    rw [same] at member here
    exact ⟨member, .inl here⟩

theorem moves_quiet {session after : Session} {command : Command} {path : String}
    (spares : session.world.tool.Spares) (writes : Writes path session.world after.world)
    (apart : session.Apart command after.world.files)
    (assembled : ∀ image, after.Holds image → session.Assembled none image) :
    session.Moves command none after where
  shelters := writes.files.shelters
  spared := writes.spared spares
  minted file member := by rwa [writes.minted]
  fresh file member := by
    rw [writes.minted] at member
    exact .inl member
  there file absent := by cases absent
  assembled := assembled
  apart file member lasting unheld _ place found here := by
    rw [writes.minted] at member
    exact ⟨member, apart file member lasting unheld place found here⟩

section Minted

variable {session : Session} {world : World} {file other : ScratchFile} {place : Location}

theorem fresh_of_minted (minted : world.minted = session.world.minted ++ [file])
    (lasting : file.suffix = "" → file.Lasting session.kit.tempDir)
    (found : session.world.files.vacancy file.path = .ok place)
    (free : ¬ session.world.files.HoldsFile place) (member : other ∈ world.minted) :
    other ∈ session.world.minted ∨ (other.suffix = "" → other.Lasting session.kit.tempDir) ∧
      ∃ place, session.world.files.vacancy other.path = .ok place ∧
        ¬ session.world.files.HoldsFile place := by
  rw [minted] at member
  rcases List.mem_append.mp member with old | new
  · exact .inl old
  · obtain rfl := List.mem_singleton.mp new
    exact .inr ⟨lasting, place, found, free⟩

theorem old_of_minted (minted : world.minted = session.world.minted ++ [file])
    (unlike : other ≠ file) (member : other ∈ world.minted) : other ∈ session.world.minted := by
  rw [minted] at member
  exact (List.mem_append.mp member).resolve_right fun new => unlike (List.mem_singleton.mp new)

end Minted

theorem moves_left {session after : Session} {command : Command} {file : ScratchFile} {place : Location}
    (spares : session.world.tool.Spares) (lasting : file.Lasting session.kit.tempDir)
    (makes : Makes file place session.world after.world)
    (held : ∃ image, after.Holds image ∧ file ∈ image.arguments.resources)
    (assembled : ∀ image, after.Holds image → session.Assembled (some file) image) :
    session.Moves command (some file) after where
  shelters := makes.shelters
  spared := makes.spared spares
  minted other member := by
    rw [makes.minted]
    exact List.mem_append_left _ member
  fresh other := fresh_of_minted makes.minted (fun _ => lasting) makes.found makes.free
  there other same := by
    obtain rfl := Option.some.inj same
    have member : file ∈ after.world.minted := by
      rw [makes.minted]
      exact List.mem_append_right _ (List.mem_singleton_self file)
    have still := vacancy_stable makes.shelters makes.found
    exact ⟨lasting, member, (isFile_iff still).mpr (makes.there spares)⟩
  assembled := assembled
  apart other member lasting' _ unheld location found here := by
    obtain ⟨image, holds, inside⟩ := held
    have unlike : other ≠ file := by
      rintro rfl
      exact unheld image holds inside
    refine ⟨old_of_minted makes.minted unlike member, ?_⟩
    rcases makes.added location here with old | rfl
    · exact .inl old
    · have still := vacancy_stable makes.shelters makes.found
      exact (unlike (lasting'.eq_of_place lasting found still)).elim

theorem moves_gone {session after : Session} {command : Command} {file : ScratchFile}
    {place : Location} {between : World} (spares : session.world.tool.Spares)
    (lasting : file.suffix = "" → file.Lasting session.kit.tempDir)
    (makes : Makes file place session.world between) (ended : after.world = between.discard file)
    (assembled : ∀ image, after.Holds image → session.Assembled none image) :
    session.Moves command none after where
  shelters := by
    rw [ended]
    exact makes.shelters_discard
  spared := by
    rw [ended]
    exact makes.spared_discard spares
  minted other member := by
    rw [ended, makes.minted_discard]
    exact List.mem_append_left _ member
  fresh other := by
    rw [ended]
    exact fresh_of_minted makes.minted_discard lasting makes.found makes.free
  there file absent := by cases absent
  assembled := assembled
  apart other member _ _ _ location found here := by
    rw [ended] at member found here
    have before := makes.added_discard here
    have unlike : other ≠ file := by
      rintro rfl
      have still := vacancy_stable makes.shelters_discard makes.found
      obtain rfl := Except.ok.inj (still.symm.trans found)
      exact makes.free before
    exact ⟨old_of_minted makes.minted_discard unlike member, .inl before⟩

theorem Turn.moves {session after : Session} {command : Command} {outcome : Outcome}
    (turn : session.Turn command outcome after) (spares : session.world.tool.Spares) :
    ∃ made, session.Moves command made after := by
  cases turn with
  | same same assembled => exact ⟨none, moves_same same assembled⟩
  | quiet _ quiet assembled =>
    obtain ⟨path, writes, apart⟩ := quiet
    exact ⟨none, moves_quiet spares writes apart assembled⟩
  | left file place lasting makes held assembled _ _ =>
    exact ⟨some file, moves_left spares lasting makes held assembled⟩
  | gone file place between lasting makes ended assembled =>
    exact ⟨none, moves_gone spares lasting makes ended assembled⟩

/-- Images and temporary files agree, but that some files may still be due to be deleted, and that
something else may be where a file was that has been deleted. -/
structure Tidy (session : Session) (revived : ScratchFile → Prop) (due : List ScratchFile) :
    Prop where
  distinct : session.Distinct
  placed : ∀ file ∈ session.world.minted, file.suffix = "" → file.Lasting session.kit.tempDir ∧
    ∃ place, session.world.files.vacancy file.path = .ok place
  owned : ∀ image, session.Holds image → ∀ file ∈ image.arguments.resources,
    file ∈ session.world.minted ∧ file.Lasting session.kit.tempDir
  named : ∀ image, session.Holds image → ∀ file ∈ session.world.minted,
    file.Lasting session.kit.tempDir →
    (file.path ∈ image.tokens ↔ file ∈ image.arguments.resources)
  backed : ∀ image, session.Holds image → ∀ file : ScratchFile,
    file.Lasting session.kit.tempDir → file.path ∈ image.tokens →
    session.world.files.isFile file.path = true
  deleted : ∀ file ∈ session.world.minted, file.Lasting session.kit.tempDir →
    file ∉ session.held → file ∉ due → session.world.files.isFile file.path = true → revived file
  known : ∀ file ∈ due, file ∈ session.world.minted ∧ file.Lasting session.kit.tempDir

theorem Tidy.mono {session : Session} {revived other : ScratchFile → Prop} {due : List ScratchFile}
    (tidy : session.Tidy revived due) (wider : ∀ file, revived file → other file) :
    session.Tidy other due :=
  { tidy with
    deleted := fun file member lasting unheld undue there =>
      wider file (tidy.deleted file member lasting unheld undue there) }

theorem tidy_start {session : Session} (empty : session.images = [])
    (clean : session.world.minted = []) (revived : ScratchFile → Prop) :
    session.Tidy revived [] := by
  have bare (image : Image) : ¬ session.Holds image := by
    rintro ⟨name, found⟩
    rw [image?, empty] at found
    cases found
  have unmade (file : ScratchFile) : file ∉ session.world.minted := by
    rw [clean]
    exact List.not_mem_nil
  exact {
    distinct := by
      rw [Distinct, empty]
      exact fun _ member => by cases member
    placed := fun file member => (unmade file member).elim
    owned := fun image held => (bare image held).elim
    named := fun image held => (bare image held).elim
    backed := fun image held => (bare image held).elim
    deleted := fun file member => (unmade file member).elim
    known := fun file member => by cases member }

variable {session after : Session} {command : Command} {made : Option ScratchFile}
  {revived : ScratchFile → Prop}

theorem Moves.named (moves : session.Moves command made after) (tidy : session.Tidy revived [])
    {image : Image} (held : after.Holds image) {file : ScratchFile} (member : file ∈ after.world.minted)
    (lasting : file.Lasting session.kit.tempDir) :
    file.path ∈ image.tokens ↔ file ∈ image.arguments.resources := by
  have assembled := moves.assembled image held
  constructor
  · intro token
    rcases assembled.token _ token with foreign | ⟨part, holds, inside, brought⟩ |
      ⟨new, known, same, adopted⟩
    · obtain ⟨there, unknown⟩ := foreign file lasting rfl
      rcases moves.fresh file member with old | ⟨-, place, found, free⟩
      · exact (unknown old).elim
      · exact (free ((isFile_iff found).mp there)).elim
    · rcases moves.fresh file member with old | ⟨-, place, found, free⟩
      · exact brought ((tidy.named part holds file old lasting).mp inside)
      · have there := tidy.backed part holds file lasting inside
        exact (free ((isFile_iff found).mp there)).elim
    · rw [lasting.eq_of_path (moves.there new known).1 same]
      exact adopted
  · intro inside
    rcases assembled.resource file inside with ⟨part, holds, inner, brought⟩ | ⟨-, token⟩
    · obtain ⟨old, -⟩ := tidy.owned part holds file inner
      exact brought ((tidy.named part holds file old lasting).mpr inner)
    · exact token

theorem Moves.backed (moves : session.Moves command made after) (tidy : session.Tidy revived [])
    {image : Image} (held : after.Holds image) {file : ScratchFile} (lasting : file.Lasting session.kit.tempDir)
    (token : file.path ∈ image.tokens) : after.world.files.isFile file.path = true := by
  rcases (moves.assembled image held).token _ token with foreign | ⟨part, holds, inside, -⟩ |
    ⟨new, known, same, -⟩
  · exact isFile_stable moves.shelters moves.spared (foreign file lasting rfl).1
  · exact isFile_stable moves.shelters moves.spared (tidy.backed part holds file lasting inside)
  · rw [same]
    exact (moves.there new known).2.2

theorem Moves.tidy (moves : session.Moves command made after) (tidy : session.Tidy revived [])
    (kit : after.kit = session.kit) (distinct : after.Distinct) :
    after.Tidy (fun file => revived file ∨ session.Revives command file) session.held := by
  have placed : ∀ file ∈ after.world.minted, file.suffix = "" →
      file.Lasting session.kit.tempDir ∧
        ∃ place, after.world.files.vacancy file.path = .ok place := by
    intro file member bare
    rcases moves.fresh file member with old | ⟨lasting, place, found, -⟩
    · obtain ⟨lasting, place, found⟩ := tidy.placed file old bare
      exact ⟨lasting, place, vacancy_stable moves.shelters found⟩
    · exact ⟨lasting bare, place, vacancy_stable moves.shelters found⟩
  refine ⟨distinct, ?_, ?_, ?_, ?_, ?_, ?_⟩ <;> rw [kit]
  · exact placed
  · intro image held file inside
    rcases (moves.assembled image held).resource file inside with ⟨part, holds, inner, -⟩ |
      ⟨new, -⟩
    · obtain ⟨old, lasting⟩ := tidy.owned part holds file inner
      exact ⟨moves.minted file old, lasting⟩
    · obtain ⟨lasting, member, -⟩ := moves.there file new
      exact ⟨member, lasting⟩
  · exact fun image held file member lasting => moves.named tidy held member lasting
  · exact fun image held file lasting token => moves.backed tidy held lasting token
  · intro file member lasting unheld undue there
    obtain ⟨-, place, found⟩ := placed file member lasting.suffix
    have released : ∀ image, after.Holds image → file ∉ image.arguments.resources :=
      fun image held inside => unheld ((mem_held distinct).mpr ⟨image, held, inside⟩)
    obtain ⟨old, here | late⟩ := moves.apart file member lasting undue released place found
      ((isFile_iff found).mp there)
    · obtain ⟨-, place', found'⟩ := tidy.placed file old lasting.suffix
      obtain rfl := Except.ok.inj ((vacancy_stable moves.shelters found').symm.trans found)
      exact .inl (tidy.deleted file old lasting undue (by simp) ((isFile_iff found').mpr here))
    · exact .inr late
  · intro file held
    obtain ⟨image, holds, inside⟩ := (mem_held tidy.distinct).mp held
    obtain ⟨old, lasting⟩ := tidy.owned image holds file inside
    exact ⟨moves.minted file old, lasting⟩

end Retouch.Session
