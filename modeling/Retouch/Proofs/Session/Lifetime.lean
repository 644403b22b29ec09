import Retouch.Proofs.Session.Tidy
import Retouch.Tool.Script

/-!
How long temporary files last. A file that was made for the source of an image or for a profile is
there exactly as long as its path is a token of some image, and a file that was made for one call
only is gone when the call is over.
-/
namespace Retouch.Session

open Files World

section Release
variable {session : Session} {files : List ScratchFile} {revived : ScratchFile → Prop}

theorem holdsFile_release
    (placed : ∀ file ∈ files, ∃ place, session.world.files.vacancy file.path = .ok place)
    (location : Location) : (session.release files).world.files.HoldsFile location ↔
      session.world.files.HoldsFile location ∧ ∀ file ∈ files, file ∉ session.held →
        session.world.files.vacancy file.path ≠ .ok location := by
  unfold release discardUnheld
  simp only
  rw [holdsFile_discards fun file member => placed file (List.mem_filter.mp member).1]
  simp

theorem shelters_release (session : Session) (files : List ScratchFile) :
    Shelters session.world.files (session.release files).world.files :=
  shelters_discards session.world _

theorem minted_release (session : Session) (files : List ScratchFile) :
    (session.release files).world.minted = session.world.minted :=
  minted_discards session.world _

theorem Tidy.located {due : List ScratchFile} (tidy : session.Tidy revived due) :
    ∀ file ∈ due, ∃ place, session.world.files.vacancy file.path = .ok place := by
  intro file member
  obtain ⟨minted, lasting⟩ := tidy.known file member
  exact (tidy.placed file minted lasting.suffix).2

theorem Tidy.release {due : List ScratchFile} (tidy : session.Tidy revived due) :
    (session.release due).Tidy revived [] := by
  have shelters := shelters_release session due
  have located := tidy.located
  have minted := minted_release session due
  refine ⟨tidy.distinct, ?_, ?_, ?_, ?_, ?_, by simp⟩
  · rw [minted]
    intro file member bare
    obtain ⟨lasting, place, found⟩ := tidy.placed file member bare
    exact ⟨lasting, place, vacancy_stable shelters found⟩
  · rw [minted]
    exact tidy.owned
  · rw [minted]
    exact tidy.named
  · intro image held file lasting token
    have there := tidy.backed image held file lasting token
    obtain ⟨place, found⟩ := vacancy_of_isFile there lasting.last lasting.isName.1 lasting.isName.2
    rw [isFile_iff (vacancy_stable shelters found), holdsFile_release located]
    refine ⟨(isFile_iff found).mp there, fun other due unheld led => ?_⟩
    obtain ⟨known, lasting'⟩ := tidy.known other due
    obtain rfl := lasting.eq_of_place lasting' found led
    have inside := (tidy.named image held file known lasting).mp token
    exact unheld ((mem_held tidy.distinct).mpr ⟨image, held, inside⟩)
  · rw [minted]
    intro file member lasting unheld _
    obtain ⟨-, place, found⟩ := tidy.placed file member lasting.suffix
    rw [isFile_iff (vacancy_stable shelters found), holdsFile_release located]
    rintro ⟨here, apart⟩
    by_cases late : file ∈ due
    · exact (apart file late unheld found).elim
    · exact tidy.deleted file member lasting unheld late ((isFile_iff found).mpr here)

end Release

section Runs
variable {start session : Session} {command : Command} {revived : ScratchFile → Prop}

theorem tidy_step (tidy : session.Tidy revived []) (spares : session.world.tool.Spares)
    (considerate : session.Considerate command) : (session.step command).2.Tidy
      (fun file => revived file ∨ session.Revives command file) session.held := by
  obtain ⟨made, moves⟩ := (turn_step spares considerate).moves spares
  exact moves.tidy tidy (kit_step session command) (distinct_step tidy.distinct command)

theorem tidy_perform (tidy : session.Tidy revived []) (spares : session.world.tool.Spares)
    (considerate : session.Considerate command) : (session.perform command).2.Tidy
      (fun file => revived file ∨ session.Revives command file) [] :=
  (tidy_step tidy spares considerate).release

/-- The command is given in this state when the commands are carried out one after the other. -/
def Gives (start : Session) (commands : List Command) (session : Session) (command : Command) :
    Prop :=
  ∃ before later, commands = before ++ command :: later ∧ session = start.follow before

/-- At some point of the run a save is sent to where the file has been. -/
def Revived (start : Session) (commands : List Command) (file : ScratchFile) : Prop :=
  ∃ session command, start.Gives commands session command ∧ session.Revives command file

theorem Gives.longer {commands : List Command} (gives : start.Gives commands session command)
    (last : Command) : start.Gives (commands ++ [last]) session command := by
  obtain ⟨before, later, rfl, same⟩ := gives
  exact ⟨before, later ++ [last], by simp, same⟩

theorem gives_last (start : Session) (commands : List Command) (last : Command) :
    start.Gives (commands ++ [last]) (start.follow commands) last := ⟨commands, [], rfl, rfl⟩

theorem tidy_follow (empty : start.images = []) (clean : start.world.minted = [])
    (spares : start.world.tool.Spares) (commands : List Command)
    (considerate : ∀ session command, start.Gives commands session command →
      session.Considerate command) :
    (start.follow commands).Tidy (start.Revived commands) [] := by
  induction commands using List.reverseRecOn with
  | nil => exact tidy_start empty clean _
  | append_singleton commands last ih =>
    have earlier := ih fun session command gives => considerate session command (gives.longer last)
    have kept : (start.follow commands).world.tool.Spares := by
      rw [reaches_tool (reaches_follow start commands)]
      exact spares
    have given := gives_last start commands last
    rw [follow_append]
    change ((start.follow commands).perform last).2.Tidy _ []
    refine (tidy_perform earlier kept (considerate _ _ given)).mono ?_
    rintro file (⟨session, command, gives, revives⟩ | revives)
    · exact ⟨session, command, gives.longer last, revives⟩
    · exact ⟨_, last, given, revives⟩

end Runs

theorem Tidy.isFile_of_token {session : Session} {revived : ScratchFile → Prop}
    (tidy : session.Tidy revived []) {file : ScratchFile} (member : file ∈ session.world.minted)
    (bare : file.suffix = "") (named : ∃ image, session.Holds image ∧ file.path ∈ image.tokens) :
    session.world.files.isFile file.path = true := by
  obtain ⟨lasting, -⟩ := tidy.placed file member bare
  obtain ⟨image, holds, token⟩ := named
  exact tidy.backed image holds file lasting token

theorem Tidy.token_of_isFile {session : Session} {revived : ScratchFile → Prop}
    (tidy : session.Tidy revived []) {file : ScratchFile} (member : file ∈ session.world.minted)
    (bare : file.suffix = "") (there : session.world.files.isFile file.path = true) :
    (∃ image, session.Holds image ∧ file.path ∈ image.tokens) ∨ revived file := by
  obtain ⟨lasting, -⟩ := tidy.placed file member bare
  by_cases held : file ∈ session.held
  · obtain ⟨image, holds, inside⟩ := (mem_held tidy.distinct).mp held
    exact .inl ⟨image, holds, (tidy.named image holds file member lasting).mpr inside⟩
  · exact .inr (tidy.deleted file member lasting held (by simp) there)

theorem considerate_of_usesScratch {session : Session} {command : Command}
    (uses : command.usesScratch = true) : session.Considerate command := by
  cases command with
  | make name origin =>
    cases origin with
    | file path => cases uses
    | _ => trivial
  | _ => trivial

theorem leaves_nothing {session : Session} {command : Command} {revived : ScratchFile → Prop}
    (tidy : session.Tidy revived []) (spares : session.world.tool.Spares)
    (uses : command.usesScratch = true)
    (finished : command.isRendering = true ∨ ∃ cause, (session.perform command).1 = .failed cause) :
    (∀ location, (session.perform command).2.world.files.HoldsFile location →
      session.world.files.HoldsFile location) ∧
    ∃ made, (session.perform command).2.world.minted = session.world.minted ++ made ∧
      ∀ file ∈ made, (session.perform command).2.world.files.isFile file.path = false := by
  have considerate : session.Considerate command := considerate_of_usesScratch uses
  have stepped := tidy_step tidy spares considerate
  have shelters : Shelters (session.step command).2.world.files
      (session.perform command).2.world.files := shelters_release _ _
  have shrinks (location : Location)
      (here : (session.perform command).2.world.files.HoldsFile location) :
      (session.step command).2.world.files.HoldsFile location :=
    ((holdsFile_release stepped.located location).mp here).1
  have minted : (session.perform command).2.world.minted = (session.step command).2.world.minted :=
    minted_release _ _
  cases turn_step spares considerate with
  | same same _ =>
    rw [same] at shrinks minted
    exact ⟨shrinks, [], by rw [minted, List.append_nil], by simp⟩
  | quiet steady _ _ =>
    rw [uses] at steady
    cases steady
  | left _ _ _ _ _ _ lasting answered =>
    rcases finished with rendering | ⟨cause, failed⟩
    · rw [lasting] at rendering
      cases rendering
    · exact (answered cause failed).elim
  | gone file place between _ makes ended _ =>
    rw [ended] at shrinks minted shelters
    have vanished (location : Location)
        (here : (session.perform command).2.world.files.HoldsFile location) :
        session.world.files.HoldsFile location := makes.added_discard (shrinks location here)
    refine ⟨vanished, [file], minted.trans makes.minted_discard, fun other member => ?_⟩
    obtain rfl := List.mem_singleton.mp member
    have still := vacancy_stable (makes.shelters_discard.trans shelters) makes.found
    rw [← Bool.not_eq_true, isFile_iff still]
    exact fun here => makes.free (vanished place here)

/-- Whatever names the system chooses, and whatever else is done: where a temporary file is that no
image names, a save has put something in its place. -/
theorem scratch_file_lifetime {start : Session} {commands : List Command}
    (empty : start.images = []) (clean : start.world.minted = [])
    (spares : start.world.tool.Spares)
    (considerate : ∀ session command, start.Gives commands session command →
      session.Considerate command) :
    (∀ file ∈ (start.follow commands).world.minted, file.suffix = "" →
      ((∃ image, (start.follow commands).Holds image ∧ file.path ∈ image.tokens) →
        (start.follow commands).world.files.isFile file.path = true) ∧
      ((start.follow commands).world.files.isFile file.path = true →
        (∃ image, (start.follow commands).Holds image ∧ file.path ∈ image.tokens) ∨
          start.Revived commands file)) ∧
    ∀ command, command.usesScratch = true →
      (command.isRendering = true ∨
        ∃ cause, ((start.follow commands).perform command).1 = .failed cause) →
      (∀ location, ((start.follow commands).perform command).2.world.files.HoldsFile location →
        (start.follow commands).world.files.HoldsFile location) ∧
      ∃ made, ((start.follow commands).perform command).2.world.minted =
          (start.follow commands).world.minted ++ made ∧
        ∀ file ∈ made,
          ((start.follow commands).perform command).2.world.files.isFile file.path = false := by
  have tidy := tidy_follow empty clean spares commands considerate
  have kept : (start.follow commands).world.tool.Spares := by
    rw [reaches_tool (reaches_follow start commands)]
    exact spares
  exact ⟨fun file member bare => ⟨tidy.isFile_of_token member bare,
      tidy.token_of_isFile member bare⟩,
    fun command uses finished => leaves_nothing tidy kept uses finished⟩

/-- A directory for temporary files with room for the content of one, and a tool that answers
without touching any. -/
def scratchStart : Session where
  kit := ⟨["convert"], ["identify"], "systmp"⟩
  world := {
    tool := Tool.Script.responder fun _ => []
    files := { entries := [(["systmp".toList], .directory)] }
    hindrance := fun minted _ => if 1 < minted.length then some .noSpace else none }

theorem scratchStart_spares : scratchStart.world.tool.Spares := by
  intro log argv output changes ran
  cases ran
  simp

/-- Commands after which the only image holds a file that another one was loaded from. -/
def pasting : List Command :=
  [.make "a" (.bytes [1]), .make "b" (.canvas ⟨200, 80⟩ none), .alter "b" (.paste "a" ⟨0, 0⟩ 50),
    .drop "a"]

theorem pasting_harmless {session : Session} {command : Command}
    (gives : scratchStart.Gives pasting session command) :
    session.Considerate command ∧ ∀ file, ¬ session.Revives command file := by
  obtain ⟨before, later, split, -⟩ := gives
  have member : command ∈ pasting := by
    rw [split]
    simp
  simp only [pasting, List.mem_cons, List.not_mem_nil, or_false] at member
  rcases member with rfl | rfl | rfl | rfl <;> exact ⟨trivial, fun _ => id⟩

/-- The file of an image that is dropped after it was pasted into another one, a rendering of that
one, and a profile that there is no room for. -/
theorem scratch_file_lifetime_pasted :
    let session := scratchStart.follow pasting
    let file : ScratchFile := ⟨"systmp", "im", .ofOrdinal 1, ""⟩
    let command : Command := .get "b" "png" {}
    let refused : Command := .alter "b" (.profile ⟨"icc", [7]⟩)
    scratchStart.images = [] ∧ scratchStart.world.minted = [] ∧
      scratchStart.world.tool.Spares ∧
      (∀ session command, scratchStart.Gives pasting session command →
        session.Considerate command) ∧
      file ∈ session.world.minted ∧ file.suffix = "" ∧ session.image? "a" = none ∧
      session.world.files.isFile file.path = true ∧
      (∃ image, session.Holds image ∧ file.path ∈ image.tokens) ∧
      command.usesScratch = true ∧ command.isRendering = true ∧
      (∀ location, (session.perform command).2.world.files.HoldsFile location →
        session.world.files.HoldsFile location) ∧
      refused.usesScratch = true ∧ (∃ cause, (session.perform refused).1 = .failed cause) ∧
      ∃ made, made ≠ [] ∧ (session.perform refused).2.world.minted = session.world.minted ++ made ∧
        ∀ file ∈ made, (session.perform refused).2.world.files.isFile file.path = false := by
  have considerate : ∀ session command, scratchStart.Gives pasting session command →
      session.Considerate command := fun _ _ gives => (pasting_harmless gives).1
  obtain ⟨last, leaves⟩ := scratch_file_lifetime rfl rfl scratchStart_spares considerate
  have minted : (⟨"systmp", "im", .ofOrdinal 1, ""⟩ : ScratchFile) ∈
      (scratchStart.follow pasting).world.minted := List.mem_singleton.mpr rfl
  have there : (scratchStart.follow pasting).world.files.isFile
      (⟨"systmp", "im", .ofOrdinal 1, ""⟩ : ScratchFile).path = true := by decide +kernel
  have unsaved (file : ScratchFile) : ¬ scratchStart.Revived pasting file :=
    fun ⟨_, _, gives, revives⟩ => (pasting_harmless gives).2 file revives
  have failed : ∃ cause, ((scratchStart.follow pasting).perform
      (.alter "b" (.profile ⟨"icc", [7]⟩))).1 = .failed cause := by
    have told : (match ((scratchStart.follow pasting).perform
        (.alter "b" (.profile ⟨"icc", [7]⟩))).1 with
      | .failed _ => true
      | _ => false) = true := by decide +kernel
    split at told
    next cause same => exact ⟨cause, same⟩
    next => cases told
  obtain ⟨-, made, added, gone⟩ := leaves (.alter "b" (.profile ⟨"icc", [7]⟩)) rfl (.inr failed)
  have some : made ≠ [] := by
    rintro rfl
    exact absurd (congrArg List.length added) (by decide +kernel)
  exact ⟨rfl, rfl, scratchStart_spares, considerate, minted, rfl, rfl, there,
    ((last _ minted rfl).2 there).resolve_right (unsaved _), rfl, rfl, (leaves _ rfl (.inl rfl)).1,
    rfl, failed, made, some, added, gone⟩

end Retouch.Session
