import Retouch.Proofs.Files.Acts
import Retouch.Proofs.Files.Naming

/-!
What becomes of a temporary file within one act. A load that succeeds leaves its file behind; after
a load that fails, and after every rendering into memory, the file is gone again.
-/
namespace Retouch

open Files

namespace World

/-- A temporary file has been made where there was none, and since then nothing has been written
but to its path. -/
structure Makes (file : ScratchFile) (place : Location) (before after : World) : Prop where
  tool : after.tool = before.tool
  minted : after.minted = before.minted ++ [file]
  shelters : Shelters before.files after.files
  found : before.files.vacancy file.path = .ok place
  free : ¬ before.files.HoldsFile place
  added : ∀ location, after.files.HoldsFile location →
    before.files.HoldsFile location ∨ location = place
  there : before.tool.Spares → after.files.HoldsFile place
  spared : before.tool.Spares → before.files.Spared after.files

variable {before between after : World} {file : ScratchFile} {place : Location}

theorem makes_of_writes {directory stem suffix : String}
    (created : create directory stem suffix before = (.ok file, between))
    (writes : Writes file.path between after) : ∃ place, Makes file place before after := by
  obtain ⟨-, place, found, empty, rfl⟩ := create_ok created
  have named := vacancy_ne_root found
  have shelters : Shelters before.files (before.files.put place (.file [])) :=
    shelters_put named (by rw [empty]; simp) _
  have still := vacancy_stable (shelters.trans writes.files.shelters) found
  refine ⟨place, writes.tool, writes.minted, shelters.trans writes.files.shelters, found, ?_, ?_,
    ?_, ?_⟩
  · rintro ⟨content, here⟩
    rw [empty] at here
    cases here
  · intro location here
    rcases writes.files.added location here with filed | led
    · rw [holdsFile_put named] at filed
      split at filed
      next same => exact .inr same
      next => exact .inl filed
    · exact .inr (Except.ok.inj (led.symm.trans still))
  · intro spares
    apply writes.spared spares
    rw [holdsFile_put named, if_pos rfl]
    exact ⟨[], rfl⟩
  · intro spares location here
    apply writes.spared spares
    rw [holdsFile_put named]
    split
    · exact ⟨[], rfl⟩
    · exact here

theorem lasting_of_create {directory stem : String}
    (created : create directory stem "" before = (.ok file, after))
    (known : stem = "im" ∨ stem = "ip") : file.Lasting directory := by
  obtain ⟨⟨tag, rfl⟩, -⟩ := create_ok created
  exact ⟨rfl, known, rfl⟩

theorem mint_cases (directory stem : String) (content : Bytes) (world : World) :
    (∃ cause, mint directory stem content world = (.error cause, world)) ∨
      ∃ file made filled, create directory stem "" world = (.ok file, made) ∧
        Writes file.path made filled ∧
        (mint directory stem content world = (.ok file, filled) ∨
          ∃ cause, mint directory stem content world = (.error cause, filled.discard file)) := by
  unfold mint
  rw [Stepwise.bind_apply]
  rcases created : create directory stem "" world with ⟨cause | file, made⟩
  · left
    rw [create_error created]
    exact ⟨cause, rfl⟩
  · right
    have writes := writes_fill file content made
    refine ⟨file, made, (fill file content made).2, rfl, writes, ?_⟩
    simp only [Stepwise.bind_apply, guarding]
    rcases fill file content made with ⟨cause | _, filled⟩
    · exact .inr ⟨cause, rfl⟩
    · exact .inl rfl

namespace Makes

theorem minted_discard (makes : Makes file place before between) :
    (between.discard file).minted = before.minted ++ [file] := makes.minted

theorem shelters_discard (makes : Makes file place before between) :
    Shelters before.files (between.discard file).files :=
  makes.shelters.trans (World.shelters_discard between file)

theorem added_discard (makes : Makes file place before between) {location : Location}
    (here : (between.discard file).files.HoldsFile location) :
    before.files.HoldsFile location := by
  have still := vacancy_stable makes.shelters makes.found
  obtain ⟨other, filed⟩ := (holdsFile_discard still location).mp here
  exact (makes.added location filed).resolve_right other

theorem spared_discard (makes : Makes file place before between) (spares : before.tool.Spares) :
    before.files.Spared (between.discard file).files := by
  intro location here
  have still := vacancy_stable makes.shelters makes.found
  refine (holdsFile_discard still location).mpr ⟨?_, makes.spared spares location here⟩
  rintro rfl
  exact makes.free here

end Makes

end World

open World

namespace Image

theorem writes_identify (kit : Tool.Kit) (format path : String) :
    (execute (kit.identifyCall format path)).Keeps (Writes path) := by
  apply writes_execute
  simp [Tool.Kit.identifyCall]

theorem writes_examine (kit : Tool.Kit) (path : String) (source : Option String)
    (notes : Metadata) : (examine kit path source notes).Keeps (Writes path) :=
  (course_writes path).examine (writes_identify kit _ path) (writes_identify kit _ path) source
    notes

theorem load_cases (kit : Tool.Kit) (bytes : Bytes) (world : World) :
    (∃ cause, load kit bytes world = (.error cause, world)) ∨
      ∃ file place between, file.Lasting kit.tempDir ∧ Makes file place world between ∧
        ((∃ palette frames, load kit bytes world =
          (.ok ((ofFile file.path none palette frames {}).attach file), between)) ∨
        ∃ cause, load kit bytes world = (.error cause, between.discard file)) := by
  unfold load
  rw [Stepwise.bind_apply]
  rcases mint_cases kit.tempDir "im" bytes world with
    ⟨cause, failed⟩ | ⟨file, made, filled, created, writes, ended⟩
  · rw [failed]
    exact .inl ⟨cause, rfl⟩
  · right
    have lasting := lasting_of_create created (.inl rfl)
    rcases ended with minted | ⟨cause, failed⟩
    · have examines := writes_examine kit file.path none {} filled
      rw [minted]
      simp only [Stepwise.bind_apply, guarding]
      rcases examined : examine kit file.path none {} filled with ⟨cause | image, last⟩ <;>
        rw [examined] at examines <;>
        obtain ⟨place, makes⟩ :=
          makes_of_writes created ((course_writes file.path).trans writes examines)
      · exact ⟨file, place, last, lasting, makes, .inr ⟨cause, rfl⟩⟩
      · obtain ⟨palette, frames, -, rfl⟩ := examine_ok examined
        exact ⟨file, place, last, lasting, makes, .inl ⟨palette, frames, rfl⟩⟩
    · obtain ⟨place, makes⟩ := makes_of_writes created writes
      rw [failed]
      exact ⟨file, place, filled, lasting, makes, .inr ⟨cause, rfl⟩⟩

theorem writes_save (kit : Tool.Kit) {path : Option String} (image : Image) {destination : String}
    (chosen : (path <|> image.source) = some destination) (options : Save.Options)
    (world : World) :
    Writes destination world (save kit path options ⟨image, world⟩).2.world := by
  apply (course_writes destination).save
  · intro other _
    exact writes_makeParent destination other
  · intro other chosen' argv last
    obtain rfl := Option.some.inj (chosen.symm.trans chosen')
    exact writes_execute last

theorem get_cases (kit : Tool.Kit) (format : String) (options : Save.Options) (desk : Desk) :
    (get kit format options desk).2.world = desk.world ∨
      ∃ file place between, file.suffix ≠ "" ∧ Makes file place desk.world between ∧
        (get kit format options desk).2.world = between.discard file := by
  obtain ⟨image, world⟩ := desk
  rw [get_eq]
  rcases created : create kit.tempDir "im" ("." ++ Text.lowercase format) world with
    ⟨cause | file, first⟩
  · left
    rw [create_error created]
  · right
    obtain ⟨⟨tag, named⟩, -⟩ := create_ok created
    have suffixed : file.suffix ≠ "" := by
      rw [named]
      intro none
      have chars := congrArg String.toList none
      simp at chars
    have chosen : (some file.path <|> image.source) = some file.path := rfl
    have writes := writes_save kit image chosen { options with format := some format } first
    obtain ⟨place, makes⟩ := makes_of_writes created writes
    refine ⟨file, place, _, suffixed, makes, ?_⟩
    simp only
    rcases save kit (some file.path) { options with format := some format } ⟨image, first⟩ with
      ⟨_ | _, last⟩ <;> rfl

theorem writes_measure (kit : Tool.Kit) (image : Image) :
    (image.measure kit).Keeps (Writes "info:") := by
  apply (course_writes "info:").measure
  apply writes_execute
  simp [Tool.Kit.sizeCall, Tool.Kit.infoCall]

end Image

end Retouch
