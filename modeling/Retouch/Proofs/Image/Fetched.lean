import Retouch.Proofs.Files.Acts
import Retouch.Proofs.Image.OneCall
import Retouch.Proofs.Image.Queries

/-!
The one call of a rendering into memory. It is aimed at an empty temporary file that has just been
made, and what is rendered is what the file holds when the call has been made.
-/
namespace Retouch

theorem Files.read_put {files after : Files} {path : String} {place : Location} {content : Bytes}
    (found : files.vacancy path = .ok place) (shelters : Shelters files after)
    (there : after.at? place = some (.file content)) : after.read path = .ok content := by
  obtain ⟨origin, first, directory, name, started, walked, here, proper, -, rfl⟩ :=
    vacancy_ok (vacancy_stable shelters found)
  have led := find_eq started walked here proper
  rw [there] at led
  rw [read, led]
  simp [bind, Except.bind, there]

/-- Making directories changes nothing that is already there. -/
theorem Files.at?_makeDirectories {files : Files} {location : Location} {entry : Entry}
    (there : files.at? location = some entry) (path : String) :
    (files.makeDirectories path).2.at? location = some entry := by
  let Kept (before after : Files) : Prop :=
    ∀ location entry, before.at? location = some entry → after.at? location = some entry
  have kept : Kept files (files.makeDirectories path).2 := by
    apply makeDirectories_of
    · exact fun _ _ _ there => there
    · exact fun first second location entry there =>
        second location entry (first location entry there)
    · intro files after path made location entry there
      obtain ⟨place, named, free, rfl⟩ := makeDirectory_ok made
      rw [at?_put files _ location named, if_neg, there]
      rintro rfl
      rw [free] at there
      cases there
  exact kept location entry there

namespace Image

/-- A rendering into memory that is ready for its call: the file is made, and the plan is for it. -/
structure Aimed (kit : Tool.Kit) (format : String) (options : Save.Options) (desk : Desk)
    (file : ScratchFile) (planned : Save.Plan) (ready : World) : Prop where
  made : ∃ first,
    World.create kit.tempDir "im" ("." ++ Text.lowercase format) desk.world = (.ok file, first) ∧
      makeParent file.path first = (.ok (), ready)
  settled : desk.image.plan kit (some file.path) { options with format := some format } =
    .ok planned

/-- How a rendering into memory ends when its call gets this reply. -/
def received (file : ScratchFile) (planned : Save.Plan) (image : Image) (ready : World)
    (reply : Reply) : Except Cause Bytes × Desk :=
  match replied planned image ready reply with
  | (.error cause, after) => (.error cause, { after with world := after.world.discard file })
  | (.ok _, after) => ((readRendered file.path after.world).1,
    { after with world := after.world.discard file })

section Aimed
variable {kit : Tool.Kit} {format : String} {options : Save.Options} {desk : Desk}
  {file : ScratchFile} {planned : Save.Plan} {ready : World}

namespace Aimed

theorem named (aimed : Aimed kit format options desk file planned ready) :
    (∃ tag, file = ⟨kit.tempDir, "im", tag, "." ++ Text.lowercase format⟩) ∧
      ∃ place, desk.world.files.vacancy file.path = .ok place := by
  obtain ⟨first, created, -⟩ := aimed.made
  obtain ⟨named, place, found, -, -⟩ := World.create_ok created
  exact ⟨named, place, found⟩

theorem ready_eq (aimed : Aimed kit format options desk file planned ready) :
    ready = { desk.world with files := ready.files, minted := desk.world.minted ++ [file] } := by
  obtain ⟨first, created, made⟩ := aimed.made
  obtain ⟨-, place, -, -, rfl⟩ := World.create_ok created
  exact makeParent_files made

/-- The file is there before the call, and nothing is in it. -/
theorem empty (aimed : Aimed kit format options desk file planned ready) :
    ready.files.read file.path = .ok [] := by
  obtain ⟨first, created, made⟩ := aimed.made
  obtain ⟨-, place, found, free, rfl⟩ := World.create_ok created
  have named := Files.vacancy_ne_root found
  have shelters : Files.Shelters desk.world.files (desk.world.files.put place (.file [])) :=
    Files.shelters_put named (by rw [free]; simp) _
  have there : (desk.world.files.put place (.file [])).at? place = some (.file []) := by
    rw [Files.at?_put _ _ _ named, if_pos rfl]
  have kept := congrArg (fun ran => ran.2.files) made
  unfold makeParent at kept
  split at kept
  · rw [← kept]
    exact Files.read_put found shelters there
  next parent _ =>
    split at kept
    · rw [← kept]
      exact Files.read_put found shelters there
    · have same : ((desk.world.files.put place (.file [])).makeDirectories parent).2 =
          ready.files := by
        rw [← kept]
        simp only
        split <;> rfl
      rw [← same]
      exact Files.read_put found (shelters.trans (Files.shelters_makeDirectories _ parent))
        (Files.at?_makeDirectories there parent)

theorem argv (aimed : Aimed kit format options desk file planned ready) :
    (∃ front, planned.argv = front ++ ["-format", planned.format, file.path]) ∧
      Save.resolveFormat (some format) file.path desk.image.source = .ok planned.format := by
  have settled : Save.plan (desk.image.request kit) file.path
      { options with format := some format } = .ok planned := aimed.settled
  obtain ⟨resolved, spelled⟩ := Save.plan_argv settled
  rw [Save.Plan.tail, (Save.plan_ok settled).1, ← List.append_assoc] at spelled
  exact ⟨⟨_, spelled⟩, resolved⟩

end Aimed

/-- Without a call there are no bytes. -/
theorem get_called (kit : Tool.Kit) (format : String) (options : Save.Options) (desk : Desk) :
    (∃ cause, (get kit format options desk).1 = .error cause ∧
      (get kit format options desk).2.world.calls = desk.world.calls) ∨
    ∃ file planned ready, Aimed kit format options desk file planned ready ∧
      get kit format options desk = received file planned desk.image ready
        (desk.world.tool desk.world.calls planned.argv) := by
  obtain ⟨image, world⟩ := desk
  rw [get_eq]
  rcases created : World.create kit.tempDir "im" ("." ++ Text.lowercase format) world with
    ⟨cause | file, first⟩
  · rw [World.create_error created]
    exact .inl ⟨cause, rfl, rfl⟩
  · have calls : first.calls = world.calls ∧ first.tool = world.tool := by
      obtain ⟨-, place, -, -, rfl⟩ := World.create_ok created
      exact ⟨rfl, rfl⟩
    cases settled : image.plan kit (some file.path) { options with format := some format } with
    | error cause =>
      left
      simp only [save_eq, settled]
      exact ⟨cause, rfl, calls.1⟩
    | ok planned =>
      have aim : planned.destination = file.path := (Option.some.inj (plan_ok settled).1).symm
      have called := makeParent_calls file.path first
      rcases made : makeParent file.path first with ⟨cause | _, ready⟩ <;> rw [made] at called
      · left
        simp only [save_eq, settled, aim, made]
        exact ⟨cause, rfl, called.trans calls.1⟩
      · right
        refine ⟨file, planned, ready, ⟨⟨first, created, made⟩, settled⟩, ?_⟩
        simp only [save_replied settled (aim ▸ made), calls, received]
        rcases replied planned image ready (world.tool world.calls planned.argv) with
          ⟨_ | _, after⟩ <;> rfl

theorem received_world (file : ScratchFile) (planned : Save.Plan) (image : Image) (ready : World)
    (reply : Reply) :
    (received file planned image ready reply).2.world.minted = ready.minted ∧
      ((received file planned image ready reply).2.world.calls = ready.calls ∨
        (received file planned image ready reply).2.world.calls =
          ready.calls ++ [planned.argv]) := by
  unfold received replied
  cases reply with
  | unstarted cause => exact ⟨rfl, .inl rfl⟩
  | refused cause => exact ⟨rfl, .inr rfl⟩
  | ran output changes =>
    simp only
    cases output.success <;> exact ⟨rfl, .inr rfl⟩

theorem received_ok {image : Image} {reply : Reply} {bytes : Bytes} {after : Desk}
    (fetched : received file planned image ready reply = (.ok bytes, after)) :
    ∃ output changes, reply = .ran output changes ∧ output.success = true ∧
      (changes.foldl (Change.apply planned.destination) ready.files).read file.path = .ok bytes ∧
      after.world = World.discard { ready with
        calls := ready.calls ++ [planned.argv]
        files := changes.foldl (Change.apply planned.destination) ready.files } file := by
  unfold received replied at fetched
  cases reply with
  | unstarted cause => cases fetched
  | refused cause => cases fetched
  | ran output changes =>
    refine ⟨output, changes, rfl, ?_⟩
    simp only at fetched
    cases success : output.success with
    | false =>
      rw [success] at fetched
      cases fetched
    | true =>
      simp only [success, if_true, readRendered] at fetched
      split at fetched
      next content read =>
        obtain ⟨same, rfl⟩ := Prod.mk.inj fetched
        obtain rfl := Except.ok.inj same
        exact ⟨rfl, read, rfl⟩
      · cases fetched

end Aimed

end Image

end Retouch
