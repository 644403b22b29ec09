import Retouch.Proofs.Image.Queries
import Retouch.Proofs.Session.Run
import Retouch.Tool.Script

/-!
What a whole run asks of the tool. Every command has its queries, and the calls made along a run are
those for the queries of its commands, in their order, after the one for the version.
-/
namespace Retouch

namespace Command

/-- A command that works on an image without asking for anything. -/
def defers : Command → Bool
  | .make _ origin => match origin with
    | .canvas .. | .copyOf _ | .maskOf _ => true
    | _ => false
  | .alter _ edit => !edit.isSized
  | .drop _ | .inspect _ | .plan .. | .insertNote .. | .eraseNote .. | .note .. => true
  | _ => false

end Command

namespace Session

/-- The queries about an image, which are none if there is no such image. -/
def about (session : Session) (name : String) (queries : Image → World → List Query) :
    List Query :=
  match session.image? name with
  | some image => queries image session.world
  | none => []

/-- What a command asks. -/
def queries (session : Session) : Command → List Query
  | .make _ origin => match origin with
    | .file path => Image.opening session.kit path session.world
    | .bytes bytes => Image.loading session.kit bytes session.world
    | .stream stream => match stream.readAll with
      | .ok bytes => Image.loading session.kit bytes session.world
      | .error _ => []
    | .canvas .. | .copyOf _ | .maskOf _ => []
  | .alter name edit => session.about name fun image world =>
    match edit.resolve? session.image? with
    | some edit => edit.asking session.kit image world
    | none => []
  | .size name => session.about name fun image => image.measuring session.kit
  | .colorAt name point => session.about name fun image => image.sampling session.kit point
  | .histogram name => session.about name fun image world => world.asked session.kit (.colors image)
  | .save name path options => session.about name fun image => image.saving session.kit path options
  | .get name format options =>
    session.about name fun image => image.fetching session.kit format options
  | .present name format options _ =>
    session.about name fun image => image.presenting session.kit format options
  | .drop _ | .inspect _ | .plan .. | .insertNote .. | .eraseNote .. | .note .. => []

/-- What one command after the other asks. -/
def transcript (session : Session) : List Command → List Query
  | [] => []
  | command :: rest => session.queries command ++ (session.perform command).2.transcript rest

variable {session : Session}

theorem called_work {name : String} {edit : StateM Desk Outcome}
    {queries : Image → World → List Query}
    (called : ∀ image (world : World),
      world.Called session.kit (queries image world) (edit ⟨image, world⟩).2.world) :
    session.world.Called session.kit (session.about name queries)
      (session.work name edit).2.world := by
  unfold about
  cases held : session.image? name with
  | none =>
    rw [work_absent held]
    exact .none rfl
  | some image =>
    rw [work_eq held]
    exact called image session.world

theorem called_edit {α : Type} {name : String} {edit : Edit α} {answer : α → Answer}
    {queries : Image → World → List Query}
    (called : ∀ image (world : World),
      world.Called session.kit (queries image world) (edit ⟨image, world⟩).2.world) :
    session.world.Called session.kit (session.about name queries)
      (session.edit name edit answer).2.world := by
  rw [edit_work]
  exact called_work called

/-- A command that has nothing to ask, whether its image is there or not. -/
theorem called_quiet {name : String} {edit : StateM Desk Outcome}
    (quiet : ∀ desk, (edit desk).2.world.calls = desk.world.calls) :
    session.world.Called session.kit [] (session.work name edit).2.world := by
  have called : session.world.Called session.kit (session.about name fun _ _ => [])
      (session.work name edit).2.world :=
    called_work fun image world => .none (quiet ⟨image, world⟩)
  have silent : session.about name (fun _ _ => []) = [] := by
    unfold about
    split <;> rfl
  rwa [silent] at called

theorem called_make (name : String) (origin : Origin) :
    session.world.Called session.kit (session.queries (.make name origin))
      (session.make name origin).2.world := by
  have made {act : Act Image} {asked : List Query} (making : session.making origin = some act)
      (called : session.world.Called session.kit asked (act session.world).2) :
      session.world.Called session.kit asked (session.make name origin).2.world := by
    unfold make
    rw [making]
    simp only
    rcases ran : act session.world with ⟨cause | image, after⟩ <;> rw [ran] at called <;>
      exact called
  cases origin with
  | file path => exact made rfl (Image.called_openFile path session.world)
  | bytes bytes => exact made rfl (Image.called_load bytes session.world)
  | stream stream =>
    apply made rfl
    simp only [queries, Image.read]
    rw [Stepwise.bind_apply]
    cases stream.readAll with
    | error cause => exact .none rfl
    | ok bytes => exact Image.called_load bytes session.world
  | canvas size background =>
    apply made rfl
    apply World.Called.none
    cases h : Image.canvas size background <;> rfl
  | copyOf name | maskOf name =>
    cases held : session.image? name with
    | none => exact .none (by simp [make, making, held])
    | some image => exact made (by simp [making, held]; rfl) (.none rfl)

theorem called_step (command : Command) :
    session.world.Called session.kit (session.queries command) (session.step command).2.world := by
  cases command with
  | make name origin => exact called_make name origin
  | drop name =>
    simp only [step, queries]
    cases session.image? name <;> exact .none rfl
  | inspect name =>
    simp only [step, edit_work]
    exact called_quiet fun desk => rfl
  | alter name edit =>
    simp only [step, alter, queries]
    cases edit.resolve? session.image? with
    | none =>
      unfold about
      split <;> exact .none rfl
    | some edit => exact called_edit fun image world => edit.called_apply image world
  | size name => exact called_edit Image.called_resolve
  | colorAt name point => exact called_edit fun image => image.called_colorAt point
  | histogram name => exact called_edit Image.called_histogram
  | plan name path options =>
    simp only [step, edit_work]
    apply called_quiet
    intro desk
    rw [planned_eq]
  | save name path options => exact called_edit fun image => image.called_save path options
  | get name format options => exact called_edit fun image => image.called_get format options
  | present name format options room =>
    exact called_work fun image => image.called_present format options room
  | insertNote name key value => exact called_quiet fun desk => rfl
  | eraseNote name key => exact called_quiet fun desk => rfl
  | note name key => exact called_quiet fun desk => rfl

theorem called_perform (session : Session) (command : Command) :
    session.world.Called session.kit (session.queries command)
      (session.perform command).2.world := by
  have discarded (files : List ScratchFile) (world : World) :
      (files.foldl World.discard world).calls = world.calls := by
    induction files generalizing world with
    | nil => rfl
    | cons file rest ih => exact ih (world.discard file)
  exact (called_step command).until_later (discarded _ _)

theorem called_follow (session : Session) (commands : List Command) :
    session.world.Called session.kit (session.transcript commands)
      (session.follow commands).world := by
  induction commands generalizing session with
  | nil => exact .none rfl
  | cons command rest ih =>
    have later := ih (session.perform command).2
    rw [kit_perform] at later
    exact (session.called_perform command).trans later

theorem queries_defers {command : Command} (defers : command.defers = true) :
    session.queries command = [] := by
  have silent {name : String} {queries : Image → World → List Query}
      (none : ∀ image world, queries image world = []) : session.about name queries = [] := by
    unfold about
    split
    · exact none _ _
    · rfl
  cases command with
  | make name origin =>
    cases origin with
    | canvas size background => rfl
    | copyOf other => rfl
    | maskOf other => rfl
    | file path | bytes bytes | stream stream => cases defers
  | alter name edit =>
    simp only [queries]
    apply silent
    intro image world
    cases edit with
    | crop | paste | applyMask | fill => cases defers
    | addLayer other =>
      simp only [Alteration.resolve?]
      cases session.image? other <;> rfl
    | _ => rfl
  | size | colorAt | histogram | save | get | present => cases defers
  | _ => rfl

theorem calls_of_run (settings : Tool.Settings) (world : World) :
    (start settings world).2.calls = world.calls ++ settings.greeting world ∧
      ∀ session, (start settings world).1 = .ok session → ∀ commands,
        (session.follow commands).world.calls = world.calls ++ settings.greeting world ++
            (session.transcript commands).map (Query.argv session.kit) ∧
          ∀ command, command.defers = true →
            ((session.follow commands).perform command).2.world.calls =
              (session.follow commands).world.calls := by
  have prepared := Tool.Kit.prepare_calls settings world
  unfold start
  rcases ran : Tool.Kit.prepare settings world with ⟨cause | kit, after⟩ <;> rw [ran] at prepared
  · refine ⟨prepared, fun session started => ?_⟩
    cases started
  · refine ⟨prepared, fun session started commands => ?_⟩
    obtain rfl := Except.ok.inj started
    constructor
    · have called := called_follow ⟨kit, [], after⟩ commands
      rw [World.Called, prepared] at called
      exact called
    · intro command defers
      have called := (follow ⟨kit, [], after⟩ commands).called_perform command
      rw [World.Called, queries_defers defers] at called
      rw [called]
      exact List.append_nil _

/-- The first image has to be asked for its size, the second one was given its size. -/
theorem calls_of_run_pasted :
    let world : World := {
      tool := Tool.Script.responder fun _ => []
      files := { entries := [(["a.png".toList], .file [])] } }
    let commands : List Command := [.make "a" (.file "a.png"), .make "b" (.copyOf "a"),
      .alter "b" (.resize ⟨9, 8⟩ .undefined), .alter "a" .flipVertically,
      .alter "a" (.paste "b" {} 100), .colorAt "a" ⟨99, 49⟩, .colorAt "a" ⟨100, 0⟩,
      .save "a" (some "b.png") {}]
    let calls := [["convert", "-version"], ["identify", "-format", "%[colorspace]\n", "a.png"],
      ["identify", "-format", "%n\n", "a.png"],
      ["convert", "a.png", "-flip", "-format", "%wx%h\n", "info:"],
      ["convert", "a.png", "-flip", "(", "a.png", "-resize", "9x8", ")", "-geometry", "+0+0",
        "-compose", "Over", "-composite", "-format", "%[hex:p\x7b99,49\x7d]\n", "info:"],
      ["convert", "a.png", "-flip", "(", "a.png", "-resize", "9x8", ")", "-geometry", "+0+0",
        "-compose", "Over", "-composite", "-format", "png", "b.png"]]
    ∃ session, (start {} world).1 = .ok session ∧ (session.follow commands).world.calls = calls ∧
      Tool.Settings.greeting {} world ++ (session.transcript commands).map
        (Query.argv session.kit) = calls ∧
      ((session.follow commands).perform (.alter "a" .strip)).2.world.calls = calls := by
  intro world commands calls
  have told : (start {} world).1.toOption.map (fun session =>
      (session.follow commands).world.calls) = some calls := by decide +kernel
  have ran := (calls_of_run {} world).2
  rcases started : (start {} world).1 with cause | session
  · rw [started] at told
    cases told
  · rw [started] at told
    have made : (session.follow commands).world.calls = calls := Option.some.inj told
    obtain ⟨all, deferred⟩ := ran session started commands
    exact ⟨session, rfl, made, all.symm.trans made, (deferred (.alter "a" .strip) rfl).trans made⟩

end Session

end Retouch
