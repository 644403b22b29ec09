import Retouch.Proofs.Grammar.Numbers
import Retouch.Tool.Script

/-!
The numbers on the command lines of a run. Angles, corrections and strengths are finite on all of
them; a convolution takes over the values of its kernel, and nothing on the way from the values to
the command line looks whether they are finite.
-/
namespace Retouch

open Grammar

theorem Alteration.resolve?_kernel {find : String → Option Image} {edit : Alteration String}
    {resolved : Alteration Image} (found : edit.resolve? find = some resolved) :
    resolved.kernel? = edit.kernel? := by
  cases edit <;>
    simp only [Alteration.resolve?, Option.map_eq_some_iff, Option.some.injEq] at found
  case paste | applyMask | addLayer =>
    obtain ⟨image, -, rfl⟩ := found
    rfl
  all_goals
    subst found
    rfl

/-- The kernel of a command that is a convolution. -/
def Command.kernel? : Command → Option Kernel
  | .alter _ edit => edit.kernel?
  | _ => none

/-- The image is spelled in the grammar, and all of its flags are sound. -/
def Image.Sound (used : Kernel → Prop) (image : Image) (source : Source) (body : Units) : Prop :=
  image.Spelled source body ∧ ∀ flag ∈ body.flags, flag.Sound used

namespace Image.Sound
variable {used : Kernel → Prop} {image after : Image} {source : Source} {body : Units}

theorem of_same (sound : image.Sound used source body) (input : after.input = image.input)
    (arguments : after.arguments = image.arguments) : after.Sound used source body :=
  ⟨sound.1.of_same input arguments, sound.2⟩

theorem masked (sound : image.Sound used source body) : image.mask.Sound used source
    (body ++ .row [⟨"-modulate", ["100,0,100"], rfl⟩, ⟨"-alpha", ["off"], rfl⟩]) := by
  refine ⟨sound.1.masked, ?_⟩
  simp only [Units.flags_append, Units.flags_row, List.forall_mem_append, List.forall_mem_cons]
  exact ⟨sound.2, Flag.sound_other (by decide), Flag.sound_other (by decide),
    List.forall_mem_nil _⟩

theorem settled {needs : Needs} {edit : Alteration Image} {source' : Source} {body' : Units}
    (sound : image.Sound used source body)
    (operand : ∀ other ∈ edit.operand?, other.Sound used source' body')
    (kernels : ∀ kernel ∈ edit.kernel?, used kernel)
    (settled : edit.settle needs image = .ok after) :
    ∃ later, after.Sound used source (body ++ later) := by
  obtain ⟨own, file, -, -, rfl⟩ := Alteration.settle_ok settled
  refine ⟨edit.units image.palette own file source' body',
    sound.1.outcome (fun other needed => (operand other needed).1) own file, ?_⟩
  rw [Units.flags_append, List.forall_mem_append]
  refine ⟨sound.2, Alteration.sound_units (Alteration.finite_of_settled settled) ?_ ?_⟩
  · intro kernel convolved
    exact ⟨kernels kernel convolved, Alteration.square_of_settled settled convolved⟩
  · exact fun other needed => (operand other needed).2

end Image.Sound

namespace Session
variable {used : Kernel → Prop} {session : Session}

def Sound (used : Kernel → Prop) (session : Session) : Prop :=
  ∀ image, session.Holds image → ∃ source body, image.Sound used source body

theorem Made.sound {image : Image} (sound : session.Sound used) (made : session.Made image) :
    ∃ source body, image.Sound used source body := by
  have bare (spelled : ∃ source, image.Spelled source .done) :
      ∃ source body, image.Sound used source body := by
    obtain ⟨source, spelled⟩ := spelled
    exact ⟨source, .done, spelled, List.forall_mem_nil _⟩
  cases made with
  | opened notes seen => exact bare ⟨_, .file _ _ _ _ _⟩
  | loaded minted seen => exact bare ⟨_, .attach (.file _ _ _ _ _) _⟩
  | canvas blank => exact bare ⟨_, (Image.spelled_canvas blank).1⟩
  | copied held =>
    obtain ⟨source, body, before⟩ := sound _ held
    exact ⟨source, body, before.of_same rfl rfl⟩
  | masked held =>
    obtain ⟨source, body, before⟩ := sound _ held
    exact ⟨source, _, before.masked⟩

theorem alter_sound {name : String} {edit : Alteration String} {after : Image}
    (sound : session.Sound used) (kernels : ∀ kernel ∈ edit.kernel?, used kernel)
    (held : (session.step (.alter name edit)).2.image? name = some after) :
    ∃ source body, after.Sound used source body := by
  obtain ⟨image, present, ended⟩ := alter_handle held
  obtain ⟨source, body, before⟩ := sound image ⟨name, present⟩
  rcases ended with ⟨-, learned⟩ | ⟨-, resolved, needs, between, found, learned, settled⟩
  · exact ⟨source, body, before.of_same learned.input learned.arguments⟩
  · obtain ⟨source', body', operand⟩ :=
      operand_read sound fun other needed => resolve?_operand found needed
    rw [← Alteration.resolve?_kernel found] at kernels
    have same := before.of_same learned.input learned.arguments
    obtain ⟨later, edited⟩ := same.settled operand kernels settled
    exact ⟨source, _, edited⟩

theorem perform_sound {command : Command} (sound : session.Sound used)
    (kernels : ∀ kernel ∈ command.kernel?, used kernel) :
    (session.perform command).2.Sound used := by
  rintro after ⟨name, held⟩
  rcases perform_handle held with ⟨-, kept⟩ | ⟨-, -, made⟩ | ⟨rfl, -, image, present, becomes⟩
  · exact sound after ⟨name, kept⟩
  · exact made.sound sound
  · obtain ⟨source, body, before⟩ := sound image ⟨_, present⟩
    cases becomes with
    | learned _ learned => exact ⟨source, body, before.of_same learned.input learned.arguments⟩
    | edited own _ _ _ => exact alter_sound sound kernels held
    | saved _ =>
      have rendered : image.Rendered (image.committed (session.carried? image command)) :=
        carried_rendered image command
      exact ⟨source, body, before.of_same rendered.input rendered.arguments⟩
    | noted notes _ => exact ⟨source, body, before.of_same rfl rfl⟩

theorem follow_sound {commands : List Command} (sound : session.Sound used)
    (kernels : ∀ command ∈ commands, ∀ kernel ∈ command.kernel?, used kernel) :
    (session.follow commands).Sound used := by
  induction commands generalizing session with
  | nil => exact sound
  | cons command rest ih =>
    rw [List.forall_mem_cons] at kernels
    exact ih (perform_sound sound kernels.1) kernels.2

theorem perform_convolve {name : String} {image : Image} {kernel : Kernel}
    (held : session.image? name = some image) (square : kernel.width = 3 ∧ kernel.height = 3) :
    (session.perform (.alter name (.effect (.convolve kernel)))).1 = .answered .done ∧
      (session.perform (.alter name (.effect (.convolve kernel)))).2.image? name =
        some (image.push "-convolve" [",".intercalate (kernel.values.map Binary64.text)]) := by
  have done := Alteration.apply_convolve kernel session.kit image session.world
  rw [if_pos square] at done
  have ran : session.step (.alter name (.effect (.convolve kernel))) = _ :=
    edit_eq held ((Alteration.effect (.convolve kernel)).apply session.kit) fun _ => .done
  rw [done] at ran
  constructor
  · exact congrArg Prod.fst ran
  · rw [image?_perform, ran, image?_put, if_pos rfl]

/-- The numbers on the command line of an image are in figures, and those of a kernel are so when
its values are finite. Of the edits to come, only a convolution takes a number that is not. -/
theorem numbers_of_run {start : Session} {commands : List Command} {name : String} {image : Image}
    (empty : start.images = [])
    (formed : ∀ command ∈ commands, ∀ kernel ∈ command.kernel?,
      Kernel.ofValues kernel.width kernel.height kernel.values = .ok kernel)
    (held : (start.follow commands).image? name = some image) :
    (∃ units : Units, units.tokens = image.arguments.tokens ∧ ∀ flag ∈ units.flags,
      if flag.name = "-convolve" then
        ∃ command ∈ commands, ∃ kernel ∈ command.kernel?,
          flag.numbers = kernel.values.map (·.text.toList) ∧
          ((∀ number ∈ flag.numbers, Text.Figures number) ↔
            ∀ value ∈ kernel.values, value.isFinite = true)
      else ∀ number ∈ flag.numbers, Text.Figures number) ∧
    ∀ (edit : Alteration Image) (kit : Tool.Kit) (world : World),
      (∃ x ∈ edit.parameters, x.isFinite = false) →
      match edit.kernel? with
      | none => ∃ reason,
          edit.apply kit ⟨image, world⟩ = (.error (.invalidArgument reason), ⟨image, world⟩)
      | some kernel =>
        if kernel.width = 3 ∧ kernel.height = 3 then
          edit.apply kit ⟨image, world⟩ = (.ok (), ⟨image.push "-convolve"
            [",".intercalate (kernel.values.map Binary64.text)], world⟩)
        else ∃ reason,
          edit.apply kit ⟨image, world⟩ = (.error (.invalidArgument reason), ⟨image, world⟩) := by
  constructor
  · let used (kernel : Kernel) : Prop := ∃ command ∈ commands, kernel ∈ command.kernel?
    have before : start.Sound used := by
      rintro other ⟨key, found⟩
      rw [image?, empty] at found
      cases found
    obtain ⟨source, body, spelled, sound⟩ :=
      follow_sound before (fun command member kernel convolves => ⟨command, member, convolves⟩)
        image ⟨name, held⟩
    refine ⟨body, spelled.arguments.symm, fun flag member => ?_⟩
    have told := sound flag member
    unfold Flag.Sound at told
    split
    next named =>
      rw [if_pos named] at told
      obtain ⟨kernel, ⟨command, among, convolves⟩, square, values⟩ := told
      have numbers := Flag.numbers_convolve named values
        (Kernel.length_of_square (formed command among kernel convolves) square)
      refine ⟨command, among, kernel, convolves, numbers, ?_⟩
      rw [numbers]
      simp only [List.forall_mem_map, Binary64.figures_text_iff]
    next named => rwa [if_neg named] at told
  · intro edit kit world infinite
    split
    next plain => exact Alteration.apply_infinite plain infinite kit image world
    next kernel convolves =>
      rw [Alteration.eq_convolve convolves]
      exact Alteration.apply_convolve kernel kit image world

/-- A photo is turned, blurred and brightened, its edges are found, and it becomes a layer of a copy
of itself. -/
theorem numbers_of_run_layered :
    let start : Session := ⟨⟨["convert"], ["identify"], "systmp"⟩, [], {
      tool := Tool.Script.responder fun _ => []
      files := { entries := [(["a.png".toList], .file [])] } }⟩
    let less : Binary64 := .ofInt (-1)
    let edges : Kernel := ⟨3, 3, [less, less, less, less, .ofInt 8, less, less, less, less]⟩
    let commands : List Command := [.make "a" (.file "a.png"), .make "b" (.copyOf "a"),
      .alter "a" (.rotate (.ofInt (-90)) none),
      .alter "a" (.effect (.blur (.ofDecimal false 15 (-1)))),
      .alter "a" (.effect (.brightness (.ofInt 40))), .alter "a" (.effect (.convolve edges)),
      .alter "b" (.addLayer "a")]
    start.images = [] ∧
      (∀ command ∈ commands, ∀ kernel ∈ command.kernel?,
        Kernel.ofValues kernel.width kernel.height kernel.values = .ok kernel) ∧
      ∃ image, (start.follow commands).image? "b" = some image ∧
        image.arguments.tokens = ["(", "a.png", "-rotate", "-90", "-gaussian-blur", "0x1.5",
          "-brightness-contrast", "40x0", "-convolve", "-1,-1,-1,-1,8,-1,-1,-1,-1", ")"] ∧
        (∃ units : Units, units.tokens = image.arguments.tokens ∧ ∀ flag ∈ units.flags,
          flag.name ≠ "-convolve" → ∀ number ∈ flag.numbers, Text.Figures number) ∧
        ∃ reason, (Alteration.rotate .nan none).apply start.kit ⟨image, start.world⟩ =
          (.error (.invalidArgument reason), ⟨image, start.world⟩) := by
  intro start less edges commands
  have formed : ∀ command ∈ commands, ∀ kernel ∈ command.kernel?,
      Kernel.ofValues kernel.width kernel.height kernel.values = .ok kernel := by
    simp only [commands, List.forall_mem_cons, Command.kernel?, Alteration.kernel?, Effect.kernel?]
    simp [edges, Kernel.ofValues]
  have tokens : ((start.follow commands).image? "b").map (·.arguments.tokens) =
      some ["(", "a.png", "-rotate", "-90", "-gaussian-blur", "0x1.5", "-brightness-contrast",
        "40x0", "-convolve", "-1,-1,-1,-1,8,-1,-1,-1,-1", ")"] := by decide +kernel
  obtain ⟨image, held, spelled⟩ := Option.map_eq_some_iff.mp tokens
  obtain ⟨⟨units, same, sound⟩, refused⟩ := numbers_of_run rfl formed held
  refine ⟨rfl, formed, image, held, spelled, ⟨units, same, fun flag member named => ?_⟩, ?_⟩
  · have told := sound flag member
    rwa [if_neg named] at told
  · exact refused (.rotate .nan none) start.kit start.world
      ⟨.nan, by simp [Alteration.parameters], rfl⟩

/-- A kernel of values that are no numbers is made, and the convolution writes them out. -/
theorem infinite_values_written :
    let start : Session := ⟨⟨["convert"], ["identify"], "systmp"⟩, [], {
      tool := Tool.Script.responder fun _ => []
      files := { entries := [(["a.png".toList], .file [])] } }⟩
    let kernel : Kernel := ⟨3, 3, List.replicate 9 .nan⟩
    let session := start.follow [.make "a" (.file "a.png")]
    let convolved := session.perform (.alter "a" (.effect (.convolve kernel)))
    Kernel.ofValues 3 3 (List.replicate 9 .nan) = .ok kernel ∧
      (∀ value ∈ kernel.values, value.isFinite = false) ∧
      convolved.1 = .answered .done ∧
      (convolved.2.image? "a").map (·.arguments.tokens) =
        some ["-convolve", "NaN,NaN,NaN,NaN,NaN,NaN,NaN,NaN,NaN"] ∧
      ¬Text.Figures "NaN".toList := by
  intro start kernel session convolved
  have word : ¬Text.Figures "NaN".toList := by
    intro figures
    exact absurd (figures.mem 'N' (by decide)) (by decide)
  have made : Kernel.ofValues 3 3 (List.replicate 9 .nan) = .ok kernel := by decide
  have opened : (session.image? "a").isSome = true := by decide +kernel
  obtain ⟨image, held⟩ := Option.isSome_iff_exists.mp opened
  have square : kernel.width = 3 ∧ kernel.height = 3 := ⟨rfl, rfl⟩
  exact ⟨made, by decide, (perform_convolve held square).1, by decide +kernel, word⟩

end Session

end Retouch
