import Retouch.Proofs.Grammar.Lineage
import Retouch.Proofs.Session.LayerState

/-!
Lineages along a run: for each name, how the image that has it has come about. They are read off the
commands and off what the tool has told, and not off the images; that every image agrees with its
lineage is what `explained_follow` says.
-/
namespace Retouch

open Grammar

/-- What the two questions about a file are answered. -/
def Tool.Kit.lineage? (kit : Tool.Kit) (path : String) (world : World) : Option Lineage :=
  match kit.palette path world with
  | (.ok palette, between) =>
    match (kit.frames path between).1 with
    | .ok frames => some (.source palette frames)
    | .error _ => none
  | (.error _, _) => none

/-- What an image is, told by its lineage and by its command line. -/
structure Grammar.Lineage.Explains (lineage : Lineage) (image : Image) (source : Source)
    (body : Units) : Prop where
  spelled : image.Spelled source body
  palette : body.palette (lineage.palette, false) = (image.palette, false)
  /-- Without a type only the grayscale effect sets a colorspace. -/
  named : ∀ entry ∈ body.colorspaces false,
    ∃ set : Palette, entry.2 = set.colorspace ∧ (entry.1 = false → set = .gray)
  frames : body.Counted lineage.groups lineage.opening image.layers.frames

namespace Grammar.Lineage
variable {lineage part : Lineage} {image : Image} {source : Source} {body : Units}

theorem Explains.of_same {after : Image} (explains : lineage.Explains image source body)
    (input : after.input = image.input) (arguments : after.arguments = image.arguments)
    (palette : after.palette = image.palette)
    (frames : after.layers.frames = image.layers.frames ∨
      after.layers.frames = max image.layers.frames 1) :
    lineage.Explains after source body where
  spelled := explains.spelled.of_same input arguments
  palette := by rw [palette, explains.palette]
  named := explains.named
  frames := by
    rcases frames with same | renewed
    · rw [same]
      exact explains.frames
    · rw [renewed]
      exact explains.frames.renewed lineage.one_le_opening

theorem Explains.learned {kit : Tool.Kit} {world : World} {after : Image}
    (explains : lineage.Explains image source body) (learned : image.Learned kit world after) :
    lineage.Explains after source body :=
  explains.of_same learned.input learned.arguments learned.palette
    (.inl (by rw [learned.layers]))

theorem explains_file (path : String) (from? : Option String) (palette : Palette)
    (frames : UInt64) (notes : Metadata) :
    (Lineage.source palette frames).Explains (.ofFile path from? palette frames notes)
      (.file path) .done :=
  ⟨.file _ _ _ _ _, rfl, by simp [Units.colorspaces], _, rfl, .ofFrames frames _⟩

theorem explains_canvas {size : Size} {background : Option Color}
    (made : Image.canvas size background = .ok image) :
    (Lineage.source .rgb 1).Explains image (.canvas size (.solid (background.getD .white)))
      .done := by
  obtain ⟨spelled, palette, -, frames⟩ := Image.spelled_canvas made
  refine ⟨spelled, ?_, by simp [Units.colorspaces], _, rfl, ?_⟩
  · rw [palette]
    rfl
  · rw [frames]
    exact .ofFrames 1 _

/-- What an image is explained by after units that set no colorspace and delete no frame. -/
theorem Explains.masked (explains : lineage.Explains image source body) :
    lineage.Explains image.mask source
      (body ++ .row [⟨"-modulate", ["100,0,100"], rfl⟩, ⟨"-alpha", ["off"], rfl⟩]) where
  spelled := explains.spelled.masked
  palette := by
    rw [Units.palette_append, explains.palette]
    rfl
  named := by
    have appended := Units.colorspaces_append body
      (.row [⟨"-modulate", ["100,0,100"], rfl⟩, ⟨"-alpha", ["off"], rfl⟩]) (lineage.palette, false)
    simp only [appended, explains.palette]
    simpa [Units.row, Units.colorspaces] using explains.named
  frames := by
    obtain ⟨count, replayed, tallies⟩ := explains.frames.renewed lineage.one_le_opening
    have kept := Units.replay_append replayed
      (.row [⟨"-modulate", ["100,0,100"], rfl⟩, ⟨"-alpha", ["off"], rfl⟩]) []
    have met := (Units.met_append replayed
      (.row [⟨"-modulate", ["100,0,100"], rfl⟩, ⟨"-alpha", ["off"], rfl⟩]) []).1
    rw [List.append_nil] at kept met
    exact ⟨count, kept.trans (Units.replay_row (by simp) count), tallies.mono met⟩

theorem named_units (edit : Alteration Image) {palette : Palette} {own : Size}
    {file : ScratchFile} : ∀ entry ∈ (edit.units palette own file source body).colorspaces false,
      ∃ set : Palette, entry.2 = set.colorspace ∧ (entry.1 = false → set = .gray) := by
  cases edit with
  | resize size filter =>
    simp only [Alteration.units]
    cases filter.toolName? <;> simp [Units.row, Units.colorspaces]
  | rotate angle background =>
    cases background <;> simp [Alteration.units, Units.row, Units.colorspaces]
  | usePalette target =>
    have own : ∃ set : Palette, target.colorspace = set.colorspace := ⟨target, rfl⟩
    simp only [Alteration.units]
    split <;> simp [Units.row, Units.colorspaces, own]
  | paste other start alpha =>
    simp only [Alteration.units]
    split <;> simp [Units.row, Units.colorspaces]
  | effect chosen =>
    have gray : "Gray" = Palette.gray.colorspace := rfl
    cases chosen <;> simp [Alteration.units, Effect.flags, Units.row, Units.colorspaces, gray]
  | _ => simp [Alteration.units, Units.row, Units.colorspaces]

theorem Explains.edited {needs : Needs} {edit : Alteration Image} {out : Image}
    {source' : Source} {body' : Units} (explains : lineage.Explains image source body)
    (operand : ∀ other ∈ edit.operand?, part.Explains other source' body')
    (settled : edit.settle needs image = .ok out) :
    ∃ later, (edit.descend part lineage).Explains out source (body ++ later) := by
  obtain ⟨own, file, -, -, same⟩ := Alteration.settle_ok settled
  let later := edit.units image.palette own file source' body'
  refine ⟨later, ?_, ?_, ?_, ?_⟩
  · rw [same]
    exact explains.spelled.outcome (fun other needed => (operand other needed).spelled) own file
  · rw [Alteration.palette_descend, Units.palette_append, explains.palette,
      Alteration.palette_units, same]
    rfl
  · have appended := Units.colorspaces_append body later (lineage.palette, false)
    simp only [appended, explains.palette]
    intro entry member
    rcases List.mem_append.mp member with before | added
    · exact explains.named entry before
    · exact named_units edit entry added
  · rw [Alteration.opening_descend, Alteration.groups_descend]
    exact Alteration.counted_settled settled explains.frames fun other needed =>
      (operand other needed).frames

end Grammar.Lineage

namespace Session
variable {session : Session} {known : String → Option Lineage} {image : Image}

/-- The lineage of an image that is made anew. -/
def lineageOf? (session : Session) (lineages : String → Option Lineage) :
    Origin → Option Lineage
  | .file path => session.kit.lineage? path session.world
  | .bytes bytes => loaded bytes
  | .stream stream => stream.readAll.toOption.bind loaded
  | .canvas .. => some (.source .rgb 1)
  | .copyOf name | .maskOf name => lineages name
where
  loaded (bytes : Bytes) : Option Lineage :=
    match World.mint session.kit.tempDir "im" bytes session.world with
    | (.ok file, between) => session.kit.lineage? file.path between
    | (.error _, _) => none

/-- What a command that succeeds makes of the lineages: one is begun, ended or continued. -/
def descend (session : Session) (lineages : String → Option Lineage) (command : Command)
    (name : String) : Option Lineage :=
  if command.name = name then
    match command, (session.step command).1 with
    | .make _ origin, .answered _ => session.lineageOf? lineages origin
    | .drop _, .answered _ => none
    | .alter _ edit, .answered _ =>
      (lineages name).map fun lineage =>
        edit.descend ((edit.operand?.bind lineages).getD lineage) lineage
    | _, _ => lineages name
  else lineages name

/-- The lineages after a run, given those before it. -/
def lineages (session : Session) (before : String → Option Lineage) :
    List Command → String → Option Lineage
  | [] => before
  | command :: rest =>
    (session.perform command).2.lineages (session.descend before command) rest

/-- Every image agrees with the lineage of its name. -/
def Explained (session : Session) (lineages : String → Option Lineage) : Prop :=
  ∀ name image, session.image? name = some image →
    ∃ lineage source body, lineages name = some lineage ∧ lineage.Explains image source body

theorem examine_explained {kit : Tool.Kit} {path : String} {from? : Option String}
    {notes : Metadata} {world after : World}
    (told : Image.examine kit path from? notes world = (.ok image, after)) :
    ∃ lineage source body, kit.lineage? path world = some lineage ∧
      lineage.Explains image source body := by
  unfold Image.examine at told
  unfold Tool.Kit.lineage?
  rw [Stepwise.bind_apply] at told
  rcases first : kit.palette path world with ⟨cause | palette, between⟩ <;> rw [first] at told
  · cases told
  · simp only [Stepwise.bind_apply] at told ⊢
    rcases second : kit.frames path between with ⟨cause | frames, last⟩ <;> rw [second] at told
    · cases told
    · cases told
      exact ⟨_, _, _, rfl, Lineage.explains_file path from? palette frames notes⟩

theorem load_explained {bytes : Bytes} {after : World}
    (made : Image.load session.kit bytes session.world = (.ok image, after)) :
    ∃ lineage source body, lineageOf?.loaded session bytes = some lineage ∧
      lineage.Explains image source body := by
  unfold Image.load at made
  unfold lineageOf?.loaded
  rw [Stepwise.bind_apply] at made
  rcases minted : World.mint session.kit.tempDir "im" bytes session.world with
    ⟨cause | file, between⟩ <;> rw [minted] at made
  · cases made
  · simp only [Stepwise.bind_apply, World.guarding] at made ⊢
    rcases told : Image.examine session.kit file.path none {} between with ⟨cause | examined, last⟩
    · rw [told] at made
      cases made
    · rw [told] at made
      cases made
      obtain ⟨lineage, source, body, found, explains⟩ := examine_explained told
      exact ⟨lineage, source, body, found, explains.spelled.attach file, explains.palette,
        explains.named, explains.frames⟩

theorem making_explained {origin : Origin} {act : Act Image} {after : World}
    (explained : session.Explained known) (found : session.making origin = some act)
    (made : act session.world = (.ok image, after)) :
    ∃ lineage source body, session.lineageOf? known origin = some lineage ∧
      lineage.Explains image source body := by
  cases origin <;> simp only [making, Option.map_eq_some_iff, Option.some.injEq] at found
  case file path =>
    subst found
    rw [Image.openFile_eq] at made
    split at made
    · exact examine_explained made
    · cases made
  case bytes bytes =>
    subst found
    rw [lineageOf?]
    exact load_explained made
  case stream stream =>
    subst found
    unfold Image.read at made
    rw [Stepwise.bind_apply] at made
    rw [lineageOf?]
    cases read : stream.readAll with
    | error cause =>
      rw [read] at made
      cases made
    | ok bytes =>
      rw [read] at made
      rw [Except.toOption, Option.bind_some]
      exact load_explained made
  case canvas size background =>
    subst found
    cases blank : Image.canvas size background with
    | error cause =>
      rw [blank] at made
      cases made
    | ok image =>
      rw [blank] at made
      cases made
      exact ⟨_, _, _, rfl, Lineage.explains_canvas blank⟩
  case copyOf name =>
    obtain ⟨before, held, rfl⟩ := found
    cases made
    obtain ⟨lineage, source, body, kept, explains⟩ := explained name before held
    exact ⟨lineage, source, body, kept, explains.of_same rfl rfl rfl (.inr rfl)⟩
  case maskOf name =>
    obtain ⟨before, held, rfl⟩ := found
    cases made
    obtain ⟨lineage, source, body, kept, explains⟩ := explained name before held
    exact ⟨lineage, source, _, kept, explains.masked⟩

theorem resolve?_same {find : String → Option Image} {edit : Alteration String}
    {resolved : Alteration Image} (found : edit.resolve? find = some resolved) :
    (resolved.operand? = edit.operand?.bind find) ∧
      ∀ part lineage : Lineage, resolved.descend part lineage = edit.descend part lineage := by
  cases edit <;>
    simp only [Alteration.resolve?, Option.map_eq_some_iff, Option.some.injEq] at found
  case paste name start alpha =>
    obtain ⟨image, held, rfl⟩ := found
    exact ⟨held.symm, fun part lineage => rfl⟩
  case applyMask name =>
    obtain ⟨image, held, rfl⟩ := found
    exact ⟨held.symm, fun part lineage => rfl⟩
  case addLayer name =>
    obtain ⟨image, held, rfl⟩ := found
    exact ⟨held.symm, fun part lineage => rfl⟩
  all_goals
    subst found
    exact ⟨rfl, fun part lineage => rfl⟩

theorem descend_apart {command : Command} {name : String} (apart : command.name ≠ name) :
    session.descend known command name = known name := if_neg apart

theorem descend_left {command : Command} (leaves : command.revises = false) :
    session.descend known command = known := by
  funext name
  unfold descend
  split
  · cases command <;> first | rfl | cases leaves
  · rfl

theorem explains_becomes {lineage : Lineage} {source : Source} {body : Units} {command : Command}
    {after : Image} (explains : lineage.Explains image source body)
    (leaves : command.revises = false) (becomes : session.Becomes image command after) :
    lineage.Explains after source body := by
  cases becomes with
  | learned _ learned => exact explains.learned learned
  | edited => cases leaves
  | saved _ =>
    rcases carried_rendered image command with same | ⟨layers, frames, same⟩
    · rw [same]
      exact explains
    · rw [same]
      exact explains.of_same rfl rfl rfl (.inr frames)
  | noted notes _ => exact explains.of_same rfl rfl rfl (.inl rfl)

theorem explained_make {name : String} {origin : Origin} {after : Image}
    (explained : session.Explained known)
    (held : (session.step (.make name origin)).2.image? name = some after) :
    ∃ lineage source body, session.descend known (.make name origin) name = some lineage ∧
      lineage.Explains after source body := by
  unfold descend
  simp only [Command.name, if_true, step] at held ⊢
  unfold make at held ⊢
  cases found : session.making origin with
  | none =>
    rw [found] at held
    exact explained name after held
  | some act =>
    simp only [found] at held ⊢
    rcases made : act session.world with ⟨cause | image, world⟩ <;> simp only [made] at held ⊢
    · exact explained name after held
    · rw [image?_put, if_pos rfl, Option.some.injEq] at held
      subst held
      exact making_explained explained found made

/-- The image that an edit brings in agrees with the lineage that its name has. -/
theorem operand_explained {edit : Alteration String} {resolved : Alteration Image}
    (explained : session.Explained known) (found : edit.resolve? session.image? = some resolved)
    (fallback : Lineage) : ∃ source body, ∀ other ∈ resolved.operand?,
      ((edit.operand?.bind known).getD fallback).Explains other source body := by
  have same := (resolve?_same found).1
  cases needed : edit.operand? with
  | none => exact ⟨.file "", .done, by simp [same, needed]⟩
  | some name =>
    rw [needed, Option.bind_some] at same
    cases brought : session.image? name with
    | none => exact ⟨.file "", .done, by simp [same, brought]⟩
    | some image =>
      obtain ⟨lineage, source, body, kept, explains⟩ := explained name image brought
      refine ⟨source, body, ?_⟩
      rw [same, brought, Option.bind_some, kept, Option.getD_some]
      rintro _ ⟨⟩
      exact explains

theorem explained_alter {name : String} {edit : Alteration String} {after : Image}
    (explained : session.Explained known)
    (held : (session.step (.alter name edit)).2.image? name = some after) :
    ∃ lineage source body, session.descend known (.alter name edit) name = some lineage ∧
      lineage.Explains after source body := by
  obtain ⟨image, present, ended⟩ := alter_handle held
  obtain ⟨lineage, source, body, kept, explains⟩ := explained name image present
  unfold descend
  simp only [Command.name, if_true]
  rcases ended with ⟨failed, learned⟩ | ⟨answered, resolved, needs, before, found, learned, settled⟩
  · refine ⟨lineage, source, body, ?_, explains.learned learned⟩
    cases told : (session.step (.alter name edit)).1 with
    | answered answer => exact (failed answer told).elim
    | _ => exact kept
  · obtain ⟨source', body', operand⟩ := operand_explained explained found lineage
    obtain ⟨later, edited⟩ := (explains.learned learned).edited operand settled
    rw [(resolve?_same found).2] at edited
    exact ⟨_, source, _, by simp only [answered, kept, Option.map_some], edited⟩

theorem explained_perform {command : Command} (explained : session.Explained known) :
    (session.perform command).2.Explained (session.descend known command) := by
  intro name after held
  by_cases named : command.name = name
  · subst named
    cases leaves : command.revises with
    | false =>
      rw [descend_left leaves]
      cases before : session.image? command.name with
      | none =>
        rw [perform_absent (Command.keeps_of_leaves leaves) before] at held
        cases held
      | some image =>
        obtain ⟨lineage, source, body, kept, explains⟩ := explained _ image before
        obtain ⟨between, found, becomes⟩ :=
          perform_becomes (Command.keeps_of_leaves leaves) before
        obtain rfl := Option.some.inj (found.symm.trans held)
        exact ⟨lineage, source, body, kept, explains_becomes explains leaves becomes⟩
    | true =>
      rw [image?_perform] at held
      cases command with
      | make name origin => exact explained_make explained held
      | alter name edit => exact explained_alter explained held
      | drop name =>
        simp only [step, Command.name] at held
        split at held
        next missing =>
          rw [missing] at held
          cases held
        · simp [image?_erase] at held
      | _ => cases leaves
  · rw [perform_apart (Ne.symm named)] at held
    rw [descend_apart named]
    exact explained name after held

theorem explained_follow (commands : List Command) (explained : session.Explained known) :
    (session.follow commands).Explained (session.lineages known commands) := by
  induction commands generalizing session known with
  | nil => exact explained
  | cons command rest ih => exact ih (explained_perform explained)

theorem explained_empty (empty : session.images = []) : session.Explained known := by
  intro name image held
  rw [image?, empty] at held
  cases held

end Session

end Retouch
