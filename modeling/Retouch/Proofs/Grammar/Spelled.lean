import Retouch.Proofs.Grammar.Replay
import Retouch.Proofs.Session.Yields

/-!
Every image of a run is spelled in the grammar: what each edit appends are whole units, and these
say of the palette, the frames and the known size what the edit makes of them.
-/
namespace Retouch

open Grammar

def Effect.flags : Effect → List Flag
  | .gamma correction => [⟨"-gamma", [correction.text], rfl⟩]
  | .negative => [⟨"-negate", [], rfl⟩]
  | .grayscale => [⟨"-colorspace", ["Gray"], rfl⟩]
  | .colorize color => [⟨"-fill", [color.text], rfl⟩, ⟨"-colorize", ["100"], rfl⟩]
  | .sharpen => [⟨"-sharpen", ["2x1"], rfl⟩]
  | .blur sigma => [⟨"-gaussian-blur", [s!"0x{sigma.text}"], rfl⟩]
  | .brightness shift => [⟨"-brightness-contrast", [s!"{shift.round?.getD 0}x0"], rfl⟩]
  | .convolve kernel => [⟨"-convolve", [",".intercalate (kernel.values.map Binary64.text)], rfl⟩]

theorem Effect.tokens_flags (effect : Effect) :
    (Units.row effect.flags).tokens = effect.appended := by
  cases effect <;> rfl

namespace Alteration

/-- What an edit appends, as units. The other image that it needs is given by its source and its
units. -/
def units (palette : Palette) (own : Size) (file : ScratchFile) (source : Source) (body : Units) :
    Alteration Image → Units
  | crop start size => .row [⟨"-crop", [size.text ++ start.offset], rfl⟩]
  | flipHorizontally => .row [⟨"-flop", [], rfl⟩]
  | flipVertically => .row [⟨"-flip", [], rfl⟩]
  | strip => .row [⟨"-strip", [], rfl⟩]
  | resize size filter =>
    .row (⟨"-resize", [size.text], rfl⟩ :: match filter.toolName? with
      | some name => [⟨"-filter", [name], rfl⟩]
      | none => [])
  | rotate angle background =>
    .row ((match background with
      | some color => [⟨"-background", [color.text], rfl⟩]
      | none => []) ++ [⟨"-rotate", [angle.text], rfl⟩])
  | interlace scheme => .row [⟨"-interlace", [scheme.toolName], rfl⟩]
  | profile _ => .row [⟨"-profile", [file.path], rfl⟩]
  | usePalette target =>
    .row (if palette = target then []
      else [⟨"-type", [target.matteType], rfl⟩, ⟨"-colorspace", [target.colorspace], rfl⟩])
  | paste _ start alpha =>
    .group source body (.row (⟨"-geometry", [start.offset], rfl⟩ ::
      (if alpha == 100 then [⟨"-compose", ["Over"], rfl⟩]
        else [⟨"-compose", ["Dissolve"], rfl⟩, ⟨"-define", [s!"compose:args={alpha}"], rfl⟩]) ++
      [⟨"-composite", [], rfl⟩]))
  | applyMask _ =>
    .group source (body ++ .row [⟨"-alpha", ["off"], rfl⟩])
      (.row [⟨"-alpha", ["off"], rfl⟩, ⟨"-compose", ["CopyOpacity"], rfl⟩, ⟨"-composite", [], rfl⟩])
  | fill content =>
    .group (.canvas own content) .done
      (.row [⟨"-compose", ["Over"], rfl⟩, ⟨"-composite", [], rfl⟩])
  | effect chosen => .row chosen.flags
  | addLayer _ => .group source body .done
  | removeLayer index => .row [⟨"-delete", [toString index], rfl⟩]
  | coalesce => .row [⟨"-coalesce", [], rfl⟩]

variable {palette : Palette} {own : Size} {file : ScratchFile} {source : Source} {body : Units}

theorem tokens_units {edit : Alteration Image} (operand : ∀ other ∈ edit.operand?,
      other.tokens = source.tokens ++ body.tokens) :
    (edit.units palette own file source body).tokens = edit.appended palette own file := by
  cases edit with
  | resize size filter =>
    simp only [units, appended]
    cases filter.toolName? <;> rfl
  | rotate angle background =>
    simp only [units, appended]
    cases background <;> rfl
  | usePalette target =>
    simp only [units, appended]
    split <;> rfl
  | paste other start alpha =>
    have spelled := operand other rfl
    simp only [units, appended, spelled]
    split <;> simp
  | applyMask mask =>
    have spelled := operand mask rfl
    simp [units, spelled]
  | addLayer other =>
    have spelled := operand other rfl
    simp [units, spelled]
  | fill content => simp [units, Source.tokens]
  | effect chosen => exact chosen.tokens_flags
  | _ => rfl

theorem palette_units (edit : Alteration Image) :
    (edit.units palette own file source body).palette (palette, false) =
      (edit.paletteAfter palette, false) := by
  cases edit with
  | resize size filter =>
    simp only [units, Units.palette_row]
    cases filter.toolName? <;> rfl
  | rotate angle background =>
    simp only [units, Units.palette_row]
    cases background <;> rfl
  | usePalette target =>
    simp only [units, Units.palette_row, paletteAfter]
    by_cases same : palette = target
    · simp [same]
    · simp [same, Flag.retint, paletteNamed?_colorspace]
  | paste other start alpha =>
    simp only [units, Units.palette, Units.palette_row]
    split <;> rfl
  | effect chosen => cases chosen <;> rfl
  | _ => rfl

theorem known_units (edit : Alteration Image) (size : Option Size) :
    (edit.units palette own file source body).known size = edit.sizeAfter size := by
  cases edit with
  | resize target filter =>
    simp only [units, Units.known_row]
    cases filter.toolName? <;> exact target.read_text
  | rotate angle background =>
    simp only [units, Units.known_row]
    cases background <;> rfl
  | usePalette target =>
    simp only [units, Units.known_row]
    split <;> rfl
  | paste other start alpha =>
    simp only [units, Units.known, Units.known_row]
    split <;> rfl
  | effect chosen => cases chosen <;> rfl
  | _ => rfl

/-- The frames after an edit, when the other image that it needs is read with so many. -/
def framesAfter (added count : Nat) : Alteration Image → Nat
  | addLayer _ => count + added
  | removeLayer _ => max (count - 1) 1
  | _ => count

theorem frames_units (edit : Alteration Image) (probed : String → Nat) (count : Nat) :
    (edit.units palette own file source body).frames probed count =
      edit.framesAfter (body.frames probed (source.frames probed)) count := by
  cases edit with
  | resize target filter =>
    simp only [units, Units.frames_row]
    cases filter.toolName? <;> rfl
  | rotate angle background =>
    simp only [units, Units.frames_row]
    cases background <;> rfl
  | usePalette target =>
    simp only [units, Units.frames_row]
    split <;> rfl
  | paste other start alpha =>
    simp only [units]
    split <;> rfl
  | effect chosen => cases chosen <;> rfl
  | _ => rfl

theorem composes_units (edit : Alteration Image) :
    (edit.units palette own file source body).composes = false := by
  cases edit with
  | rotate angle background => cases background <;> rfl
  | usePalette target =>
    simp only [units]
    split <;> rfl
  | effect chosen => cases chosen <;> rfl
  | _ => rfl

end Alteration

structure Image.Spelled (image : Image) (source : Source) (body : Units) : Prop where
  input : image.input = source.tokens
  arguments : image.arguments.tokens = body.tokens

namespace Image.Spelled
variable {image : Image} {source : Source} {body : Units}

theorem tokens (spelled : image.Spelled source body) :
    image.tokens = source.tokens ++ body.tokens := by
  rw [Image.tokens, spelled.input, spelled.arguments]

theorem of_same {after : Image} (spelled : image.Spelled source body)
    (input : after.input = image.input) (arguments : after.arguments = image.arguments) :
    after.Spelled source body :=
  ⟨input.trans spelled.input, by rw [arguments, spelled.arguments]⟩

theorem file (path : String) (source : Option String) (palette : Palette) (frames : UInt64)
    (notes : Metadata) :
    (Image.ofFile path source palette frames notes).Spelled (.file path) .done := ⟨rfl, rfl⟩

theorem attach (spelled : image.Spelled source body) (file : ScratchFile) :
    (image.attach file).Spelled source body := ⟨spelled.input, spelled.arguments⟩

theorem masked (spelled : image.Spelled source body) : image.mask.Spelled source
    (body ++ .row [⟨"-modulate", ["100,0,100"], rfl⟩, ⟨"-alpha", ["off"], rfl⟩]) := by
  refine ⟨spelled.input, ?_⟩
  simp [Image.mask, Image.copy, Image.push, spelled.arguments]

theorem outcome {source' : Source} {body' : Units} (spelled : image.Spelled source body)
    {edit : Alteration Image} (operand : ∀ other ∈ edit.operand?, other.Spelled source' body')
    (own : Size) (file : ScratchFile) : (edit.outcome own file image).Spelled source
      (body ++ edit.units image.palette own file source' body') := by
  refine ⟨spelled.input, ?_⟩
  rw [Units.tokens_append,
    Alteration.tokens_units fun other needed => (operand other needed).tokens]
  simp only [Alteration.outcome, spelled.arguments]

end Image.Spelled

theorem Image.spelled_canvas {size : Size} {background : Option Color} {image : Image}
    (made : Image.canvas size background = .ok image) :
    image.Spelled (.canvas size (.solid (background.getD .white))) .done ∧
      image.palette = .rgb ∧ image.size = some size ∧ image.layers.frames = 1 := by
  unfold Image.canvas at made
  split at made
  · cases made
  · cases made
    exact ⟨⟨rfl, rfl⟩, rfl, rfl, rfl⟩

namespace Session

/-- What can be read off every image held can be read off an operand among them; where none is
needed any source and units do. -/
theorem operand_read {session : Session} {edit : Alteration Image}
    {read : Image → Source → Units → Prop}
    (all : ∀ other, session.Holds other → ∃ source body, read other source body)
    (operands : ∀ other ∈ edit.operand?, session.Holds other) :
    ∃ source body, ∀ other ∈ edit.operand?, read other source body := by
  cases needed : edit.operand? with
  | none => exact ⟨.file "", .done, by simp⟩
  | some other =>
    obtain ⟨source, body, told⟩ := all other (operands other needed)
    refine ⟨source, body, ?_⟩
    rintro _ ⟨⟩
    exact told

theorem reaches_spelled {start session : Session} (empty : start.images = [])
    (reached : Reaches start session) {image : Image} (held : session.Holds image) :
    ∃ source body, image.Spelled source body := by
  refine reaches_images (fun image => ∃ source body, image.Spelled source body) empty ?_ reached
    held
  rintro session image - others yielded
  cases yielded with
  | @learned before _ present learned =>
    obtain ⟨source, body, spelled⟩ := others before present
    exact ⟨source, body, spelled.of_same learned.input learned.arguments⟩
  | opened notes seen => exact ⟨_, _, .file _ _ _ _ _⟩
  | loaded made seen => exact ⟨_, _, .attach (.file _ _ _ _ _) _⟩
  | canvas made => exact ⟨_, _, (Image.spelled_canvas made).1⟩
  | @copied before present =>
    obtain ⟨source, body, spelled⟩ := others before present
    exact ⟨source, body, spelled.of_same rfl rfl⟩
  | @masked before present =>
    obtain ⟨source, body, spelled⟩ := others before present
    exact ⟨source, _, spelled.masked⟩
  | @edited before between edit own file present learned operands made =>
    obtain ⟨source, body, spelled⟩ := others before present
    obtain ⟨source', body', operand⟩ := operand_read others operands
    have same := spelled.of_same learned.input learned.arguments
    exact ⟨source, _, same.outcome operand own file⟩
  | @rendered before _ present rendered =>
    obtain ⟨source, body, spelled⟩ := others before present
    exact ⟨source, body, spelled.of_same rendered.input rendered.arguments⟩
  | @noted before notes present =>
    obtain ⟨source, body, spelled⟩ := others before present
    exact ⟨source, body, spelled.of_same rfl rfl⟩

end Session

end Retouch
