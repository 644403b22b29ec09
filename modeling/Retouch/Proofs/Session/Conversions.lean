import Retouch.Proofs.Session.Descent
import Retouch.Tool.Script

/-!
The palette beside the command line. It follows the conversions, each of which sets a type and a
colorspace. The grayscale effect sets a colorspace alone, and the palette is not told of it: as long
as no conversion follows, an image can be gray and be said to be in the palette it had before.
-/
namespace Retouch

open Grammar

/-- The palette that the last of these colorspaces names, or the one at the start if there is
none. -/
def Palette.after (start : Palette) (colorspaces : List (Bool × String)) : Palette :=
  (colorspaces.getLast?.bind fun entry => paletteNamed? entry.2).getD start

theorem Palette.after_cons {start set : Palette} {entry : Bool × String}
    {rest : List (Bool × String)} (known : paletteNamed? entry.2 = some set)
    (named : ∀ later ∈ rest, (paletteNamed? later.2).isSome = true) :
    start.after (entry :: rest) = set.after rest := by
  unfold after
  rcases List.eq_nil_or_concat rest with rfl | ⟨earlier, last, rfl⟩
  · simp [known]
  · obtain ⟨other, found⟩ := Option.isSome_iff_exists.mp (named last (by simp))
    have ending : (entry :: earlier.concat last).getLast? = some last := by
      simp [List.getLast?_cons]
    have settled : (earlier.concat last).getLast? = some last := by simp
    simp only [ending, settled, Option.bind_some, found, Option.getD_some]

namespace Grammar.Units

/-- A replay of the palette heeds the colorspaces that come with a type. -/
theorem palette_eq_after {units : Units} {state : Palette × Bool}
    (named : ∀ entry ∈ units.colorspaces state.2, (paletteNamed? entry.2).isSome = true) :
    (units.palette state).1 = state.1.after ((units.colorspaces state.2).filter (·.1)) := by
  induction units generalizing state with
  | done => rfl
  | flag first rest ih =>
    obtain ⟨start, typed⟩ := state
    simp only [colorspaces] at named ⊢
    by_cases colored : first.name = "-colorspace"
    · have untyped : first.name ≠ "-type" := by rw [colored]; decide
      simp only [colored, if_true] at named ⊢
      have rested := fun entry member => named entry (List.mem_cons_of_mem _ member)
      cases typed with
      | false =>
        have passed : first.retint (start, false) = (start, false) := by
          simp [Flag.retint, untyped]
        simp only [palette, passed, List.filter_cons, Bool.false_eq_true, if_false]
        exact ih rested
      | true =>
        obtain ⟨set, known⟩ := Option.isSome_iff_exists.mp (named _ List.mem_cons_self)
        have passed : first.retint (start, true) = (set, false) := by
          have value : first.values.head?.bind paletteNamed? = some set := by
            cases given : first.values.head? with
            | none =>
              rw [given] at known
              cases known
            | some value =>
              rw [given] at known
              exact known
          simp [Flag.retint, colored, value]
        have later : ∀ entry ∈ (rest.colorspaces false).filter (·.1),
            (paletteNamed? entry.2).isSome = true :=
          fun entry member => rested entry (List.mem_of_mem_filter member)
        simp only [palette, passed, List.filter_cons, if_true]
        rw [Palette.after_cons known later]
        exact ih rested
    · have passed : first.retint (start, typed) = (start, decide (first.name = "-type")) := by
        unfold Flag.retint
        split <;> simp [*]
      simp only [colored, if_false] at named ⊢
      simp only [palette, passed]
      exact ih named
  | group source body rest _ ih => exact ih named

end Grammar.Units

/-- The palettes of all colorspaces and of those with a type are told apart by an effect that has
come last. -/
theorem Palette.after_filter {start : Palette} {colorspaces : List (Bool × String)}
    (named : ∀ entry ∈ colorspaces,
      ∃ set : Palette, entry.2 = set.colorspace ∧ (entry.1 = false → set = .gray)) :
    start.after (colorspaces.filter (·.1)) = start.after colorspaces ∨
      start.after colorspaces = .gray ∧ colorspaces.getLast? = some (false, "Gray") := by
  rcases List.eq_nil_or_concat colorspaces with rfl | ⟨earlier, ⟨typed, name⟩, rfl⟩
  · exact .inl rfl
  · cases typed with
    | true => exact .inl (by simp [after])
    | false =>
      obtain ⟨set, called, gray⟩ := named (false, name) (by simp)
      obtain rfl := gray rfl
      obtain rfl : name = "Gray" := called
      have gray : paletteNamed? "Gray" = some .gray := rfl
      exact .inr ⟨by simp [after, gray], by simp⟩

theorem Image.usePalette_tokens (image : Image) (target : Palette) (own : Size)
    (file : ScratchFile) :
    ((Alteration.usePalette target).outcome own file image).arguments.tokens =
      image.arguments.tokens ↔ image.palette = target := by
  simp only [Alteration.outcome, Alteration.appended]
  split
  next same => simp [same]
  next other => simp [other]

namespace Session
variable {session : Session} {name : String} {image : Image}

theorem usePalette_image (held : session.image? name = some image) (target : Palette) (own : Size)
    (file : ScratchFile) :
    (session.perform (.alter name (.usePalette target))).2.image? name =
      some ((Alteration.usePalette target).outcome own file image) := by
  have altered : session.step (.alter name (.usePalette target)) =
      session.edit name (Edit.revise (Revision.usePalette target)) fun _ => .done := rfl
  rw [image?_perform, altered, edit_eq held, image?_put, if_pos rfl,
    Edit.revise_done (Revision.usePalette_eq own file image target)]

theorem palette_of_conversions {start : Session} {commands : List Command}
    (empty : start.images = []) (held : (start.follow commands).image? name = some image) :
    ∃ lineage, ∃ units : Units, start.lineages (fun _ => none) commands name = some lineage ∧
      units.tokens = image.arguments.tokens ∧
      image.palette = lineage.palette.after ((units.colorspaces false).filter (·.1)) ∧
      (image.palette = lineage.palette.after (units.colorspaces false) ∨
        lineage.palette.after (units.colorspaces false) = .gray ∧
          (units.colorspaces false).getLast? = some (false, "Gray")) ∧
      ∀ target, ∃ after,
        ((start.follow commands).perform (.alter name (.usePalette target))).2.image? name =
          some after ∧
        (after.arguments.tokens = image.arguments.tokens ↔ image.palette = target) := by
  have before : start.Explained fun _ => none := explained_empty empty
  obtain ⟨lineage, source, body, kept, explains⟩ :=
    explained_follow commands before name image held
  have known : ∀ entry ∈ body.colorspaces false, (paletteNamed? entry.2).isSome = true := by
    intro entry member
    obtain ⟨set, called, -⟩ := explains.named entry member
    rw [called, paletteNamed?_colorspace]
    rfl
  have palette : image.palette = lineage.palette.after ((body.colorspaces false).filter (·.1)) := by
    have replayed : (body.palette (lineage.palette, false)).1 =
        lineage.palette.after ((body.colorspaces false).filter (·.1)) :=
      Units.palette_eq_after known
    rw [← replayed, explains.palette]
  refine ⟨lineage, body, kept, explains.spelled.arguments.symm, palette, ?_, ?_⟩
  · rw [palette]
    exact Palette.after_filter explains.named
  · exact fun target => ⟨_, usePalette_image held target ⟨0, 0⟩ default,
      image.usePalette_tokens target _ _⟩

/-- A drawing that is turned gray by a conversion and one that the effect turns gray, which is then
drawn over the first and converted. -/
theorem palette_of_conversions_pasted :
    let start : Session := ⟨⟨["convert"], ["identify"], "systmp"⟩, [], {
      tool := Tool.Script.responder fun _ => []
      files := { entries := [(["a.png".toList], .file [])] } }⟩
    let commands : List Command := [.make "a" (.file "a.png"), .make "b" (.copyOf "a"),
      .alter "b" (.effect .grayscale), .alter "b" (.usePalette .cmyk), .alter "a" (.usePalette .gray),
      .alter "a" (.paste "b" {} 100)]
    start.images = [] ∧ ∃ image, (start.follow commands).image? "a" = some image ∧
      image.arguments.tokens = ["-type", "GrayscaleMatte", "-colorspace", "Gray", "(", "a.png",
        "-colorspace", "Gray", "-type", "TrueColorMatte", "-colorspace", "CMYK", ")",
        "-geometry", "+0+0", "-compose", "Over", "-composite"] ∧
      image.palette = .gray ∧
      ∃ lineage, ∃ units : Units, start.lineages (fun _ => none) commands "a" = some lineage ∧
        units.tokens = image.arguments.tokens ∧
        image.palette = lineage.palette.after ((units.colorspaces false).filter (·.1)) := by
  intro start commands
  have told : ((start.follow commands).image? "a").map (fun image =>
      (image.arguments.tokens, image.palette)) = some (["-type", "GrayscaleMatte", "-colorspace",
        "Gray", "(", "a.png", "-colorspace", "Gray", "-type", "TrueColorMatte", "-colorspace", "CMYK",
        ")", "-geometry", "+0+0", "-compose", "Over", "-composite"], .gray) := by decide +kernel
  obtain ⟨image, held, same⟩ := Option.map_eq_some_iff.mp told
  obtain ⟨tokens, palette⟩ := Prod.mk.inj same
  obtain ⟨lineage, units, kept, spelled, followed, -⟩ := palette_of_conversions rfl held
  exact ⟨rfl, image, held, tokens, palette, lineage, units, kept, spelled, followed⟩

/-- The effect turns the image gray, and the conversion back is left out. -/
theorem grayscale_outdates_palette :
    let start : Session := ⟨⟨["convert"], ["identify"], "systmp"⟩, [], {
      tool := Tool.Script.responder fun _ => []
      files := { entries := [(["a.png".toList], .file [])] } }⟩
    let commands : List Command := [.make "a" (.file "a.png"), .alter "a" (.effect .grayscale)]
    let session := start.follow commands
    ∃ image lineage, ∃ units : Units, session.image? "a" = some image ∧
      start.lineages (fun _ => none) commands "a" = some lineage ∧
      units.tokens = image.arguments.tokens ∧
      image.palette = .rgb ∧ lineage.palette.after (units.colorspaces false) = .gray ∧
      (session.perform (.alter "a" (.usePalette .rgb))).2.image? "a" = some image := by
  let gray : Units := .row [⟨"-colorspace", ["Gray"], rfl⟩]
  let image : Image := { Image.ofFile "a.png" (some "a.png") .rgb 1
    (Metadata.insert {} "filepath" "a.png") with arguments := ⟨["-colorspace", "Gray"], []⟩ }
  exact ⟨image, .source .rgb 1, gray, rfl, rfl, rfl, rfl, rfl, rfl⟩

end Session

end Retouch
