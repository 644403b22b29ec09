import Retouch.Proofs.Grammar.Tally
import Retouch.Proofs.Image.Alike
import Retouch.Proofs.Session.CachedSize
import Retouch.Proofs.Session.Unfinished

/-!
The tokens of an image say all there is to know of it. Its palette, its frames and its size are
kept beside them, but each is what the tokens say when they are read in the grammar, by whatever
commands the image has come about.
-/
namespace Retouch.Session

open Grammar

/-- The frames that the tool sees in a file, one at least. -/
def probed (start : Session) (path : String) : Nat :=
  match (start.kit.frames path start.world).1 with
  | .ok count => max count.toNat 1
  | .error _ => 1

def tinted (start : Session) : Source → Palette
  | .file path => ((start.kit.palette path start.world).1.toOption).getD .rgb
  | .canvas .. => .rgb

/-- A size is as the tokens have it; where they leave it open, it is as the tool has answered. -/
def Sized (start : Session) (image : Image) : Option Size → Prop
  | some known => image.size = some known
  | none => ∀ size, image.size = some size →
      (start.kit.size image.tokens start.world).1 = .ok size

/-- What is kept beside the tokens of an image is what they say. -/
structure Meant (start : Session) (image : Image) (source : Source) (body : Units) : Prop where
  spelled : image.Spelled source body
  palette : body.palette (start.tinted source, false) = (image.palette, false)
  frames : Tallies image.layers.frames (body.frames start.probed (source.frames start.probed))
    (body.counts start.probed (source.frames start.probed))
  sized : start.Sized image (body.known source.known)

/-- What the tool has to be like: a probe is answered alike whenever it is made, and tokens that
leave the size alone leave it alone as far as the tool sees. -/
structure Faithful (start : Session) : Prop where
  steadfast : start.kit.Steadfast start.world.tool
  kept : ∀ {tokens more : List String} {size : Size}, start.Keeping tokens more →
    (start.kit.size tokens start.world).1 = .ok size →
      (start.kit.size (tokens ++ more) start.world).1 = .ok size

variable {start : Session} {source : Source} {body : Units} {image : Image}

theorem one_le_source (source : Source) : 1 ≤ source.frames start.probed := by
  cases source with
  | file path =>
    simp only [Source.frames, probed]
    split <;> omega
  | canvas size fill => exact Nat.le_refl 1

/-- A copy keeps the count that the tokens say. -/
theorem Meant.renewed (meant : start.Meant image source body) :
    Tallies (max image.layers.frames 1) (body.frames start.probed (source.frames start.probed))
      (body.counts start.probed (source.frames start.probed)) :=
  meant.frames.renewed (body.one_le_frames (one_le_source source)) (body.mem_counts _ _).2

theorem Meant.of_same {after : Image} (meant : start.Meant image source body)
    (input : after.input = image.input) (arguments : after.arguments = image.arguments)
    (palette : after.palette = image.palette) (size : after.size = image.size)
    (frames : after.layers.frames = max image.layers.frames 1) :
    start.Meant after source body where
  spelled := meant.spelled.of_same input arguments
  palette := by rw [palette, meant.palette]
  frames := frames ▸ meant.renewed
  sized := by
    have tokens : after.tokens = image.tokens := by
      rw [Image.tokens, Image.tokens, input, arguments]
    have sized := meant.sized
    cases known : body.known source.known with
    | some known' =>
      rw [known] at sized
      exact size.trans sized
    | none =>
      rw [known] at sized
      intro found same
      rw [tokens]
      exact sized found (by rw [← size, same])

theorem Meant.learned {session : Session} {after : Image} (faithful : start.Faithful)
    (reached : Reaches start session) (meant : start.Meant image source body)
    (learned : image.Learned session.kit session.world after) :
    start.Meant after source body := by
  rcases learned with rfl | ⟨unknown, size, told, rfl⟩
  · exact meant
  · refine ⟨meant.spelled.of_same rfl rfl, meant.palette, meant.frames, ?_⟩
    have sized := meant.sized
    cases known : body.known source.known with
    | some known' =>
      rw [known] at sized
      rw [show image.size = some known' from sized] at unknown
      cases unknown
    | none =>
      intro found same
      obtain rfl := Option.some.inj same
      rw [reaches_kit reached, Tool.Kit.size_steadfast faithful.steadfast (reaches_tool reached)]
        at told
      exact told

theorem Meant.masked {session : Session} (faithful : start.Faithful)
    (reached : Reaches start session) (held : session.Holds image)
    (meant : start.Meant image source body) : start.Meant image.mask source
      (body ++ .row [⟨"-modulate", ["100,0,100"], rfl⟩, ⟨"-alpha", ["off"], rfl⟩]) where
  spelled := meant.spelled.masked
  palette := by
    rw [Units.palette_append, meant.palette]
    rfl
  frames := by
    rw [Units.frames_append _ _ rfl]
    exact meant.renewed.mono (body.counts_append _ rfl _).1
  sized := by
    have sized := meant.sized
    rw [Units.known_append]
    cases known : body.known source.known with
    | some known' =>
      rw [known] at sized
      exact sized
    | none =>
      rw [known] at sized
      intro size same
      have tokens : image.mask.tokens =
          image.tokens ++ ["-modulate", "100,0,100", "-alpha", "off"] := by
        simp [Image.mask, Image.copy, Image.push, Image.tokens]
      rw [tokens]
      exact faithful.kept (.mask reached held) (sized size same)

theorem tallies_after {layers : Layers} {edit : Alteration Image} {count added : Nat}
    {met : List Nat} (tallies : Tallies layers.frames count met) (last : count ∈ met)
    (operand : ∀ other, edit = .addLayer other → Tallies other.layers.frames added met)
    (next : edit.framesAfter added count ∈ met) :
    Tallies (edit.layersAfter layers).frames (edit.framesAfter added count) met := by
  cases edit with
  | addLayer other => exact tallies.add (operand other rfl)
  | removeLayer index => exact tallies.removed last next
  | _ => exact tallies

theorem Meant.edited {session : Session} {before : Image} {edit : Alteration Image}
    {source' : Source} {body' : Units} (faithful : start.Faithful)
    (reached : Reaches start session) (held : session.Holds image)
    (meant : start.Meant image source body)
    (learned : image.Learned session.kit session.world before)
    (operands : ∀ other ∈ edit.operand?, session.Holds other)
    (operand : ∀ other ∈ edit.operand?, start.Meant other source' body')
    (own : Size) (file : ScratchFile) :
    start.Meant (edit.outcome own file before) source
      (body ++ edit.units before.palette own file source' body') := by
  have between := meant.learned faithful reached learned
  refine ⟨between.spelled.outcome (fun other needed => (operand other needed).spelled) own file,
    ?_, ?_, ?_⟩
  · rw [Units.palette_append, between.palette, Alteration.palette_units]
    rfl
  · obtain ⟨earlier, later⟩ := body.counts_append start.probed
      (@Alteration.composes_units before.palette own file source' body' edit)
      (source.frames start.probed)
    have next := later (Units.mem_counts start.probed _ _).2
    rw [Units.frames_append _ _ edit.composes_units]
    rw [Alteration.frames_units] at next ⊢
    refine tallies_after (between.frames.mono earlier) (earlier (body.mem_counts _ _).2) ?_ next
    rintro other rfl
    exact (operand other rfl).frames.mono fun met member => later
      (List.mem_cons_of_mem _ (List.mem_append_left _ member))
  · have sized := between.sized
    rw [Units.known_append, Alteration.known_units]
    cases keeps : edit.keepsSize with
    | true =>
      rw [Alteration.sizeAfter_eq keeps]
      cases known : body.known source.known with
      | some known' =>
        rw [known] at sized
        exact (Alteration.sizeAfter_eq keeps before.size).trans sized
      | none =>
        rw [known] at sized
        intro size same
        have kept : before.size = some size := (Alteration.sizeAfter_eq keeps before.size) ▸ same
        have told := sized size kept
        rw [learned.tokens] at told
        rw [Alteration.tokens_outcome, learned.tokens, learned.palette]
        exact faithful.kept (.edit own file reached held operands keeps) told
    | false =>
      cases edit with
      | resize target filter => exact (rfl : _ = some target)
      | crop | rotate | removeLayer | coalesce => rintro size ⟨⟩
      | _ => cases keeps

theorem Meant.measured {world : World} (faithful : start.Faithful)
    (meant : start.Meant image source body) (same : world.tool = start.world.tool) :
    (image.measure start.kit world).1 = match body.known source.known with
      | some known => .ok known
      | none => (start.kit.size image.tokens start.world).1 := by
  have sized := meant.sized
  have told := Tool.Kit.size_steadfast faithful.steadfast same image.tokens
  unfold Image.measure
  cases known : body.known source.known with
  | some known' =>
    rw [known] at sized
    rw [show image.size = some known' from sized]
    rfl
  | none =>
    rw [known] at sized
    cases cached : image.size with
    | some size => exact (sized size cached).symm
    | none => exact told

end Retouch.Session
