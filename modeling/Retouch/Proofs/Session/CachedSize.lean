import Retouch.Proofs.Grammar.Spelled
import Retouch.Proofs.Tool.Answer
import Retouch.Proofs.Tool.FirstLine

/-!
A size that is known is the size under all arguments, never one from before the last of them. What
is assumed of the tool is stated for the images of a run only: a law for all token lists would speak
of tokens that no image has.
-/
namespace Retouch.Session

/-- Tokens of an image of a run, and tokens that an operation which keeps the size puts after
them. -/
inductive Keeping (start : Session) : List String → List String → Prop
  | edit {session : Session} {image : Image} {edit : Alteration Image} (own : Size)
      (file : ScratchFile) : Reaches start session → session.Holds image →
      (∀ other ∈ edit.operand?, session.Holds other) → edit.keepsSize = true →
      Keeping start image.tokens (edit.appended image.palette own file)
  | mask {session : Session} {image : Image} : Reaches start session → session.Holds image →
      Keeping start image.tokens ["-modulate", "100,0,100", "-alpha", "off"]

/-- The tool sees the sizes that `sizeOf` gives: of the images of a run it answers no other. -/
structure Sizing (start : Session) (sizeOf : List String → Size) : Prop where
  answered : ∀ {session : Session} {image : Image} {world : World} {size : Size},
    Reaches start session → session.Holds image → world.tool = start.world.tool →
      (start.kit.size image.tokens world).1 = .ok size → size = sizeOf image.tokens
  canvas : ∀ (size : Size) (color : Color),
    sizeOf ["-size", size.text, s!"xc:{color.text}"] = size
  resized : ∀ {session : Session} {image : Image} (target : Size),
    Reaches start session → session.Holds image →
      sizeOf (image.tokens ++ ["-resize", target.text]) = target ∧
      ∀ filter : String,
        sizeOf (image.tokens ++ ["-resize", target.text, "-filter", filter]) = target
  kept : ∀ {tokens more : List String}, start.Keeping tokens more →
    sizeOf (tokens ++ more) = sizeOf tokens

variable {start : Session} {sizeOf : List String → Size}

/-- The size, when it is known, is that of the tokens. -/
def Current (sizeOf : List String → Size) (image : Image) : Prop :=
  ∀ size, image.size = some size → size = sizeOf image.tokens

theorem Sizing.learned {session : Session} {image after : Image} (sizing : start.Sizing sizeOf)
    (reached : Reaches start session) (held : session.Holds image)
    (current : Current sizeOf image)
    (learned : image.Learned session.kit session.world after) : Current sizeOf after := by
  rcases learned with rfl | ⟨-, size, told, rfl⟩
  · exact current
  · intro known same
    obtain rfl := Option.some.inj same
    rw [reaches_kit reached] at told
    have answered := sizing.answered reached held (reaches_tool reached) told
    exact answered

theorem Sizing.edited {session : Session} {image before : Image} {edit : Alteration Image}
    (sizing : start.Sizing sizeOf) (reached : Reaches start session) (held : session.Holds image)
    (current : Current sizeOf image)
    (learned : image.Learned session.kit session.world before)
    (operands : ∀ other ∈ edit.operand?, session.Holds other) (own : Size) (file : ScratchFile) :
    Current sizeOf (edit.outcome own file before) := by
  intro size known
  have still := sizing.learned reached held current learned
  rw [Alteration.tokens_outcome, learned.tokens, learned.palette]
  change edit.sizeAfter before.size = some size at known
  cases keeps : edit.keepsSize with
  | true =>
    rw [Alteration.sizeAfter_eq keeps] at known
    rw [sizing.kept (.edit own file reached held operands keeps), ← learned.tokens]
    exact still size known
  | false =>
    cases edit with
    | resize target filter =>
      obtain rfl := Option.some.inj known
      obtain ⟨plain, filtered⟩ := sizing.resized target reached held
      simp only [Alteration.appended]
      cases filter.toolName? with
      | none => exact plain.symm
      | some name => exact (filtered name).symm
    | crop => cases known
    | rotate => cases known
    | removeLayer => cases known
    | coalesce => cases known
    | _ => cases keeps

theorem Sizing.current {session : Session} {image : Image} (sizing : start.Sizing sizeOf)
    (empty : start.images = []) (reached : Reaches start session) (held : session.Holds image) :
    Current sizeOf image := by
  refine reaches_images (Current sizeOf) empty ?_ reached held
  rintro session image reached others yielded
  cases yielded with
  | @learned before _ present learned =>
    exact sizing.learned reached present (others before present) learned
  | opened notes seen => rintro _ ⟨⟩
  | loaded made seen => rintro _ ⟨⟩
  | canvas made =>
    obtain ⟨spelled, -, known, -⟩ := Image.spelled_canvas made
    intro size same
    rw [known] at same
    obtain rfl := Option.some.inj same
    rw [spelled.tokens]
    exact (sizing.canvas _ _).symm
  | @copied before present => exact others before present
  | @masked before present =>
    intro size known
    have tokens : before.mask.tokens =
        before.tokens ++ ["-modulate", "100,0,100", "-alpha", "off"] := by
      simp [Image.mask, Image.copy, Image.push, Image.tokens]
    rw [tokens, sizing.kept (.mask reached present)]
    exact others before present size known
  | @edited before between edit own file present learned operands made =>
    exact sizing.edited reached present (others before present) learned operands own file
  | @rendered before _ present rendered =>
    intro size known
    rw [rendered.tokens]
    exact others before present size (by rw [← rendered.size, known])
  | @noted before notes present => exact others before present

theorem Sizing.measured {session : Session} {image : Image} {world : World} {size : Size}
    (sizing : start.Sizing sizeOf) (empty : start.images = []) (reached : Reaches start session)
    (held : session.Holds image) (same : world.tool = start.world.tool)
    (told : (image.measure session.kit world).1 = .ok size) : size = sizeOf image.tokens := by
  unfold Image.measure at told
  cases known : image.size with
  | some cached =>
    rw [known] at told
    obtain rfl := Except.ok.inj told
    exact sizing.current empty reached held cached known
  | none =>
    rw [known, reaches_kit reached] at told
    exact sizing.answered reached held same told

open Grammar

open Classical in
/-- The size that tokens give away, when they are read in the grammar. -/
noncomputable def sizeRead (tokens : List String) : Size :=
  if told : ∃ known, ∃ source : Source, ∃ body : Units,
      tokens = source.tokens ++ body.tokens ∧ body.known source.known = some known then
    told.choose
  else ⟨0, 0⟩

theorem sizeRead_eq (source : Source) (body : Units) :
    sizeRead (source.tokens ++ body.tokens) = (body.known source.known).getD ⟨0, 0⟩ := by
  unfold sizeRead
  split
  next told =>
    obtain ⟨source', body', same, known⟩ := told.choose_spec
    obtain ⟨rfl, rfl⟩ := image_tokens_inj same
    rw [known]
    rfl
  next silent =>
    cases known : body.known source.known with
    | none => rfl
    | some size => exact absurd ⟨size, source, body, rfl, known⟩ silent

theorem sizeRead_spelled {image : Image} {source : Source} {body : Units}
    (spelled : image.Spelled source body) :
    sizeRead image.tokens = (body.known source.known).getD ⟨0, 0⟩ := by
  rw [spelled.tokens, sizeRead_eq]

theorem sizeRead_append {image : Image} {source : Source} {body : Units}
    (spelled : image.Spelled source body) (later : Units) :
    sizeRead (image.tokens ++ later.tokens) =
      (later.known (body.known source.known)).getD ⟨0, 0⟩ := by
  rw [spelled.tokens, List.append_assoc, ← Units.tokens_append, sizeRead_eq, Units.known_append]

theorem sizeRead_kept (empty : start.images = []) {tokens more : List String}
    (keeping : start.Keeping tokens more) : sizeRead (tokens ++ more) = sizeRead tokens := by
  cases keeping with
  | @edit session image edit own file reached held operands keeps =>
    have spelled (other : Image) (present : session.Holds other) :=
      reaches_spelled empty reached present
    obtain ⟨source, body, told⟩ := spelled image held
    obtain ⟨source', body', operand⟩ := operand_read spelled operands
    rw [← Alteration.tokens_units fun other needed => (operand other needed).tokens,
      sizeRead_append told, Alteration.known_units, Alteration.sizeAfter_eq keeps,
      sizeRead_spelled told]
  | @mask session image reached held =>
    obtain ⟨source, body, told⟩ := reaches_spelled empty reached held
    exact (sizeRead_append told
      (.row [⟨"-modulate", ["100,0,100"], rfl⟩, ⟨"-alpha", ["off"], rfl⟩])).trans
      (sizeRead_spelled told).symm

/-- A run of the tool that prints the size of the tokens between the program and the question. -/
noncomputable def sizePrinter : Responder := fun _ argv =>
  .ran (.ok (Text.Utf8.encode (sizeRead ((argv.drop 1).take (argv.length - 4))).text)) []

theorem sizePrinter_answer {kit : Tool.Kit} (convert : kit.convert = ["convert"])
    (log : List Argv) (source : List String) : sizePrinter log (kit.sizeCall source) =
      .ran (.ok (Text.Utf8.encode (sizeRead source).text)) [] := by
  have between : ((kit.sizeCall source).drop 1).take ((kit.sizeCall source).length - 4) =
      source := by
    simp [Tool.Kit.sizeCall, Tool.Kit.infoCall, convert]
  unfold sizePrinter
  rw [between]

theorem sizePrinter_sizing {identify : List String} {directory : String}
    {world : World} (printing : world.tool = sizePrinter) :
    Sizing ⟨⟨["convert"], identify, directory⟩, [], world⟩ sizeRead where
  answered := by
    intro session image asked size reached held same told
    have printed : asked.tool asked.calls (Tool.Kit.sizeCall ⟨["convert"], identify, directory⟩
        image.tokens) = .ran (.ok (Text.Utf8.encode (sizeRead image.tokens).text)) [] := by
      rw [same, printing]
      exact sizePrinter_answer rfl asked.calls image.tokens
    rw [Tool.Kit.size_printed printed, Size.read_printed] at told
    exact (Except.ok.inj told).symm
  canvas size color := by
    have read := sizeRead_eq (.canvas size (.solid color)) .done
    exact read
  resized := by
    intro session image target reached held
    obtain ⟨source, body, spelled⟩ := reaches_spelled rfl reached held
    have plain := sizeRead_append spelled (.row [⟨"-resize", [target.text], rfl⟩])
    simp only [Units.known_row, Units.tokens_row] at plain
    refine ⟨plain.trans ?_, fun filter => ?_⟩
    · simp [Flag.resize, target.read_text]
    have filtered := sizeRead_append spelled
      (.row [⟨"-resize", [target.text], rfl⟩, ⟨"-filter", [filter], rfl⟩])
    simp only [Units.known_row, Units.tokens_row] at filtered
    refine filtered.trans ?_
    simp [Flag.resize, target.read_text]
  kept := sizeRead_kept rfl

theorem sizes_are_pending {session : Session} {image : Image} (empty : start.images = [])
    (sizing : start.Sizing sizeOf) (reached : Reaches start session) (held : session.Holds image) :
    (∀ size, image.size = some size → size = sizeOf image.tokens) ∧
    (∀ size, (Image.resolve session.kit ⟨image, session.world⟩).1 = .ok size →
      size = sizeOf image.tokens) ∧
    (∀ point, (Image.colorAt session.kit point ⟨image, session.world⟩).1 =
      match image.measure session.kit session.world with
      | (.error cause, _) => .error cause
      | (.ok _, after) =>
        if point.isIn (sizeOf image.tokens) then (session.kit.colorAt image.tokens point after).1
        else .error (.outOfRange
          s!"point {point.offset} is outside the {(sizeOf image.tokens).text} image")) ∧
    ∀ edit : Alteration Image, (∀ other ∈ edit.operand?, session.Holds other) →
      let needs := edit.needs session.kit image session.world
      let before := edit.sized needs.own image
      edit.apply session.kit ⟨image, session.world⟩ = Edit.ended (edit.settle needs before) before
        (edit.afterwards session.kit image session.world) ∧
      (before = image ∨ before = image.resized (some (sizeOf image.tokens))) ∧
      (∀ size, needs.own = .ok size → size = sizeOf image.tokens) ∧
      ∀ other ∈ edit.operand?, ∀ size, needs.other = .ok size → size = sizeOf other.tokens := by
  have tool := reaches_tool reached
  have own (size : Size) (told : (image.measure session.kit session.world).1 = .ok size) :
      size = sizeOf image.tokens := sizing.measured empty reached held tool told
  refine ⟨sizing.current empty reached held, ?_, ?_, ?_⟩
  · intro size resolved
    rw [Image.resolve_eq] at resolved
    apply own
    rcases told : image.measure session.kit session.world with ⟨_ | found, after⟩ <;>
      rw [told] at resolved
    · cases resolved
    · exact resolved
  · intro point
    unfold Image.colorAt
    rw [Edit.bind_resolve]
    rcases told : image.measure session.kit session.world with ⟨_ | found, after⟩
    · rfl
    · obtain rfl := own found (congrArg Prod.fst told)
      simp only
      split <;> rfl
  · intro edit operands needs before
    refine ⟨edit.apply_eq _ _ _, ?_, own, ?_⟩
    · rcases edit.sized_eq (image.measure session.kit session.world).1 image with
        same | ⟨size, told, sized⟩
      · exact .inl same
      · rw [own size told] at sized
        exact .inr sized
    · intro other operand size told
      have between : (image.measure session.kit session.world).2.tool = start.world.tool :=
        (World.steady_tool.measure (World.steady_tool.execute _) session.world).trans tool
      have needed : edit.operand? = some other := operand
      simp only [needs, Alteration.needs, needed, Option.getD_some] at told
      exact sizing.measured empty reached (operands other operand) between told

/-- A canvas is cropped, which makes its size unknown, turned over, resized and pasted onto itself;
a mask made of it before it was resized is asked about in its turn. -/
theorem sizes_are_pending_resized :
    let start : Session := ⟨⟨["convert"], ["identify"], "systmp"⟩, [], { tool := sizePrinter }⟩
    let session := start.follow [.make "a" (.canvas ⟨40, 30⟩ none),
      .alter "a" (.crop ⟨10, 10⟩ ⟨20, 10⟩), .alter "a" .flipHorizontally, .make "m" (.maskOf "a"),
      .alter "a" (.resize ⟨100, 50⟩ .undefined), .alter "a" (.paste "a" ⟨0, 0⟩ 100)]
    ∃ image : Image, start.images = [] ∧ start.Sizing sizeRead ∧ Reaches start session ∧
      session.Holds image ∧ image.size = some ⟨100, 50⟩ ∧ ⟨100, 50⟩ = sizeRead image.tokens := by
  intro start session
  have known : ∃ image, session.image? "a" = some image ∧ image.size = some ⟨100, 50⟩ :=
    ⟨_, rfl, rfl⟩
  obtain ⟨image, held, cached⟩ := known
  have sizing : start.Sizing sizeRead := sizePrinter_sizing rfl
  have reached : Reaches start session := reaches_follow start _
  exact ⟨image, rfl, sizing, reached, ⟨"a", held⟩, cached,
    (sizes_are_pending rfl sizing reached ⟨"a", held⟩).1 _ cached⟩

end Retouch.Session
