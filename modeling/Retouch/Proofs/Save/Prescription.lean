import Retouch.Proofs.Save.Steps
import Retouch.Proofs.Text.Reading

/-!
What a plan is, said without the steps that make it: when there is one, why there is none, which
tokens it has, and what becomes of the layers. An earlier save leaves no trace in it.
-/
namespace Retouch.Save

namespace Options

/-- Frames are merged when there are several of them and nothing is said against it. -/
def Merges (options : Options) (frames : UInt64) : Prop :=
  options.animated = false ∧ 1 < frames ∧ options.flatten ≠ some false

instance (options : Options) (frames : UInt64) : Decidable (options.Merges frames) :=
  inferInstanceAs (Decidable (_ ∧ _))

def frameTokens (options : Options) (frames : UInt64) : List String :=
  if options.animated then
    (match options.delay with
      | some milliseconds => ["-delay", toString (milliseconds.toNat / 10)]
      | none => []) ++ ["-loop", toString (options.loops.getD 0)]
  else if options.Merges frames then ["-flatten"] else []

def layerState (options : Options) (format : String) (frames : UInt64) : LayerState :=
  if options.animated then .animating format options.delay (options.loops.getD 0)
  else if options.Merges frames then .merged else .single

inductive Resampled (options : Options) : List String → Prop
  /-- The choice of a filter is left to the tool. -/
  | left (unset : options.resampling = none ∨ options.resampling = some .undefined) :
      Resampled options []
  | named {filter : Filter} {name : String} (set : options.resampling = some filter)
      (known : filter ≠ .undefined) (named : filter.toolName? = some name) :
      Resampled options ["-filter", name]

/-- A resolution takes its unit and both numbers. -/
inductive Resolved (options : Options) : List String → Prop
  | missing (unset : options.unit = none ∨ options.resolutionX = none ∨
      options.resolutionY = none) : Resolved options []
  | given {unit : ResolutionUnit} {x y : UInt32} {rest : List String}
      (measure : options.unit = some unit) (across : options.resolutionX = some x)
      (down : options.resolutionY = some y) (resampled : Resampled options rest) :
      Resolved options (["-units", unit.toolName, "-density", s!"{x}x{y}", "-resample",
        s!"{x}x{y}"] ++ rest)

end Options

section Resolution
variable {options : Options}

theorem Options.Resampled.eq {tokens : List String} (resampled : options.Resampled tokens) :
    tokens = (options.resampling.bind Filter.toolName?).elim [] fun name => ["-filter", name] := by
  cases resampled with
  | left unset =>
    rcases unset with unset | unset <;> rw [unset] <;> rfl
  | named set known named => simp [set, named]

theorem resampled_tokens : options.Resampled
    ((options.resampling.bind Filter.toolName?).elim [] fun name => ["-filter", name]) := by
  cases set : options.resampling with
  | none => exact .left (.inl set)
  | some filter =>
    cases filter with
    | undefined => exact .left (.inr set)
    | _ => exact .named set (by decide) rfl

theorem resolved_iff {tokens : List String} :
    options.Resolved tokens ↔ tokens = resolution options := by
  constructor
  · intro resolved
    cases resolved with
    | missing unset =>
      unfold resolution
      rcases unset with unset | unset | unset
      · simp [unset]
      · cases options.unit <;> simp [unset]
      · cases options.unit <;> cases options.resolutionX <;> simp [unset]
    | given measure across down resampled =>
      rw [resampled.eq]
      simp only [resolution, measure, across, down]
      cases options.resampling.bind Filter.toolName? <;> rfl
  · rintro rfl
    unfold resolution
    cases measure : options.unit with
    | none => exact .missing (.inl measure)
    | some unit =>
      cases across : options.resolutionX with
      | none => exact .missing (.inr (.inl across))
      | some x =>
        cases down : options.resolutionY with
        | none => exact .missing (.inr (.inr down))
        | some y =>
          have resampled : options.Resampled _ := resampled_tokens
          refine .given measure across down ?_
          cases named : options.resampling.bind Filter.toolName? <;> rw [named] at resampled <;>
            exact resampled

end Resolution

section Frames
variable {format : String} {options : Options} {layers : Layers}

theorem layersFor_ok (framed : 1 ≤ layers.frames)
    (moves : options.animated = true → format = "gif") : layersFor format options layers =
      .ok { layers with state := options.layerState format layers.frames } := by
  have fresh : layers.fresh = { layers with state := .single } := by
    rw [Layers.fresh, Layers.ofFrames_eq framed]
  have size : Layers.size { layers with state := .single } = layers.frames := rfl
  simp only [layersFor, fresh, size, Options.layerState]
  by_cases animated : options.animated = true
  · obtain rfl := moves animated
    have lower : Text.lowercase "gif" = "gif" := by decide +kernel
    rw [if_pos animated, if_pos animated, Layers.animate, lower]
    rfl
  · have merging : (decide (1 < layers.frames) && options.flattens) = true ↔
        options.Merges layers.frames := by
      simp [Options.Merges, Options.flattens, animated]
    rw [if_neg animated, if_neg animated]
    by_cases merged : options.Merges layers.frames
    · rw [if_pos (merging.2 merged), if_pos merged]
      rfl
    · rw [if_neg (merging.not.2 merged), if_neg merged]

theorem layersFor_error (lower : Text.lowercase format = format)
    (animated : options.animated = true) (still : format ≠ "gif") :
    layersFor format options layers =
      .error (.unsupported .format s!"{format} (animation is only supported for gif)") := by
  have foreign : Layers.animatedFormats.contains format = false := by
    simpa [Layers.animatedFormats] using still
  simp only [layersFor, animated, Layers.animate, lower, foreign, if_true, Bool.false_eq_true,
    if_false]

theorem animated_gif {after : Layers} (lower : Text.lowercase format = format)
    (chosen : layersFor format options layers = .ok after) (animated : options.animated = true) :
    format = "gif" := by
  by_contra still
  rw [layersFor_error lower animated still] at chosen
  cases chosen

theorem layerState_tokens (layers : Layers) :
    Layers.tokens { layers with state := options.layerState format layers.frames } =
      options.frameTokens layers.frames := by
  have tenth (milliseconds : UInt32) :
      toString (milliseconds / 10) = toString (milliseconds.toNat / 10) := by
    simp [toString, Nat.repr, UInt32.toNat_div]
  unfold Options.layerState Options.frameTokens
  split
  · cases options.delay <;> simp [Layers.tokens, tenth]
  · split <;> rfl

theorem frameTokens_apart (frames : UInt64) : ¬("-flatten" ∈ options.frameTokens frames ∧
    "-loop" ∈ options.frameTokens frames) := by
  have numeral (n : Nat) : n.repr ≠ "-flatten" := by
    intro same
    have member : '-' ∈ Nat.toDigits 10 n := by
      have chars : Nat.toDigits 10 n = "-flatten".toList := by
        rw [← same]
        simp [Nat.repr]
      rw [chars]
      decide
    exact absurd (Text.isDigit_of_mem member) (by decide)
  have word (n : UInt32) : toString n ≠ "-flatten" := numeral n.toNat
  rintro ⟨merged, animated⟩
  unfold Options.frameTokens at merged animated
  split at merged
  · cases delay : options.delay <;> rw [delay] at merged <;>
      simp [(numeral _).symm, (word _).symm] at merged
  next still =>
    rw [if_neg still] at animated
    split at animated <;> simp at animated

end Frames

/-- The plan, token by token. -/
inductive Prescribed (request : Request) (destination : String) (options : Options) : Plan → Prop
  | intro {format : String} {quality : Option Nat} {tail : List String}
      (resolved : resolveFormat options.format destination request.source = .ok format)
      (moves : options.animated = true → format = "gif")
      (compressed : compression format options = .ok quality) (measured : options.Resolved tail) :
      Prescribed request destination options {
        argv := request.convert ++ request.input ++ request.arguments ++
          options.frameTokens request.layers.frames ++ qualityTokens quality ++ tail ++
          ["-format", format, destination]
        format, destination
        layers := { request.layers with
          state := options.layerState format request.layers.frames } }

/-- Why there is no plan: the first of three things that can be amiss. -/
inductive Refused (request : Request) (destination : String) (options : Options) :
    Cause → Prop
  | format {cause : Cause}
      (unresolved : resolveFormat options.format destination request.source = .error cause) :
      Refused request destination options cause
  | animation {format : String}
      (resolved : resolveFormat options.format destination request.source = .ok format)
      (animated : options.animated = true) (still : format ≠ "gif") :
      Refused request destination options
        (.unsupported .format s!"{format} (animation is only supported for gif)")
  | compression {format : String} {cause : Cause}
      (resolved : resolveFormat options.format destination request.source = .ok format)
      (moves : options.animated = true → format = "gif")
      (refused : compression format options = .error cause) :
      Refused request destination options cause

section Planned
variable {request : Request} {destination : String} {options : Options}

theorem plan_iff_prescribed (framed : 1 ≤ request.layers.frames) {planned : Plan} :
    plan request destination options = .ok planned ↔
      Prescribed request destination options planned := by
  rw [plan_eq_ok]
  constructor
  · rintro ⟨format, after, quality, resolved, chosen, compressed, rfl⟩
    have moves := animated_gif (resolveFormat_lower resolved) chosen
    obtain rfl : _ = after := Except.ok.inj ((layersFor_ok framed moves).symm.trans chosen)
    rw [Request.drafted, layerState_tokens]
    exact .intro resolved moves compressed (resolved_iff.2 rfl)
  · rintro ⟨resolved, moves, compressed, measured⟩
    refine ⟨_, _, _, resolved, layersFor_ok framed moves, compressed, ?_⟩
    rw [resolved_iff.1 measured, Request.drafted, layerState_tokens]

theorem plan_iff_refused (framed : 1 ≤ request.layers.frames) {cause : Cause} :
    plan request destination options = .error cause ↔
      Refused request destination options cause := by
  rw [plan_eq_error]
  constructor
  · rintro (unresolved | ⟨format, resolved, refused | ⟨⟨after, chosen⟩, refused⟩⟩)
    · exact .format unresolved
    · by_cases moves : options.animated = true → format = "gif"
      · rw [layersFor_ok framed moves] at refused
        cases refused
      · obtain ⟨animated, still⟩ := Classical.not_imp.1 moves
        rw [layersFor_error (resolveFormat_lower resolved) animated still] at refused
        obtain rfl := Except.error.inj refused
        exact .animation resolved animated still
    · exact .compression resolved (animated_gif (resolveFormat_lower resolved) chosen) refused
  · rintro (unresolved | ⟨resolved, animated, still⟩ | ⟨resolved, moves, refused⟩)
    · exact .inl unresolved
    · exact .inr ⟨_, resolved,
        .inl (layersFor_error (resolveFormat_lower resolved) animated still)⟩
    · exact .inr ⟨_, resolved, .inr ⟨⟨_, layersFor_ok framed moves⟩, refused⟩⟩

end Planned

theorem plan_prescribed (convert input arguments : List String) (source : Option String)
    (frames : UInt64) (state : LayerState) (destination : String) (options : Options) :
    let request : Request :=
      ⟨convert, input, arguments, source, { Layers.ofFrames frames with state }⟩
    ((∃ planned, plan request destination options = .ok planned) ↔
      ∃ format quality, resolveFormat options.format destination source = .ok format ∧
        (options.animated = true → format = "gif") ∧
        compression format options = .ok quality) ∧
    (∀ cause, plan request destination options = .error cause ↔
      Refused request destination options cause) ∧
    (∀ planned, plan request destination options = .ok planned ↔
      Prescribed request destination options planned) ∧
    ¬("-flatten" ∈ options.frameTokens request.layers.frames ∧
      "-loop" ∈ options.frameTokens request.layers.frames) := by
  intro request
  have framed : 1 ≤ request.layers.frames := Layers.one_le_ofFrames frames
  refine ⟨⟨?_, ?_⟩, fun cause => plan_iff_refused framed, fun planned => plan_iff_prescribed framed,
    frameTokens_apart request.layers.frames⟩
  · rintro ⟨planned, made⟩
    obtain ⟨resolved, moves, compressed, -⟩ := (plan_iff_prescribed framed).1 made
    exact ⟨_, _, resolved, moves, compressed⟩
  · rintro ⟨format, quality, resolved, moves, compressed⟩
    exact ⟨_, (plan_iff_prescribed framed).2
      (.intro resolved moves compressed (resolved_iff.2 rfl))⟩

end Retouch.Save
