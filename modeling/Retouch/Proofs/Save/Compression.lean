import Retouch.Proofs.Save.Steps

/-!
The quality that a save passes on. The first option that applies to the format decides, and those
that do not apply are not even looked at. The two digits of the lossless format can be told from the
number they make.
-/
namespace Retouch.Save

namespace Options

def setsDigits (options : Options) : Prop := options.pngLevel ≠ none ∨ options.pngFilter ≠ none

def level (options : Options) : Int := (options.pngLevel.getD 7).toInt

def filter (options : Options) : Int := (options.pngFilter.getD 5).toInt

end Options

def IsDigit (value : Int) : Prop := 0 ≤ value ∧ value ≤ 9

def noDigit (name : String) (value : Int) : Cause :=
  .invalidArgument s!"{name} option should be an integer from 0 to 9, got {value}"

/-- What comes of the options for a format, one rule for each option that can decide. -/
inductive Compressed (format : String) (options : Options) : Except Cause (Option Nat) → Prop
  | quality {value : UInt32} (given : options.quality = some value) :
      Compressed format options (.ok (some value.toNat))
  | jpeg {value : UInt32} (unset : options.quality = none)
      (suits : format = "jpeg" ∨ format = "jpg" ∨ format = "pjpeg")
      (given : options.jpegQuality = some value) :
      Compressed format options (.ok (some value.toNat))
  | digits {level filter : Nat} (unset : options.quality = none) (suits : format = "png")
      (given : options.setsDigits) (first : options.level = level)
      (second : options.filter = filter)
      (small : level ≤ 9) (small' : filter ≤ 9) :
      Compressed format options (.ok (some (10 * level + filter)))
  | level (unset : options.quality = none) (suits : format = "png") (given : options.setsDigits)
      (large : ¬IsDigit options.level) :
      Compressed format options (.error (noDigit "png_compression_level" options.level))
  | filter (unset : options.quality = none) (suits : format = "png") (given : options.setsDigits)
      (small : IsDigit options.level) (large : ¬IsDigit options.filter) :
      Compressed format options (.error (noDigit "png_compression_filter" options.filter))
  | nothing (unset : options.quality = none)
      (lossy : format = "jpeg" ∨ format = "jpg" ∨ format = "pjpeg" → options.jpegQuality = none)
      (lossless : format = "png" → ¬options.setsDigits) : Compressed format options (.ok none)

section Rules
variable {format : String} {options : Options}

theorem digit_small {name : String} {value : Int32} (small : IsDigit value.toInt) :
    digit name value = .ok value.toInt.toNat := by
  simp [digit, small.1, small.2]

theorem digit_large {name : String} {value : Int32} (large : ¬IsDigit value.toInt) :
    digit name value = .error (noDigit name value.toInt) := by
  have refused : (decide (0 ≤ value.toInt) && decide (value.toInt ≤ 9)) = false := by
    simpa [IsDigit] using large
  simp [digit, refused, noDigit]

theorem compression_lossless (unset : options.quality = none) (given : options.setsDigits) :
    compression "png" options = (do
      let level ← digit "png_compression_level" (options.pngLevel.getD 7)
      let filter ← digit "png_compression_filter" (options.pngFilter.getD 5)
      return some (level * 10 + filter)) := by
  have set : (options.pngLevel.isSome || options.pngFilter.isSome) = true := by
    simpa [Options.setsDigits, Option.isSome_iff_ne_none] using given
  have foreign : jpegFormats.contains "png" = false := rfl
  have png : ("png" == "png") = true := rfl
  simp only [compression, unset, foreign, png, set, Bool.and_self, if_true]
  cases options.jpegQuality <;> rfl

theorem compression_nothing (unset : options.quality = none)
    (lossy : format = "jpeg" ∨ format = "jpg" ∨ format = "pjpeg" → options.jpegQuality = none)
    (lossless : format = "png" → ¬options.setsDigits) : compression format options = .ok none := by
  have idle : (format == "png" && (options.pngLevel.isSome || options.pngFilter.isSome)) =
      false := by
    rw [Bool.and_eq_false_imp]
    intro suits
    simpa [Options.setsDigits] using lossless (beq_iff_eq.mp suits)
  simp only [compression, unset, idle, Bool.false_eq_true, if_false]
  cases suits : jpegFormats.contains format with
  | false => cases options.jpegQuality <;> rfl
  | true =>
    have member : format = "jpeg" ∨ format = "jpg" ∨ format = "pjpeg" := by
      simpa [jpegFormats] using suits
    rw [lossy member]

theorem compression_of_compressed {result : Except Cause (Option Nat)}
    (compressed : Compressed format options result) : compression format options = result := by
  cases compressed with
  | quality given => simp [compression, given]
  | jpeg unset suits given =>
    have member : jpegFormats.contains format = true := by simpa [jpegFormats] using suits
    simp only [compression, unset, given, member]
  | digits unset suits given first second small small' =>
    subst suits
    have one : IsDigit (options.pngLevel.getD 7).toInt := by
      rw [IsDigit, show (options.pngLevel.getD 7).toInt = _ from first]
      omega
    have other : IsDigit (options.pngFilter.getD 5).toInt := by
      rw [IsDigit, show (options.pngFilter.getD 5).toInt = _ from second]
      omega
    rw [compression_lossless unset given, digit_small one, digit_small other,
      show (options.pngLevel.getD 7).toInt = _ from first,
      show (options.pngFilter.getD 5).toInt = _ from second, Nat.mul_comm 10]
    rfl
  | level unset suits given large =>
    subst suits
    rw [compression_lossless unset given, digit_large large]
    rfl
  | filter unset suits given small large =>
    subst suits
    rw [compression_lossless unset given, digit_small small, digit_large large]
    rfl
  | nothing unset lossy lossless => exact compression_nothing unset lossy lossless

theorem compressed_compression (format : String) (options : Options) :
    Compressed format options (compression format options) := by
  have found {result : Except Cause (Option Nat)} (rule : Compressed format options result) :
      Compressed format options (compression format options) :=
    compression_of_compressed rule ▸ rule
  cases unset : options.quality with
  | some value => exact found (.quality unset)
  | none =>
    by_cases lossy : (format = "jpeg" ∨ format = "jpg" ∨ format = "pjpeg") ∧
        options.jpegQuality ≠ none
    · obtain ⟨value, given⟩ := Option.ne_none_iff_exists'.mp lossy.2
      exact found (.jpeg unset lossy.1 given)
    by_cases lossless : format = "png" ∧ options.setsDigits
    · obtain ⟨suits, given⟩ := lossless
      by_cases small : IsDigit options.level
      · by_cases small' : IsDigit options.filter
        · have first := Int.toNat_of_nonneg small.1
          have second := Int.toNat_of_nonneg small'.1
          have most := small.2
          have most' := small'.2
          exact found (.digits unset suits given first.symm second.symm (by omega) (by omega))
        · exact found (.filter unset suits given small small')
      · exact found (.level unset suits given small)
    · exact found (.nothing unset (fun suits => by simpa [suits] using lossy)
        fun suits given => lossless ⟨suits, given⟩)

theorem compression_eq_iff {result : Except Cause (Option Nat)} :
    compression format options = result ↔ Compressed format options result :=
  ⟨fun same => same ▸ compressed_compression format options, compression_of_compressed⟩

theorem digits_of_value {value : Nat} (unset : options.quality = none)
    (made : compression "png" options = .ok (some value)) :
    IsDigit options.level ∧ IsDigit options.filter ∧
      (value : Int) = 10 * options.level + options.filter := by
  cases compression_eq_iff.mp made with
  | quality set => rw [unset] at set; cases set
  | jpeg _ suits => exact absurd suits (by decide)
  | digits _ _ _ first second small small' =>
    rw [first, second]
    refine ⟨⟨?_, ?_⟩, ⟨?_, ?_⟩, ?_⟩ <;> omega

end Rules

/-- The plan for another destination. -/
def Plan.redirected (destination : String) (planned : Plan) : Plan :=
  { planned with destination, argv := planned.argv.dropLast ++ [destination] }

theorem drafted_redirected (request : Request) (destination destination' : String)
    (options : Options) (format : String) (layers : Layers) (quality : Option Nat) :
    (request.drafted destination options format layers quality).redirected destination' =
      request.drafted destination' options format layers quality := by
  simp [Request.drafted, Plan.redirected]

/-- Only the format that is found counts, not what it is found in. -/
theorem plan_sourced {request : Request} {destination destination' format : String}
    {options : Options} {asked source : Option String}
    (resolved : resolveFormat options.format destination request.source = .ok format)
    (resolved' : resolveFormat asked destination' source = .ok format) :
    plan { request with source } destination' { options with format := asked } =
      (plan request destination options).map (Plan.redirected destination') := by
  have same (layers : Layers) : layersFor format { options with format := asked } layers =
      layersFor format options layers := rfl
  rw [plan_resolved resolved, plan_resolved resolved', same]
  cases layersFor format options request.layers with
  | error cause => rfl
  | ok layers =>
    have same' : compression format { options with format := asked } =
        compression format options := rfl
    simp only [bind, Except.bind, same']
    cases compression format options with
    | error cause => rfl
    | ok quality =>
      simp only [Except.map, drafted_redirected]
      rfl

theorem compression_first_match :
    (∀ format options result,
      compression format options = result ↔ Compressed format options result) ∧
    (∀ options value, options.quality = none → compression "png" options = .ok (some value) →
      value ≤ 99 ∧ ∀ options' : Options, options'.quality = none →
        compression "png" options' = .ok (some value) →
        options'.level = options.level ∧ options'.filter = options.filter) ∧
    (∀ request destination options planned, plan request destination options = .ok planned →
      resolveFormat options.format destination request.source = .ok planned.format ∧
      Text.lowercase planned.format = planned.format ∧
      ∃ quality, Compressed planned.format options (.ok quality) ∧
        planned.argv = request.convert ++ request.input ++ request.arguments ++
          planned.layers.tokens ++ qualityTokens quality ++ resolution options ++
          ["-format", planned.format, destination]) ∧
    (∀ request destination options format layers cause,
      resolveFormat options.format destination request.source = .ok format →
      layersFor format options request.layers = .ok layers →
      Compressed format options (.error cause) →
      plan request destination options = .error cause) ∧
    ∀ request destination destination' options asked source format,
      Recased options.format asked →
      Recased (Path.extension? destination) (Path.extension? destination') →
      Recased (request.source.bind Path.extension?) (source.bind Path.extension?) →
      resolveFormat options.format destination request.source = .ok format →
      plan { request with source } destination' { options with format := asked } =
        (plan request destination options).map (Plan.redirected destination') := by
  refine ⟨fun _ _ _ => compression_eq_iff, ?_, ?_, ?_, ?_⟩
  · intro options value unset made
    obtain ⟨first, second, sum⟩ := digits_of_value unset made
    refine ⟨by unfold IsDigit at first second; omega, fun options' unset' made' => ?_⟩
    obtain ⟨first', second', sum'⟩ := digits_of_value unset' made'
    unfold IsDigit at first second first' second'
    omega
  · intro request destination options planned settled
    obtain ⟨format, layers, quality, resolved, -, compressed, rfl⟩ := plan_eq_ok.mp settled
    exact ⟨resolved, resolveFormat_lower resolved, quality, compression_eq_iff.mp compressed, rfl⟩
  · intro request destination options format layers cause resolved chosen compressed
    exact plan_eq_error.mpr (.inr ⟨format, resolved,
      .inr ⟨⟨layers, chosen⟩, compression_eq_iff.mpr compressed⟩⟩)
  · intro request destination destination' options asked source format explicit target origin
      resolved
    have same := candidate?_recased explicit target origin
    have resolved' : resolveFormat asked destination' source = .ok format := by
      rw [resolveFormat_eq_ok, ← same, ← resolveFormat_eq_ok]
      exact resolved
    exact plan_sourced resolved resolved'

/-- Capitals in the name of the file, and a filter that is left open. -/
theorem compression_first_match_capitals :
    let request : Request := ⟨["convert"], ["a.gif"], [], some "a.gif", .ofFrames 1⟩
    let options : Options := { pngLevel := some 3, jpegQuality := some 80 }
    compression "png" options = .ok (some 35) ∧ 35 ≤ 99 ∧
      Recased (Path.extension? "b.png") (Path.extension? "b.PNG") ∧
      resolveFormat none "b.png" (some "a.gif") = .ok "png" ∧
      plan request "b.PNG" options =
        (plan request "b.png" options).map (Plan.redirected "b.PNG") ∧
      (plan request "b.PNG" options).map Plan.argv =
        .ok ["convert", "a.gif", "-quality", "35", "-format", "png", "b.PNG"] := by
  intro request options
  obtain ⟨-, digits, -, -, recased⟩ := compression_first_match
  have made : compression "png" options = .ok (some 35) := by decide +kernel
  have small : (Path.extension? "b.png").map Text.lowercase = some "png" := by decide +kernel
  have capital : (Path.extension? "b.PNG").map Text.lowercase = some "png" := by decide +kernel
  have same : Recased (Path.extension? "b.png") (Path.extension? "b.PNG") :=
    small.trans capital.symm
  have origin : Recased (request.source.bind Path.extension?)
      (request.source.bind Path.extension?) := Eq.refl _
  have resolved : resolveFormat none "b.png" (some "a.gif") = .ok "png" := by decide +kernel
  have moved := recased request "b.png" "b.PNG" options none request.source "png" (Eq.refl _) same
    origin resolved
  exact ⟨made, (digits options 35 (Eq.refl _) made).1, same, resolved, moved, by decide +kernel⟩

end Retouch.Save
