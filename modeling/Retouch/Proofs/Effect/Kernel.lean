import Retouch.Proofs.Effect.Written
import Retouch.Proofs.Text.Figures

/-!
How many values a kernel has. They are counted against the product of its dimensions as words, which
is the product itself as long as it is below `2 ^ 64`, and so it is for the kernels of nine values
that a convolution takes.
-/
namespace Retouch

namespace Kernel
variable {width height : UInt64} {values : List Binary64} {kernel : Kernel}

theorem ofValues_eq_ok : ofValues width height values = .ok kernel ↔
    kernel = ⟨width, height, values⟩ ∧ 0 < width ∧ 0 < height ∧
      values.length = width.toNat * height.toNat % UInt64.size := by
  have positive (n : UInt64) : 0 < n ↔ n ≠ 0 := by
    simp only [UInt64.lt_iff_toNat_lt, ne_eq, ← UInt64.toNat_inj, UInt64.toNat_zero]
    omega
  unfold ofValues
  simp only [positive]
  split
  next refused =>
    refine iff_of_false (by rintro ⟨⟩) ?_
    rintro ⟨-, wide, high, counted⟩
    simp [wide, high, counted] at refused
  next accepted =>
    simp only [Bool.or_eq_true, beq_iff_eq, bne_iff_ne, ne_eq, not_or, not_not] at accepted
    simp [accepted, eq_comm]

theorem ofValues_refused (refused : ∀ kernel, ofValues width height values ≠ .ok kernel) :
    ofValues width height values = .error (.invalidArgument
      s!"kernel of {width}x{height} needs {width * height} values, got {values.length}") := by
  unfold ofValues at refused ⊢
  simp only at refused ⊢
  split
  · rfl
  next accepted => exact (refused _ (if_neg accepted)).elim

end Kernel

namespace Effect
variable {arguments after : Arguments} {kernel : Kernel}

/-- Only the dimensions of a kernel are looked at here, and not its values. -/
theorem checkConvolve_eq_ok :
    checkConvolve kernel = .ok () ↔ kernel.width = 3 ∧ kernel.height = 3 := by
  simp [checkConvolve, refuseIf_eq_ok]

theorem convolve_eq_ok : (convolve kernel).apply arguments = (.ok (), after) ↔
    (kernel.width = 3 ∧ kernel.height = 3) ∧ after =
      arguments.push "-convolve" [",".intercalate (kernel.values.map Binary64.text)] := by
  rw [apply_eq, ← checkConvolve_eq_ok]
  simp only [check]
  cases checkConvolve kernel with
  | error cause => exact iff_of_false (by rintro ⟨⟩) (by rintro ⟨⟨⟩, -⟩)
  | ok _ => exact ⟨fun same => ⟨rfl, (Prod.mk.inj same).2.symm⟩, fun told => by rw [told.2]; rfl⟩

theorem convolve_refused (other : ¬(kernel.width = 3 ∧ kernel.height = 3)) :
    ∃ reason, checkConvolve kernel = .error (.invalidArgument reason) := by
  cases checked : checkConvolve kernel with
  | ok _ => exact (other (checkConvolve_eq_ok.mp checked)).elim
  | error cause =>
    unfold checkConvolve refuseIf at checked
    split at checked
    · exact ⟨_, checked.symm⟩
    · cases checked

end Effect

namespace Kernel
variable {width height : UInt64} {values : List Binary64} {kernel : Kernel}

theorem length_of_square (made : ofValues width height values = .ok kernel)
    (square : kernel.width = 3 ∧ kernel.height = 3) : values.length = 9 := by
  obtain ⟨rfl, -, -, counted⟩ := ofValues_eq_ok.mp made
  obtain ⟨rfl, rfl⟩ := square
  exact counted

/-- The values are written out one by one, with commas between them. -/
theorem splitAll_texts (filled : values ≠ []) :
    Text.splitAll ',' (",".intercalate (values.map Binary64.text)).toList =
      values.map (·.text.toList) := by
  rw [Text.splitAll_intercalate rfl (by simpa using filled), List.map_map]
  · rfl
  · simp only [List.forall_mem_map]
    exact fun value _ => value.comma_not_mem_text

theorem ofValues_exact (width height : UInt64) (values : List Binary64) :
    (∀ kernel, ofValues width height values = .ok kernel ↔
      kernel = ⟨width, height, values⟩ ∧ 0 < width ∧ 0 < height ∧
        values.length = width.toNat * height.toNat % UInt64.size) ∧
    (width.toNat * height.toNat < UInt64.size →
      ((∃ kernel, ofValues width height values = .ok kernel) ↔
        0 < width ∧ 0 < height ∧ values.length = width.toNat * height.toNat)) ∧
    (UInt64.size ≤ width.toNat * height.toNat → ∀ kernel, ofValues width height values = .ok kernel →
      values.length < width.toNat * height.toNat) ∧
    ((∃ kernel, ofValues width height values = .ok kernel) ∨
      ofValues width height values = .error (.invalidArgument
        s!"kernel of {width}x{height} needs {width * height} values, got {values.length}")) ∧
    ∀ kernel (arguments after : Arguments), ofValues width height values = .ok kernel →
      (Effect.convolve kernel).apply arguments = (.ok (), after) →
      ∃ text, after.tokens = arguments.tokens ++ ["-convolve", text] ∧
        Text.splitAll ',' text.toList = values.map (·.text.toList) ∧ values.length = 9 := by
  refine ⟨fun _ => ofValues_eq_ok, ?_, ?_, ?_, ?_⟩
  · intro small
    simp only [ofValues_eq_ok, exists_eq_left, Nat.mod_eq_of_lt small]
  · intro large kernel made
    obtain ⟨-, -, -, counted⟩ := ofValues_eq_ok.mp made
    have below : width.toNat * height.toNat % UInt64.size < UInt64.size :=
      Nat.mod_lt _ (by decide)
    omega
  · by_cases made : ∃ kernel, ofValues width height values = .ok kernel
    · exact .inl made
    · exact .inr (ofValues_refused (not_exists.mp made))
  · intro kernel arguments after made applied
    obtain ⟨square, rfl⟩ := Effect.convolve_eq_ok.mp applied
    have nine := length_of_square made square
    obtain ⟨rfl, -⟩ := ofValues_eq_ok.mp made
    have filled : values ≠ [] := List.ne_nil_of_length_pos (by omega)
    exact ⟨_, rfl, splitAll_texts filled, nine⟩

/-- A kernel that finds edges. -/
theorem ofValues_exact_edges :
    let less : Binary64 := .ofInt (-1)
    let values := [less, less, less, less, .ofInt 8, less, less, less, less]
    ofValues 3 3 values = .ok ⟨3, 3, values⟩ ∧
      ∃ after text, (Effect.convolve ⟨3, 3, values⟩).apply {} = (.ok (), after) ∧
        after.tokens = [] ++ ["-convolve", text] ∧
        Text.splitAll ',' text.toList = values.map (·.text.toList) ∧ values.length = 9 := by
  intro less values
  obtain ⟨made, -, -, -, written⟩ := ofValues_exact 3 3 values
  have kernel : ofValues 3 3 values = .ok ⟨3, 3, values⟩ :=
    (made _).mpr ⟨rfl, by decide, by decide, rfl⟩
  obtain ⟨text, grown⟩ := written _ {} _ kernel rfl
  exact ⟨kernel, _, text, rfl, grown⟩

/-- Dimensions whose product is `2 ^ 64` make a kernel without values. -/
theorem product_wraps :
    let side : UInt64 := 4294967296
    ofValues side side [] = .ok ⟨side, side, []⟩ ∧
      ([] : List Binary64).length ≠ side.toNat * side.toNat := by
  decide

end Kernel

end Retouch
