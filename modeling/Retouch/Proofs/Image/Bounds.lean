import Retouch.Proofs.Image.Course
import Retouch.Proofs.Tool.Calls
import Retouch.Tool.Script

/-!
What the checks of a corner and a size come to, pixel by pixel. Pixels are counted here in whole
numbers without a limit, so that the far edge of a box may lie beyond the last coordinate there is.
-/
namespace Retouch

namespace Size

/-- A canvas of this size has the pixel. -/
def Has (size : Size) (x y : Nat) : Prop := x < size.width.toNat ∧ y < size.height.toNat

/-- The pixel is one of the box of this size that has its corner at `start`. -/
def Covers (size : Size) (start : Point) (x y : Nat) : Prop :=
  (start.x.toNat ≤ x ∧ x < start.x.toNat + size.width.toNat) ∧
    start.y.toNat ≤ y ∧ y < start.y.toNat + size.height.toNat

/-- No pixel of the box lies off the canvas. -/
def Within (size : Size) (start : Point) (canvas : Size) : Prop :=
  ∀ x y, size.Covers start x y → canvas.Has x y

theorem isEmpty_eq_false {size : Size} :
    size.isEmpty = false ↔ 0 < size.width.toNat ∧ 0 < size.height.toNat := by
  simp only [isEmpty, Bool.or_eq_false_iff, beq_eq_false_iff_ne, ne_eq, ← UInt32.toNat_inj,
    UInt32.toNat_zero]
  omega

theorem covers_corner {size : Size} (filled : size.isEmpty = false) (start : Point) :
    size.Covers start start.x.toNat start.y.toNat := by
  rw [isEmpty_eq_false] at filled
  unfold Covers
  omega

end Size

theorem Point.isIn_iff {point : Point} {size : Size} :
    point.isIn size = true ↔ size.Has point.x.toNat point.y.toNat := by
  simp only [isIn, Size.Has, Bool.and_eq_true, decide_eq_true_eq, UInt32.lt_iff_toNat_lt]

namespace Size

/-- The corner farthest from the start decides for the whole box. A box without pixels has no such
corner, and its start counts all the same. -/
theorem contains_iff {canvas size : Size} {start : Point} (filled : size.isEmpty = false) :
    canvas.contains size start = true ↔ size.Within start canvas := by
  rw [isEmpty_eq_false] at filled
  simp only [contains, Bool.and_eq_true, decide_eq_true_eq]
  constructor
  · rintro ⟨across, down⟩ x y ⟨⟨_, _⟩, _, _⟩
    constructor <;> omega
  · intro inside
    have far := inside (start.x.toNat + size.width.toNat - 1)
      (start.y.toNat + size.height.toNat - 1) (by unfold Covers; omega)
    unfold Has at far
    omega

end Size

/-- The edit goes through exactly when the condition holds, and if not it is out of range. -/
def RangeChecked (inside : Prop) (result : Except Cause Unit) : Prop :=
  (result = .ok () ↔ inside) ∧ (inside ∨ ∃ reason, result = .error (.outOfRange reason))

theorem rangeChecked_refuseIf {outside : Bool} {inside : Prop} (reason : String)
    (decides : outside = false ↔ inside) :
    RangeChecked inside (refuseIf outside (.outOfRange reason)) := by
  refine ⟨refuseIf_eq_ok.trans decides, ?_⟩
  cases outside with
  | false => exact .inl (decides.mp rfl)
  | true => exact .inr ⟨reason, rfl⟩

theorem Edit.ended_result (objection : Except Cause Unit) (out before : Image) (after : World) :
    (Edit.ended (objection.map fun _ => out) before after).1 = objection := by
  cases objection <;> rfl

namespace Image
variable {image other : Image} {bounds size : Size} {start : Point}

/-- A box that has pixels and stays inside starts inside, so that the check of its corner never
decides. -/
theorem crop_accepted_iff :
    (size.isEmpty || !start.isIn bounds || !bounds.contains size start) = false ↔
      size.isEmpty = false ∧ size.Within start bounds := by
  simp only [Bool.or_eq_false_iff, Bool.not_eq_false', and_assoc]
  constructor
  · rintro ⟨filled, -, inside⟩
    exact ⟨filled, (Size.contains_iff filled).mp inside⟩
  · rintro ⟨filled, inside⟩
    have corner := inside _ _ (Size.covers_corner filled start)
    exact ⟨filled, Point.isIn_iff.mpr corner, (Size.contains_iff filled).mpr inside⟩

theorem checkCrop_rangeChecked (bounds : Size) (start : Point) (size : Size) :
    RangeChecked (size.isEmpty = false ∧ size.Within start bounds)
      (Revision.checkCrop bounds start size) :=
  rangeChecked_refuseIf _ crop_accepted_iff

theorem checkPaste_rangeChecked (bounds : Size) (start : Point) (filled : size.isEmpty = false) :
    RangeChecked (size.Within start bounds) (Revision.checkPaste bounds size start) :=
  rangeChecked_refuseIf _ (by rw [Bool.not_eq_false', Size.contains_iff filled])

section Sized
variable {kit : Tool.Kit} {world after last : World}

theorem crop_eq (resolved : image.measure kit world = (.ok bounds, after)) (start : Point)
    (size : Size) (file : ScratchFile) : (Alteration.crop start size).apply kit ⟨image, world⟩ =
      Edit.ended ((Revision.checkCrop bounds start size).map fun _ =>
          (Alteration.crop start size).outcome bounds file (image.resized (some bounds)))
        (image.resized (some bounds)) after := by
  simp only [Alteration.apply, Edit.bind_resolve, resolved]
  exact Edit.revise_eq (Revision.crop_eq bounds file _ bounds start size) after

theorem paste_eq {alpha : UInt8} (allowed : alpha ≤ 100)
    (resolved : image.measure kit world = (.ok bounds, after))
    (measured : other.measure kit after = (.ok size, last)) (start : Point) (file : ScratchFile) :
    (Alteration.paste other start alpha).apply kit ⟨image, world⟩ =
      Edit.ended ((Revision.checkPaste bounds size start).map fun _ =>
          (Alteration.paste other start alpha).outcome bounds file (image.resized (some bounds)))
        (image.resized (some bounds)) last := by
  have checked : Revision.checkAlpha alpha = .ok () := by
    rw [Revision.checkAlpha, decide_eq_false (UInt8.not_lt.mpr allowed), refuseIf_false]
  simp only [Alteration.apply, Stepwise.bind_checked, checked, Edit.bind_resolve, resolved,
    Edit.bind_outside, measured]
  exact Edit.revise_eq (Revision.paste_eq bounds file _ other bounds size start alpha) last

theorem colorAt_eq (resolved : image.measure kit world = (.ok bounds, after)) (point : Point) :
    colorAt kit point ⟨image, world⟩ =
      if point.isIn bounds then
        ((kit.colorAt image.tokens point after).1,
          ⟨image.resized (some bounds), (kit.colorAt image.tokens point after).2⟩)
      else (.error (.outOfRange s!"point {point.offset} is outside the {bounds.text} image"),
        ⟨image.resized (some bounds), after⟩) := by
  unfold colorAt
  rw [Edit.bind_resolve, resolved]
  simp only
  split <;> rfl

theorem colorAt_calls (kit : Tool.Kit) (tokens : List String) (point : Point) (world : World) :
    (kit.colorAt tokens point world).2.calls =
      world.calls ++ world.entry (kit.pixelCall tokens point) := by
  rw [← World.run_calls]
  unfold Tool.Kit.colorAt
  rw [Stepwise.bind_apply]
  rcases World.run (kit.pixelCall tokens point) world with ⟨cause | output, later⟩
  · rfl
  · simp only [Act.checked]

theorem crop_geometry (size : Size) (start : Point) : size.text ++ start.offset =
    s!"{size.width}x{size.height}+{start.x}+{start.y}" := by
  simp only [Size.text, Point.offset, String.append_assoc]

theorem crop_exact (resolved : image.measure kit world = (.ok bounds, after)) (start : Point)
    (size : Size) :
    RangeChecked (size.isEmpty = false ∧ size.Within start bounds)
        ((Alteration.crop start size).apply kit ⟨image, world⟩).1 ∧
      (((Alteration.crop start size).apply kit ⟨image, world⟩).1 = .ok () →
        ((Alteration.crop start size).apply kit ⟨image, world⟩).2.image.arguments.tokens =
          image.arguments.tokens ++
            ["-crop", s!"{size.width}x{size.height}+{start.x}+{start.y}"]) := by
  have checked := checkCrop_rangeChecked bounds start size
  rw [crop_eq resolved start size default, Edit.ended_result]
  refine ⟨checked, fun passed => ?_⟩
  rw [passed, ← crop_geometry]
  rfl

theorem paste_exact {alpha : UInt8} (allowed : alpha ≤ 100)
    (resolved : image.measure kit world = (.ok bounds, after))
    (measured : other.measure kit after = (.ok size, last)) (filled : size.isEmpty = false)
    (start : Point) :
    RangeChecked (size.Within start bounds)
      ((Alteration.paste other start alpha).apply kit ⟨image, world⟩).1 := by
  rw [paste_eq allowed resolved measured start default, Edit.ended_result]
  exact checkPaste_rangeChecked bounds start filled

/-- Off the canvas nothing is asked after the size; on it the color is, and what comes of it is what
comes of that question. -/
theorem colorAt_exact (resolved : image.measure kit world = (.ok bounds, after)) (point : Point) :
    bounds.Has point.x.toNat point.y.toNat ∧
        (colorAt kit point ⟨image, world⟩).1 = (kit.colorAt image.tokens point after).1 ∧
        (colorAt kit point ⟨image, world⟩).2.world.calls =
          after.calls ++ after.entry (kit.pixelCall image.tokens point) ∨
      ¬bounds.Has point.x.toNat point.y.toNat ∧
        (∃ reason, (colorAt kit point ⟨image, world⟩).1 = .error (.outOfRange reason)) ∧
        (colorAt kit point ⟨image, world⟩).2.world = after := by
  rw [colorAt_eq resolved, ← Point.isIn_iff]
  by_cases held : point.isIn bounds = true
  · rw [if_pos held]
    exact .inl ⟨held, rfl, colorAt_calls kit image.tokens point after⟩
  · rw [if_neg held]
    exact .inr ⟨held, ⟨_, rfl⟩, rfl⟩

theorem bounds_exact (resolved : image.measure kit world = (.ok bounds, after)) :
    (∀ start size,
      let cropped := (Alteration.crop start size).apply kit ⟨image, world⟩
      RangeChecked (size.isEmpty = false ∧ size.Within start bounds) cropped.1 ∧
        (cropped.1 = .ok () → cropped.2.image.arguments.tokens = image.arguments.tokens ++
          ["-crop", s!"{size.width}x{size.height}+{start.x}+{start.y}"])) ∧
    (∀ other size last start alpha, alpha ≤ 100 → other.measure kit after = (.ok size, last) →
      size.isEmpty = false → RangeChecked (size.Within start bounds)
        ((Alteration.paste other start alpha).apply kit ⟨image, world⟩).1) ∧
    ∀ point,
      let sampled := colorAt kit point ⟨image, world⟩
      let call := kit.pixelCall image.tokens point
      let inside := bounds.Has point.x.toNat point.y.toNat
      (inside → sampled.1 = (kit.colorAt image.tokens point after).1) ∧
      (after.starts call = true →
        (sampled.2.world.calls = after.calls ++ [call] ↔ inside)) ∧
      (¬inside → (∃ reason, sampled.1 = .error (.outOfRange reason)) ∧
        sampled.2.world = after) := by
  refine ⟨crop_exact resolved, fun other size last start alpha allowed measured filled =>
    paste_exact allowed resolved measured filled start, ?_⟩
  intro point sampled call inside
  rcases colorAt_exact resolved point with ⟨held, color, calls⟩ | ⟨outside, refused, still⟩
  · refine ⟨fun _ => color, fun starts => iff_of_true ?_ held, fun outside => (outside held).elim⟩
    rw [calls, World.entry, if_pos starts]
  · refine ⟨fun held => (outside held).elim, fun _ => iff_of_false ?_ outside,
      fun _ => ⟨refused, still⟩⟩
    rw [still]
    simp

/-- A box that touches the far edges of a photo, one whose far edge is past the last coordinate, and
the pixel just off the corner. -/
theorem bounds_exact_edges :
    let kit : Tool.Kit := ⟨["convert"], ["identify"], "systmp"⟩
    let photo : Image := .ofFile "a.png" none .rgb 1 {}
    let world : World := { tool := Tool.steady (.ran (.ok (Text.Utf8.encode "100x50\n")) []) }
    let after : World := { world with calls := [kit.sizeCall photo.tokens] }
    let corner := (Alteration.crop ⟨90, 40⟩ ⟨10, 10⟩).apply kit ⟨photo, world⟩
    let wide := (Alteration.crop ⟨1, 0⟩ ⟨4294967295, 1⟩).apply kit ⟨photo, world⟩
    photo.measure kit world = (.ok ⟨100, 50⟩, after) ∧
      (corner.1 = .ok () ∧ corner.2.image.arguments.tokens = ["-crop", "10x10+90+40"]) ∧
      (¬Size.Within ⟨4294967295, 1⟩ ⟨1, 0⟩ ⟨100, 50⟩ ∧
        ∃ reason, wide.1 = .error (.outOfRange reason)) ∧
      (colorAt kit ⟨100, 50⟩ ⟨photo, world⟩).2.world = after := by
  intro kit photo world after corner wide
  have resolved : photo.measure kit world = (.ok ⟨100, 50⟩, after) := rfl
  obtain ⟨crops, -, colors⟩ := bounds_exact resolved
  have inside : Size.Within ⟨10, 10⟩ ⟨90, 40⟩ ⟨100, 50⟩ := by
    rw [← Size.contains_iff rfl]
    decide
  have outside : ¬Size.Within ⟨4294967295, 1⟩ ⟨1, 0⟩ ⟨100, 50⟩ := by
    rw [← Size.contains_iff rfl]
    decide
  have done : corner.1 = .ok () := (crops _ _).1.1.mpr ⟨rfl, inside⟩
  refine ⟨resolved, ⟨done, (crops _ _).2 done⟩, ⟨outside, ?_⟩, ?_⟩
  · exact (crops _ _).1.2.resolve_left fun held => outside held.2
  · exact ((colors ⟨100, 50⟩).2.2 (by unfold Size.Has; decide)).2

end Sized

end Image

end Retouch
