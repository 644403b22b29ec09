import Retouch.Proofs.Image.Course

/-!
Questions leave an image as it is, but that its size may become known on the way, and then it is the
one the tool answered for the tokens at hand.
-/
namespace Retouch.Image

/-- The image is the same, but that its size may have become known by an answer of the tool. -/
def Learned (kit : Tool.Kit) (world : World) (before after : Image) : Prop :=
  after = before ∨
    before.size = none ∧ ∃ size, (kit.size before.tokens world).1 = .ok size ∧
      after = { before with size := some size }

variable {kit : Tool.Kit}

theorem learned_resized {world : World} {image : Image} {size : Size}
    (measured : (image.measure kit world).1 = .ok size) :
    Learned kit world image (image.resized (some size)) := by
  unfold measure at measured
  cases cached : image.size with
  | some known =>
    rw [cached] at measured
    have same : known = size := Except.ok.inj measured
    left
    rw [resized, ← same, ← cached]
  | none =>
    rw [cached] at measured
    exact .inr ⟨cached, size, measured, rfl⟩

theorem learned_sized (edit : Alteration Image) (image : Image) (world : World) :
    Learned kit world image (edit.sized (image.measure kit world).1 image) := by
  rcases edit.sized_eq (image.measure kit world).1 image with same | ⟨size, measured, grown⟩
  · exact .inl same
  · rw [grown]
    exact learned_resized measured

theorem learned_resolve (image : Image) (world : World) :
    Learned kit world image (resolve kit ⟨image, world⟩).2.image := by
  rw [resolve_eq]
  rcases measured : image.measure kit world with ⟨_ | size, after⟩
  · exact .inl rfl
  · exact learned_resized (congrArg Prod.fst measured)

theorem learned_colorAt (point : Point) (image : Image) (world : World) :
    Learned kit world image (colorAt kit point ⟨image, world⟩).2.image := by
  unfold colorAt
  rw [Edit.bind_resolve]
  rcases measured : image.measure kit world with ⟨_ | size, after⟩
  · exact .inl rfl
  · have learned := learned_resized (congrArg Prod.fst measured)
    simp only
    split <;> exact learned

theorem learned_histogram (image : Image) (world : World) :
    Learned kit world image (histogram kit ⟨image, world⟩).2.image := .inl rfl

theorem learned_refused {edit : Alteration Image} {image : Image} {world : World} {cause : Cause}
    (refused : (edit.apply kit ⟨image, world⟩).1 = .error cause) :
    Learned kit world image (edit.apply kit ⟨image, world⟩).2.image := by
  rw [Alteration.apply_eq] at refused ⊢
  cases settled : edit.settle (edit.needs kit image world)
      (edit.sized (image.measure kit world).1 image) with
  | ok after =>
    rw [settled] at refused
    cases refused
  | error cause => exact learned_sized edit image world

theorem Learned.input {world : World} {before after : Image}
    (learned : Learned kit world before after) : after.input = before.input := by
  rcases learned with rfl | ⟨-, size, -, rfl⟩ <;> rfl

theorem Learned.arguments {world : World} {before after : Image}
    (learned : Learned kit world before after) : after.arguments = before.arguments := by
  rcases learned with rfl | ⟨-, size, -, rfl⟩ <;> rfl

theorem Learned.tokens {world : World} {before after : Image}
    (learned : Learned kit world before after) : after.tokens = before.tokens := by
  rw [Image.tokens, Image.tokens, learned.input, learned.arguments]

theorem Learned.palette {world : World} {before after : Image}
    (learned : Learned kit world before after) : after.palette = before.palette := by
  rcases learned with rfl | ⟨-, size, -, rfl⟩ <;> rfl

theorem Learned.layers {world : World} {before after : Image}
    (learned : Learned kit world before after) : after.layers = before.layers := by
  rcases learned with rfl | ⟨-, size, -, rfl⟩ <;> rfl

end Retouch.Image
