import Retouch.Proofs.Image.Outcome

/-!
Which parts of an image decide what an edit does: whether it goes through, and with which cause it
is refused, depends on the answers it gets and, where a frame is removed, on the frames; what it
appends, on the palette and on the size asked for.
-/
namespace Retouch.Alteration

theorem objection_eq {needs needs' : Needs} {x y : Image} {edit : Alteration Image}
    (frames : ∀ index, edit = removeLayer index → x.layers.frames = y.layers.frames)
    (own : needs.own = needs'.own)
    (other : ∀ operand ∈ edit.operand?, needs.other = needs'.other)
    (file : ∀ content ∈ edit.fileContent?, verdict needs.file = verdict needs'.file) :
    edit.objection needs x = edit.objection needs' y := by
  cases edit with
  | crop start size => simp only [objection, own]
  | fill content => simp only [objection, own]
  | paste pasted start alpha => simp only [objection, own, other pasted rfl]
  | applyMask mask => simp only [objection, own, other mask rfl]
  | profile data => exact file data.data rfl
  | removeLayer index => simp only [objection, Layers.checkRemovable, frames index rfl]
  | _ => rfl

end Retouch.Alteration
