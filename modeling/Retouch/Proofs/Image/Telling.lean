import Retouch.Proofs.Image.Course
import Retouch.Proofs.Text.Reading
import Retouch.Tool.Script

/-!
Cropping, resizing and filling write all of their parameters into the command line, so that the
tokens tell the edit. The numbers in them have no fixed width: they are told apart by the marks
between them, which occur in none of them.
-/
namespace Retouch

namespace Text

/-- Texts that end at the first mark are the same when they go on alike. -/
theorem append_mark_inj {mark : Char} {a a' b b' : List Char} (absent : mark ∉ a)
    (absent' : mark ∉ a') (same : a ++ mark :: b = a' ++ mark :: b') : a = a' ∧ b = b' := by
  have split := congrArg (splitOnce mark) same
  rw [splitOnce_append absent, splitOnce_append absent'] at split
  exact Prod.mk.inj (Option.some.inj split)

theorem mark_not_mem {mark : Char} (other : mark.isDigit = false) (n : Nat) :
    mark ∉ Nat.toDigits 10 n := by
  intro member
  rw [isDigit_of_mem member] at other
  cases other

theorem toDigits_word_inj {n m : UInt32}
    (same : Nat.toDigits 10 n.toNat = Nat.toDigits 10 m.toNat) : n = m := by
  have read := congrArg word32? same
  rw [word32?_toDigits, word32?_toDigits] at read
  exact Option.some.inj read

end Text

namespace Filter

/-- The filter that has the name; without a name it is the undefined one. -/
def ofToolName? (name : Option String) : Option Filter := all.find? (·.toolName? == name)

theorem ofToolName?_toolName? (filter : Filter) : ofToolName? filter.toolName? = some filter := by
  cases filter <;> decide

theorem toolName?_injective : Function.Injective toolName? := by
  intro filter other same
  have found := congrArg ofToolName? same
  rw [ofToolName?_toolName?, ofToolName?_toolName?] at found
  exact Option.some.inj found

end Filter

theorem Point.offset_chars (point : Point) : point.offset.toList =
    '+' :: (Nat.toDigits 10 point.x.toNat ++ '+' :: Nat.toDigits 10 point.y.toNat) := by
  simp only [offset, String.toList_append, toList_toString_word, List.append_assoc]
  rfl

theorem geometry_inj {size size' : Size} {start start' : Point}
    (same : size.text ++ start.offset = size'.text ++ start'.offset) :
    size = size' ∧ start = start' := by
  have apart {mark : Char} (other : mark.isDigit = false) (n : UInt32) :=
    Text.mark_not_mem other n.toNat
  have chars := congrArg String.toList same
  simp only [String.toList_append, Size.text_chars, Point.offset_chars, List.append_assoc,
    List.cons_append] at chars
  obtain ⟨widths, chars⟩ := Text.append_mark_inj (apart rfl _) (apart rfl _) chars
  obtain ⟨heights, chars⟩ := Text.append_mark_inj (apart rfl _) (apart rfl _) chars
  obtain ⟨lefts, tops⟩ := Text.append_mark_inj (apart rfl _) (apart rfl _) chars
  have sizes : size = size' := by
    rw [Size.mk.injEq]
    exact ⟨Text.toDigits_word_inj widths, Text.toDigits_word_inj heights⟩
  have starts : start = start' := by
    rw [Point.mk.injEq]
    exact ⟨Text.toDigits_word_inj lefts, Text.toDigits_word_inj tops⟩
  exact ⟨sizes, starts⟩

namespace Alteration

/-- The edits that put all of their parameters into the command line. -/
inductive Written {ι : Type} : Alteration ι → Prop
  | crop (start : Point) (size : Size) : Written (crop start size)
  | resize (size : Size) (filter : Filter) : Written (resize size filter)
  | fill (content : Fill) : Written (fill content)

theorem appended_inj {edit edit' : Alteration Image} {palette palette' : Palette} {own own' : Size}
    {file file' : ScratchFile} (written : edit.Written) (written' : edit'.Written)
    (same : edit.appended palette own file = edit'.appended palette' own' file') :
    edit = edit' ∧ ∀ content, edit = fill content → own = own' := by
  cases written <;> cases written' <;>
    simp only [appended, List.cons_append, List.nil_append, List.cons.injEq] at same
  case crop.crop start size start' size' =>
    obtain ⟨rfl, rfl⟩ := geometry_inj same.2.1
    exact ⟨rfl, by rintro _ ⟨⟩⟩
  case resize.resize size filter size' filter' =>
    obtain ⟨-, sizes, filters⟩ := same
    obtain rfl := Size.text_injective sizes
    have names : filter.toolName? = filter'.toolName? := by
      revert filters
      cases filter.toolName? <;> cases filter'.toolName? <;> simp
    obtain rfl := Filter.toolName?_injective names
    exact ⟨rfl, by rintro _ ⟨⟩⟩
  case fill.fill content content' =>
    obtain ⟨rfl, rfl, -⟩ := Fill.canvas_append_inj same.2
    exact ⟨rfl, fun _ _ => rfl⟩
  all_goals
    -- The first token tells the kinds apart.
    exact absurd same.1 (by decide)

/-- What an edit that has gone through leaves behind in the command line. -/
theorem apply_ok {kit : Tool.Kit} {edit : Alteration Image} {image : Image} {world : World}
    {after : Desk} (done : edit.apply kit ⟨image, world⟩ = (.ok (), after)) :
    ∃ own file, (edit.isSized = true → (image.measure kit world).1 = .ok own) ∧
      after.image.arguments.tokens =
        image.arguments.tokens ++ edit.appended image.palette own file := by
  rw [apply_eq] at done
  obtain ⟨size, sized⟩ := edit.sized_with (image.measure kit world).1 image
  rw [sized] at done
  cases settled : edit.settle (edit.needs kit image world) { image with size } with
  | error cause =>
    rw [settled] at done
    cases done
  | ok out =>
    rw [settled] at done
    cases done
    obtain ⟨own, file, measured, -, rfl⟩ := settle_ok settled
    exact ⟨own, file, measured, rfl⟩

theorem tokens_tell_edit {kit kit' : Tool.Kit} {edit edit' : Alteration Image}
    {image image' : Image} {world world' : World} {after after' : Desk} {added : List String}
    (written : edit.Written) (written' : edit'.Written)
    (done : edit.apply kit ⟨image, world⟩ = (.ok (), after))
    (done' : edit'.apply kit' ⟨image', world'⟩ = (.ok (), after'))
    (grown : after.image.arguments.tokens = image.arguments.tokens ++ added)
    (grown' : after'.image.arguments.tokens = image'.arguments.tokens ++ added) :
    edit = edit' ∧ ∀ content, edit = fill content →
      ∃ size, (image.measure kit world).1 = .ok size ∧
        (image'.measure kit' world').1 = .ok size := by
  obtain ⟨own, file, measured, tokens⟩ := apply_ok done
  obtain ⟨own', file', measured', tokens'⟩ := apply_ok done'
  have appended : added = edit.appended image.palette own file :=
    List.append_cancel_left (grown.symm.trans tokens)
  have appended' : added = edit'.appended image'.palette own' file' :=
    List.append_cancel_left (grown'.symm.trans tokens')
  obtain ⟨rfl, sizes⟩ := appended_inj written written' (appended.symm.trans appended')
  refine ⟨rfl, ?_⟩
  rintro content rfl
  refine ⟨own, measured rfl, ?_⟩
  rw [sizes content rfl]
  exact measured' rfl

/-- A photo whose size is asked for and a canvas whose size is known are both filled from left to
right, from a faint color to one without transparency. -/
theorem tokens_tell_edit_gradient :
    let kit : Tool.Kit := ⟨["convert"], ["identify"], "systmp"⟩
    let world : World := { tool := Tool.steady (.ran (.ok (Text.Utf8.encode "100x50\n")) []) }
    let photo : Image := .ofFile "a.png" none .rgb 1 {}
    let canvas : Image := ⟨["-size", "100x50", "xc:#ffffff"], none, {}, .rgb, some ⟨100, 50⟩,
      .ofFrames 1, {}⟩
    let content : Fill := .horizontal ⟨1, 2, 3, 4⟩ ⟨255, 136, 0, 255⟩
    let added := ["(", "-size", "100x50", "-define", "gradient:direction=East",
      "gradient:#01020304-#ff8800", ")", "-compose", "Over", "-composite"]
    let filled (image : Image) := (fill content).apply kit ⟨image, world⟩
    ((filled photo).1 = .ok () ∧ (filled photo).2.image.arguments.tokens = added) ∧
      ((filled canvas).1 = .ok () ∧ (filled canvas).2.image.arguments.tokens = added) ∧
      ∃ size, (photo.measure kit world).1 = .ok size ∧ (canvas.measure kit world).1 = .ok size := by
  intro kit world photo canvas content added filled
  have photoDone : filled photo = (.ok (), (filled photo).2) := rfl
  have canvasDone : filled canvas = (.ok (), (filled canvas).2) := rfl
  have photoGrown : (filled photo).2.image.arguments.tokens = added := by decide +kernel
  have canvasGrown : (filled canvas).2.image.arguments.tokens = added := by decide +kernel
  have told := tokens_tell_edit (.fill content) (.fill content) photoDone canvasDone photoGrown
    canvasGrown
  exact ⟨⟨rfl, photoGrown⟩, ⟨rfl, canvasGrown⟩, told.2 content rfl⟩

end Alteration

end Retouch
