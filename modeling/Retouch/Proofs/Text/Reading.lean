import Mathlib.Data.List.Basic
import Retouch.Fill
import Retouch.Proofs.Text.Encoded
import Retouch.Proofs.Text.Letters
import Retouch.Tool.Readout

/-!
Texts that are read back: sizes and colors, and the canvases they describe.
-/
namespace Retouch

namespace Text

theorem splitOnce_append {mark : Char} {a : List Char} (absent : mark ∉ a) (b : List Char) :
    splitOnce mark (a ++ mark :: b) = some (a, b) := by
  induction a with
  | nil => simp [splitOnce]
  | cons c rest ih =>
    have other : c ≠ mark := fun same => absent (by simp [same])
    have later : mark ∉ rest := fun member => absent (by simp [member])
    simp [splitOnce, other, ih later]

theorem trimChars_eq {cs : List Char} (filled : ∀ c ∈ cs, isBlank c = false) :
    trimChars cs = cs := by
  simpa using trimChars_between (List.forall_mem_nil _) filled (List.forall_mem_nil _)

theorem toNat_of_isDigit {c : Char} (digit : c.isDigit = true) : 48 ≤ c.toNat ∧ c.toNat ≤ 57 := by
  simp only [Char.isDigit, Bool.and_eq_true, decide_eq_true_eq, ge_iff_le,
    UInt32.le_iff_toNat_le] at digit
  exact digit

theorem isBlank_of_isDigit {c : Char} (digit : c.isDigit = true) : isBlank c = false := by
  have range := toNat_of_isDigit digit
  simp only [isBlank, Bool.or_eq_false_iff, Bool.and_eq_false_iff, decide_eq_false_iff_not,
    beq_eq_false_iff_ne, ne_eq]
  omega

theorem isDigit_of_mem {n : Nat} {c : Char} (member : c ∈ Nat.toDigits 10 n) :
    c.isDigit = true :=
  Nat.isDigit_of_mem_toDigits (by decide) (by decide) member

theorem word32?_toDigits (n : UInt32) : word32? (Nat.toDigits 10 n.toNat) = some n := by
  have small : n.toNat < 0x100000000 := n.toNat_lt
  simp [word32?, unsigned?_toDigits small]

end Text

namespace Text

theorem linesFrom_eq {cs : List Char} (reversed : List Char) (whole : '\n' ∉ cs)
    (filled : reversed.reverse ++ cs ≠ []) : linesFrom reversed cs = [reversed.reverse ++ cs] := by
  induction cs generalizing reversed with
  | nil =>
    have begun : reversed ≠ [] := by simpa using filled
    simp [linesFrom, begun]
  | cons c rest ih =>
    have other : c ≠ '\n' := fun same => whole (by simp [same])
    have later : '\n' ∉ rest := fun member => whole (by simp [member])
    simp [linesFrom, other, ih (c :: reversed) later (by simp)]

end Text

theorem toList_toString_word (n : UInt32) : (toString n).toList = Nat.toDigits 10 n.toNat := by
  simp [toString, Nat.repr]

namespace Size

theorem text_chars (size : Size) : size.text.toList =
    Nat.toDigits 10 size.width.toNat ++ 'x' :: Nat.toDigits 10 size.height.toNat := by
  simp only [text, String.toList_append, toList_toString_word, List.append_assoc]
  rfl

theorem read_text (size : Size) : Tool.Readout.size? size.text.toList = some size := by
  have absent : 'x' ∉ Nat.toDigits 10 size.width.toNat := by
    intro member
    exact absurd (Text.isDigit_of_mem member) (by decide)
  have trimmed (n : Nat) : Text.trimChars (Nat.toDigits 10 n) = Nat.toDigits 10 n :=
    Text.trimChars_eq fun c member => Text.isBlank_of_isDigit (Text.isDigit_of_mem member)
  rw [text_chars, Tool.Readout.size?, Text.splitOnce_append absent]
  simp [trimmed, Text.word32?_toDigits]

theorem mem_text {size : Size} {c : Char} (member : c ∈ size.text.toList) :
    c.isDigit = true ∨ c = 'x' := by
  rw [text_chars, List.mem_append, List.mem_cons] at member
  rcases member with width | mark | height
  · exact .inl (Text.isDigit_of_mem width)
  · exact .inr mark
  · exact .inl (Text.isDigit_of_mem height)

theorem isBlank_text {size : Size} {c : Char} (member : c ∈ size.text.toList) :
    Text.isBlank c = false := by
  rcases mem_text member with digit | rfl
  · exact Text.isBlank_of_isDigit digit
  · decide

theorem text_ne_nil (size : Size) : size.text.toList ≠ [] := by
  rw [text_chars]
  simp

theorem text_injective : Function.Injective text := by
  intro a b same
  have read := congrArg (fun s : String => Tool.Readout.size? s.toList) same
  simp only [read_text] at read
  exact Option.some.inj read

end Size

namespace Text

theorem hexDigit?_digitChar {n : Nat} (small : n < 16) : hexDigit? (Nat.digitChar n) = some n := by
  have every : ∀ m : Fin 16, hexDigit? (Nat.digitChar m) = some m.val := by decide
  exact every ⟨n, small⟩

/-- A hexadecimal digit, in a letter of either case. -/
def IsHex (c : Char) : Prop := (hexDigit? c).isSome = true

theorem isHex_digitChar (n : Nat) : IsHex (Nat.digitChar (n % 16)) := by
  rw [IsHex, hexDigit?_digitChar (Nat.mod_lt n (by decide))]
  rfl

theorem isHex_hexByte (n : Nat) : ∀ c ∈ hexByte n, IsHex c := by
  simp only [hexByte, List.forall_mem_cons, List.not_mem_nil, false_imp_iff, implies_true, and_true]
  exact ⟨isHex_digitChar _, isHex_digitChar _⟩

theorem hexPair?_hexByte {n : Nat} (small : n < 256) :
    hexPair? (Nat.digitChar (n / 16 % 16)) (Nat.digitChar (n % 16)) = some n := by
  have high : n / 16 % 16 < 16 := Nat.mod_lt _ (by decide)
  have low : n % 16 < 16 := Nat.mod_lt _ (by decide)
  have unsigned : Nat.digitChar (n / 16 % 16) ≠ '+' := by
    intro plus
    have read := hexDigit?_digitChar high
    rw [plus] at read
    cases read
  unfold hexPair?
  rw [if_neg unsigned, hexDigit?_digitChar high, hexDigit?_digitChar low]
  have whole : n / 16 % 16 * 16 + n % 16 = n := by omega
  simp [whole]

end Text

namespace Color

theorem pair_hex (channel : UInt8) :
    ofBody?.pair (Nat.digitChar (channel.toNat / 16 % 16)) (Nat.digitChar (channel.toNat % 16)) =
      some channel := by
  have small : channel.toNat < 256 := channel.toNat_lt
  simp [ofBody?.pair, Text.hexPair?_hexByte small]

theorem ofBody?_opaque (red green blue : UInt8) :
    ofBody? (chars.hex red ++ chars.hex green ++ chars.hex blue) =
      some ⟨red, green, blue, 255⟩ := by
  simp [chars.hex, Text.hexByte, ofBody?, pair_hex]

theorem ofBody?_whole (red green blue alpha : UInt8) :
    ofBody? (chars.hex red ++ chars.hex green ++ chars.hex blue ++ chars.hex alpha) =
      some ⟨red, green, blue, alpha⟩ := by
  simp [chars.hex, Text.hexByte, ofBody?, pair_hex]

/-- The digits of a color, without the hash sign. -/
def digits (color : Color) : List Char :=
  chars.hex color.red ++ chars.hex color.green ++ chars.hex color.blue ++
    if color.isOpaque then [] else chars.hex color.alpha

theorem chars_eq (color : Color) : color.chars = '#' :: color.digits := rfl

theorem ofBody?_digits (color : Color) : ofBody? color.digits = some color := by
  obtain ⟨red, green, blue, alpha⟩ := color
  by_cases full : alpha = 255
  · subst full
    simpa [digits, isOpaque] using ofBody?_opaque red green blue
  · simpa [digits, isOpaque, full] using ofBody?_whole red green blue alpha

theorem chars_injective : Function.Injective chars := by
  intro a b same
  have read := congrArg (fun cs : List Char => ofBody? cs.tail) same
  simp only [chars_eq, List.tail_cons, ofBody?_digits] at read
  exact Option.some.inj read

@[simp] theorem text_chars (color : Color) : color.text.toList = color.chars := by
  simp [text]

theorem isHex_digits (color : Color) : ∀ c ∈ color.digits, Text.IsHex c := by
  simp only [digits, List.forall_mem_append]
  refine ⟨⟨⟨Text.isHex_hexByte _, Text.isHex_hexByte _⟩, Text.isHex_hexByte _⟩, ?_⟩
  split
  · exact List.forall_mem_nil _
  · exact Text.isHex_hexByte _

theorem isHex_of_mem {color : Color} {c : Char} (member : c ∈ color.chars) :
    c = '#' ∨ Text.IsHex c := by
  rw [chars_eq, List.mem_cons] at member
  exact member.imp_right (isHex_digits color c)

theorem dash_not_mem (color : Color) : '-' ∉ color.chars := by
  intro member
  rcases isHex_of_mem member with same | hex
  · cases same
  · cases hex

end Color

namespace Fill

private theorem between_inj {a b c d : Color}
    (same : a.chars ++ '-' :: b.chars = c.chars ++ '-' :: d.chars) : a = c ∧ b = d := by
  rw [List.append_cons_inj_of_notMem a.dash_not_mem b.dash_not_mem] at same
  exact ⟨Color.chars_injective same.1, Color.chars_injective same.2.2⟩

private theorem solid_chars (color : Color) :
    (s!"xc:{color.text}").toList = 'x' :: 'c' :: ':' :: color.chars := by
  simp only [String.toList_append, toString, Color.text_chars]
  rfl

private theorem gradient_chars (start finish : Color) :
    (s!"gradient:{start.text}-{finish.text}").toList =
      'g' :: ("radient:".toList ++ (start.chars ++ '-' :: finish.chars)) := by
  simp only [String.toList_append, toString, Color.text_chars, List.append_assoc]
  rfl

private theorem radial_chars (inner outer : Color) :
    (s!"radial-gradient:{inner.text}-{outer.text}").toList =
      'r' :: ("adial-gradient:".toList ++ (inner.chars ++ '-' :: outer.chars)) := by
  simp only [String.toList_append, toString, Color.text_chars, List.append_assoc]
  rfl

theorem canvas_append_inj {fill other : Fill} {size size' : Size} {rest rest' : List String}
    (same : fill.canvas size ++ rest = other.canvas size' ++ rest') :
    fill = other ∧ size = size' ∧ rest = rest' := by
  simp only [canvas, List.cons_append, List.cons.injEq, true_and] at same
  obtain ⟨sizes, contents⟩ := same
  obtain rfl := Size.text_injective sizes
  cases fill <;> cases other <;>
    simp only [List.cons_append, List.nil_append, List.cons.injEq, true_and] at contents
  case solid.solid color color' =>
    obtain ⟨texts, rfl⟩ := contents
    have chars := congrArg String.toList texts
    simp only [solid_chars, List.cons.injEq, true_and] at chars
    exact ⟨congrArg solid (Color.chars_injective chars), rfl, rfl⟩
  case horizontal.horizontal start finish start' finish' =>
    obtain ⟨texts, rfl⟩ := contents
    have chars := congrArg String.toList texts
    simp only [gradient_chars, List.cons.injEq, true_and, List.append_cancel_left_eq] at chars
    obtain ⟨rfl, rfl⟩ := between_inj chars
    exact ⟨rfl, rfl, rfl⟩
  case vertical.vertical start finish start' finish' =>
    obtain ⟨texts, rfl⟩ := contents
    have chars := congrArg String.toList texts
    simp only [gradient_chars, List.cons.injEq, true_and, List.append_cancel_left_eq] at chars
    obtain ⟨rfl, rfl⟩ := between_inj chars
    exact ⟨rfl, rfl, rfl⟩
  case radial.radial inner outer inner' outer' =>
    obtain ⟨texts, rfl⟩ := contents
    have chars := congrArg String.toList texts
    simp only [radial_chars, List.cons.injEq, true_and, List.append_cancel_left_eq] at chars
    obtain ⟨rfl, rfl⟩ := between_inj chars
    exact ⟨rfl, rfl, rfl⟩
  all_goals
    -- The first character of the content tells the kinds apart.
    have first := congrArg (fun text : String => text.toList.head?) contents.1
    simp only [solid_chars, gradient_chars, radial_chars, List.head?_cons] at first
    cases first

end Fill

end Retouch
