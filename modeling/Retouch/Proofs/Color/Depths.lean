import Retouch.Proofs.Text.Reading

/-!
Colors in eight bits a channel and in sixteen, written and read back. Of a wide channel the upper
eight bits count, and neither letter case nor what stands around the digits makes a difference.
-/
namespace Retouch

namespace Text

theorem hexDigit?_eq (c : Char) : hexDigit? c =
    if 48 ≤ c.toNat ∧ c.toNat ≤ 57 then some (c.toNat - 48)
    else if 97 ≤ c.toNat ∧ c.toNat ≤ 102 then some (c.toNat - 87)
    else if 65 ≤ c.toNat ∧ c.toNat ≤ 70 then some (c.toNat - 55)
    else none := by
  have range (low high : Char) : (decide (low ≤ c) && decide (c ≤ high)) = true ↔
      low.toNat ≤ c.toNat ∧ c.toNat ≤ high.toNat := by
    simp only [Bool.and_eq_true, decide_eq_true_eq, Char.le_def, UInt32.le_iff_toNat_le]
    rfl
  simp only [hexDigit?, range]
  rfl

theorem hexDigit?_toLower (c : Char) : hexDigit? c.toLower = hexDigit? c := by
  rcases toLower_cases c with same | ⟨least, most, lowered⟩
  · rw [same]
  · rw [hexDigit?_eq, hexDigit?_eq, lowered]
    grind

theorem hexPair?_toLower (high low : Char) :
    hexPair? high.toLower low.toLower = hexPair? high low := by
  have plus : high.toLower = '+' ↔ high = '+' :=
    ⟨fun lower => eq_of_toLower lower (by decide), by rintro rfl; rfl⟩
  simp only [hexPair?, plus, hexDigit?_toLower]

theorem toLower_digitChar (n : Nat) :
    (Nat.digitChar (n % 16)).toLower = Nat.digitChar (n % 16) := by
  have every : ∀ m : Fin 16, (Nat.digitChar m).toLower = Nat.digitChar m := by decide
  exact every ⟨n % 16, Nat.mod_lt n (by decide)⟩

/-- A digit is no blank and no hash sign, and takes one byte. -/
theorem IsHex.plain {c : Char} (digit : IsHex c) :
    isBlank c = false ∧ c ≠ '#' ∧ c.toNat < 128 := by
  have range : 48 ≤ c.toNat ∧ c.toNat ≤ 102 := by
    rw [IsHex, hexDigit?_eq] at digit
    grind
  refine ⟨?_, ?_, by omega⟩
  · simp only [isBlank, Bool.or_eq_false_iff, Bool.and_eq_false_iff, decide_eq_false_iff_not,
      beq_eq_false_iff_ne, ne_eq]
    omega
  · rintro rfl
    exact absurd range.1 (by decide)

theorem isHex_map_toLower {cs : List Char} :
    (∀ c ∈ cs.map Char.toLower, IsHex c) ↔ ∀ c ∈ cs, IsHex c := by
  simp only [List.forall_mem_map, IsHex, hexDigit?_toLower]

theorem Utf8.size_ascii {cs : List Char} (ascii : ∀ c ∈ cs, c.toNat < 128) :
    size cs = cs.length := by
  induction cs with
  | nil => rfl
  | cons c rest ih =>
    have small : c.toNat < 128 := ascii c (by simp)
    have one : c.utf8Size = 1 :=
      Char.utf8Size_eq_one_iff.mpr (UInt32.le_iff_toNat_le.mpr (Nat.le_of_lt_succ small))
    have later := ih fun d member => ascii d (by simp [member])
    simp only [size, List.foldr_cons, List.length_cons] at later ⊢
    omega

/-- Sixteen bits as four digits. -/
def hexWord (n : UInt16) : List Char :=
  [4096, 256, 16, 1].map fun place => Nat.digitChar (n.toNat / place % 16)

theorem isHex_hexWord (n : UInt16) : ∀ c ∈ hexWord n, IsHex c := by
  rw [hexWord, List.forall_mem_map]
  exact fun place _ => isHex_digitChar _

/-- The text has some digits in it, in letters of any case, with a hash sign before them or without
one, and with blanks around. -/
def Shows (s : String) (digits : List Char) : Prop :=
  ∃ before mark body after, s.toList = before ++ mark ++ body ++ after ∧
    (∀ c ∈ before, isBlank c = true) ∧ (∀ c ∈ after, isBlank c = true) ∧
    (mark = [] ∨ mark = ['#']) ∧ body.map Char.toLower = digits

theorem shows_ofList (cs : List Char) : Shows (.ofList cs) (cs.map Char.toLower) :=
  ⟨[], [], cs, [], by simp, List.forall_mem_nil _, List.forall_mem_nil _, .inl rfl, rfl⟩

end Text

namespace Color

theorem body_between {before marks digits after : List Char}
    (front : ∀ c ∈ before, Text.isBlank c = true) (back : ∀ c ∈ after, Text.isBlank c = true)
    (hashes : ∀ c ∈ marks, c = '#')
    (plain : ∀ c ∈ digits, Text.isBlank c = false ∧ c ≠ '#') :
    body (before ++ marks ++ digits ++ after) = digits := by
  have filled : ∀ c ∈ marks ++ digits, Text.isBlank c = false := by
    intro c member
    rcases List.mem_append.mp member with sign | digit
    · rw [hashes c sign]
      rfl
    · exact (plain c digit).1
  have bare : digits.dropWhile (· == '#') = digits := by
    cases digits with
    | nil => rfl
    | cons c rest => exact List.dropWhile_cons_of_neg (by simp [(plain c (by simp)).2])
  rw [body, List.append_assoc before, Text.trimChars_between front filled back,
    List.dropWhile_append_of_pos (by simpa using hashes), bare]

theorem body_shown {s : String} {digits : List Char} (shown : Text.Shows s digits)
    (every : ∀ c ∈ digits, Text.IsHex c) : (body s.toList).map Char.toLower = digits := by
  obtain ⟨before, mark, written, after, whole, front, back, marked, rfl⟩ := shown
  have hashes : ∀ c ∈ mark, c = '#' := by rcases marked with rfl | rfl <;> simp
  have plain : ∀ c ∈ written, Text.isBlank c = false ∧ c ≠ '#' := by
    intro c member
    have digit := (Text.isHex_map_toLower.mp every c member).plain
    exact ⟨digit.1, digit.2.1⟩
  rw [whole, body_between front back hashes plain]

theorem pair_toLower (high low : Char) :
    ofBody?.pair high.toLower low.toLower = ofBody?.pair high low := by
  rw [ofBody?.pair, Text.hexPair?_toLower, ofBody?.pair]

theorem short_toLower (c : Char) : ofBody?.short c.toLower = ofBody?.short c := by
  rw [ofBody?.short, Text.hexDigit?_toLower, ofBody?.short]

theorem ofBody?_map_toLower (cs : List Char) : ofBody? (cs.map Char.toLower) = ofBody? cs := by
  fun_cases ofBody? cs with
  | case1 r g b => simp only [List.map_cons, List.map_nil, ofBody?, short_toLower]
  | case2 r r' g g' b b' => simp only [List.map_cons, List.map_nil, ofBody?, pair_toLower]
  | case3 r r' g g' b b' a a' => simp only [List.map_cons, List.map_nil, ofBody?, pair_toLower]
  | case4 _ three six eight =>
    -- A list of another length keeps it in lower case, so it is read by no rule there either.
    unfold ofBody?
    split
    · next shape =>
      simp only [List.map_eq_cons_iff, List.map_eq_nil_iff] at shape
      obtain ⟨r, _, rfl, -, g, _, rfl, -, b, _, rfl, -, rfl⟩ := shape
      exact (three r g b rfl).elim
    · next shape =>
      simp only [List.map_eq_cons_iff, List.map_eq_nil_iff] at shape
      obtain ⟨r, _, rfl, -, r', _, rfl, -, g, _, rfl, -, g', _, rfl, -, b, _, rfl, -, b', _, rfl, -,
        rfl⟩ := shape
      exact (six r r' g g' b b' rfl).elim
    · next shape =>
      simp only [List.map_eq_cons_iff, List.map_eq_nil_iff] at shape
      obtain ⟨r, _, rfl, -, r', _, rfl, -, g, _, rfl, -, g', _, rfl, -, b, _, rfl, -, b', _, rfl, -,
        a, _, rfl, -, a', _, rfl, -, rfl⟩ := shape
      exact (eight r r' g g' b b' a a' rfl).elim
    · rfl

theorem parse_shown {s : String} {digits : List Char} {color : Color}
    (shown : Text.Shows s digits) (every : ∀ c ∈ digits, Text.IsHex c)
    (read : ofBody? digits = some color) : parse s = .ok color := by
  rw [← body_shown shown every, ofBody?_map_toLower] at read
  rw [parse, read]

theorem lower_digits (color : Color) : color.digits.map Char.toLower = color.digits := by
  have lower (channel : UInt8) : (chars.hex channel).map Char.toLower = chars.hex channel := by
    simp only [chars.hex, Text.hexByte, List.map_cons, List.map_nil, Text.toLower_digitChar]
  simp only [digits, List.map_append, apply_ite (List.map Char.toLower), List.map_nil, lower]

theorem shows_text (color : Color) : Text.Shows color.text color.digits :=
  ⟨[], ['#'], color.digits, [], by simp [chars_eq], List.forall_mem_nil _, List.forall_mem_nil _,
    .inr rfl, lower_digits color⟩

theorem parse_text (color : Color) : parse color.text = .ok color :=
  parse_shown (shows_text color) (isHex_digits color) (ofBody?_digits color)

theorem length_digits (color : Color) :
    color.digits.length = if color.alpha = 255 then 6 else 8 := by
  by_cases full : color.alpha = 255 <;> simp [digits, isOpaque, full, chars.hex, Text.hexByte]

theorem length_text (color : Color) :
    color.text.length = if color.alpha = 255 then 7 else 9 := by
  rw [← String.length_toList, text_chars, chars_eq, List.length_cons, length_digits]
  split <;> rfl

end Color

/-- A pixel in sixteen bits a channel, as the tool prints it. -/
structure WidePixel where
  red : UInt16
  green : UInt16
  blue : UInt16
  alpha : Option UInt16

namespace WidePixel

def digits (pixel : WidePixel) : List Char :=
  Text.hexWord pixel.red ++ Text.hexWord pixel.green ++ Text.hexWord pixel.blue ++
    (pixel.alpha.map Text.hexWord).getD []

/-- The upper half of every channel. A pixel without alpha is opaque. -/
def color (pixel : WidePixel) : Color where
  red := upper pixel.red
  green := upper pixel.green
  blue := upper pixel.blue
  alpha := (pixel.alpha.map upper).getD 255
where
  upper (channel : UInt16) : UInt8 := .ofNat (channel.toNat / 256)

theorem isHex_digits (pixel : WidePixel) : ∀ c ∈ pixel.digits, Text.IsHex c := by
  simp only [digits, List.forall_mem_append]
  refine ⟨⟨⟨Text.isHex_hexWord _, Text.isHex_hexWord _⟩, Text.isHex_hexWord _⟩, ?_⟩
  cases pixel.alpha with
  | none => exact List.forall_mem_nil _
  | some alpha => exact Text.isHex_hexWord alpha

theorem length_digits (pixel : WidePixel) :
    pixel.digits.length = if pixel.alpha = none then 12 else 16 := by
  cases found : pixel.alpha <;> simp [digits, found, Text.hexWord]

end WidePixel

namespace Tool.Readout

theorem narrowed_hexWord (channel : UInt16) (rest : List Char) :
    narrowed (Text.hexWord channel ++ rest) =
      Color.chars.hex (WidePixel.color.upper channel) ++ narrowed rest := by
  have small : channel.toNat / 256 < 256 := Nat.div_lt_of_lt_mul channel.toNat_lt
  have high : (WidePixel.color.upper channel).toNat = channel.toNat / 256 :=
    UInt8.toNat_ofNat_of_lt small
  rw [Color.chars.hex, high, Text.hexByte, Nat.div_div_eq_div_mul]
  rfl

theorem narrowed_map_toLower (cs : List Char) :
    narrowed (cs.map Char.toLower) = (narrowed cs).map Char.toLower := by
  induction cs using narrowed.induct with
  | case1 a b c d rest ih => simp only [List.map_cons, narrowed, ih]
  | case2 cs short =>
    match cs, short with
    | [], _ => rfl
    | [_], _ => rfl
    | [_, _], _ => rfl
    | [_, _, _], _ => rfl
    | a :: b :: c :: d :: rest, short => exact (short a b c d rest rfl).elim

/-- Narrowing a wide pixel leaves the digits of its upper halves. -/
theorem ofBody?_narrowed (pixel : WidePixel) :
    Color.ofBody? (narrowed pixel.digits) = some pixel.color := by
  obtain ⟨red, green, blue, alpha⟩ := pixel
  have last (channel : UInt16) : narrowed (Text.hexWord channel) =
      Color.chars.hex (WidePixel.color.upper channel) := by
    simpa [narrowed] using narrowed_hexWord channel []
  simp only [WidePixel.digits, WidePixel.color, List.append_assoc, narrowed_hexWord]
  cases alpha with
  | none => simpa [narrowed] using Color.ofBody?_opaque _ _ _
  | some alpha => simpa [last] using Color.ofBody?_whole _ _ _ _

theorem isHex_narrowed {cs : List Char} (every : ∀ c ∈ cs, Text.IsHex c) :
    ∀ c ∈ narrowed cs, Text.IsHex c := by
  induction cs using narrowed.induct with
  | case1 a b c d rest ih =>
    simp only [List.forall_mem_cons] at every
    obtain ⟨first, second, -, -, later⟩ := every
    simp only [narrowed, List.forall_mem_cons]
    exact ⟨first, second, ih later⟩
  | case2 cs short =>
    intro c member
    rw [narrowed] at member
    · cases member
    · exact short

/-- Digits count one byte each, and they are ASCII. -/
theorem size_shown {s : String} {digits : List Char} (shown : Text.Shows s digits)
    (every : ∀ c ∈ digits, Text.IsHex c) :
    Text.Utf8.size (Color.body s.toList) = digits.length ∧
      (Color.body s.toList).all (·.toNat < 128) = true := by
  have same := Color.body_shown shown every
  rw [← same] at every
  have ascii : ∀ c ∈ Color.body s.toList, c.toNat < 128 :=
    fun c member => (Text.isHex_map_toLower.mp every c member).plain.2.2
  refine ⟨?_, by simpa using ascii⟩
  rw [Text.Utf8.size_ascii ascii, ← same, List.length_map]

theorem pixel_narrow {s : String} {digits : List Char} {color : Color}
    (shown : Text.Shows s digits) (every : ∀ c ∈ digits, Text.IsHex c)
    (length : digits.length = 6 ∨ digits.length = 8)
    (read : Color.ofBody? digits = some color) : pixel s = .ok color := by
  obtain ⟨size, -⟩ := size_shown shown every
  have written := Text.shows_ofList (Color.body s.toList)
  rw [Color.body_shown shown every] at written
  have narrow : (digits.length == 6 || digits.length == 8) = true := by simpa using length
  simp only [pixel, size, narrow, if_true]
  exact Color.parse_shown written every read

theorem pixel_wide {s : String} {wide : WidePixel} (shown : Text.Shows s wide.digits) :
    pixel s = .ok wide.color := by
  obtain ⟨size, ascii⟩ := size_shown shown wide.isHex_digits
  have written := Text.shows_ofList (narrowed (Color.body s.toList))
  rw [← narrowed_map_toLower, Color.body_shown shown wide.isHex_digits] at written
  have length : wide.digits.length = 12 ∨ wide.digits.length = 16 := by
    rw [wide.length_digits]
    split
    · exact .inl rfl
    · exact .inr rfl
  have narrow : (wide.digits.length == 6 || wide.digits.length == 8) = false := by
    simp only [Bool.or_eq_false_iff, beq_eq_false_iff_ne]
    omega
  have broad : (wide.digits.length == 12 || wide.digits.length == 16) = true := by
    simpa using length
  simp only [pixel, size, narrow, broad, ascii, Bool.and_self, Bool.false_eq_true, if_false,
    if_true]
  exact Color.parse_shown written (isHex_narrowed wide.isHex_digits) (ofBody?_narrowed wide)

theorem pixel_text (color : Color) : pixel color.text = .ok color := by
  refine pixel_narrow color.shows_text color.isHex_digits ?_ color.ofBody?_digits
  rw [color.length_digits]
  split
  · exact .inl rfl
  · exact .inr rfl

end Tool.Readout

namespace Color

/-- The color in sixteen bits a channel, every byte said twice. -/
def widened (color : Color) : WidePixel :=
  ⟨wide color.red, wide color.green, wide color.blue, some (wide color.alpha)⟩
where
  wide (channel : UInt8) : UInt16 := .ofNat (channel.toNat * 257)

theorem upper_wide (channel : UInt8) :
    WidePixel.color.upper (widened.wide channel) = channel := by
  have small : channel.toNat < 256 := channel.toNat_lt
  have twice : (widened.wide channel).toNat = channel.toNat * 257 :=
    UInt16.toNat_ofNat_of_lt (by simp only [UInt16.size]; omega)
  have half : channel.toNat * 257 / 256 = channel.toNat := by omega
  rw [WidePixel.color.upper, twice, half, UInt8.ofNat_toNat]

theorem color_widened (color : Color) : color.widened.color = color := by
  simp only [widened, WidePixel.color, upper_wide, Option.map_some, Option.getD_some]

theorem color_widened_opaque {color : Color} (full : color.alpha = 255) :
    { color.widened with alpha := none }.color = color := by
  obtain ⟨red, green, blue, alpha⟩ := color
  obtain rfl : alpha = 255 := full
  simp only [widened, WidePixel.color, upper_wide, Option.map_none, Option.getD_none]

theorem text_read_back :
    (∀ color, parse (text color) = .ok color) ∧
    (∀ s color, parse s = .ok color → parse color.text = .ok color ∧
      color.text.length = if color.alpha = 255 then 7 else 9) ∧
    (∀ (pixel : WidePixel) s, Text.Shows s pixel.digits →
      Tool.Readout.pixel s = .ok pixel.color ∧
        pixel.digits.length = if pixel.alpha = none then 12 else 16) ∧
    ∀ color s,
      (Text.Shows s color.widened.digits ∨
        color.alpha = 255 ∧ Text.Shows s { color.widened with alpha := none }.digits) →
      Tool.Readout.pixel s = .ok color ∧ Tool.Readout.pixel color.text = .ok color ∧
        parse color.text = .ok color := by
  refine ⟨parse_text, fun _ color _ => ⟨parse_text color, length_text color⟩,
    fun pixel _ shown => ⟨Tool.Readout.pixel_wide shown, pixel.length_digits⟩, ?_⟩
  intro color s wide
  refine ⟨?_, Tool.Readout.pixel_text color, parse_text color⟩
  rcases wide with kept | ⟨full, omitted⟩
  · rw [Tool.Readout.pixel_wide kept, color_widened]
  · rw [Tool.Readout.pixel_wide omitted, color_widened_opaque full]

/-- A short color, a wide pixel in letters of both cases, and a translucent color in both depths. -/
theorem text_read_back_mixed :
    let orange : Color := ⟨255, 136, 0, 255⟩
    let wide : WidePixel := ⟨0xffff, 0x80ab, 0, none⟩
    let faint : Color := ⟨10, 2, 3, 4⟩
    (parse " ##F80" = .ok orange ∧ parse orange.text = .ok orange ∧ orange.text.length = 7) ∧
      (Text.Shows " #FfFF80aB0000\n" wide.digits ∧
        Tool.Readout.pixel " #FfFF80aB0000\n" = .ok ⟨255, 128, 0, 255⟩) ∧
      Text.Shows "0A0a020203030404" faint.widened.digits ∧
        Tool.Readout.pixel "0A0a020203030404" = .ok faint ∧ faint.text = "#0a020304" := by
  intro orange wide faint
  obtain ⟨-, again, upper, both⟩ := text_read_back
  have short : parse " ##F80" = .ok orange := by decide +kernel
  have mixed : Text.Shows " #FfFF80aB0000\n" wide.digits :=
    ⟨[' '], ['#'], "FfFF80aB0000".toList, ['\n'], by decide +kernel,
      List.forall_mem_singleton.mpr rfl, List.forall_mem_singleton.mpr rfl, .inr rfl,
      by decide +kernel⟩
  have halves : wide.color = ⟨255, 128, 0, 255⟩ := by decide +kernel
  have twice : Text.Shows "0A0a020203030404" faint.widened.digits :=
    ⟨[], [], "0A0a020203030404".toList, [], by decide +kernel, List.forall_mem_nil _,
      List.forall_mem_nil _, .inl rfl, by decide +kernel⟩
  exact ⟨⟨short, again _ _ short⟩, ⟨mixed, halves ▸ (upper wide _ mixed).1⟩, twice,
    (both faint _ (.inl twice)).1, by decide +kernel⟩

end Color

end Retouch
