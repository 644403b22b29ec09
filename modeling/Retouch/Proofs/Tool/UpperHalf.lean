import Retouch.Proofs.Color.Spelling
import Retouch.Proofs.Tool.Answer
import Retouch.Proofs.Tool.Histogram
import Retouch.Tool.Script

/-!
Which pixels of sixteen bits a channel are read. Of every four characters the first two are, like
the text of a color in eight bits; the last two only have to be ASCII.
-/
namespace Retouch.Tool

namespace Readout

/-- What is left when the last two of every four characters are dropped. -/
inductive Narrows : List Char → List Char → Prop
  | nil : Narrows [] []
  | quad {a b c d : Char} {rest upper : List Char} (later : Narrows rest upper) :
      Narrows (a :: b :: c :: d :: rest) (a :: b :: upper)

/-- The length of a pixel with channels of sixteen bits. -/
def IsWide (body : List Char) : Prop := body.length = 12 ∨ body.length = 16

/-- The upper half spells the color, and the lower half is no more than ASCII. -/
def Halved (body : List Char) (color : Color) : Prop :=
  (∀ c ∈ body, c.toNat < 128) ∧ ∃ upper digits, Narrows body upper ∧ Color.Bears upper digits ∧
    Color.Spells Color.Loose digits color

theorem narrowed_of_narrows {body upper : List Char} (narrows : Narrows body upper) :
    narrowed body = upper := by
  induction narrows with
  | nil => rfl
  | quad later ih => rw [narrowed, ih]

theorem narrows_narrowed {body : List Char} (whole : body.length % 4 = 0) :
    Narrows body (narrowed body) := by
  fun_induction narrowed body with
  | case1 a b c d rest ih =>
    simp only [List.length_cons] at whole
    exact .quad (ih (by omega))
  | case2 cs short =>
    match cs, short with
    | [], _ => exact .nil
    | a :: b :: c :: d :: rest, short => exact (short a b c d rest rfl).elim

theorem IsWide.narrows {body : List Char} (wide : IsWide body) : Narrows body (narrowed body) :=
  narrows_narrowed (by rcases wide with length | length <;> rw [length])

theorem Narrows.length {body upper : List Char} (narrows : Narrows body upper) :
    body.length = 2 * upper.length := by
  induction narrows with
  | nil => rfl
  | quad later ih =>
    simp only [List.length_cons, ih]
    omega

theorem length_le_size (cs : List Char) : cs.length ≤ Text.Utf8.size cs := by
  induction cs with
  | nil => exact Nat.le_refl 0
  | cons c rest ih =>
    have positive := c.utf8Size_pos
    simp only [Text.Utf8.size, List.foldr_cons, List.length_cons] at ih ⊢
    omega

theorem pixel_eq {s : String} (wide : IsWide (Color.body s.toList)) : pixel s =
    if (Color.body s.toList).all (·.toNat < 128) then
      Color.parse (.ofList (narrowed (Color.body s.toList)))
    else .error (unexpected "hex color" s) := by
  have long := length_le_size (Color.body s.toList)
  have narrow : (Text.Utf8.size (Color.body s.toList) == 6 ||
      Text.Utf8.size (Color.body s.toList) == 8) = false := by
    simp only [Bool.or_eq_false_iff, beq_eq_false_iff_ne]
    unfold IsWide at wide
    omega
  cases every : (Color.body s.toList).all (·.toNat < 128) with
  | true =>
    have ascii : ∀ c ∈ Color.body s.toList, c.toNat < 128 := by simpa using every
    have broad : (Text.Utf8.size (Color.body s.toList) == 12 ||
        Text.Utf8.size (Color.body s.toList) == 16) = true := by
      rw [Text.Utf8.size_ascii ascii]
      simpa [IsWide] using wide
    simp only [pixel, narrow, broad, every, Bool.and_self, Bool.false_eq_true, if_true, if_false]
  | false => simp only [pixel, narrow, every, Bool.and_false, Bool.false_eq_true, if_false]

theorem pixel_eq_ok {s : String} {color : Color} (wide : IsWide (Color.body s.toList)) :
    pixel s = .ok color ↔ Halved (Color.body s.toList) color := by
  have parsed : Color.parse (.ofList (narrowed (Color.body s.toList))) = .ok color ↔
      ∃ upper digits, Narrows (Color.body s.toList) upper ∧ Color.Bears upper digits ∧
        Color.Spells Color.Loose digits color := by
    rw [Color.parse_eq_ok, String.toList_ofList]
    constructor
    · rintro ⟨digits, bears, spelled⟩
      exact ⟨_, digits, wide.narrows, bears, spelled⟩
    · rintro ⟨upper, digits, narrows, bears, spelled⟩
      rw [narrowed_of_narrows narrows]
      exact ⟨digits, bears, spelled⟩
  have ascii : (Color.body s.toList).all (·.toNat < 128) = true ↔
      ∀ c ∈ Color.body s.toList, c.toNat < 128 := by simp
  rw [pixel_eq wide, Halved, ← parsed, ← ascii]
  cases (Color.body s.toList).all (·.toNat < 128) <;> simp

theorem Narrows.unique {body upper upper' : List Char} (narrows : Narrows body upper)
    (narrows' : Narrows body upper') : upper' = upper := by
  rw [← narrowed_of_narrows narrows, narrowed_of_narrows narrows']

/-- Where the upper half has nothing but digits to be read, these are what is checked. -/
theorem halved_plain {body upper : List Char} (wide : IsWide body) (narrows : Narrows body upper)
    (plain : ∀ c ∈ upper, Text.isBlank c = false ∧ c ≠ '#' ∧ c ≠ '+') :
    (∃ color, Halved body color) ↔
      (∀ c ∈ body, c.toNat < 128) ∧ ∀ c ∈ upper, Text.IsHex c := by
  constructor
  · rintro ⟨color, ascii, other, digits, narrows', bears, spelled⟩
    obtain rfl := narrows.unique narrows'
    exact ⟨ascii, ((Color.bears_plain plain).mp ⟨digits, bears, spelled⟩).isHex⟩
  · rintro ⟨ascii, every⟩
    have length : upper.length = 6 ∨ upper.length = 8 := by
      have twice := narrows.length
      unfold IsWide at wide
      omega
    obtain ⟨color, spelled⟩ := Color.exists_spells length every
    obtain ⟨digits, bears, loose⟩ := (Color.bears_plain plain).mpr spelled
    exact ⟨color, ascii, upper, digits, narrows, bears, loose⟩

/-- A wide pixel in digits throughout is read to what its upper half spells. -/
theorem halved_digits {body : List Char} (wide : IsWide body)
    (every : ∀ c ∈ body, Text.IsHex c) :
    ∃ upper color, Narrows body upper ∧ Color.Spells Color.Pair upper color ∧ Halved body color := by
  have narrows := wide.narrows
  have digits := isHex_narrowed every
  have plain : ∀ c ∈ narrowed body, Text.isBlank c = false ∧ c ≠ '#' ∧ c ≠ '+' :=
    fun c member => (digits c member).unsigned
  obtain ⟨color, halved⟩ := (halved_plain wide narrows plain).mpr
    ⟨fun c member => (every c member).plain.2.2, digits⟩
  obtain ⟨ascii, other, spelling, narrows', bears, spelled⟩ := halved
  obtain rfl := narrows.unique narrows'
  exact ⟨_, color, narrows, (Color.bears_plain plain).mp ⟨spelling, bears, spelled⟩,
    ascii, _, spelling, narrows, bears, spelled⟩

end Readout

open Readout

theorem upper_half_read (s : String) (wide : IsWide (Color.body s.toList)) :
    (∀ color, pixel s = .ok color ↔ Halved (Color.body s.toList) color) ∧
    ((∀ c ∈ Color.body s.toList, ∃ value, Text.HexDigit c value) → ∃ upper color,
      Narrows (Color.body s.toList) upper ∧ Color.Spells Color.Pair upper color ∧
        pixel s = .ok color) ∧
    (∀ upper, Narrows (Color.body s.toList) upper →
      (∀ c ∈ upper, Text.isBlank c = false ∧ c ≠ '#' ∧ c ≠ '+') →
      ((∃ color, pixel s = .ok color) ↔ (∀ c ∈ Color.body s.toList, c.toNat < 128) ∧
        ∀ c ∈ upper, ∃ value, Text.HexDigit c value)) ∧
    (∀ (kit : Kit) source point (world : World) output,
      (world.tool world.calls (kit.pixelCall source point)).answer = .ok output →
      firstLine output.text = s → ∀ color, (kit.colorAt source point world).1 = .ok color ↔
        Halved (Color.body s.toList) color) ∧
    ∀ (kit : Kit) source (world : World) output colors,
      (world.tool world.calls (kit.histogramCall source)).answer = .ok output →
      (kit.histogram source world).1 = .ok colors →
      List.Forall₂ (fun word color => word = s.toList → Halved (Color.body s.toList) color)
        (pixelWords output.text.toList) colors := by
  refine ⟨fun _ => pixel_eq_ok wide, ?_, ?_, ?_, ?_⟩
  · intro every
    obtain ⟨upper, color, narrows, spelled, halved⟩ :=
      halved_digits wide fun c member => Text.isHex_iff.mpr (every c member)
    exact ⟨upper, color, narrows, spelled, (pixel_eq_ok wide).mpr halved⟩
  · intro upper narrows plain
    simp only [pixel_eq_ok wide, halved_plain wide narrows plain, Text.isHex_iff]
  · rintro kit source point world output answered rfl color
    simp only [Kit.colorAt_answer, answered, bind, Except.bind]
    exact pixel_eq_ok wide
  · intro kit source world output colors answered read
    simp only [Kit.histogram_answer, answered, bind, Except.bind] at read
    refine (histogram_eq_ok.mp read).imp fun word color found same => ?_
    rw [same, String.ofList_toList] at found
    exact (pixel_eq_ok wide).mp found

/-- Twelve digits in both cases, told by a pixel of an image and by a histogram. -/
theorem upper_half_read_orange :
    let s := "FfFF80aB0000"
    let kit : Kit := ⟨["convert"], ["identify"], "systmp"⟩
    let world : World := { tool := steady (.ran (.ok (Text.Utf8.encode "FfFF80aB0000\n")) []) }
    let marked : World := { tool := steady (.ran (.ok (Text.Utf8.encode "#FfFF80aB0000\n")) []) }
    let orange : Color := ⟨255, 128, 0, 255⟩
    IsWide (Color.body s.toList) ∧
      (∃ upper color, Narrows (Color.body s.toList) upper ∧
        Color.Spells Color.Pair upper color ∧ pixel s = .ok color) ∧
      (∃ color, pixel s = .ok color) ∧
      (kit.colorAt ["a.png"] ⟨0, 0⟩ world).1 = .ok orange ∧
      Halved (Color.body s.toList) orange ∧
      (kit.histogram ["a.png"] marked).1 = .ok [orange] ∧
      List.Forall₂ (fun word color => word = s.toList → Halved (Color.body s.toList) color)
        (pixelWords "#FfFF80aB0000\n".toList) [orange] := by
  intro s kit world marked orange
  have wide : IsWide (Color.body s.toList) := .inl (by decide +kernel)
  have all : (Color.body s.toList).all (Text.hexDigit? · |>.isSome) = true := by decide +kernel
  have every : ∀ c ∈ Color.body s.toList, Text.IsHex c := List.all_eq_true.mp all
  have upper := isHex_narrowed every
  obtain ⟨-, digits, checked, points, histograms⟩ := upper_half_read s wide
  have told := checked _ wide.narrows fun c member => (upper c member).unsigned
  have line : firstLine (Output.ok (Text.Utf8.encode "FfFF80aB0000\n")).text = s := by
    decide +kernel
  have text : (Output.ok (Text.Utf8.encode "#FfFF80aB0000\n")).text = "#FfFF80aB0000\n" := by
    decide +kernel
  have point : (kit.colorAt ["a.png"] ⟨0, 0⟩ world).1 = .ok orange := by decide +kernel
  have read : (kit.histogram ["a.png"] marked).1 = .ok [orange] := by decide +kernel
  refine ⟨wide, digits fun c member => Text.isHex_iff.mp (every c member),
    told.mpr ⟨fun c member => (every c member).plain.2.2,
      fun c member => Text.isHex_iff.mp (upper c member)⟩,
    point, (points kit ["a.png"] ⟨0, 0⟩ world _ rfl line orange).mp point, read, ?_⟩
  rw [← text]
  exact histograms kit ["a.png"] marked _ [orange] rfl read

/-- The lower half has no digit in it, and there is a color all the same. -/
theorem lower_half_unread :
    let kit : Kit := ⟨["convert"], ["identify"], "systmp"⟩
    let world : World :=
      { tool := steady (.ran (.ok (Text.Utf8.encode "FFzz80zz00zz\n")) []) }
    (kit.colorAt ["a.png"] ⟨0, 0⟩ world).1 = .ok ⟨255, 128, 0, 255⟩ ∧
      pixel "FFzz80zz00zz" = .ok ⟨255, 128, 0, 255⟩ ∧
      (Color.body "FFzz80zz00zz".toList).length = 12 ∧
      ¬∀ c ∈ Color.body "FFzz80zz00zz".toList, ∃ value, Text.HexDigit c value := by
  refine ⟨by decide +kernel, by decide +kernel, by decide +kernel, fun every => ?_⟩
  have letter : 'z' ∈ Color.body "FFzz80zz00zz".toList := by decide +kernel
  exact nomatch (Text.isHex_iff.mpr (every 'z' letter) : Text.IsHex 'z')

end Retouch.Tool
