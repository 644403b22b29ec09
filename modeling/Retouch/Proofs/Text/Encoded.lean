import Mathlib.Data.List.Basic
import Retouch.Text.Utf8

/-!
Text in UTF-8. What is written is read back, character by character, whatever bytes come after it.
-/
namespace Retouch.Text.Utf8

def Pending.Takes (pending : Pending) (byte : Nat) : Prop :=
  pending.least ≤ byte ∧ byte ≤ pending.greatest

/-- The byte begins a sequence: so many are to come, `next` can be the first of them, and these are
the bits so far. -/
def Opens (byte owed bits next : Nat) : Prop :=
  ∃ pending, lead byte = some (.inr pending) ∧ pending.owed = owed ∧ pending.bits = bits ∧
    pending.Takes next

def IsTail (byte : Nat) : Prop := 0x80 ≤ byte ∧ byte ≤ 0xBF

theorem IsTail.takes {byte : Nat} (tail : IsTail byte) (owed bits : Nat) :
    Pending.Takes { owed, bits } byte := tail

section
variable {a b c d : UInt8} {bits : Nat}

theorem scanFrom_last {pending : Pending} (taken : pending.Takes a.toNat)
    (last : pending.owed = 1) (rest : List UInt8) : scanFrom (some pending) (a :: rest) =
      some (Char.ofNat (pending.bits * 64 + a.toNat % 64)) :: scan rest := by
  simp [scanFrom, taken.1, taken.2, last, scan]

theorem scanFrom_next {pending : Pending} (taken : pending.Takes a.toNat)
    (more : 1 < pending.owed) (rest : List UInt8) : scanFrom (some pending) (a :: rest) =
      scanFrom (some { owed := pending.owed - 1, bits := pending.bits * 64 + a.toNat % 64 })
        rest := by
  simp [scanFrom, taken.1, taken.2, Nat.not_le.mpr more]

theorem scan_lead {pending : Pending} (led : lead a.toNat = some (.inr pending))
    (rest : List UInt8) : scan (a :: rest) = scanFrom (some pending) rest := by
  simp [scan, scanFrom, led]

theorem scan_two (opens : Opens a.toNat 1 bits b.toNat) (rest : List UInt8) :
    scan (a :: b :: rest) = some (Char.ofNat (bits * 64 + b.toNat % 64)) :: scan rest := by
  obtain ⟨pending, led, owed, rfl, taken⟩ := opens
  rw [scan_lead led, scanFrom_last taken owed]

theorem scan_three (opens : Opens a.toNat 2 bits b.toNat) (third : IsTail c.toNat)
    (rest : List UInt8) : scan (a :: b :: c :: rest) =
      some (Char.ofNat ((bits * 64 + b.toNat % 64) * 64 + c.toNat % 64)) :: scan rest := by
  obtain ⟨pending, led, owed, rfl, taken⟩ := opens
  rw [scan_lead led, scanFrom_next taken (by omega), owed, scanFrom_last (third.takes _ _) rfl]

theorem scan_four (opens : Opens a.toNat 3 bits b.toNat) (third : IsTail c.toNat)
    (fourth : IsTail d.toNat) (rest : List UInt8) : scan (a :: b :: c :: d :: rest) =
      some (Char.ofNat (((bits * 64 + b.toNat % 64) * 64 + c.toNat % 64) * 64 + d.toNat % 64)) ::
        scan rest := by
  obtain ⟨pending, led, owed, rfl, taken⟩ := opens
  rw [scan_lead led, scanFrom_next taken (by omega), owed,
    scanFrom_next (third.takes _ _) Nat.one_lt_two]
  exact scanFrom_last (fourth.takes _ _) rfl rest

end

section
variable {n : Nat}

theorem opens_two (least : 0x80 ≤ n) (most : n < 0x800) :
    Opens (n / 64 % 32 + 192) 1 (n / 64) (n % 64 + 128) := by
  refine ⟨{ owed := 1, bits := n / 64 % 32 + 192 - 0xC0 }, ?_, rfl, ?_, ?_⟩
  · rw [lead, if_neg (by omega), if_neg (by omega), if_pos (by omega)]
  · simp only
    omega
  · unfold Pending.Takes
    simp only
    omega

/-- The second byte of three is bounded by what would need only two, and by the surrogates. -/
theorem opens_three (least : 0x800 ≤ n) (most : n < 0x10000) (valid : n < 0xD800 ∨ 0xDFFF < n) :
    Opens (n / 4096 % 16 + 224) 2 (n / 4096) (n / 64 % 64 + 128) := by
  unfold Opens Pending.Takes
  by_cases short : n / 4096 = 0
  · rw [short]
    exact ⟨{ owed := 2, bits := 0, least := 0xA0 }, rfl, rfl, rfl, by simp only; omega⟩
  by_cases near : n / 4096 = 0xD
  · rw [near]
    exact ⟨{ owed := 2, bits := 0xD, greatest := 0x9F }, rfl, rfl, rfl, by simp only; omega⟩
  refine ⟨{ owed := 2, bits := n / 4096 % 16 + 224 - 0xE0 }, ?_, rfl, ?_, ?_⟩
  · rw [lead, if_neg (by omega), if_neg (by omega), if_neg (by omega),
      if_neg (by simp only [beq_iff_eq]; omega), if_neg (by simp only [beq_iff_eq]; omega),
      if_pos (by omega)]
  · simp only
    omega
  · simp only
    omega

theorem opens_four (least : 0x10000 ≤ n) (most : n < 0x110000) :
    Opens (n / 262144 % 8 + 240) 3 (n / 262144) (n / 4096 % 64 + 128) := by
  unfold Opens Pending.Takes
  by_cases short : n / 262144 = 0
  · rw [short]
    exact ⟨{ owed := 3, bits := 0, least := 0x90 }, rfl, rfl, rfl, by simp only; omega⟩
  by_cases far : n / 262144 = 4
  · rw [far]
    exact ⟨{ owed := 3, bits := 4, greatest := 0x8F }, rfl, rfl, rfl, by simp only; omega⟩
  refine ⟨{ owed := 3, bits := n / 262144 % 8 + 240 - 0xF0 }, ?_, rfl, ?_, ?_⟩
  · rw [lead, if_neg (by omega), if_neg (by omega), if_neg (by omega),
      if_neg (by simp only [beq_iff_eq]; omega), if_neg (by simp only [beq_iff_eq]; omega),
      if_neg (by omega), if_neg (by simp only [beq_iff_eq]; omega), if_pos (by omega)]
  · simp only
    omega
  · simp only
    omega

theorem toNat_byte (small : n < 256) : (UInt8.ofNat n).toNat = n := UInt8.toNat_ofNat_of_lt' small

theorem toNat_tail (n : Nat) : (UInt8.ofNat (n % 64 + 128)).toNat = n % 64 + 128 :=
  toNat_byte (by omega)

theorem isTail_ofNat (n : Nat) : IsTail (UInt8.ofNat (n % 64 + 128)).toNat := by
  rw [toNat_tail]
  unfold IsTail
  omega

end

theorem scan_char (c : Char) (rest : List UInt8) :
    scan (String.utf8EncodeChar c ++ rest) = some c :: scan rest := by
  have valid : c.val.toNat < 0xD800 ∨ 0xDFFF < c.val.toNat ∧ c.val.toNat < 0x110000 := c.valid
  have spelled : Char.ofNat c.val.toNat = c := Char.ofNat_toNat c
  unfold String.utf8EncodeChar
  generalize c.val.toNat = n at valid spelled
  simp only
  split
  · have led : lead (UInt8.ofNat n).toNat = some (.inl c) := by
      rw [toNat_byte (by omega), lead, if_pos (by omega), spelled]
    simp only [List.cons_append, List.nil_append, scan, scanFrom, led]
  split
  · have opens := opens_two (n := n) (by omega) (by omega)
    rw [← toNat_byte (n := n / 64 % 32 + 192) (by omega), ← toNat_tail] at opens
    have whole : n / 64 * 64 + (n % 64 + 128) % 64 = n := by omega
    simp only [List.cons_append, List.nil_append]
    rw [scan_two opens, toNat_tail, whole, spelled]
  split
  · have opens := opens_three (n := n) (by omega) (by omega) (by omega)
    rw [← toNat_byte (n := n / 4096 % 16 + 224) (by omega), ← toNat_tail] at opens
    have whole : (n / 4096 * 64 + (n / 64 % 64 + 128) % 64) * 64 + (n % 64 + 128) % 64 = n := by
      omega
    simp only [List.cons_append, List.nil_append]
    rw [scan_three opens (isTail_ofNat n), toNat_tail, toNat_tail, whole, spelled]
  · have opens := opens_four (n := n) (by omega) (by omega)
    rw [← toNat_byte (n := n / 262144 % 8 + 240) (by omega), ← toNat_tail] at opens
    have whole : ((n / 262144 * 64 + (n / 4096 % 64 + 128) % 64) * 64 +
        (n / 64 % 64 + 128) % 64) * 64 + (n % 64 + 128) % 64 = n := by omega
    simp only [List.cons_append, List.nil_append]
    rw [scan_four opens (isTail_ofNat _) (isTail_ofNat n), toNat_tail, toNat_tail, toNat_tail, whole,
      spelled]

theorem scan_encode (s : String) (rest : List UInt8) :
    scan (encode s ++ rest) = s.toList.map some ++ scan rest := by
  unfold encode
  induction s.toList with
  | nil => rfl
  | cons c cs ih =>
    rw [List.flatMap_cons, List.append_assoc, scan_char, ih, List.map_cons, List.cons_append]

theorem toList_lossy_encode (s : String) (rest : List UInt8) :
    (lossy (encode s ++ rest)).toList = s.toList ++ (lossy rest).toList := by
  have kept : ((fun c : Option Char => c.getD '\uFFFD') ∘ some) = id := rfl
  simp only [lossy, scan_encode, List.map_append, List.map_map, kept, List.map_id,
    String.toList_ofList]

theorem lossy_encode (s : String) : lossy (encode s) = s := by
  apply String.toList_injective
  have read := toList_lossy_encode s []
  rwa [List.append_nil, show (lossy []).toList = [] from rfl, List.append_nil] at read

end Retouch.Text.Utf8
