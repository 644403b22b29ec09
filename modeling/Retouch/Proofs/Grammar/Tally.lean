import Retouch.Layers

/-!
Counts of frames that are kept in a word. A count itself has no bound; the word falls behind it when
they no longer fit, and for good when a copy is made of an image whose word has come to zero.
-/
namespace Retouch.Grammar

/-- The word keeps the count, of which these have been met on the way. -/
structure Tallies (frames : UInt64) (count : Nat) (met : List Nat) : Prop where
  below : frames.toNat ≤ count
  /-- Nothing but whole words is missing, unless one of the counts met was whole words itself. -/
  word : (∀ earlier ∈ met, earlier % UInt64.size ≠ 0) → frames.toNat = count % UInt64.size

namespace Tallies
variable {frames added : UInt64} {count more : Nat} {met later : List Nat}

theorem mono (tallies : Tallies frames count met) (further : met ⊆ later) :
    Tallies frames count later where
  below := tallies.below
  word clear := tallies.word fun earlier member => clear earlier (further member)

/-- Counts that fit are kept as they are. -/
theorem exact (tallies : Tallies frames count met) (last : count ∈ met)
    (positive : ∀ earlier ∈ met, 1 ≤ earlier) (fits : ∀ earlier ∈ met, earlier < UInt64.size) :
    frames.toNat = count := by
  rw [tallies.word, Nat.mod_eq_of_lt (fits count last)]
  intro earlier member
  rw [Nat.mod_eq_of_lt (fits earlier member)]
  exact Nat.ne_of_gt (positive earlier member)

theorem ofFrames (frames : UInt64) (met : List Nat) :
    Tallies (Layers.ofFrames frames).frames (max frames.toNat 1) met where
  below := Nat.le_of_eq (Layers.toNat_ofFrames frames)
  word _ := by
    rw [Layers.toNat_ofFrames, Nat.mod_eq_of_lt]
    exact Nat.max_lt.mpr ⟨frames.toNat_lt, by decide⟩

/-- A copy has a frame even when the word has come to zero. -/
theorem renewed (tallies : Tallies frames count met) (positive : 1 ≤ count) (last : count ∈ met) :
    Tallies (Layers.ofFrames frames).frames count met where
  below := by
    have kept := tallies.below
    rw [Layers.toNat_ofFrames]
    omega
  word clear := by
    have kept := tallies.word clear
    have nonzero := clear count last
    rw [Layers.toNat_ofFrames]
    omega

theorem add (tallies : Tallies frames count met) (other : Tallies added more met) :
    Tallies (frames + added) (count + more) met where
  below := by
    have sum := UInt64.toNat_add frames added
    have first := tallies.below
    have second := other.below
    omega
  word clear := by
    rw [UInt64.toNat_add, tallies.word clear, other.word clear, ← Nat.add_mod]

theorem removed {layers : Layers} (tallies : Tallies layers.frames count met) (last : count ∈ met)
    (next : max (count - 1) 1 ∈ met) :
    Tallies layers.removed.frames (max (count - 1) 1) met where
  below := by
    have kept := tallies.below
    rw [Layers.toNat_removed]
    omega
  word clear := by
    have kept := tallies.word clear
    have nonzero := clear count last
    have nonzero' := clear _ next
    rw [Layers.toNat_removed]
    unfold UInt64.size at *
    omega

end Tallies

end Retouch.Grammar
