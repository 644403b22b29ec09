import Retouch.Cause
import Retouch.Text.Blank

/-!
The frames of an image and what the last save made of them. The count is a word and starts over
after the largest one; the state shows in the length and in the tokens of one save, and `fresh`
forgets it.
-/
namespace Retouch

inductive LayerState
  | single
  | merged
  /-- The delay is in milliseconds; zero loops never end. -/
  | animating (format : String) (delay : Option UInt32) (loops : UInt32)
deriving DecidableEq, Repr

structure Layers where
  /-- The frames that the arguments read in. -/
  frames : UInt64
  state : LayerState := .single
deriving DecidableEq, Repr

namespace Layers

def ofFrames (frames : UInt64) : Layers := { frames := max frames 1 }

def size (layers : Layers) : UInt64 :=
  match layers.state with
  | .merged => 1
  | _ => layers.frames

def isEmpty (layers : Layers) : Bool := layers.size == 0

def fresh (layers : Layers) : Layers := ofFrames layers.frames

def added (layers : Layers) : Layers := { layers with frames := layers.frames + 1 }

/-- The frames of another image come after these. -/
def append (layers other : Layers) : Layers :=
  { layers with frames := layers.frames + other.frames }

/-- A frame can be removed if it is there and another one would remain. -/
def checkRemovable (layers : Layers) (index : Nat) : Except Cause Unit := do
  refuseIf (layers.frames.toNat ≤ index)
    (.outOfRange s!"layer {index} does not exist ({layers.frames} layers)")
  refuseIf (layers.frames == 1) (.precondition "cannot remove the only layer")

def removed (layers : Layers) : Layers :=
  { layers with frames := max (.ofNat (layers.frames.toNat - 1)) 1 }

def merge (layers : Layers) : Layers := { layers with state := .merged }

def animatedFormats : List String := ["gif"]

/-- The intent to write an animation, in place of an earlier one. -/
def animate (layers : Layers) (format : String) (delay : Option UInt32) (loops : UInt32) :
    Except Cause Layers :=
  let format := Text.lowercase format
  if animatedFormats.contains format then
    .ok { layers with state := .animating format delay loops }
  else .error (.unsupported .format s!"{format} (animation is only supported for gif)")

/-- The tool counts delays in hundredths of a second. -/
def tokens (layers : Layers) : List String :=
  match layers.state with
  | .single => []
  | .merged => ["-flatten"]
  | .animating _ delay loops =>
    (match delay with
      | some milliseconds => ["-delay", toString (milliseconds / 10)]
      | none => []) ++ ["-loop", toString loops]

@[simp] theorem fresh_merge (layers : Layers) : layers.merge.fresh = layers.fresh := rfl

@[simp] theorem toNat_ofFrames (frames : UInt64) :
    (ofFrames frames).frames.toNat = max frames.toNat 1 := by
  have larger : (ofFrames frames).frames = if frames ≤ 1 then 1 else frames := rfl
  by_cases small : frames ≤ 1
  · have bound : frames.toNat ≤ 1 := UInt64.le_iff_toNat_le.mp small
    rw [larger, if_pos small, Nat.max_eq_right bound]
    rfl
  · have bound : 1 < frames.toNat := UInt64.lt_iff_toNat_lt.mp (UInt64.not_le.mp small)
    rw [larger, if_neg small, Nat.max_eq_left (Nat.le_of_lt bound)]

theorem repeat_added (layers : Layers) (count : Nat) :
    Nat.repeat added count layers = { layers with frames := layers.frames + .ofNat count } := by
  induction count with
  | zero => simp [Nat.repeat]
  | succ count ih =>
    rw [Nat.repeat, ih]
    simp [added, UInt64.ofNat_add, UInt64.add_assoc]

/-- The frames come one at a time. -/
theorem append_eq (layers other : Layers) :
    layers.append other = Nat.repeat added other.frames.toNat layers := by
  rw [repeat_added, UInt64.ofNat_toNat]
  rfl

theorem toNat_removed (layers : Layers) :
    layers.removed.frames.toNat = max (layers.frames.toNat - 1) 1 := by
  have less : layers.frames.toNat - 1 < UInt64.size :=
    Nat.lt_of_le_of_lt (Nat.sub_le _ _) layers.frames.toNat_lt
  have told := toNat_ofFrames (.ofNat (layers.frames.toNat - 1))
  rwa [UInt64.toNat_ofNat_of_lt' less] at told

theorem checkRemovable_eq_ok {layers : Layers} {index : Nat} :
    layers.checkRemovable index = .ok () ↔
      index < layers.frames.toNat ∧ 2 ≤ layers.frames.toNat := by
  have only : layers.frames = 1 ↔ layers.frames.toNat = 1 := UInt64.toNat_inj.symm
  unfold checkRemovable
  by_cases far : layers.frames.toNat ≤ index
  · rw [decide_eq_true far, refuseIf_true]
    exact ⟨nofun, fun both => absurd both.1 (Nat.not_lt.mpr far)⟩
  · rw [decide_eq_false far, refuseIf_false]
    change refuseIf _ _ = _ ↔ _
    rw [refuseIf_eq_ok, beq_eq_false_iff_ne, ne_eq, only]
    omega

theorem ofFrames_eq {frames : UInt64} (framed : 1 ≤ frames) :
    ofFrames frames = { frames } := by
  have bound : 1 ≤ frames.toNat := UInt64.le_iff_toNat_le.mp framed
  have same : (ofFrames frames).frames = frames :=
    UInt64.toNat.inj (by rw [toNat_ofFrames, Nat.max_eq_left bound])
  simpa [ofFrames] using same

theorem one_le_ofFrames (frames : UInt64) : 1 ≤ (ofFrames frames).frames := by
  rw [UInt64.le_iff_toNat_le, toNat_ofFrames]
  exact Nat.le_max_right _ _

end Layers

end Retouch
