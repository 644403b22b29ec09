import Retouch.Path

/-!
Names of temporary files. A tag of letters and digits stands between the chosen parts of the name,
so that two files made for the same purpose differ.
-/
namespace Retouch

/-- The part of a name that the system makes up. -/
structure Tag where
  text : String
  plain : ∀ c ∈ text.toList, c.isAlphanum = true
deriving DecidableEq, Repr

/-- An ordinal with zeros in front, six digits wide at least. -/
def Tag.ofOrdinal (ordinal : Nat) : Tag where
  text :=
    let digits := Nat.toDigits 10 ordinal
    .ofList (List.replicate (6 - digits.length) '0' ++ digits)
  plain := by
    intro c member
    have digit : c.isDigit = true := by
      rw [String.toList_ofList] at member
      rcases List.mem_append.mp member with filled | written
      · rw [List.eq_of_mem_replicate filled]
        rfl
      · exact Nat.isDigit_of_mem_toDigits (by decide) (by decide) written
    simp [Char.isAlphanum, digit]

instance : Inhabited Tag := ⟨.ofOrdinal 0⟩

structure ScratchFile where
  directory : String
  stem : String
  tag : Tag
  suffix : String
deriving DecidableEq, Inhabited, Repr

def ScratchFile.path (file : ScratchFile) : String :=
  Path.child file.directory (file.stem ++ file.tag.text ++ file.suffix)

end Retouch
