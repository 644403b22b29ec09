import Retouch.Cause
import Retouch.Text.Numeral

/-!
The version a tool announces. A banner names it in the first word after `ImageMagick `; of that
word the part before a hyphen counts, and of its numerals the first three.
-/
namespace Retouch.Tool

structure Version where
  major : UInt32
  minor : UInt32
  patch : UInt32
deriving DecidableEq, Repr

namespace Version

def text (version : Version) : String := s!"{version.major}.{version.minor}.{version.patch}"

/-- The major number decides, then the minor one, then the patch. -/
def order (a b : Version) : Ordering :=
  (compare a.major b.major).then ((compare a.minor b.minor).then (compare a.patch b.patch))

def notInstalled : Cause := .precondition "ImageMagick is not installed"

/-- The word of a banner that states the version. -/
def word? (banner : List Char) : Option (List Char) :=
  (Text.afterFirst? "ImageMagick ".toList banner).bind Text.firstWord?

/-- One to three numerals between dots; what is not given is zero, and more is not looked at. -/
def ofParts? (parts : List (List Char)) : Option Version := do
  match ← (parts.take 3).mapM Text.word32? with
  | [] => none
  | [major] => some ⟨major, 0, 0⟩
  | [major, minor] => some ⟨major, minor, 0⟩
  | major :: minor :: patch :: _ => some ⟨major, minor, patch⟩

def ofWord? (word : List Char) : Option Version :=
  ofParts? (Text.splitAll '.' (word.takeWhile (· != '-')))

def ofBanner (banner : String) : Except Cause Version :=
  match (word? banner.toList).bind ofWord? with
  | some version => .ok version
  | none => .error notInstalled

end Version

end Retouch.Tool
