import Retouch.Cause
import Retouch.Files

/-!
A color profile: its bytes, under the name of the file they came from.
-/
namespace Retouch

structure Profile where
  name : String
  data : Bytes
deriving DecidableEq, Repr

/-- Reads a profile and names it after the file, without its extension. -/
def Profile.ofFile (files : Files) (path : String) : Except Cause Profile :=
  match files.read path with
  | .ok data => .ok ⟨(Path.stem? path).getD "", data⟩
  | .error obstacle => .error (.other s!"failed to read profile '{path}'" [obstacle.message])

end Retouch
