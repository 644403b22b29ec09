import Retouch.Cause
import Retouch.Path

/-!
Output formats: which one a save resolves to, and the media type of those that can be shown.
-/
namespace Retouch.Save

/-- A text that says something. -/
def nonempty? (s : String) : Option String := if s.isEmpty then none else some s

def undetermined (destination : String) : Cause :=
  .unsupported .format s!"cannot determine an output format for '{destination}'"

/-- The first that is usable of the format asked for, the extension of the destination and the
extension of the source, in lower case. -/
def resolveFormat (asked : Option String) (destination : String) (source : Option String) :
    Except Cause String :=
  let extension (path : String) : Option String := (Path.extension? path).bind nonempty?
  match (asked.bind fun s => nonempty? (Text.trim s)) <|> extension destination <|>
      source.bind extension with
  | some format => .ok (Text.lowercase format)
  | none => .error (undetermined destination)

def mediaTypes : List (String × String) :=
  [("jpeg", "image/jpeg"), ("jpg", "image/jpeg"), ("gif", "image/gif"), ("png", "image/png"),
    ("wbmp", "image/vnd.wap.wbmp"), ("xbm", "image/xbm")]

def mediaType (format : String) : Except Cause String :=
  match mediaTypes.lookup (Text.lowercase format) with
  | some type => .ok type
  | none =>
    let known := ", ".intercalate (mediaTypes.map (·.1))
    .error (.unsupported .format s!"{format} (only {known} are supported)")

end Retouch.Save
