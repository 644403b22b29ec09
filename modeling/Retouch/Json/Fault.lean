import Retouch.Binary64.Decimal
import Retouch.Cause
import Retouch.Json.Node
import Retouch.Text.Quoted

/-!
Why a text does not stand for the value it should: it has no form, or its content is at fault.
-/
namespace Retouch.Json

/-- What stood in a place where something else was wanted. -/
inductive Found
  | null
  | boolean (value : Bool)
  | integer (value : Int)
  | float (value : Binary64)
  | text (value : String)
  | sequence
  | map
  /-- A variant without content. -/
  | bareVariant
deriving DecidableEq, Repr

inductive Fault
  | malformed
  | unknownField (name : String)
  | missingField (name : String)
  | duplicateField (name : String)
  | unknownVariant (name : String)
  | wrongLength (length : Nat)
  | wrongType (found : Found)
  | wrongValue (found : Found)
  /-- A text that names no value of its type. -/
  | rejected (cause : Cause)
deriving DecidableEq, Repr

/-- An exponent below `1e-5` and from ten to the sixteenth, with a sign and two digits. -/
def numberStyle : Binary64.Style where
  positional := some (-5, 15)
  wholePoint := true
  plusSign := true
  exponentWidth := 2

def Found.message : Found → String
  | .null => "null"
  | .boolean value => s!"boolean \x60{value}\x60"
  | .integer value => s!"integer \x60{value}\x60"
  | .float value => s!"floating point \x60{numberStyle.write value}\x60"
  | .text value => s!"string {Text.quoted value}"
  | .sequence => "sequence"
  | .map => "map"
  | .bareVariant => "unit variant"

def Fault.message : Fault → String
  | .malformed => "malformed"
  | .unknownField name => s!"unknown field \x60{name}\x60"
  | .missingField name => s!"missing field \x60{name}\x60"
  | .duplicateField name => s!"duplicate field \x60{name}\x60"
  | .unknownVariant name => s!"unknown variant \x60{name}\x60"
  | .wrongLength length => s!"invalid length {length}"
  | .wrongType found => s!"invalid type: {found.message}"
  | .wrongValue found => s!"invalid value: {found.message}"
  | .rejected cause => cause.message

def Node.mismatch : Node → Fault
  | .null => .wrongType .null
  | .boolean value => .wrongType (.boolean value)
  | .integer value => .wrongType (.integer value)
  | .float value => .wrongType (.float value)
  | .text value => .wrongType (.text value)
  | .array .. => .wrongType .sequence
  | .object .. => .wrongType .map
  | .overflow => .malformed
  | .unreadable => .malformed
  | .broken => .malformed

end Retouch.Json
