import Retouch.Json.Fault

/-!
Readers of single values. A reader is a function from a tree to a value or a fault; each of these
accepts one kind of node, and integers only within the range of their type.
-/
namespace Retouch.Json

abbrev Reader (α : Type) := Node → Except Fault α

def boolean : Reader Bool
  | .boolean value => .ok value
  | node => .error node.mismatch

def text : Reader String
  | .text value => .ok value
  | node => .error node.mismatch

/-- An integer from `least` to `greatest`. -/
def integerIn (least greatest : Int) : Reader Int
  | .integer value =>
    if least ≤ value && value ≤ greatest then .ok value else .error (.wrongValue (.integer value))
  | node => .error node.mismatch

def word32 : Reader UInt32 := fun node =>
  (integerIn 0 0xFFFFFFFF node).map fun value => .ofNat value.toNat

def integer32 : Reader Int32 := fun node =>
  (integerIn (-0x80000000) 0x7FFFFFFF node).map .ofInt

def double : Reader Binary64
  | .integer value => .ok (.ofInt value)
  | .float value => .ok value
  | node => .error node.mismatch

def named {α : Type} (parse : String → Except Cause α) : Reader α := fun node => do
  match parse (← text node) with
  | .ok value => .ok value
  | .error cause => .error (.rejected cause)

def optional {α : Type} (read : Reader α) : Reader (Option α)
  | .null => .ok none
  | node => (read node).map some

def nothing : Reader Unit
  | .null => .ok ()
  | node => .error node.mismatch

def each {α : Type} (read : Reader α) : Reader (List α)
  | .array items closed => do
    let values ← items.mapM read
    if closed then .ok values else .error .malformed
  | node => .error node.mismatch

/-- A whole text, with nothing after the value. -/
def decode {α : Type} (read : Reader α) (document : Document) : Except Fault α := do
  let value ← read document.root
  if document.alone then .ok value else .error .malformed

end Retouch.Json
