import Retouch.Json.Record

/-!
Values that are one of several variants: the name of a variant, or an object whose only member has
the name as its key and the content of the variant as its value.
-/
namespace Retouch.Json

/-- A variant: what it is with this content, or with none. -/
structure Variant (α : Type) where
  name : String
  content : Option Node → Except Fault α

/-- A variant without content. A null may stand for it. -/
def Variant.bare {α : Type} (name : String) (value : α) : Variant α where
  name := name
  content := fun
    | none => .ok value
    | some node => (nothing node).map fun _ => value

def Variant.holding {α β : Type} (name : String) (read : Reader β) (make : β → α) : Variant α where
  name := name
  content := fun
    | none => .error (.wrongType .bareVariant)
    | some node => (read node).map make

def variant? {α : Type} (variants : List (Variant α)) (key : Node) : Except Fault (Variant α) :=
  match key with
  | .text name =>
    match variants.find? (·.name == name) with
    | some variant => .ok variant
    | none => .error (.unknownVariant name)
  | node => .error node.mismatch

/-- Any other form is an error of form when the text is read as it is met. -/
def oneOf {α : Type} (reading : Reading) (variants : List (Variant α)) : Reader α := fun node =>
  match reading, node with
  | _, .text name => do (← variant? variants (.text name)).content none
  | .direct, .object ((key, content) :: rest) closed => do
    let value ← (← variant? variants key).content (some content)
    if rest.isEmpty && closed then .ok value else .error .malformed
  | .buffered, .object [(key, content)] _ => do
    (← variant? variants key).content (some content)
  | .buffered, .object .. => .error (.wrongValue .map)
  | .buffered, node => .error node.mismatch
  | .direct, _ => .error .malformed

end Retouch.Json
