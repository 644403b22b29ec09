import Retouch.Json.Shape

/-!
Records: named fields in any order, or their values in the order of declaration. Reading follows the
text: a member is at fault when it is met, and a field that is missing only at the end.
-/
namespace Retouch.Json

/-- How a tree comes about. When it is read as it is met, an excess of items is an error of form;
when all of it was taken in before, it is an error of content. -/
inductive Reading
  | direct
  | buffered
deriving DecidableEq, Repr

structure Field (σ : Type) where
  name : String
  /-- Other spellings of the name. -/
  aliases : List String := []
  required : Bool := false
  set : Node → σ → Except Fault σ

/-- A field whose value is put into the record by `put`. -/
def Field.of {σ α : Type} (name : String) (read : Reader α) (put : α → σ → σ) : Field σ where
  name := name
  set := fun node record => (read node).map (put · record)

def Field.spelled {σ : Type} (aliases : List String) (field : Field σ) : Field σ :=
  { field with aliases }

def Field.demanded {σ : Type} (field : Field σ) : Field σ := { field with required := true }

def Field.answersTo {σ : Type} (field : Field σ) (key : String) : Bool :=
  field.name == key || field.aliases.contains key

/-- A kind of record: what it is before any field is read, and its fields in their order. -/
structure Record (σ : Type) where
  initial : σ
  fields : List (Field σ)
  /-- A member that is no field is refused; otherwise it is passed over. -/
  strict : Bool := false

namespace Record

variable {σ : Type}

def field? (record : Record σ) (key : String) : Option (Field σ) :=
  record.fields.find? (·.answersTo key)

/-- Takes one member in: the names of the fields read so far, and the record. -/
def member (record : Record σ) (state : List String × σ) (entry : Node × Node) :
    Except Fault (List String × σ) :=
  match entry.1 with
  | .text key =>
    match record.field? key with
    | some field =>
      if state.1.contains field.name then .error (.duplicateField field.name)
      else (field.set entry.2 state.2).map fun value => (field.name :: state.1, value)
    | none =>
      if record.strict then .error (.unknownField key)
      else if entry.2.isPassable then .ok state
      else .error .malformed
  | _ => .error .malformed

def missing? (record : Record σ) (seen : List String) : Option (Field σ) :=
  record.fields.find? fun field => field.required && !seen.contains field.name

def ofMembers (record : Record σ) (members : List (Node × Node)) (closed : Bool) :
    Except Fault σ := do
  let (seen, value) ← members.foldlM record.member ([], record.initial)
  if !closed then .error .malformed
  else match record.missing? seen with
    | some field => .error (.missingField field.name)
    | none => .ok value

/-- Fields that have no item any more keep their initial value, unless they are required. -/
def lacking (fields : List (Field σ)) (index : Nat) (value : σ) : Except Fault σ :=
  match fields.findIdx? (·.required) with
  | some more => .error (.wrongLength (index + more))
  | none => .ok value

def ofItems (reading : Reading) (total : Nat) (closed : Bool) :
    List (Field σ) → List Node → Nat → σ → Except Fault σ
  | field :: fields, item :: items, index, value => do
    ofItems reading total closed fields items (index + 1) (← field.set item value)
  | fields, [], index, value => if closed then lacking fields index value else .error .malformed
  | [], _ :: _, _, _ =>
    match reading with
    | .direct => .error .malformed
    | .buffered => .error (.wrongLength total)

def read (record : Record σ) (reading : Reading) : Reader σ
  | .object members closed => record.ofMembers members closed
  | .array items closed =>
    ofItems reading items.length closed record.fields items 0 record.initial
  | node => .error node.mismatch

end Record

end Retouch.Json
