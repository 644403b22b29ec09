import Retouch.Binary64.Basic

/-!
Text read as a tree, leniently: what could not be read stands in the tree where it stood in the
text, so that a reader of the tree meets errors of form and errors of content in the order of the
text. A container with a part that could not be read is not closed either, as nothing after it was
read.
-/
namespace Retouch.Json

inductive Node
  | null
  | boolean (value : Bool)
  | integer (value : Int)
  | float (value : Binary64)
  /-- A number of the right form that is too large. -/
  | overflow
  | text (value : String)
  /-- A string of the right form that stands for no text. -/
  | unreadable
  | array (items : List Node) (closed : Bool)
  /-- The keys are nodes too, so that one that is no string can be told from another. -/
  | object (members : List (Node × Node)) (closed : Bool)
  | broken

/-- A whole text: a value, and whether nothing but blanks comes after it. -/
structure Document where
  root : Node
  alone : Bool

namespace Node

def isString : Node → Bool
  | text _ => true
  | unreadable => true
  | _ => false

/-- Whether a reader can pass over the value without a look at its content. -/
def isPassable : Node → Bool
  | broken => false
  | array _ closed => closed
  | object _ closed => closed
  | _ => true

/-- Whether all of the value can be taken in, with containers nested no deeper than this. -/
def isReadable : Nat → Node → Bool
  | _, broken => false
  | _, overflow => false
  | _, unreadable => false
  | 0, array .. => false
  | 0, object .. => false
  | depth + 1, array items closed => closed && items.all (isReadable depth)
  | depth + 1, object members closed =>
    closed && members.all fun (key, value) => isReadable depth key && isReadable depth value
  | _, _ => true

end Node

end Retouch.Json
