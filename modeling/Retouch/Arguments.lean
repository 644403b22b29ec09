import Retouch.Cause
import Retouch.ScratchFile

/-!
The pending command line: tokens in the order the tool will read them, and the temporary files that
some of the tokens name. A flag is appended together with all of its values, a group together with
the files it refers to.
-/
namespace Retouch

structure Arguments where
  tokens : List String := []
  resources : List ScratchFile := []
deriving Repr

namespace Arguments

/-- Arguments are alike when they read alike, whatever files stand behind them. -/
instance : BEq Arguments := ⟨fun a b => a.tokens == b.tokens⟩

def push (arguments : Arguments) (flag : String) (values : List String) : Arguments :=
  { arguments with tokens := arguments.tokens ++ flag :: values }

def group (arguments : Arguments) (tokens : List String) (resources : List ScratchFile) :
    Arguments where
  tokens := arguments.tokens ++ "(" :: tokens ++ [")"]
  resources := arguments.resources ++ resources

def attach (arguments : Arguments) (file : ScratchFile) : Arguments :=
  { arguments with resources := arguments.resources ++ [file] }

def size (arguments : Arguments) : Nat := arguments.tokens.length

def isEmpty (arguments : Arguments) : Bool := arguments.tokens.isEmpty

@[simp] theorem tokens_push (arguments : Arguments) (flag : String) (values : List String) :
    (arguments.push flag values).tokens = arguments.tokens ++ flag :: values := rfl

@[simp] theorem resources_push (arguments : Arguments) (flag : String) (values : List String) :
    (arguments.push flag values).resources = arguments.resources := rfl

@[simp] theorem tokens_group (arguments : Arguments) (tokens : List String)
    (resources : List ScratchFile) :
    (arguments.group tokens resources).tokens = arguments.tokens ++ "(" :: tokens ++ [")"] := rfl

@[simp] theorem resources_group (arguments : Arguments) (tokens : List String)
    (resources : List ScratchFile) :
    (arguments.group tokens resources).resources = arguments.resources ++ resources := rfl

@[simp] theorem tokens_attach (arguments : Arguments) (file : ScratchFile) :
    (arguments.attach file).tokens = arguments.tokens := rfl

end Arguments

abbrev Draft := Stepwise Arguments

def Draft.push (flag : String) (values : List String) : Draft Unit := fun arguments =>
  (.ok (), arguments.push flag values)

end Retouch
