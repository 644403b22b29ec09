import Retouch.Tool.Settings

/-!
The arguments of the command line. They are read from left to right; an option waits with its value
until the next argument that is known, or the end, settles it. An argument that is not known is
refused at once, whatever waits.
-/
namespace Retouch.CommandLine

/-- Why the arguments are not carried out. -/
inductive Refusal
  | help
  | version
  /-- Help is shown as there are no arguments. -/
  | noArguments
  | missingSubcommand
  | invalidSubcommand
  | unknownArgument
  | invalidValue
  | missingArgument
  | repeatedArgument
  | unwantedValue
deriving DecidableEq, Repr

inductive Slot
  | input
  | ops
  | output
  | options
  | config
  | toolchain
deriving DecidableEq, Repr

namespace Slot

def all : List Slot := [input, ops, output, options, config, toolchain]

def name : Slot → String
  | input => "in"
  | ops => "ops"
  | output => "out"
  | options => "options"
  | config => "config"
  | toolchain => "toolchain"

def ofName? (name : String) : Option Slot := all.find? (·.name == name)

/-- A value is never empty, and a toolchain is known. -/
def accepts (slot : Slot) (value : String) : Bool :=
  !value.isEmpty && (slot != toolchain || (Tool.Toolchain.ofName? value).isSome)

end Slot

inductive Token
  /-- The two dashes that end the options. -/
  | dashes
  /-- A name after two dashes, with what follows an equals sign. -/
  | long (name : String) (value : Option String)
  | short (letter : Char)
  /-- Anything else, a single dash too. -/
  | word (text : String)
deriving DecidableEq, Repr

def Token.ofChars : List Char → Token
  | ['-', '-'] => .dashes
  | '-' :: '-' :: rest =>
    match Text.splitOnce '=' rest with
    | some (name, value) => .long (.ofList name) (some (.ofList value))
    | none => .long (.ofList rest) none
  | '-' :: letter :: _ => .short letter
  | cs => .word (.ofList cs)

structure Progress where
  values : List (Slot × String) := []
  verbose : Bool := false
  dryRun : Bool := false
  /-- The option met last, with its value if it has come. -/
  waiting : Option (Slot × Option String) := none
  /-- After two dashes no argument is wanted. -/
  ended : Bool := false

namespace Progress

/-- Takes the waiting option in: it needs a value, may not have been given before, and the value has
to be a good one. -/
def settle (progress : Progress) : Except Refusal Progress :=
  match progress.waiting with
  | none => .ok progress
  | some (_, none) => .error .invalidValue
  | some (slot, some value) =>
    if (progress.values.lookup slot).isSome then .error .repeatedArgument
    else if slot.accepts value then
      .ok { progress with values := progress.values ++ [(slot, value)], waiting := none }
    else .error .invalidValue

/-- An option with its value attached waits for nothing. -/
def takeOption (progress : Progress) (slot : Slot) (value : Option String) :
    Except Refusal Progress := do
  let progress := { ← progress.settle with waiting := some (slot, value) }
  if value.isSome then progress.settle else return progress

def takeSwitch (progress : Progress) (name : String) : Except Refusal Progress := do
  let progress ← progress.settle
  match name with
  | "verbose" =>
    if progress.verbose then .error .repeatedArgument else return { progress with verbose := true }
  | "dry-run" =>
    if progress.dryRun then .error .repeatedArgument else return { progress with dryRun := true }
  | _ => .error .help

def take (progress : Progress) (token : Token) : Except Refusal Progress :=
  if progress.ended then .error .unknownArgument
  else match token with
    | .dashes => .ok { progress with ended := true }
    | .long name value =>
      match Slot.ofName? name with
      | some slot => progress.takeOption slot value
      | none =>
        if ["help", "verbose", "dry-run"].contains name then
          if value.isSome then .error .unwantedValue else progress.takeSwitch name
        else .error .unknownArgument
    | .short letter =>
      if letter = 'h' then progress.takeSwitch "help" else .error .unknownArgument
    | .word text =>
      match progress.waiting with
      | some (slot, none) => .ok { progress with waiting := some (slot, some text) }
      | _ => .error .unknownArgument

def takeAll (tokens : List Token) : Except Refusal Progress := do
  let progress ← tokens.foldlM take {}
  progress.settle

end Progress

structure Job where
  input : String
  ops : String
  output : String
  options : Option String := none
  config : Option String := none
  toolchain : Option Tool.Toolchain := none
  dryRun : Bool := false
deriving DecidableEq, Repr

def Progress.job? (progress : Progress) : Option Job := do
  let value (slot : Slot) : Option String := progress.values.lookup slot
  return {
    input := ← value .input
    ops := ← value .ops
    output := ← value .output
    options := value .options
    config := value .config
    toolchain := (value .toolchain).bind Tool.Toolchain.ofName?
    dryRun := progress.dryRun }

def editJob (args : List String) : Except Refusal Job := do
  let progress ← Progress.takeAll (args.map fun arg => Token.ofChars arg.toList)
  match progress.job? with
  | some job => .ok job
  | none => .error .missingArgument

def subcommands : List String := ["edit", "help"]

/-- Help is for the whole, for itself or for the edit. -/
def helpRefusal : List String → Refusal
  | [] => .help
  | [topic] => if subcommands.contains topic then .help else .invalidSubcommand
  | _ => .invalidSubcommand

/-- Reads the arguments before the subcommand, and the job it asks for. -/
def jobAfter (verbose : Bool) : List String → Except Refusal Job
  | [] => .error (if verbose then .missingSubcommand else .noArguments)
  | arg :: rest =>
    match Token.ofChars arg.toList with
    | .dashes =>
      match rest with
      | [] => .error (if verbose then .missingSubcommand else .noArguments)
      | next :: _ =>
        .error (if subcommands.contains next then .unknownArgument else .invalidSubcommand)
    | .long name value =>
      match name, value with
      | "help", none => .error .help
      | "version", none => .error .version
      | "verbose", none => if verbose then .error .repeatedArgument else jobAfter true rest
      | name, some _ =>
        .error (if ["help", "version", "verbose"].contains name then .unwantedValue
          else .unknownArgument)
      | _, none => .error .unknownArgument
    | .short letter =>
      .error (if letter = 'h' then .help else if letter = 'V' then .version else .unknownArgument)
    | .word text =>
      if text == "edit" then editJob rest
      else if text == "help" then .error (helpRefusal rest)
      else .error .invalidSubcommand

def job (args : List String) : Except Refusal Job := jobAfter false args

end Retouch.CommandLine
