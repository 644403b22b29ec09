import Retouch.Json.Number
import Retouch.Text.Utf8

/-!
From bytes to a tree. The reader stops at the first place where the text has no form: what it was
reading there is broken, and nothing is left over.
-/
namespace Retouch.Json

/-- Characters, with a gap for each ill-formed part of the bytes. -/
abbrev Source := List (Option Char)

def skipBlank : Source → Source
  | [] => []
  | none :: rest => none :: rest
  | some c :: rest =>
    if c = ' ' || c = '\n' || c = '\t' || c = '\r' then skipBlank rest else some c :: rest

/-- A piece of a string: a character, a code unit of sixteen bits, or a gap. -/
inductive Piece
  | char (c : Char)
  | unit (value : Nat)
  | gap

def escaped? (c : Char) : Option Char :=
  [('"', '"'), ('\\', '\\'), ('/', '/'), ('b', '\x08'), ('f', '\x0C'), ('n', '\n'), ('r', '\r'),
    ('t', '\t')].lookup c

def hexUnit? (digits : List (Option Char)) : Option Nat :=
  digits.foldlM (fun value digit => do return value * 16 + (← Text.hexDigit? (← digit))) 0

/-- The pieces up to the closing quote, and what follows it. -/
def pieces? : Source → Option (List Piece × Source)
  | [] => none
  | none :: rest => more .gap (pieces? rest)
  | some '"' :: rest => some ([], rest)
  | some '\\' :: some 'u' :: a :: b :: c :: d :: rest =>
    match hexUnit? [a, b, c, d] with
    | some value => more (.unit value) (pieces? rest)
    | none => none
  | some '\\' :: some c :: rest =>
    match escaped? c with
    | some c => more (.char c) (pieces? rest)
    | none => none
  | some c :: rest => if c.toNat < 0x20 || c = '\\' then none else more (.char c) (pieces? rest)
where
  more (piece : Piece) : Option (List Piece × Source) → Option (List Piece × Source)
    | some (pieces, rest) => some (piece :: pieces, rest)
    | none => none

/-- The characters of the pieces. A leading surrogate needs a trailing one right after it. -/
def characters? : List Piece → Option (List Char)
  | [] => some []
  | .gap :: _ => none
  | .char c :: rest => (characters? rest).map (c :: ·)
  | .unit high :: .unit low :: rest =>
    if 0xD800 ≤ high && high < 0xDC00 then
      if 0xDC00 ≤ low && low < 0xE000 then
        let c := Char.ofNat (0x10000 + (high - 0xD800) * 0x400 + (low - 0xDC00))
        (characters? rest).map (c :: ·)
      else none
    else if 0xDC00 ≤ high && high < 0xE000 then none
    else (characters? (.unit low :: rest)).map (Char.ofNat high :: ·)
  | .unit value :: rest =>
    if 0xD800 ≤ value && value < 0xE000 then none
    else (characters? rest).map (Char.ofNat value :: ·)

def quoted (source : Source) : Node × Source :=
  match pieces? source with
  | none => (.broken, [])
  | some (pieces, rest) =>
    match characters? pieces with
    | some cs => (.text (.ofList cs), rest)
    | none => (.unreadable, rest)

def isNumeric (c : Char) : Bool := c.isDigit || ['+', '-', '.', 'e', 'E'].contains c

/-- The longest beginning that could belong to a numeral. -/
def numeric : Source → List Char × Source
  | some c :: rest =>
    if isNumeric c then
      let (cs, rest) := numeric rest
      (c :: cs, rest)
    else ([], some c :: rest)
  | rest => ([], rest)

def number (source : Source) : Node × Source :=
  let (cs, rest) := numeric source
  match numeral? cs with
  | some (numeral, unused) => (numeral.node, unused.map some ++ rest)
  | none => (.broken, [])

def literals : List (String × Node) :=
  [("null", .null), ("true", .boolean true), ("false", .boolean false)]

def scalar (source : Source) : Node × Source :=
  let starts (word : String) : Bool := (word.toList.map some).isPrefixOf source
  match literals.find? fun (word, _) => starts word with
  | some (word, node) => (node, source.drop word.length)
  | none => number source

mutual

def value : Nat → Source → Node × Source
  | 0, _ => (.broken, [])
  | fuel + 1, source =>
    match skipBlank source with
    | some '"' :: rest => quoted rest
    | some '[' :: rest =>
      match skipBlank rest with
      | some ']' :: rest => (.array [] true, rest)
      | rest =>
        let (all, closed, rest) := items fuel rest
        (.array all closed, rest)
    | some '{' :: rest =>
      match skipBlank rest with
      | some '}' :: rest => (.object [] true, rest)
      | rest =>
        let (all, closed, rest) := members fuel rest
        (.object all closed, rest)
    | rest => scalar rest

/-- One item or more, whether a bracket closes them, and what follows. -/
def items : Nat → Source → List Node × Bool × Source
  | 0, _ => ([.broken], false, [])
  | fuel + 1, source =>
    let (item, rest) := value fuel source
    match skipBlank rest with
    | some ',' :: rest =>
      let (more, closed, rest) := items fuel rest
      (item :: more, closed, rest)
    | some ']' :: rest => ([item], true, rest)
    | [] => ([item], false, [])
    | _ => ([item, .broken], false, [])

/-- One member or more, whether a brace closes them, and what follows. Nothing is read after a key
that is no string. -/
def members : Nat → Source → List (Node × Node) × Bool × Source
  | 0, _ => ([(.broken, .broken)], false, [])
  | fuel + 1, source =>
    let (key, rest) := value fuel source
    match key.isString, skipBlank rest with
    | true, some ':' :: rest =>
      let (entry, rest) := value fuel rest
      match skipBlank rest with
      | some ',' :: rest =>
        let (more, closed, rest) := members fuel rest
        ((key, entry) :: more, closed, rest)
      | some '}' :: rest => ([(key, entry)], true, rest)
      | [] => ([(key, entry)], false, [])
      | _ => ([(key, entry), (.broken, .broken)], false, [])
    | _, _ => ([(key, .broken)], false, [])

end

/-- Every character takes one step to a value and at most one to an item or a member. -/
def Document.ofBytes (bytes : List UInt8) : Document :=
  let source := Text.Utf8.scan bytes
  let (root, rest) := value (2 * source.length + 2) source
  ⟨root, (skipBlank rest).isEmpty⟩

def Document.ofText (s : String) : Document := .ofBytes (Text.Utf8.encode s)

end Retouch.Json
