/-!
UTF-8, decoded one byte at a time. `scan` gives a character for every well-formed sequence and a
gap for every maximal part of one that breaks off, so that `lossy` shows one replacement character
per gap.
-/
namespace Retouch.Text.Utf8

/-- A sequence that has begun: the bytes still owed, the bits so far, and the bounds of the next
byte. -/
structure Pending where
  owed : Nat
  bits : Nat
  least : Nat := 0x80
  greatest : Nat := 0xBF

/-- What a byte means between sequences. -/
def lead (byte : Nat) : Option (Char ⊕ Pending) :=
  if byte < 0x80 then some (.inl (Char.ofNat byte))
  else if byte < 0xC2 then none
  else if byte < 0xE0 then some (.inr { owed := 1, bits := byte - 0xC0 })
  else if byte == 0xE0 then some (.inr { owed := 2, bits := 0, least := 0xA0 })
  else if byte == 0xED then some (.inr { owed := 2, bits := 0xD, greatest := 0x9F })
  else if byte < 0xF0 then some (.inr { owed := 2, bits := byte - 0xE0 })
  else if byte == 0xF0 then some (.inr { owed := 3, bits := 0, least := 0x90 })
  else if byte < 0xF4 then some (.inr { owed := 3, bits := byte - 0xF0 })
  else if byte == 0xF4 then some (.inr { owed := 3, bits := 4, greatest := 0x8F })
  else none

/-- The characters of a byte sequence, `none` for each ill-formed part. -/
def scanFrom : Option Pending → List UInt8 → List (Option Char)
  | none, [] => []
  | some _, [] => [none]
  | none, byte :: rest =>
    match lead byte.toNat with
    | none => none :: scanFrom none rest
    | some (.inl c) => some c :: scanFrom none rest
    | some (.inr pending) => scanFrom (some pending) rest
  | some pending, byte :: rest =>
    if pending.least ≤ byte.toNat && byte.toNat ≤ pending.greatest then
      let bits := pending.bits * 64 + byte.toNat % 64
      if pending.owed ≤ 1 then some (Char.ofNat bits) :: scanFrom none rest
      else scanFrom (some { owed := pending.owed - 1, bits }) rest
    else
      none :: match lead byte.toNat with
        | none => none :: scanFrom none rest
        | some (.inl c) => some c :: scanFrom none rest
        | some (.inr next) => scanFrom (some next) rest

def scan (bytes : List UInt8) : List (Option Char) := scanFrom none bytes

def lossy (bytes : List UInt8) : String := .ofList ((scan bytes).map (·.getD '\uFFFD'))

def encode (s : String) : List UInt8 := s.toList.flatMap String.utf8EncodeChar

def size (cs : List Char) : Nat := cs.foldr (fun c rest => c.utf8Size + rest) 0

end Retouch.Text.Utf8
