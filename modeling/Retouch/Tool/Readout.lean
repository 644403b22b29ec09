import Retouch.Color
import Retouch.Geometry
import Retouch.Text.Utf8

/-!
What the tool prints, read back: sizes, numbers of frames, pixels and histograms. Every readout but
the histogram is the first line of the output that is not blank.
-/
namespace Retouch.Tool.Readout

/-- The first line with something on it, without the blanks around it. -/
def firstLine (output : String) : String :=
  let filled := ((Text.lines output.toList).map Text.trimChars).find? (!·.isEmpty)
  .ofList (filled.getD [])

def unexpected (what got : String) : Cause :=
  .externalTool "unexpected output" s!"expected {what}, got '{got}'"

def size? (line : List Char) : Option Size := do
  let (width, height) ← Text.splitOnce 'x' line
  return ⟨← Text.word32? (Text.trimChars width), ← Text.word32? (Text.trimChars height)⟩

def size (line : String) : Except Cause Size :=
  match size? line.toList with
  | some size => .ok size
  | none => .error (unexpected "WxH" line)

def frames (line : String) : Except Cause UInt64 :=
  match Text.word64? line.toList with
  | some count => .ok count
  | none => .error (unexpected "frame count" line)

/-- The two leading digits of every group of four. -/
def narrowed : List Char → List Char
  | a :: b :: _ :: _ :: rest => a :: b :: narrowed rest
  | _ => []

/-- A pixel with channels of eight bits, or of sixteen, of which the upper eight count. The length
is counted in bytes, and a wide pixel has to be ASCII. -/
def pixel (s : String) : Except Cause Color :=
  let body := Color.body s.toList
  let length := Text.Utf8.size body
  if length == 6 || length == 8 then Color.parse (.ofList body)
  else if (length == 12 || length == 16) && body.all (·.toNat < 128) then
    Color.parse (.ofList (narrowed body))
  else .error (unexpected "hex color" s)

/-- The word after the first hash sign of a line. -/
def pixelWord? (line : List Char) : Option (List Char) :=
  (Text.splitOnce '#' line).bind fun (_, rest) => Text.firstWord? rest

/-- One color for every line with a hash sign and a word after it, in their order. -/
def histogram (output : String) : Except Cause (List Color) :=
  ((Text.lines output.toList).filterMap pixelWord?).mapM fun word => pixel (.ofList word)

end Retouch.Tool.Readout
