import Retouch.World

/-!
A tool that answers from a script. Calls fall into classes by what they ask for; each class has its
own replies, given in turn, the last of them again and again.
-/
namespace Retouch.Tool

inductive CallClass
  | version
  | colorspace
  | frames
  | size
  | histogram
  | color
  | save
deriving DecidableEq, Repr

namespace CallClass

def ofToken? (token : String) : Option CallClass :=
  match [("-version", version), ("%[colorspace]\n", colorspace), ("%n\n", frames),
      ("%wx%h\n", size), ("histogram:info:-", histogram)].lookup token with
  | some found => some found
  | none => if "%[hex:".toList.isPrefixOf token.toList then some color else none

/-- The first token that belongs to a class decides; without one the call is a save. -/
def ofArgv (argv : Argv) : CallClass := (argv.findSome? ofToken?).getD save

/-- The output of a class for which the script has no reply. -/
def usual : CallClass → String
  | version =>
    "Version: ImageMagick 6.9.11-60 Q16 x86_64 2021-01-25 https://imagemagick.org\n"
  | colorspace => "sRGB\n"
  | frames => "1\n"
  | size => "100x50\n"
  | color => "FF0000\n"
  | histogram => ""
  | save => ""

end CallClass

abbrev Script := CallClass → List Reply

namespace Script

/-- The reply to a call, given how many of its class came before. -/
def reply (script : Script) (kind : CallClass) (earlier : Nat) : Reply :=
  let replies := script kind
  (replies[min earlier (replies.length - 1)]?).getD
    (.ran (.ok (Text.Utf8.encode kind.usual)) [])

def responder (script : Script) : Responder := fun log argv =>
  let kind := CallClass.ofArgv argv
  script.reply kind (log.countP fun call => CallClass.ofArgv call = kind)

end Script

/-- A tool that gives one reply to everything. -/
def steady (reply : Reply) : Responder := fun _ _ => reply

end Retouch.Tool
