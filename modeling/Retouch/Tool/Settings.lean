import Retouch.Files
import Retouch.Tool.Version

/-!
Which tool is driven and from where. Both toolchains take the same arguments; they differ in the
program that stands before them and in the oldest version accepted.
-/
namespace Retouch.Tool

inductive Toolchain
  /-- Two programs: one converts, one identifies. -/
  | imagemagick6
  /-- One program, which identifies under a subcommand. -/
  | imagemagick7
deriving DecidableEq, Repr

namespace Toolchain

def name : Toolchain → String
  | imagemagick6 => "imagemagick6"
  | imagemagick7 => "imagemagick7"

def all : List Toolchain := [imagemagick6, imagemagick7]

def ofName? (s : String) : Option Toolchain := all.find? (·.name == s)

def oldest : Toolchain → Version
  | imagemagick6 => ⟨6, 2, 9⟩
  | imagemagick7 => ⟨7, 0, 0⟩

end Toolchain

structure Settings where
  toolchain : Toolchain := .imagemagick6
  /-- Where the programs are; without it they are found by name. -/
  binDir : Option String := none
  tempDir : Option String := none
  checkVersion : Bool := true
deriving DecidableEq, Repr

namespace Settings

def program (settings : Settings) (name : String) : String :=
  match settings.binDir with
  | some directory => Path.child directory name
  | none => name

def convert (settings : Settings) : List String :=
  match settings.toolchain with
  | .imagemagick6 => [settings.program "convert"]
  | .imagemagick7 => [settings.program "magick"]

def identify (settings : Settings) : List String :=
  match settings.toolchain with
  | .imagemagick6 => [settings.program "identify"]
  | .imagemagick7 => [settings.program "magick", "identify"]

/-- A directory that is named has to exist; the one of the programs is looked at first. -/
def validate (settings : Settings) (files : Files) : Except Cause Unit := do
  check "bin_dir" settings.binDir
  check "temp_dir" settings.tempDir
where
  check (what : String) : Option String → Except Cause Unit
    | none => .ok ()
    | some directory =>
      if files.isDirectory directory then .ok ()
      else .error (.invalidArgument s!"{what} '{directory}' is not a directory")

end Settings

end Retouch.Tool
