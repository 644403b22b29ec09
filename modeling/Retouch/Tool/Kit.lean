import Retouch.Tool.Settings
import Retouch.World

/-!
The part of the settings that later calls need. It is prepared once: the directories have to exist
and, when asked for, one call has to show a version that is recent enough.
-/
namespace Retouch.Tool

structure Kit where
  /-- The program that converts, with its subcommand. -/
  convert : List String
  identify : List String
  tempDir : String
deriving DecidableEq, Repr

namespace Kit

def ofSettings (settings : Settings) (systemTemp : String) : Kit where
  convert := settings.convert
  identify := settings.identify
  tempDir := settings.tempDir.getD systemTemp

def versionCall (kit : Kit) : Argv := kit.convert ++ ["-version"]

def tooOld (toolchain : Toolchain) (found : Version) : Cause :=
  .unsupported .toolchain
    s!"ImageMagick {found.text} ({toolchain.name} requires {toolchain.oldest.text} or higher)"

def require (toolchain : Toolchain) (found : Version) : Except Cause Unit :=
  if found.order toolchain.oldest == .lt then .error (tooOld toolchain found) else .ok ()

def checkVersion (toolchain : Toolchain) (kit : Kit) : Act Unit := do
  let output ← World.run kit.versionCall
  let found ← Version.ofBanner output.text
  require toolchain found

def prepare (settings : Settings) : Act Kit := do
  let world ← get
  settings.validate world.files
  let kit := ofSettings settings world.systemTemp
  if settings.checkVersion then kit.checkVersion settings.toolchain
  return kit

end Kit

end Retouch.Tool
