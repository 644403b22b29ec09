import Retouch.Main
import Retouch.Proofs.Image.Course
import Retouch.Proofs.Session.Atomic
import Retouch.Session
import Retouch.Tool.Script
import Retouch.Tool.Spawn
import Retouch.Proofs.Session.Run
import Retouch.Proofs.Grammar.Units
import Retouch.Proofs.Grammar.Replay
import Retouch.Proofs.Grammar.Spelled
import Retouch.Proofs.Session.CachedSize
import Retouch.Proofs.Image.Alike
import Retouch.Proofs.Session.Meaning
import Retouch.Proofs.Files.Place
import Retouch.Proofs.Files.Changes
import Retouch.Proofs.Files.Acts
import Retouch.Proofs.Files.Naming
import Retouch.Proofs.Image.Mention
import Retouch.Proofs.Files.Scratch
import Retouch.Proofs.Session.Assembly
import Retouch.Proofs.Session.Turn
import Retouch.Proofs.Session.Lifetime
import Retouch.Proofs.Image.OneCall
import Retouch.Proofs.Session.LayerState
import Retouch.Proofs.Session.AppendOnly
import Retouch.Proofs.Grammar.Lineage
import Retouch.Proofs.Session.Descent
import Retouch.Proofs.CommandLine.Blind
import Retouch.Proofs.CommandLine.DryRun
import Retouch.Proofs.Session.Conversions
import Retouch.Proofs.Session.FrameCount
import Retouch.Proofs.Session.Transcript
import Retouch.Proofs.Session.Parallel
import Retouch.Proofs.Json.OptionsObject
import Retouch.Proofs.Save.Prescription
import Retouch.Proofs.Save.Compression
import Retouch.Proofs.Save.FoundFormat
import Retouch.Proofs.Image.Encoder
import Retouch.Proofs.Image.Presented
import Retouch.Proofs.Color.Depths
import Retouch.Proofs.Color.Spelling
import Retouch.Proofs.Text.Lines
import Retouch.Proofs.Tool.Histogram
import Retouch.Proofs.Tool.UpperHalf
import Retouch.Proofs.Text.Numerals
import Retouch.Proofs.Tool.Banner
import Retouch.Proofs.Tool.VersionGate
import Retouch.Proofs.Image.Bounds
import Retouch.Proofs.Image.Telling
import Retouch.Proofs.Effect.Kernel
import Retouch.Proofs.Session.Numbers
import Retouch.Proofs.Tool.FirstLine
import Retouch.Proofs.Image.Answered
