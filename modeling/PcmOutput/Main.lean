import PcmOutput.Player.Program
import PcmOutput.Simulation.Recorder

/-!
# The command line

Plays a tone on a recording device, which stands for a library of the name `recorder`. The journal and
the recordings go to the standard output, the cause of a failure to the standard error.
-/

set_option autoImplicit false

namespace PcmOutput

/-- The name of the library that the recording device stands for. -/
def recorderLibrary : String := "recorder"

/-- A system with one library, which has every entry point. -/
def recorderLinkage : Linkage where
  library path := if path = recorderLibrary then some fun _ => some 1 else none
  process _ := none

def recorderHost : Player.Host Recorder Tone where
  load := libraryLoader recorderLinkage Recorder.entryPoints
  whileStarting := Recorder.whileStarting

def readEnvironment : IO Environment := do
  let names := profileVariable :: OptionKey.all.map fun key => variableOf key.name
  let settings ← names.mapM fun name => do return (name, ← IO.getEnv name)
  return fun name => (settings.lookup name).join

/-- The profile that the environment names, if it can be read. -/
def readProfile (environment : Environment) : IO Options.Files := do
  match environment profileVariable with
  | none => return fun _ => none
  | some path =>
    try
      let text ← IO.FS.readFile path
      return fun name => if name = path then some text else none
    catch _ => return fun _ => none

end PcmOutput

open PcmOutput in
def main (words : List String) : IO UInt32 := do
  let environment ← readEnvironment
  let files ← readProfile environment
  let report := Player.run recorderHost files environment words {}
  report.notice.forM fun line => IO.println line
  report.lines.forM fun line => IO.println s!"{line.level.name} {line.text}"
  report.device.recordings.forM fun tally => IO.println tally.text
  if let some cause := report.failure then IO.eprintln s!"Error: {cause}"
  return UInt32.ofNat report.exitCode
