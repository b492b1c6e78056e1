import PcmOutput.Options.Profile
import PcmOutput.Player.Arguments
import PcmOutput.Player.Performance
import PcmOutput.Text.Terminal
import PcmOutput.Tone

/-!
# The player

Plays a tone as the command line says. The options of the output come from the profile, the environment
and the command line, each over the ones before.
-/

set_option autoImplicit false

namespace PcmOutput.Player

/-- Whether a line is shown: those of the least weight only to who asks for more. -/
def isShown (verbosity : Nat) (line : Line) : Bool :=
  match line.level with
  | .debug => 0 < verbosity
  | .info | .warning | .error => true

def shownLine (line : Line) : Line :=
  { line with text := Text.shown line.text }

/-- What is left when the player is done. -/
structure Report (δ : Type) where
  exitCode : Nat
  notice : List String := []
  lines : List Line
  failure : Option String
  device : δ

def outputOptions (files : Options.Files) (environment : Environment) (pairs : List String) :
    Except OutputError Options := do
  let loaded ← Options.load files environment
  let applied := loaded.applyPairs pairs
  applied.result.map fun () => applied.options

def Arguments.request (arguments : Arguments) : AudioRequest where
  format := arguments.format
  channels := arguments.channels
  sampleRate := arguments.rate
  exclusive := arguments.exclusive
  music := arguments.music

def Arguments.tone (arguments : Arguments) : Tone :=
  { frequency := arguments.frequency, seconds := arguments.seconds }

/-- The seconds after which a tone that has not ended is given up; a length that is no number counts as none. -/
def Arguments.patience (arguments : Arguments) : Float :=
  (if 0.0 < arguments.seconds then arguments.seconds else 0.0) + 2.0

/-- The seconds that a duration must stay below. -/
def longestDuration : Float := 18446744073709551616.0

/-- The seconds that a duration must stay below for its end to be a point in time. -/
def longestWait : Float := 9223372036854775808.0

def play {δ : Type} (host : Host δ Tone) (options : Options) (arguments : Arguments) :
    StateM (Scene δ) Ending := do
  if arguments.patience < longestDuration then
    let waitable := arguments.patience < longestWait
    let performOnce := perform host options arguments.request waitable
    performAll performOnce arguments.maxReloads arguments.maxReloads arguments.tone
  else return .crashed

def Scene.report {δ : Type} (scene : Scene δ) : Ending → Report δ
  | .finished => { exitCode := 0, lines := scene.journal, failure := none, device := scene.device }
  | .failed message =>
    { exitCode := 1, lines := scene.journal, failure := some (Text.quoted message), device := scene.device }
  | .crashed => { exitCode := 101, lines := scene.journal, failure := none, device := scene.device }

/-- The report of a command line that was not read to its end. -/
def Stop.report {δ : Type} (stop : Stop) (device : δ) : Report δ :=
  { exitCode := if stop = .helpWanted then 0 else 2
    notice := stop.notice
    lines := []
    failure := none
    device := device }

def run {δ : Type} (host : Host δ Tone) (files : Options.Files) (environment : Environment)
    (words : List String) (device : δ) : Report δ :=
  match Arguments.read words with
  | .error stop => stop.report device
  | .ok arguments =>
    match outputOptions files environment arguments.pairs with
    | .error cause => (Scene.mk device []).report (.failed cause.message)
    | .ok options =>
      let (ending, scene) := (play host options arguments).run ⟨device, []⟩
      let report := scene.report ending
      { report with lines := (report.lines.filter (isShown arguments.verbosity)).map shownLine }

end PcmOutput.Player
