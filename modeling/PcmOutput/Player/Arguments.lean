import PcmOutput.ChannelMap.Notation
import PcmOutput.Frequency
import PcmOutput.SampleFormat
import PcmOutput.Text.Fields

/-!
# Arguments of the player

What the player is told on its command line. Words are read from left to right: flags, settings with a
value behind an equals sign or in the next word, and clusters of short letters. The first word that
cannot be read ends the reading, and so does a call for help. Every setting but the pairs for the output
is given at most once.
-/

set_option autoImplicit false

namespace PcmOutput.Player

/-- What the player is to do. -/
structure Arguments where
  frequency : Frequency := { hertz := 440.0 }
  seconds : Float := 3.0
  format : SampleFormat := .float
  channels : ChannelMap := ChannelMap.stereo
  rate : Nat := 48000
  exclusive : Bool := false
  music : Bool := false
  /-- Options of the output, as `key=value`. -/
  pairs : List String := []
  maxReloads : Nat := 3
  verbosity : Nat := 0

/-- A setting with a value. -/
inductive Setting
  | frequency | seconds | format | channels | rate | option | maxReloads
deriving DecidableEq, Repr

/-- A flag without a value. -/
inductive Flag
  | exclusive | music | verbose | help
deriving DecidableEq, Repr

/-- What a name on the command line stands for. -/
inductive Named
  | setting (setting : Setting)
  | flag (flag : Flag)
deriving DecidableEq, Repr

def shortName? (letter : Char) : Option Named :=
  match letter with
  | 'o' => some (.setting .option)
  | 'v' => some (.flag .verbose)
  | 'h' => some (.flag .help)
  | _ => none

/-- Why a command line was not read to its end. -/
inductive Stop
  | helpWanted
  | unknown (word : String)
  /-- A word that is no flag and no value. -/
  | unexpected (word : String)
  | missingValue (setting : Setting)
  | invalidValue (setting : Setting) (value : String)
  | needlessValue (flag : Flag)
  | repeated (named : Named)
deriving DecidableEq, Repr

def Setting.name : Setting → String
  | .frequency => "frequency"
  | .seconds => "seconds"
  | .format => "format"
  | .channels => "channels"
  | .rate => "rate"
  | .option => "option"
  | .maxReloads => "max-reloads"

def Flag.name : Flag → String
  | .exclusive => "exclusive"
  | .music => "music"
  | .verbose => "verbose"
  | .help => "help"

def Named.name : Named → String
  | .setting known => known.name
  | .flag known => known.name

def Named.all : List Named :=
  [.setting .frequency, .setting .seconds, .setting .format, .setting .channels, .setting .rate,
    .setting .option, .setting .maxReloads, .flag .exclusive, .flag .music, .flag .verbose, .flag .help]

def longName? (name : String) : Option Named :=
  Named.all.find? fun named => named.name == name

def usage : List String :=
  ["Plays a test tone.", "",
    "  --frequency HERTZ     frequency of the tone (440)",
    "  --seconds SECONDS     length of the tone (3)",
    "  --format FORMAT       sample format (float)",
    "  --channels CHANNELS   a layout (5.1), a count (2) or speakers (fl-fr) (stereo)",
    "  --rate RATE           frames in a second (48000)",
    "  --exclusive           play no other stream on the device",
    "  --music               the content is music and not part of a movie",
    "  -o, --option KEY=VALUE",
    "                        set an option of the output",
    "  --max-reloads COUNT   give up after this many reloads (3)",
    "  -v, --verbose         show more lines",
    "  -h, --help            show this text"]

/-- What is told when a command line was not read to its end. -/
def Stop.notice : Stop → List String
  | .helpWanted => usage
  | .unknown word => [s!"nothing goes by the name {word}"]
  | .unexpected word => [s!"unexpected word: {word}"]
  | .missingValue setting => [s!"{setting.name} needs a value"]
  | .invalidValue setting value => [s!"invalid value for {setting.name}: {value}"]
  | .needlessValue flag => [s!"{flag.name} takes no value"]
  | .repeated named => [s!"{named.name} was given before"]

/-- What was read so far. -/
structure Progress where
  arguments : Arguments := {}
  /-- What was given and cannot be given again. -/
  given : List Named := []
  /-- The setting whose value is the next word. -/
  pending : Option Setting := none
  /-- Whether the mark that ends all flags was read. -/
  closed : Bool := false

abbrev Step := Except Stop Progress

def natural32High : Int := 4294967295

/-- A numeral in the range of 32 bits without a sign; it may have either sign if it is in the range. -/
def natural32? (text : String) : Option Nat :=
  (Text.integer? 0 natural32High text.toList).map Int.toNat

/-- The arguments with a setting changed to a value, if the value is in the language of the setting. -/
def Arguments.assign? (arguments : Arguments) (setting : Setting) (value : String) : Option Arguments :=
  match setting with
  | .frequency =>
    (Frequency.ofText? value).map fun frequency => { arguments with frequency := frequency }
  | .seconds => (Decimal.float? value).map fun seconds => { arguments with seconds := seconds }
  | .format => (SampleFormat.parse value).toOption.map fun format => { arguments with format := format }
  | .channels => (ChannelMap.parse value).toOption.map fun map => { arguments with channels := map }
  | .rate => (natural32? value).map fun rate => { arguments with rate := rate }
  | .option => some { arguments with pairs := arguments.pairs ++ [value] }
  | .maxReloads => (natural32? value).map fun count => { arguments with maxReloads := count }

namespace Progress

/-- Notes that something was given, unless it was given before. -/
def giveOnce (named : Named) (progress : Progress) : Step :=
  if progress.given.contains named then .error (.repeated named)
  else .ok { progress with given := named :: progress.given }

def give (setting : Setting) (value : String) (progress : Progress) : Step :=
  match progress.arguments.assign? setting value with
  | none => .error (.invalidValue setting value)
  | some arguments =>
    let progress := { progress with arguments := arguments, pending := none }
    if setting = .option then .ok progress else progress.giveOnce (.setting setting)

def raise (flag : Flag) (progress : Progress) : Step :=
  let arguments := progress.arguments
  match flag with
  | .help => .error .helpWanted
  | .verbose => .ok { progress with arguments := { arguments with verbosity := arguments.verbosity + 1 } }
  | .exclusive =>
    { progress with arguments := { arguments with exclusive := true } }.giveOnce (.flag .exclusive)
  | .music => { progress with arguments := { arguments with music := true } }.giveOnce (.flag .music)

/-- Nothing but a value may follow a setting without one. -/
def settled (progress : Progress) : Step :=
  match progress.pending with
  | some setting => .error (.missingValue setting)
  | none => .ok progress

/-- Reads a long name, and the value behind an equals sign. -/
def readLong (body : List Char) (progress : Progress) : Step :=
  let (name, value) := match Text.cutAtFirst? '=' body with
    | some (name, value) => (name, some (String.ofList value))
    | none => (body, none)
  match longName? (String.ofList name), value with
  | none, _ => .error (.unknown (String.ofList name))
  | some (.setting setting), some value => progress.give setting value
  | some (.setting setting), none => .ok { progress with pending := some setting }
  | some (.flag flag), some _ => .error (.needlessValue flag)
  | some (.flag flag), none => progress.raise flag

/-- Reads a cluster of letters; what follows a setting in it is the value, with or without an equals sign. -/
def readCluster : List Char → Progress → Step
  | [], progress => .ok progress
  | letter :: rest, progress =>
    match shortName? letter with
    | none => .error (.unknown (String.singleton letter))
    | some (.flag flag) => do readCluster rest (← progress.raise flag)
    | some (.setting setting) =>
      match rest with
      | [] => .ok { progress with pending := some setting }
      | '=' :: value => progress.give setting (String.ofList value)
      | value => progress.give setting (String.ofList value)

/-- Reads a word. A lone dash is a value like any other text without a dash in front. -/
def readWord (progress : Progress) (word : String) : Step :=
  if progress.closed then .error (.unexpected word)
  else match word.toList with
  | ['-', '-'] => do return { ← progress.settled with closed := true }
  | '-' :: '-' :: body => do (← progress.settled).readLong body
  | '-' :: letter :: rest => do (← progress.settled).readCluster (letter :: rest)
  | _ =>
    match progress.pending with
    | some setting => progress.give setting word
    | none => .error (.unexpected word)

end Progress

def Arguments.read (words : List String) : Except Stop Arguments := do
  let progress ← words.foldlM Progress.readWord {}
  return (← progress.settled).arguments

end PcmOutput.Player
