import PcmOutput.Error
import PcmOutput.Options.Basic
import PcmOutput.Text.Blank
import PcmOutput.Text.Fields
import PcmOutput.Text.Numeral

/-!
# Setting options

An option is set by its key and a text. The key may carry the mark of the output in front, and blanks
around the text do not count. A text outside the language of its option changes nothing. A list of
entries is applied in order up to the first one that fails, and what was applied before stays.
-/

set_option autoImplicit false

namespace PcmOutput

def keyMark : String := "aaudio-"

/-- The key of an option without its mark; only one mark is taken off. -/
def bareKey (key : String) : String :=
  Text.withoutMark keyMark key

/-- What can be set, one key for each field of the options. -/
inductive OptionKey
  | deviceId | sessionId | bufferCapacity | performanceMode | apiLevel | stateTimeout | library
deriving DecidableEq, Repr

namespace OptionKey

def name : OptionKey → String
  | .deviceId => "device-id"
  | .sessionId => "session-id"
  | .bufferCapacity => "buffer-capacity"
  | .performanceMode => "performance-mode"
  | .apiLevel => "api-level"
  | .stateTimeout => "state-timeout-ms"
  | .library => "library"

/-- Every key, in the order in which environment variables are applied. -/
def all : List OptionKey :=
  [.deviceId, .sessionId, .bufferCapacity, .performanceMode, .apiLevel, .stateTimeout, .library]

/-- The key with this name; the name has to match in every character. -/
def ofName? (name : String) : Option OptionKey :=
  all.find? fun key => key.name == name

@[simp] theorem ofName?_name (key : OptionKey) : ofName? key.name = some key := by
  cases key <;> rfl

theorem name_of_ofName? {name : String} {key : OptionKey} (found : ofName? name = some key) :
    key.name = name := by
  simpa using List.find?_some found

end OptionKey

namespace Options

/-- The number of one of the named choices, or a positive numeral of 32 bits. -/
def choice? (choices : List (String × Int)) (value : String) : Option Int :=
  match choices.find? fun named => named.1 == value with
  | some named => some named.2
  | none => (Text.int32? value).filter fun number => 1 ≤ number

/-- The time-out a text stands for: a count of milliseconds, or no end. -/
def timeout? (value : String) : Option (Option Nat) :=
  if value = "inf" ∨ value = "infinite" then some none
  else (Text.natural64? value).map some

/-- The options with one of them set to a trimmed text, if the text is in the option's language. -/
def assign? (options : Options) (key : OptionKey) (value : String) : Option Options :=
  match key with
  | .deviceId =>
    (choice? [("auto", unspecified)] value).map fun device => { options with deviceId := device }
  | .sessionId =>
    (choice? [("none", noSession), ("allocate", newSession)] value).map fun session =>
      { options with sessionId := session }
  | .bufferCapacity =>
    (choice? [("auto", unspecified)] value).map fun frames => { options with bufferCapacity := frames }
  | .performanceMode =>
    (PerformanceMode.ofName? value).map fun mode => { options with performanceMode := mode }
  | .apiLevel =>
    (choice? [("auto", 0)] value).map fun level =>
      { options with apiLevel := if level = 0 then none else some level }
  | .stateTimeout =>
    (timeout? value).map fun millis => { options with stateTimeoutMillis := millis }
  | .library => if value = "" then none else some { options with library := value }

/-- Sets one option; the error names the bare key and the trimmed text. -/
def set (options : Options) (key value : String) : Except OutputError Options :=
  match OptionKey.ofName? (bareKey key) with
  | none => .error (.unknownOption (bareKey key))
  | some known =>
    match options.assign? known (Text.trim value) with
    | some changed => .ok changed
    | none => .error (.invalidOption (bareKey key) (Text.trim value))

/-- A key with the text it is set to. -/
structure Entry where
  key : String
  value : String
deriving DecidableEq, Repr

/-- The options after some entries, and what became of the entries. -/
structure Applied where
  options : Options
  result : Except OutputError Unit

/--
Applies items in order. Each item is read as an entry and then set; the first one that cannot be read
or set ends the work, and the options stay as the items before it left them.
-/
def applyItems {item : Type} (read : item → Except OutputError Entry) :
    List item → Options → Applied
  | [], options => ⟨options, .ok ()⟩
  | first :: rest, options =>
    match read first with
    | .error cause => ⟨options, .error cause⟩
    | .ok entry =>
      match options.set entry.key entry.value with
      | .error cause => ⟨options, .error cause⟩
      | .ok changed => applyItems read rest changed

/-- Reads `key=value`: the key is trimmed, and all after the first equals sign is the value. -/
def readPair (pair : String) : Except OutputError Entry :=
  match Text.cutAtFirst? '=' pair.toList with
  | some (key, value) => .ok ⟨Text.trim (String.ofList key), String.ofList value⟩
  | none => .error (.invalidOption pair "")

/-- Applies `key=value` pairs in order. -/
def applyPairs (pairs : List String) (options : Options) : Applied :=
  applyItems readPair pairs options

end Options

end PcmOutput
