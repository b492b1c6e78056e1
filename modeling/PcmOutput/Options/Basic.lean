import PcmOutput.DeviceCode

/-!
# Options of an output

What can be set about an output from outside: the device, its session and buffer, how much latency
matters, the API level, how long a state is waited for, and the library that gives the device API.
-/

set_option autoImplicit false

namespace PcmOutput

/-- What a stream is tuned for. -/
inductive PerformanceMode
  | none | lowLatency | powerSaving
deriving DecidableEq, Repr

namespace PerformanceMode

def name : PerformanceMode → String
  | .none => "none"
  | .lowLatency => "low-latency"
  | .powerSaving => "power-saving"

def code : PerformanceMode → Int
  | .none => 10
  | .powerSaving => 11
  | .lowLatency => 12

/-- The mode with this name; the name has to match in every character. -/
def ofName? (name : String) : Option PerformanceMode :=
  [PerformanceMode.none, .lowLatency, .powerSaving].find? fun mode => mode.name == name

@[simp] theorem ofName?_name (mode : PerformanceMode) : ofName? mode.name = some mode := by
  cases mode <;> rfl

end PerformanceMode

/-- The device, or the capacity, that the system chooses. -/
def unspecified : Int := 0

/-- The session of a stream that belongs to none. -/
def noSession : Int := -1

/-- The session of a stream for which the system makes a new one. -/
def newSession : Int := 0

/-- The options of an output. -/
structure Options where
  deviceId : Int := unspecified
  sessionId : Int := noSession
  bufferCapacity : Int := unspecified
  performanceMode : PerformanceMode := .none
  /-- The API level to bind, if it is set. -/
  apiLevel : Option Int := none
  /-- How long a state is waited for; nothing stands for no end. -/
  stateTimeoutMillis : Option Nat := none
  library : String := "libaaudio.so"
deriving DecidableEq, Repr

namespace Options

def longestTimeout : Int := 9223372036854775807

/-- The time-out of a wait, in nanoseconds; one that is too long to be told is the longest. -/
def stateTimeoutNanos (options : Options) : Int :=
  match options.stateTimeoutMillis with
  | some millis => min ((millis : Int) * 1000000) longestTimeout
  | none => longestTimeout

end Options

end PcmOutput
