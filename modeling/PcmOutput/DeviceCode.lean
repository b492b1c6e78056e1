/-!
# Codes of the device API

The numbers the device API uses for results, stream states, sample formats and modes, and the names
that stand in for its own texts when it gives none.
-/

set_option autoImplicit false

namespace PcmOutput

/-- The code with its name, if the table has it. -/
def codeName? (table : List (Int × String)) (code : Int) : Option String :=
  (table.find? fun entry => entry.1 == code).map Prod.snd

namespace ResultCode

/-- A result that is no failure; every failure is a negative number. -/
def succeeded (code : Int) : Bool := 0 ≤ code

def disconnected : Int := -899
/-- No presentation time is known in the present state. -/
def invalidState : Int := -895
/-- A call succeeded without giving the handle it was asked for. -/
def missingHandle : Int := -886

def table : List (Int × String) :=
  [(0, "AAUDIO_OK"), (-900, "AAUDIO_ERROR_BASE"), (-899, "AAUDIO_ERROR_DISCONNECTED"),
    (-898, "AAUDIO_ERROR_ILLEGAL_ARGUMENT"), (-896, "AAUDIO_ERROR_INTERNAL"),
    (-895, "AAUDIO_ERROR_INVALID_STATE"), (-892, "AAUDIO_ERROR_INVALID_HANDLE"),
    (-890, "AAUDIO_ERROR_UNIMPLEMENTED"), (-889, "AAUDIO_ERROR_UNAVAILABLE"),
    (-888, "AAUDIO_ERROR_NO_FREE_HANDLES"), (-887, "AAUDIO_ERROR_NO_MEMORY"),
    (-886, "AAUDIO_ERROR_NULL"), (-885, "AAUDIO_ERROR_TIMEOUT"),
    (-884, "AAUDIO_ERROR_WOULD_BLOCK"), (-883, "AAUDIO_ERROR_INVALID_FORMAT"),
    (-882, "AAUDIO_ERROR_OUT_OF_RANGE"), (-881, "AAUDIO_ERROR_NO_SERVICE"),
    (-880, "AAUDIO_ERROR_INVALID_RATE")]

/-- The name of a result with its number, or the number alone. -/
def name (code : Int) : String :=
  match codeName? table code with
  | some known => s!"{known} ({code})"
  | none => s!"aaudio_result_t {code}"

end ResultCode

namespace StateCode

/-- A stream that was opened and not started yet. -/
def opened : Int := 2
def starting : Int := 3
def started : Int := 4
def pausing : Int := 5
def paused : Int := 6
def closed : Int := 12

/-- The states, in the order of their codes from zero on. -/
def names : List String :=
  ["UNINITIALIZED", "UNKNOWN", "OPEN", "STARTING", "STARTED", "PAUSING", "PAUSED", "FLUSHING",
    "FLUSHED", "STOPPING", "STOPPED", "CLOSING", "CLOSED", "DISCONNECTED"]

/-- The name of a state, or its number. -/
def name (code : Int) : String :=
  let known := match code with
    | .ofNat index => names[index]?
    | .negSucc _ => none
  known.getD s!"aaudio_stream_state_t {code}"

end StateCode

namespace FormatCode

def int16 : Int := 1
def float : Int := 2
def int32 : Int := 4
def compressed : Int := 5

def table : List (Int × String) :=
  [(-1, "invalid"), (0, "unspecified"), (1, "pcm-i16"), (2, "pcm-float"), (3, "pcm-i24-packed"),
    (4, "pcm-i32"), (5, "iec61937")]

def name (code : Int) : String :=
  (codeName? table code).getD "unknown"

end FormatCode

namespace ModeCode

def output : Int := 0
/-- The device plays no other stream. -/
def exclusive : Int := 0
def shared : Int := 1
def music : Int := 2
def movie : Int := 3
def media : Int := 1
def monotonicClock : Int := 1

end ModeCode

end PcmOutput
