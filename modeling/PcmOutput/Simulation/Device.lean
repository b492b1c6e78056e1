import PcmOutput.Library

/-!
# A simulated device

A device without hardware: it answers every call as a script says and keeps a log of the calls. Its
streams are in the state that the accepted calls would bring a stream to, unless the script has other
states in store for those who wait.
-/

set_option autoImplicit false

namespace PcmOutput

/-- How a simulated library words results and states. -/
inductive DeviceTexts
  | described
  | missing
  | empty
  /-- Bytes that are no Unicode text, as they are read. -/
  | garbled
deriving DecidableEq, Repr

def DeviceTexts.text (texts : DeviceTexts) (kind : String) (code : Int) : Option String :=
  match texts with
  | .described => some s!"{kind}<{code}>"
  | .missing => none
  | .empty => some ""
  | .garbled => some "caf\ufffd \ufffd"

/-- What a simulated device answers. -/
structure DeviceScript where
  grantedChannels : Int := 2
  /-- The rate of a stream, if it is not the one that was set. -/
  grantedRate : Option Int := none
  /-- The format of a stream, if it is not the one that was set. -/
  grantedFormat : Option Int := none
  bufferCapacity : Int := 3840
  burst : Int := 192
  xruns : Int := 0
  framesWritten : Int := 0
  /-- The frame presented last and its time, or why that is not known. -/
  timestamp : Except Int (Int × Int) := .error ResultCode.invalidState
  createResult : Int := 0
  openResult : Int := 0
  startResult : Int := 0
  pauseResult : Int := 0
  closeResult : Int := 0
  deleteResult : Int := 0
  /-- Whether a builder that was created is withheld. -/
  withholdsBuilder : Bool := false
  /-- Whether a stream that was opened is withheld. -/
  withholdsStream : Bool := false
  /-- Whether a channel mask takes effect. -/
  maskEffective : Bool := true
  texts : DeviceTexts := .described

/-- A device that follows a script. -/
structure SimulatedDevice where
  script : DeviceScript := {}
  /-- The outcomes of the next waits: a state, or a failure if negative. -/
  waits : List Int := []
  builders : Nat := 0
  /-- The streams that are open, the latest first. -/
  openStreams : List StreamHandle := []
  streams : Nat := 0
  rate : Int := 0
  format : Int := 0
  streamState : Int := 0
  dataRegistered : Bool := false
  errorRegistered : Bool := false
  log : List Call := []

namespace SimulatedDevice

def record (call : Call) (device : SimulatedDevice) : SimulatedDevice :=
  { device with log := device.log ++ [call] }

def takeLog (device : SimulatedDevice) : List Call × SimulatedDevice :=
  (device.log, { device with log := [] })

/-- The next result of a handle that is asked for: a failure, a withheld handle, or the handle itself. -/
def handOut {handle : Type} (code : Int) (withheld : Bool) (given : handle) : Except Int handle :=
  if !ResultCode.succeeded code then .error code
  else if withheld then .error ResultCode.missingHandle
  else .ok given

def createBuilder (device : SimulatedDevice) : Except Int BuilderHandle × SimulatedDevice :=
  let builder : BuilderHandle := ⟨device.builders + 1⟩
  match handOut device.script.createResult device.script.withholdsBuilder builder with
  | .error code => (.error code, device)
  | .ok builder => (.ok builder, { device with builders := builder.number })

def openStream (device : SimulatedDevice) : Except Int StreamHandle × SimulatedDevice :=
  let stream : StreamHandle := ⟨device.streams + 1⟩
  match handOut device.script.openResult device.script.withholdsStream stream with
  | .error code => (.error code, device)
  | .ok stream =>
    (.ok stream, { device with
      streams := stream.number
      openStreams := stream :: device.openStreams
      streamState := StateCode.opened })

/-- Learns a setting of a builder; only the rate and the format are kept. -/
def learn (setting : BuilderSetting) (value : Int) (device : SimulatedDevice) : SimulatedDevice :=
  match setting with
  | .sampleRate => { device with rate := value }
  | .format => { device with format := value }
  | _ => device

def heeds (setting : BuilderSetting) (device : SimulatedDevice) : Bool :=
  match setting with
  | .channelMask => device.script.maskEffective
  | _ => true

def requestResult (transition : Transition) (device : SimulatedDevice) : Int :=
  match transition with
  | .start => device.script.startResult
  | .pause => device.script.pauseResult

/-- Brings the stream to the final state of a request, if the request is accepted. -/
def request (transition : Transition) (device : SimulatedDevice) : Int × SimulatedDevice :=
  let code := device.requestResult transition
  if ResultCode.succeeded code then (code, { device with streamState := transition.target })
  else (code, device)

/-- Waits for another state: the next outcome in store, or the state the stream is in. -/
def wait (device : SimulatedDevice) : Except Int Int × SimulatedDevice :=
  match device.waits with
  | [] => (.ok device.streamState, device)
  | outcome :: rest =>
    (if outcome < 0 then .error outcome else .ok outcome, { device with waits := rest })

def property (device : SimulatedDevice) : StreamProperty → Int
  | .state => device.streamState
  | .bufferCapacity => device.script.bufferCapacity
  | .framesPerBurst => device.script.burst
  | .xrunCount => device.script.xruns
  | .sampleRate => device.script.grantedRate.getD device.rate
  | .channelCount => device.script.grantedChannels
  | .format => device.script.grantedFormat.getD device.format

/-- Answers a call and records it; properties are told without a record. -/
def respond : (call : Call) → SimulatedDevice → call.Answer × SimulatedDevice
  | .query _ property, device => (device.property property, device)
  | .createBuilder, device => (device.record .createBuilder).createBuilder
  | .deleteBuilder builder, device =>
    let device := device.record (.deleteBuilder builder)
    (device.script.deleteResult, { device with dataRegistered := false, errorRegistered := false })
  | .configure builder setting value, device =>
    (device.heeds setting, (device.record (.configure builder setting value)).learn setting value)
  | .registerData builder, device =>
    ((), { device.record (.registerData builder) with dataRegistered := true })
  | .registerError builder, device =>
    ((), { device.record (.registerError builder) with errorRegistered := true })
  | .openStream builder, device => (device.record (.openStream builder)).openStream
  | .closeStream stream, device =>
    let device := device.record (.closeStream stream)
    (device.script.closeResult, { device with
      openStreams := device.openStreams.erase stream
      streamState := StateCode.closed })
  | .request stream transition, device =>
    (device.record (.request stream transition)).request transition
  | .waitForChange stream state timeout, device =>
    (device.record (.waitForChange stream state timeout)).wait
  | .framesWritten stream, device =>
    (device.script.framesWritten, device.record (.framesWritten stream))
  | .timestamp stream clock, device =>
    (device.script.timestamp, device.record (.timestamp stream clock))

def entryPoints : EntryPoints SimulatedDevice where
  resultText device code := device.script.texts.text "result" code
  stateText device code := device.script.texts.text "state" code
  respond := respond

/-- The device without a library, at a level and with some tiers; codes go by their names. -/
def api (level : Int) (tiers : List Int) : DeviceApi SimulatedDevice where
  level := level
  hasTier tier := tiers.contains tier
  resultText _ code := ResultCode.name code
  stateText _ code := StateCode.name code
  respond := respond
  farewell := []

end SimulatedDevice

def presentLoader {δ : Type} (api : DeviceApi δ) : Loader δ :=
  fun _ device => (pure api, device)

end PcmOutput
