import PcmOutput.Negotiation
import PcmOutput.Transition

/-!
# The device API

What an output can ask of a device, and what it is told in return. A device is any state with an answer
to every call, so that whatever devices do, and however they fail, is covered by one type.
-/

set_option autoImplicit false

namespace PcmOutput

/-- A stream builder that the device gave out. -/
structure BuilderHandle where
  number : Nat
deriving DecidableEq, Repr

/-- A stream that the device opened. -/
structure StreamHandle where
  number : Nat
deriving DecidableEq, Repr

/-- What a builder is told by a number. -/
inductive BuilderSetting
  | deviceId | direction | sharingMode | format | sampleRate | channelCount | bufferCapacity
  | performanceMode | contentType | usage | sessionId | channelMask
deriving DecidableEq, Repr

/-- What a stream is asked for by name. -/
inductive StreamProperty
  | state | bufferCapacity | framesPerBurst | xrunCount | sampleRate | channelCount | format
deriving DecidableEq, Repr

/-- A call to the device API. -/
inductive Call
  | createBuilder
  | deleteBuilder (builder : BuilderHandle)
  | configure (builder : BuilderHandle) (setting : BuilderSetting) (value : Int)
  | registerData (builder : BuilderHandle)
  | registerError (builder : BuilderHandle)
  | openStream (builder : BuilderHandle)
  | closeStream (stream : StreamHandle)
  | request (stream : StreamHandle) (transition : Transition)
  /-- Waits until the state is no longer the given one. -/
  | waitForChange (stream : StreamHandle) (state : Int) (timeoutNanos : Int)
  | query (stream : StreamHandle) (property : StreamProperty)
  | framesWritten (stream : StreamHandle)
  /-- Asks for the frame presented last, and when that was. -/
  | timestamp (stream : StreamHandle) (clock : Int)
deriving DecidableEq, Repr

/-- What a call is answered with: a result code, a number, a handle, or whether a setting took effect. -/
def Call.Answer : Call → Type
  | .createBuilder => Except Int BuilderHandle
  | .openStream _ => Except Int StreamHandle
  | .configure .. => Bool
  | .registerData _ | .registerError _ => Unit
  | .waitForChange .. => Except Int Int
  | .timestamp .. => Except Int (Int × Int)
  | .deleteBuilder _ | .closeStream _ | .request .. | .query .. | .framesWritten _ => Int

/-- The device API as it is bound, over the states `δ` of a device. -/
structure DeviceApi (δ : Type) where
  level : Int
  /-- Whether all entry points of the tier that starts at a level are bound. -/
  hasTier : Int → Bool
  resultText : δ → Int → String
  stateText : δ → Int → String
  respond : (call : Call) → δ → call.Answer × δ
  /-- What is written to the journal when the API is let go. -/
  farewell : List Line

/-- How an output comes by a device API; the device may change on the way. -/
abbrev Loader (δ : Type) := Options → δ → Noted (DeviceApi δ) × δ

/-- The first API level at which a stream can be told about its content. -/
def contentHintsLevel : Int := 28

/-- The first API level at which channels can be asked for by a mask. -/
def channelMaskLevel : Int := 32

/-- What of a bound API changes the negotiation. -/
def DeviceCaps.ofApi {δ : Type} (api : DeviceApi δ) : DeviceCaps where
  apiLevel := api.level
  contentHints := contentHintsLevel ≤ api.level && api.hasTier contentHintsLevel
  channelMask := channelMaskLevel ≤ api.level && api.hasTier channelMaskLevel

namespace StreamConfiguration

def hintSettings : Option ContentHints → List (BuilderSetting × Int)
  | some hints => [(.contentType, hints.contentType), (.usage, hints.usage), (.sessionId, hints.sessionId)]
  | none => []

def channelSetting : ChannelRequest → BuilderSetting × Int
  | .mask _ mask => (.channelMask, mask)
  | .count channels => (.channelCount, channels)

/-- The calls that tell a builder the configuration after its channels, in order. -/
def calls (config : StreamConfiguration) (builder : BuilderHandle) : List Call :=
  [.configure builder .deviceId config.deviceId,
    .configure builder .direction ModeCode.output,
    .configure builder .sharingMode config.sharingMode,
    .configure builder .format config.format.code,
    .configure builder .sampleRate config.sampleRate,
    .registerError builder,
    .configure builder .bufferCapacity config.bufferCapacity,
    .configure builder .performanceMode config.performanceMode,
    .registerData builder] ++
    (hintSettings config.hints).map fun (setting, value) => .configure builder setting value

end StreamConfiguration

end PcmOutput
