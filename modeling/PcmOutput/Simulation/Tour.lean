import PcmOutput.Device

/-!
# A tour of a device API

One call after another, through the life of one builder and one stream, with every answer.
-/

set_option autoImplicit false

namespace PcmOutput

/-- A call with its answer. -/
structure Answered where
  call : Call
  answer : call.Answer

namespace DeviceApi

variable {δ : Type}

def exchange (api : DeviceApi δ) : List Call → δ → List Answered × δ
  | [], device => ([], device)
  | call :: rest, device =>
    let (answer, device) := api.respond call device
    let (answers, device) := api.exchange rest device
    (⟨call, answer⟩ :: answers, device)

def tourSettings (builder : BuilderHandle) : List Call :=
  [.configure builder .contentType 2, .configure builder .usage 1, .configure builder .sessionId 33,
    .configure builder .channelMask 0x80000000, .configure builder .channelCount 4,
    .configure builder .sampleRate 8000, .configure builder .format 3]

def tourCalls (stream : StreamHandle) : List Call :=
  [.query stream .state, .query stream .bufferCapacity, .query stream .framesPerBurst,
    .query stream .xrunCount, .query stream .sampleRate, .query stream .channelCount,
    .query stream .format, .framesWritten stream, .timestamp stream ModeCode.monotonicClock,
    .request stream .start, .waitForChange stream StateCode.starting 77,
    .request stream .pause, .waitForChange stream StateCode.pausing 77,
    .query stream .state, .closeStream stream, .query stream .state]

def tourStream (api : DeviceApi δ) (builder : BuilderHandle) (device : δ) : List Answered × δ :=
  let (opening, device) := api.respond (.openStream builder) device
  match opening with
  | Except.error _ => ([⟨.openStream builder, opening⟩], device)
  | Except.ok stream =>
    let (answers, device) := api.exchange (tourCalls stream) device
    (⟨.openStream builder, opening⟩ :: answers, device)

/-- The whole tour; it ends early if there is no builder. -/
def tour (api : DeviceApi δ) (device : δ) : List Answered × δ :=
  let (creation, device) := api.respond .createBuilder device
  match creation with
  | Except.error _ => ([⟨.createBuilder, creation⟩], device)
  | Except.ok builder =>
    let (settings, device) := api.exchange (tourSettings builder) device
    let (answers, device) := api.tourStream builder device
    let (deletion, device) := api.exchange [.deleteBuilder builder] device
    (⟨.createBuilder, creation⟩ :: settings ++ answers ++ deletion, device)

end DeviceApi

end PcmOutput
