import PcmOutput.Deadline
import PcmOutput.Output.Basic

/-!
# Callbacks

What an output does when the device wants frames or reports a failure. The data callback fills one
buffer from the source and stops the stream when the source has ended; the error callback asks the owner
once to make the output anew, and touches nothing else.
-/

set_option autoImplicit false

namespace PcmOutput

variable {δ τ : Type}

/-- What the data callback tells the device to do. -/
inductive CallbackResult
  | continue | stop
deriving DecidableEq, Repr

def CallbackResult.code : CallbackResult → Nat
  | .continue => 0
  | .stop => 1

/-- What the device hands to the data callback; each part may be missing. -/
structure DataRequest where
  /-- Whether the callback was given the output it belongs to. -/
  attached : Bool := true
  stream : Option StreamHandle
  /-- Room for the frames wanted, in the format of the stream. -/
  buffer : Option (List UInt8)
  /-- The frames wanted; a negative number counts as none. -/
  frames : Int
  now : ClockReading
deriving DecidableEq, Repr

def StreamFormat.bufferBytes (format : StreamFormat) (frames : Int) : Nat :=
  frames.toNat * format.frameBytes

/-- The answer to a data callback: whether the stream goes on, and the buffer afterwards. -/
structure DataAnswer where
  result : CallbackResult
  buffer : Option (List UInt8)
deriving DecidableEq, Repr

/-- Leaves a message in the mailbox; a lost one is noted as `what` that was not delivered. -/
def post (message : Message) (what : String) : Work δ τ Unit := do
  match (← get).mailbox.post message with
  | .ok mailbox => modify fun output => { output with mailbox := mailbox }
  | .error refusal => note .warning s!"{what} not delivered: {refusal.message}"

/-- The frames that were presented; without a presentation time, all that were written. -/
def presentedFrames (session : Session δ τ) (stream : StreamHandle) (written : Int) : Work δ τ Int := do
  match ← call session.api (.timestamp stream ModeCode.monotonicClock) with
  | .ok (position, _) => return position
  | .error code =>
    if !session.timestampMissed then
      modifySession fun session => { session with timestampMissed := true }
      let text ← resultText session.api code
      note .debug s!"No presentation timestamp ({text}), assuming zero latency"
    return written

def notifyDrained : Work δ τ Unit := do
  modify fun output => { output with drained := true }
  post .drained "End of stream"

/--
Reads the source once into the frames of the buffer, with the time at which the last of them becomes
audible. What the buffer holds beyond these frames is left alone.
-/
def fill [AudioSource τ] (session : Session δ τ) (stream : StreamHandle) (request : DataRequest) :
    Work δ τ DataAnswer := do
  let frames := request.frames.toNat
  let size := session.format.bufferBytes request.frames
  let written : Int ← call session.api (.framesWritten stream)
  let presented ← presentedFrames session stream written
  let deadline :=
    presentationDeadline request.now.nanos frames written presented session.config.sampleRate
  let reading := AudioSource.read ((request.buffer.getD []).take size) frames deadline session.source
  modifySession fun session => { session with source := reading.source }
  if reading.pull.eof then notifyDrained
  let result := if reading.pull.eof then CallbackResult.stop else .continue
  return ⟨result, request.buffer.map fun buffer => reading.buffer ++ buffer.drop size⟩

/-- The data callback. Without an output or a stream it stops the stream and leaves the buffer alone. -/
def dataCallback [AudioSource τ] (request : DataRequest) : Work δ τ DataAnswer := do
  match request.attached, request.stream, (← get).phase with
  | true, some stream, .ready session => fill session stream request
  | _, _, _ => return ⟨.stop, request.buffer⟩

/-- Asks the owner, the first time only, to make the output anew. -/
def requestReload : Work δ τ Unit := do
  if !(← get).reloadRequested then
    modify fun output => { output with reloadRequested := true }
    post .reload "Reload request"

def errorCallback (code : Int) : Work δ τ Unit := do
  match (← get).phase with
  | .idle _ => return
  | .ready session =>
    let text ← resultText session.api code
    note .error s!"{text}, trying to reload..."
    requestReload

end PcmOutput
