import PcmOutput.Driver.Basic
import PcmOutput.Output.Callback

/-!
# The callbacks of a driver

The callbacks see the context only: its source, its bytes of a frame and its rate. A callback for which
there is no context or no stream does nothing.
-/

set_option autoImplicit false

namespace PcmOutput

variable {δ τ : Type}

namespace Driver

def presentedFrames (context : CallbackContext δ τ) (stream : StreamHandle) (written : Int) : Handling δ τ Int := do
  match ← atDesk (call context.api (.timestamp stream ModeCode.monotonicClock)) with
  | .ok (position, _) => return position
  | .error code =>
    if !context.timestampMissed then
      modify (withContext ({ · with timestampMissed := true }))
      atDesk do
        let text ← resultText context.api code
        note .debug s!"No presentation timestamp ({text}), assuming zero latency"
    return written

/-- Reads the source once into the frames of the buffer. Without a source they are silent. -/
def process [AudioSource τ] (context : CallbackContext δ τ) (stream : StreamHandle) (request : DataRequest) :
    Handling δ τ DataAnswer := do
  let frames := request.frames.toNat
  let size := frames * context.frameBytes
  let written : Int ← atDesk (call context.api (.framesWritten stream))
  let presented ← presentedFrames context stream written
  let deadline := presentationDeadline request.now.nanos frames written presented context.sampleRate
  let given := (request.buffer.getD []).take size
  match context.source with
  | none => return ⟨.continue, request.buffer.map fun buffer => given.map (fun _ => 0) ++ buffer.drop size⟩
  | some source =>
    let reading := AudioSource.read given frames deadline source
    modify (withContext ({ · with source := some reading.source }))
    if reading.pull.eof then atDesk notifyDrained
    let result := if reading.pull.eof then CallbackResult.stop else .continue
    return ⟨result, request.buffer.map fun buffer => reading.buffer ++ buffer.drop size⟩

def dataCallback [AudioSource τ] (request : DataRequest) : Handling δ τ DataAnswer := do
  match request.attached, request.stream, (← get).context with
  | true, some stream, some context => process context stream request
  | _, _, _ => return ⟨.stop, request.buffer⟩

def errorCallback (code : Int) : Handling δ τ Unit := do
  match (← get).context with
  | none => return
  | some context =>
    atDesk do
      let text ← resultText context.api code
      note .error s!"{text}, trying to reload..."
      requestReload

end Driver

end PcmOutput
