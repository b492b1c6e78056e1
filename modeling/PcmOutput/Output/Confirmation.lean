import PcmOutput.Output.Basic

/-!
# Confirmed transitions

A transition is requested once and then waited for. It has happened when the stream reports the final
state; a stream that keeps reporting the transient state is waited for a few times only, and any other
state means failure.
-/

set_option autoImplicit false

namespace PcmOutput

variable {δ τ : Type}

/-- Waits until the final state is reported, at most `waits` times. -/
def confirm (api : DeviceApi δ) (stream : StreamHandle) (transition : Transition) (timeoutNanos : Int) :
    (waits : Nat) → Attempt δ τ Unit
  | 0 => do
    let text ← always (stateText api transition.transient)
    throw (.transport transition.name s!"stream still {text}")
  | waits + 1 => do
    match ← always (call api (.waitForChange stream transition.transient timeoutNanos)) with
    | Except.error code =>
      let text ← always (resultText api code)
      throw (.transport transition.name text)
    | Except.ok state =>
      if state = transition.target then
        let text ← always (stateText api state)
        always (note .debug s!"Stream {text}")
      else if state = transition.transient then confirm api stream transition timeoutNanos waits
      else
        let text ← always (stateText api state)
        throw (.transport transition.name s!"stream is {text}")

/-- Requests a transition and confirms it; `meanwhile` is what happens once the request is accepted. -/
def transit (api : DeviceApi δ) (stream : StreamHandle) (transition : Transition) (timeoutNanos : Int)
    (meanwhile : Work δ τ Unit) : Attempt δ τ Unit := do
  let code : Int ← always (call api (.request stream transition))
  if ResultCode.succeeded code then
    always meanwhile
    confirm api stream transition timeoutNanos Transition.maxWaits
  else
    let text ← always (resultText api code)
    throw (.transport transition.name text)

end PcmOutput
