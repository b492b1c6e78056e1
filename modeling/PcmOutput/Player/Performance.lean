import PcmOutput.Output.Lifecycle

/-!
# Performances

The player gives its source one performance after another: an output is made, plays the source, and
gives it back. A performance that ends with the wish for a new output is followed by another one with
the same source, at most as often as the player may reload.
-/

set_option autoImplicit false

namespace PcmOutput.Player

/-- How a player comes by device APIs, and what a device does while a stream starts and while the player waits. -/
structure Host (δ τ : Type) where
  load : Loader δ
  whileStarting : Work δ τ Unit
  whilePlaying : Work δ τ Unit := pure ()

/-- The device and the journal between performances. -/
structure Scene (δ : Type) where
  device : δ
  journal : List Line := []

/-- How a performance ended. -/
inductive PerformanceEnd (τ : Type)
  | finished (source : τ)
  | reload (source : τ)
  | failed (message : String)
  | crashed

/-- How a player ended. -/
inductive Ending
  | finished
  | failed (message : String)
  | crashed
deriving DecidableEq, Repr

variable {δ τ : Type}

def Scene.note (level : Level) (text : String) : StateM (Scene δ) Unit :=
  modify fun scene => { scene with journal := scene.journal ++ [⟨level, text⟩] }

def announce : Work δ τ Unit := do
  let output ← get
  match output.streamFormat? with
  | none => return
  | some format =>
    let level := output.apiLevel?.getD 0
    let playing := s!"{format.format.name} {format.sampleRate} Hz {format.channels.name}"
    note .info s!"Playing {playing} (API level {level}, buffer {output.deviceBuffer} frames)"

def begin [AudioSource τ] (host : Host δ τ) (request : AudioRequest) : Attempt δ τ Unit := do
  Output.init request
  always announce
  Output.startMeanwhile host.whileStarting

/-- Waits for the first message, and takes the output down. -/
def conclude (host : Host δ τ) (waitable : Bool) : Work δ τ (PerformanceEnd τ) := do
  if !waitable then return .crashed
  host.whilePlaying
  match (← get).mailbox.waiting with
  | .reload :: _ => return .reload (← Output.intoSource)
  | .drained :: _ => return .finished (← Output.intoSource)
  | [] =>
    note .warning "Stream did not drain in time"
    return .finished (← Output.intoSource)

/-- A whole performance; an output that cannot be brought to play is taken down. -/
def performance [AudioSource τ] (host : Host δ τ) (request : AudioRequest) (waitable : Bool) :
    Work δ τ (PerformanceEnd τ) := do
  match ← (begin host request).run with
  | .error cause =>
    Output.uninit
    return .failed cause.message
  | .ok () => conclude host waitable

def perform [AudioSource τ] (host : Host δ τ) (options : Options) (request : AudioRequest)
    (waitable : Bool) (source : τ) : StateM (Scene δ) (PerformanceEnd τ) := do
  let scene ← get
  let output := Output.create options host.load source scene.device
  let (ended, output) := (performance host request waitable).run output
  set ({ device := output.device, journal := scene.journal ++ output.journal } : Scene δ)
  return ended

/--
Gives performances until one does not end with the wish for a new output, or no reload is left of the
`most` ones.
-/
def performAll (performOnce : τ → StateM (Scene δ) (PerformanceEnd τ)) (most : Nat) :
    (left : Nat) → τ → StateM (Scene δ) Ending
  | left, source => do
    match ← performOnce source with
    | .finished _ =>
      Scene.note .info "Done"
      return .finished
    | .failed message =>
      Scene.note .error message
      return .failed message
    | .crashed => return .crashed
    | .reload next =>
      match left with
      | 0 => return .failed s!"giving up after {most} reloads"
      | left + 1 =>
        Scene.note .warning s!"Reloading audio output ({most - left}/{most})"
        performAll performOnce most left next

end PcmOutput.Player
