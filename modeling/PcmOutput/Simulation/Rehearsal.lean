import PcmOutput.Output.Lifecycle
import PcmOutput.Simulation.Device
import PcmOutput.Simulation.Log
import PcmOutput.Simulation.Source

/-!
# Rehearsals

An output that plays a simulated source on a simulated device, taken through a list of steps. The steps
are the operations of the owner, the callbacks of the device, the reading of the mailbox, and changes
of the device's script.
-/

set_option autoImplicit false

namespace PcmOutput

abbrev RehearsedOutput := Output SimulatedDevice SimulatedSource

namespace Rehearsal

/-- What a data callback is fired with. -/
structure DataStep where
  frames : Int
  now : ClockReading
  /-- Whether the callback is given its output, a stream and a buffer. -/
  givesContext : Bool := true
  givesStream : Bool := true
  givesBuffer : Bool := true

/-- A step of a rehearsal. -/
inductive Step
  | init (request : AudioRequest)
  | start
  | pause (on : Bool)
  | reset
  | uninit
  | data (step : DataStep)
  | error (code : Int) (givesContext : Bool)
  | receive
  | abandonMailbox
  | change (change : SimulatedDevice → SimulatedDevice)
  | look
  | intoSource
  /-- The source is taken back and given to a new output. -/
  | recreate
  | drop

/-- What a step gives. -/
inductive Outcome
  | done
  | failed (cause : OutputError)
  | answered (answer : DataAnswer)
  | unregistered
  | received (messages : List Message)
  | sourceReturned
  | noOutput

def Outcome.ofResult : Except OutputError Unit → Outcome
  | .ok () => .done
  | .error cause => .failed cause

/-- Whether there is still an output, and what is left of it if not. -/
inductive Stage
  | playing (output : RehearsedOutput)
  | over (mailbox : Mailbox) (device : SimulatedDevice)

/-- What a step leaves behind: its outcome, the calls it made, the uses of the source and the journal. -/
structure Record where
  outcome : Outcome
  calls : List Call
  events : List SourceEvent
  lines : List Line
  output : Option RehearsedOutput

def blankByte : UInt8 := 0xee

/-- The request of a data callback, with the stream that was opened last and a blank buffer. -/
def DataStep.request (step : DataStep) (output : RehearsedOutput) : DataRequest :=
  let frameBytes := (output.streamFormat?.map StreamFormat.frameBytes).getD 0
  { attached := step.givesContext
    stream := if step.givesStream then output.device.openStreams.head? else none
    buffer :=
      if step.givesBuffer then some (List.replicate (step.frames.toNat * frameBytes) blankByte) else none
    frames := step.frames
    now := step.now }

def conclude {value : Type} (outcome : value → Outcome)
    (work : Work SimulatedDevice SimulatedSource value) (output : RehearsedOutput) :
    Outcome × RehearsedOutput :=
  let (result, output) := work.run output
  (outcome result, output)

def perform (step : Step) (output : RehearsedOutput) : Outcome × RehearsedOutput :=
  match step with
  | .init request => conclude .ofResult (Output.init request).run output
  | .start => conclude .ofResult Output.start.run output
  | .pause on => conclude .ofResult (Output.setPause on).run output
  | .reset => conclude (fun () => .done) Output.reset output
  | .uninit | .drop => conclude (fun () => .done) Output.uninit output
  | .data step =>
    if output.device.dataRegistered then conclude .answered (dataCallback (step.request output)) output
    else (.unregistered, output)
  | .error code givesContext =>
    if !output.device.errorRegistered then (.unregistered, output)
    else if givesContext then conclude (fun () => .done) (errorCallback code) output
    else (.done, output)
  | .receive =>
    let (messages, mailbox) := output.mailbox.collect
    (.received messages, { output with mailbox := mailbox })
  | .abandonMailbox => (.done, { output with mailbox := output.mailbox.abandon })
  | .change change => (.done, { output with device := change output.device })
  | .look => (.done, output)
  | .intoSource => conclude (fun _ => .sourceReturned) Output.intoSource output
  | .recreate =>
    let (source, output) := Output.intoSource.run output
    let next := Output.create output.options output.load source output.device
    (.done, { next with journal := output.journal })

def Step.ends : Step → Bool
  | .intoSource | .drop => true
  | _ => false

/-- What a step does when the output is gone: only its mailbox and the device are left. -/
def performAfter (step : Step) (mailbox : Mailbox) (device : SimulatedDevice) : Outcome × Stage :=
  match step with
  | .receive =>
    let (messages, mailbox) := mailbox.collect
    (.received messages, .over mailbox device)
  | .abandonMailbox => (.done, .over mailbox.abandon device)
  | .change change => (.done, .over mailbox (change device))
  | _ => (.noOutput, .over mailbox device)

/-- Takes the calls, the events and the journal out of an output. -/
def harvest (outcome : Outcome) (output : RehearsedOutput) : Record × RehearsedOutput :=
  let (calls, device) := output.device.takeLog
  let events := output.source.events
  let emptied : RehearsedOutput := { output with device := device, journal := [] }
  let phase : Phase SimulatedDevice SimulatedSource := match emptied.phase with
    | .idle source => .idle source.forget
    | .ready session => .ready { session with source := session.source.forget }
  let rested := { emptied with phase := phase }
  (⟨outcome, calls, events, output.journal, some rested⟩, rested)

def advance (step : Step) : Stage → Record × Stage
  | .over mailbox device =>
    let (outcome, stage) := performAfter step mailbox device
    (⟨outcome, [], [], [], none⟩, stage)
  | .playing output =>
    let (outcome, output) := perform step output
    let (record, rested) := harvest outcome output
    if step.ends then ({ record with output := none }, .over rested.mailbox rested.device)
    else (record, .playing rested)

/-- The calls with which a rehearsal ends: those that take its output down. -/
def closingCalls : Stage → List Call
  | .over .. => []
  | .playing output => (advance .drop (.playing output)).1.calls

end Rehearsal

end PcmOutput
