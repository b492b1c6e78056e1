import PcmOutput.Output.Lifecycle
import PcmOutput.Proofs.Ends
import PcmOutput.Simulation.Source

/-!
# Watched devices and sources

A watched device keeps what happened to it: the calls it answered, with the answers, and what its data
callbacks told it to do. A watched source keeps its uses. Watching changes no answer, so that whatever a
device or a source does can be watched.
-/

set_option autoImplicit false

namespace PcmOutput

inductive DeviceEvent
  | answered (call : Call) (answer : call.Answer)
  | calledBack (stream : Option StreamHandle) (result : CallbackResult)

/-- Something with the events that happened to it, the oldest first. -/
structure Watched (σ ε : Type) where
  subject : σ
  events : List ε := []

abbrev WatchedDevice (δ : Type) := Watched δ DeviceEvent

abbrev WatchedSource (τ : Type) := Watched τ SourceEvent

variable {δ τ : Type}

def DeviceApi.watched (api : DeviceApi δ) : DeviceApi (WatchedDevice δ) where
  level := api.level
  hasTier := api.hasTier
  resultText device code := api.resultText device.subject code
  stateText device code := api.stateText device.subject code
  respond call device :=
    let (answer, subject) := api.respond call device.subject
    (answer, ⟨subject, device.events ++ [.answered call answer]⟩)
  farewell := api.farewell

def Loader.watched (load : Loader δ) : Loader (WatchedDevice δ) := fun options device =>
  let (loaded, subject) := load options device.subject
  let watched := loaded >>= fun api => pure api.watched
  (watched, { device with subject := subject })

instance [AudioSource τ] : AudioSource (WatchedSource τ) where
  prepare format source :=
    ⟨AudioSource.prepare format source.subject, source.events ++ [.prepared format]⟩
  read buffer frames deadline source :=
    let reading := AudioSource.read buffer frames deadline source.subject
    let event := SourceEvent.read frames buffer.length deadline reading.pull
    ⟨reading.buffer, reading.pull, ⟨reading.source, source.events ++ [event]⟩⟩

def DeviceApi.Reports (api : DeviceApi (WatchedDevice δ)) : Prop :=
  ∀ call device, (api.respond call device).2.events =
    device.events ++ [.answered call (api.respond call device).1]

theorem DeviceApi.watched_reports (api : DeviceApi δ) : api.watched.Reports :=
  fun _ _ => rfl

/-- Coming by an API is no event of the device, and the API reports. -/
structure Loader.Reports (load : Loader (WatchedDevice δ)) : Prop where
  quiet : ∀ options device, (load options device).2.events = device.events
  reports : ∀ options device api, (load options device).1.result = .ok api → api.Reports

theorem Loader.watched_reports (load : Loader δ) : load.watched.Reports where
  quiet _ _ := rfl
  reports options device api loaded := by
    change ((load options device.subject).1 >>= fun api => pure api.watched).result = .ok api at loaded
    rw [Noted.result_bind] at loaded
    cases found : (load options device.subject).1.result with
    | error cause => simp [found] at loaded
    | ok bare =>
      have same : bare.watched = api := by simpa [found] using loaded
      exact same ▸ bare.watched_reports

/-- All that an output calls is watched. -/
structure Output.Reports (output : Output (WatchedDevice δ) τ) : Prop where
  loader : output.load.Reports
  session : ∀ session, output.phase = .ready session → session.api.Reports

/-- Between two outputs the device was dealt with as the events tell; what the owner set and what waits
for the owner stayed as it was. -/
structure Kept (before : Output (WatchedDevice δ) τ) (events : List DeviceEvent)
    (after : Output (WatchedDevice δ) τ) : Prop where
  options : after.options = before.options
  load : after.load = before.load
  reloadRequested : after.reloadRequested = before.reloadRequested
  mailbox : after.mailbox = before.mailbox
  events : after.device.events = before.device.events ++ events

/-- Nothing else was done than to deal with the device and to write to the journal. -/
structure Dealt (before : Output (WatchedDevice δ) τ) (events : List DeviceEvent)
    (after : Output (WatchedDevice δ) τ) : Prop extends Kept before events after where
  phase : after.phase = before.phase
  drained : after.drained = before.drained

variable {before middle after : Output (WatchedDevice δ) τ} {earlier later : List DeviceEvent}

namespace Kept

theorem refl : Kept before [] before :=
  ⟨rfl, rfl, rfl, rfl, (List.append_nil _).symm⟩

theorem trans (first : Kept before earlier middle) (second : Kept middle later after) :
    Kept before (earlier ++ later) after where
  options := second.options.trans first.options
  load := second.load.trans first.load
  reloadRequested := second.reloadRequested.trans first.reloadRequested
  mailbox := second.mailbox.trans first.mailbox
  events := by rw [second.events, first.events, List.append_assoc]

/-- What is no event of the device leaves no trace. -/
theorem silently (first : Kept before earlier middle) (second : Kept middle [] after) :
    Kept before earlier after := by
  simpa only [List.append_nil] using first.trans second

end Kept

namespace Dealt

theorem refl : Dealt before [] before :=
  ⟨Kept.refl, rfl, rfl⟩

theorem trans (first : Dealt before earlier middle) (second : Dealt middle later after) :
    Dealt before (earlier ++ later) after where
  toKept := first.toKept.trans second.toKept
  phase := second.phase.trans first.phase
  drained := second.drained.trans first.drained

theorem silently (first : Dealt before earlier middle) (second : Dealt middle [] after) :
    Dealt before earlier after := by
  simpa only [List.append_nil] using first.trans second

end Dealt

theorem call_dealt {api : DeviceApi (WatchedDevice δ)} (reports : api.Reports) (request : Call)
    (before : Output (WatchedDevice δ) τ) :
    Ends (call api request) before fun answer after => Dealt before [.answered request answer] after :=
  ⟨⟨rfl, rfl, rfl, rfl, reports request before.device⟩, rfl, rfl⟩

theorem note_dealt (level : Level) (text : String) (before : Output (WatchedDevice δ) τ) :
    Ends (note level text) before fun _ after => Dealt before [] after :=
  ⟨⟨rfl, rfl, rfl, rfl, (List.append_nil _).symm⟩, rfl, rfl⟩

theorem resultText_dealt (api : DeviceApi (WatchedDevice δ)) (code : Int)
    (before : Output (WatchedDevice δ) τ) :
    Ends (resultText api code) before fun _ after => Dealt before [] after :=
  Dealt.refl

theorem stateText_dealt (api : DeviceApi (WatchedDevice δ)) (code : Int)
    (before : Output (WatchedDevice δ) τ) :
    Ends (stateText api code) before fun _ after => Dealt before [] after :=
  Dealt.refl

theorem takeOver_dealt {value : Type} (work : Noted value) (before : Output (WatchedDevice δ) τ) :
    Ends (takeOver work).run before fun result after => result = work.result ∧ Dealt before [] after := by
  unfold takeOver
  have written : Ends
      (modify fun output => { output with journal := output.journal ++ work.lines } :
        Attempt (WatchedDevice δ) τ Unit).run before
      fun result after => result = .ok () ∧ Dealt before [] after :=
    ⟨rfl, ⟨rfl, rfl, rfl, rfl, (List.append_nil _).symm⟩, rfl, rfl⟩
  refine Ends.orFail written ?_ ?_
  · intro cause middle reached
    cases reached.1
  · intro _ middle reached
    cases found : work.result with
    | error cause => exact Ends.failed ⟨rfl, reached.2⟩
    | ok value => exact Ends.succeeded ⟨rfl, reached.2⟩

end PcmOutput
