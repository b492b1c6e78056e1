import PcmOutput.Proofs.Driver.Constancy
import PcmOutput.Proofs.Driver.Parts

/-!
# What a failure leaves

A start or a pause that fails leaves a driver as it found it. Only a start that found no stream, opened one and could
not start it leaves something new behind, and that is the open stream.
-/

set_option autoImplicit false

namespace PcmOutput

variable {δ τ : Type}

/-- The state and all parts of a driver are what they were before. -/
structure Driver.Unmoved (before after : Driver δ τ) : Prop where
  state : after.state = before.state
  api : after.api = before.api
  builder : after.builder = before.builder
  stream : after.stream = before.stream
  context : after.context = before.context
  config : after.config = before.config
  source : after.source = before.source
  format : after.format = before.format
  deviceBuffer : after.deviceBuffer = before.deviceBuffer

/-- What is settled before a start or a pause is not seen from outside. -/
theorem Fits.unmoved {driver next : Driver δ τ} {output after : Output δ τ} (fits : Fits driver output)
    (fits' : Fits next after) (settled : after.phase = output.phase.settled output.drained)
    (down : after.drained = false) : driver.Unmoved next := by
  have state : next.state = driver.state := by
    rw [fits'.settled_state, fits.settled_state, down, Phase.settled_false, settled]
  obtain ⟨desk, phase⟩ := fits
  obtain ⟨desk', phase'⟩ := fits'
  obtain rfl : phase' = phase.settled desk.drained := settled
  cases phase with
  | idle source => exact ⟨state, rfl, rfl, rfl, rfl, rfl, rfl, rfl, rfl⟩
  | ready session =>
      exact ⟨state, rfl, rfl, session.playback.settled_stream? desk.drained, rfl, rfl, rfl, rfl, rfl⟩

/-- How a start or a pause of a settled phase fails, and the phase it leaves. -/
inductive Failing (timeoutNanos : Int) : Phase (WatchedDevice δ) τ → List DeviceEvent → OutputError →
    Phase (WatchedDevice δ) τ → Prop where
  | unready {phase cause} : phase.state = .closed → cause = .notInitialized ∨ cause = .notOpen →
      Failing timeoutNanos phase [] cause phase
  | unbrought {phase stream transition events cause} : phase.state ≠ .closed →
      Transit stream transition timeoutNanos events (.error cause) → Failing timeoutNanos phase events cause phase
  | unopened {session events cause} : session.playback = .closed →
      Opening session.builder session.config (some session.format) events (.error cause) →
      Failing timeoutNanos (.ready session) events cause (.ready session)
  | onlyReopened {session opening opened events cause} : session.playback = .closed →
      Opening session.builder session.config (some session.format) opening (.ok opened) →
      Transit opened.stream .start timeoutNanos events (.error cause) →
      Failing timeoutNanos (.ready session) (opening ++ events) cause (.ready (session.reopened opened))

variable {builder : BuilderHandle} {config : StreamConfiguration} {earlier : Option StreamFormat} {timeoutNanos : Int}
  {phase phase' : Phase (WatchedDevice δ) τ} {session : Session (WatchedDevice δ) τ} {events : List DeviceEvent}
  {cause : OutputError}

theorem Starting.failing (starting : Starting timeoutNanos phase events (.error cause) phase') :
    Failing timeoutNanos phase events cause phase' := by
  cases starting with
  | uninitialized => exact .unready rfl (.inl rfl)
  | failed resting transit => exact .unbrought (Phase.unclosed resting.stream?) transit
  | unopened closed opening => exact .unopened closed opening
  | onlyReopened closed opening transit => exact .onlyReopened closed opening transit

theorem Pausing.failing {paused : Bool} (pausing : Pausing timeoutNanos paused phase events (.error cause) phase') :
    Failing timeoutNanos phase events cause phase' := by
  cases pausing with
  | uninitialized => exact .unready rfl (.inr rfl)
  | closed closed => exact .unready (Phase.ready_closed_iff.mpr closed) (.inr rfl)
  | failed started transit => exact .unbrought (Phase.unclosed (congrArg Playback.stream? started)) transit
  | playedOn _ starting => exact starting.failing

theorem Opening.asks {result : Except OutputError OpenedStream} (opening : Opening builder config earlier events result) :
    ∃ answer rest, events = .answered (.openStream builder) answer :: rest := by
  cases opening <;> exact ⟨_, _, rfl⟩

/-- Where no stream is open, a start asks the builder for one, whatever comes of it. -/
theorem Starting.asks {result : Except OutputError Unit}
    (starting : Starting timeoutNanos (.ready session) events result phase') (closed : session.playback = .closed) :
    ∃ answer rest, events = .answered (.openStream session.builder) answer :: rest := by
  have unrested : ∀ {stream : StreamHandle}, ¬ Resting stream session.playback := by
    intro stream resting
    rw [closed] at resting
    cases resting
  cases starting with
  | already started => cases closed.symm.trans started
  | failed resting => exact absurd resting unrested
  | started resting => exact absurd resting unrested
  | unopened _ opening => exact opening.asks
  | onlyReopened _ opening | reopened _ opening =>
      obtain ⟨answer, rest, rfl⟩ := opening.asks
      exact ⟨answer, _, rfl⟩

variable {driver next : Driver (WatchedDevice δ) τ} {output after : Output (WatchedDevice δ) τ}

theorem Fits.asks [AudioSource τ] (fits : Fits driver output) (reports : output.Reports) (ready : output.phase = .ready session)
    (closed : session.playback = .closed) :
    ∃ answer rest, driver.since ((Act.step .start).handling.run driver).2 =
      .answered (.openStream session.builder) answer :: rest := by
  obtain ⟨-, fits'⟩ := (Act.step .start).handling_refines.run fits
  obtain ⟨events, kept, -, starting⟩ := start_course reports
  have settled : output.phase.settled output.drained = .ready session := by
    rw [ready, Phase.settled, session.settled_eq (by rw [closed]; rfl)]
  rw [settled] at starting
  rw [fits.since fits' kept.events]
  exact starting.asks closed

/-- A start or a pause of a driver that fails, as the phases of the output tell it. -/
theorem Fits.failing [AudioSource τ] (fits : Fits driver output) (reports : output.Reports) {step : Step}
    (moves : step = .start ∨ ∃ paused, step = .setPause paused)
    (failed : ((Act.step step).handling.run driver).1 = .completed (.error cause)) :
    let next := ((Act.step step).handling.run driver).2
    ∃ after : Output (WatchedDevice δ) τ, Fits next after ∧ after.Reports ∧ after.drained = false ∧
      Failing output.options.stateTimeoutNanos (output.phase.settled output.drained) (driver.since next) cause
        after.phase := by
  intro next
  obtain ⟨same, fits'⟩ := (Act.step step).handling_refines.run fits
  have acted : Acted output (.step step) _ _ := (Act.step step).work_acted reports
  have onward := acted.reports reports
  rw [← same, failed] at acted
  refine ⟨_, fits', onward, ?_⟩
  generalize ((Act.step step).work.run output).2 = after at acted fits'
  cases acted with
  | completed _ course =>
      cases course with
      | start kept down starting =>
          rw [fits.since fits' kept.events]
          exact ⟨down, starting.failing⟩
      | setPause kept down pausing =>
          rw [fits.since fits' kept.events]
          exact ⟨down, pausing.failing⟩
      | _ => simp at moves

/--
A start or a pause that fails while the state is not closed leaves the state and every part of the driver as they were.
While it is closed, there are three failures. One is not ready for a stream, asks for nothing and leaves all as it was.
One gets no stream that it could keep: it closes a stream that was opened, leaves all as it was, and the next start asks
for a stream again. And one has opened the stream that it cannot start, and leaves it open.
-/
theorem Driver.failed_unmoved [AudioSource τ] (options : Options) (load : Loader δ) (source : τ) (device : δ)
    (acts : List Act) (step : Step) (cause : OutputError) (moves : step = .start ∨ ∃ paused, step = .setPause paused)
    (failed : ((Act.step step).handling.run ((Driver.fresh options load source device).afterActs acts)).1 =
      .completed (.error cause)) :
    let driver := (Driver.fresh options load source device).afterActs acts
    let next := ((Act.step step).handling.run driver).2
    let events := driver.since next
    (driver.state ≠ .closed → driver.Unmoved next) ∧
    (driver.state = .closed →
      ((cause = .notInitialized ∨ cause = .notOpen) ∧ events = [] ∧ driver.Unmoved next) ∨
      (Unopened cause ∧ driver.Unmoved next ∧ next.state = .closed ∧ next.stream = none ∧
        (∀ stream ∈ events.filterMap DeviceEvent.opened?,
          ∃ code, events.getLast? = some (.answered (.closeStream stream) code)) ∧
        ∃ builder answer rest, driver.builder = some builder ∧
          next.since ((Act.step .start).handling.run next).2 = .answered (.openStream builder) answer :: rest) ∨
      (∃ text, cause = .transport Transition.start.name text) ∧ next.state = .opened ∧
        ∃ stream, next.stream = some stream ∧ events.filterMap DeviceEvent.opened? = [stream]) := by
  intro driver next events
  obtain ⟨reports, -⟩ := Output.afterActs_begun options load source device acts
  have fits : Fits driver _ := (Driver.fresh_fits options load source device).afterActs acts
  obtain ⟨after, fits', reports', down, failing⟩ := fits.failing reports moves failed
  change Failing _ _ events cause _ at failing
  clear_value events
  have state := fits.settled_state
  have state' := fits'.settled_state
  have unmoved := fits.unmoved fits'
  rw [down, Phase.settled_false] at state'
  generalize ready : after.phase = phase' at failing state' unmoved
  generalize settled : ((Output.begun options load source device).afterActs acts).phase.settled _ = phase
    at failing state unmoved
  cases failing with
  | unready closed early =>
      exact ⟨fun unclosed => absurd (state.trans closed) unclosed, fun _ => .inl ⟨early, rfl, unmoved rfl down⟩⟩
  | unbrought unclosed => exact ⟨fun _ => unmoved rfl down, fun closed => absurd (state.symm.trans closed) unclosed⟩
  | @unopened session _ _ closed opening =>
      have shut : (Phase.ready session).state = .closed := Phase.ready_closed_iff.mpr closed
      have kept : driver.Unmoved next := unmoved rfl down
      have holds := fits'.holds ready
      obtain ⟨answer, rest, asked⟩ := fits'.asks reports' ready closed
      have built : driver.builder = some session.builder := by
        rw [← kept.builder, fits'.builder, Output.session?, ready]
        rfl
      refine ⟨fun unclosed => absurd (state.trans shut) unclosed, fun _ => .inr (.inl ⟨opening.reason, kept,
        state'.trans shut, ?_, fun stream opened => (opening.refusal opened).2, _, answer, rest, built, asked⟩)⟩
      rw [holds.stream, closed]
      rfl
  | @onlyReopened session opening opened later _ closed reopening transit =>
      have shut : (Phase.ready session).state = .closed := Phase.ready_closed_iff.mpr closed
      have holds := fits'.holds ready
      refine ⟨fun unclosed => absurd (state.trans shut) unclosed, fun _ => .inr (.inr ⟨transit.reason, state', opened.stream,
        holds.stream, ?_⟩)⟩
      rw [List.filterMap_append, reopening.granted.1, transit.opensNothing, List.append_nil]

theorem Driver.failed_unmoved_simulated :
    let driver := (Driver.simulated { waits := [ResultCode.invalidState] }).afterActs [.step (.init .plain), .step .reset]
    let next := ((Act.step .start).handling.run driver).2
    driver.state = .closed ∧ ((Act.step .start).handling.run driver).1 =
        .completed (.error (.transport "start" (ResultCode.name ResultCode.invalidState))) ∧
      next.state = .opened ∧ ∃ stream, next.stream = some stream ∧
        (driver.since next).filterMap DeviceEvent.opened? = [stream] := by
  have shut : ((Driver.simulated { waits := [ResultCode.invalidState] }).afterActs
      [.step (.init .plain), .step .reset]).state = .closed := by
    decide +kernel
  have failed : ((Act.step .start).handling.run ((Driver.simulated { waits := [ResultCode.invalidState] }).afterActs
      [.step (.init .plain), .step .reset])).1 =
        .completed (.error (.transport "start" (ResultCode.name ResultCode.invalidState))) := by
    decide +kernel
  unfold Driver.simulated at shut failed ⊢
  obtain ⟨-, closed⟩ := Driver.failed_unmoved {} (presentLoader (SimulatedDevice.api 27 []))
    (⟨⟨.scripted {}, []⟩, []⟩ : WatchedSource SimulatedSource) { waits := [ResultCode.invalidState] }
    [.step (.init .plain), .step .reset] .start _ (.inl rfl) failed
  generalize Driver.fresh _ _ _ _ = begun at shut failed closed ⊢
  refine ⟨shut, failed, ?_⟩
  rcases closed shut with ⟨early, -⟩ | ⟨unopened, -⟩ | ⟨-, opened⟩
  · rcases early with early | early <;> cases early
  · cases unopened
  · exact opened

end PcmOutput
