import PcmOutput.Proofs.Handles.Run

/-!
# The state of a stream, seen from outside

Whoever sees the steps of an output, what the device is asked and answers, and how the source is used, can
tell the state of the stream at once: by a machine that keeps a state and nothing else. The output keeps a
belief and a flag, which it brings together late, and shows the same state at every point.
-/

set_option autoImplicit false

namespace PcmOutput

/-- What is seen of one step: the calls with their answers, and the uses of the source. -/
structure Observation where
  step : Step
  traffic : List DeviceEvent
  uses : List SourceEvent

def DeviceEvent.accepts (transition : Transition) : DeviceEvent → Bool
  | .answered (.request _ asked) code => asked = transition && ResultCode.succeeded code
  | _ => false

def DeviceEvent.reports (state : Int) : DeviceEvent → Bool
  | .answered (.waitForChange ..) (.ok reached) => reached == state
  | _ => false

def SourceEvent.ends : SourceEvent → Bool
  | .read _ _ _ pull => pull.eof
  | .prepared _ => false

/-- A request was accepted, and its final state reported after that. -/
def confirms (transition : Transition) (traffic : List DeviceEvent) : Bool :=
  (traffic.dropWhile fun event => !event.accepts transition).any (DeviceEvent.reports transition.target)

/-- A stream was opened and not closed again. -/
def leavesOpen (traffic : List DeviceEvent) : Bool :=
  !(liveStreams traffic).isEmpty

namespace StreamState

def afterStart (traffic : List DeviceEvent) : StreamState → StreamState
  | .started => .started
  | .closed =>
    if confirms .start traffic then .started
    else if leavesOpen traffic then .opened
    else .closed
  | state => if confirms .start traffic then .started else state

def next (state : StreamState) (seen : Observation) : StreamState :=
  match seen.step, state with
  | .init _, _ => if leavesOpen seen.traffic then .opened else .closed
  | .start, state => state.afterStart seen.traffic
  | .setPause false, .closed => .closed
  | .setPause false, state => state.afterStart seen.traffic
  | .setPause true, .started => if confirms .pause seen.traffic then .paused else .started
  | .setPause true, .opened => .paused
  | .reset, _ | .uninit, _ => .closed
  | .data _, .started => if seen.uses.any SourceEvent.ends then .opened else .started
  | _, state => state

end StreamState

variable {δ σ τ : Type} {builder : BuilderHandle} {stream : StreamHandle} {transition : Transition} {timeoutNanos : Int}
  {config : StreamConfiguration} {events earlier later : List DeviceEvent} {result : Except OutputError Unit}

theorem confirms_append (quiet : ∀ event ∈ earlier, event.accepts transition = false) :
    confirms transition (earlier ++ later) = confirms transition later := by
  induction earlier with
  | nil => rfl
  | cons event rest ih =>
      have first := quiet event List.mem_cons_self
      simpa [confirms, first] using ih fun event member => quiet event (List.mem_cons_of_mem _ member)

theorem confirms_quiet (quiet : ∀ event ∈ events, event.accepts transition = false) :
    confirms transition events = false := by
  have appended : confirms transition (events ++ []) = confirms transition [] := confirms_append quiet
  rwa [List.append_nil] at appended

theorem Confirmation.reports {waits : Nat}
    (confirmation : Confirmation stream transition timeoutNanos waits events result) :
    events.any (DeviceEvent.reports transition.target) = result.isOk := by
  induction confirmation with
  | exhausted | failed => rfl
  | reached => simp [DeviceEvent.reports, Except.isOk, Except.toBool]
  | elsewhere other => simp [DeviceEvent.reports, other, Except.isOk, Except.toBool]
  | again _ ih => simp [DeviceEvent.reports, transition.transient_ne_target, ih]

theorem Transit.confirms (transit : Transit stream transition timeoutNanos events result) :
    PcmOutput.confirms transition events = result.isOk := by
  cases transit with
  | refused refused => simp [PcmOutput.confirms, DeviceEvent.accepts, refused, Except.isOk, Except.toBool]
  | accepted accepted confirmation =>
      simp [PcmOutput.confirms, DeviceEvent.accepts, DeviceEvent.reports, accepted, ← confirmation.reports]

theorem Transit.confirmed (transit : Transit stream transition timeoutNanos events (.ok ())) :
    PcmOutput.confirms transition events = true :=
  transit.confirms

theorem Transit.unconfirmed {cause : OutputError}
    (transit : Transit stream transition timeoutNanos events (.error cause)) :
    PcmOutput.confirms transition events = false :=
  transit.confirms

theorem LayoutSearch.quiet {found : Except OutputError ChannelMap} (search : LayoutSearch config stream events found) :
    ∀ event ∈ events, event.accepts transition = false := by
  cases search <;> simp [DeviceEvent.accepts]

theorem Opening.quiet {earlier : Option StreamFormat} {result : Except OutputError OpenedStream}
    (opening : Opening builder config earlier events result) :
    ∀ event ∈ events, event.accepts transition = false := by
  cases opening with
  | refused => simp [DeviceEvent.accepts]
  | @unknownLayout _ searched _ _ search | @otherLayout _ searched _ _ _ search =>
      have quiet : ∀ event ∈ searched, event.accepts transition = false := search.quiet
      simpa [DeviceEvent.accepts, or_imp, forall_and] using quiet
  | @opened _ searched _ _ _ _ _ search =>
      have quiet : ∀ event ∈ searched, event.accepts transition = false := search.quiet
      simpa [DeviceEvent.accepts, or_imp, forall_and] using quiet

def Phase.state : Phase δ τ → StreamState
  | .idle _ => .closed
  | .ready session => session.playback.state

def StreamState.settled (drained : Bool) : StreamState → StreamState
  | .started => if drained then .opened else .started
  | state => state

theorem Phase.settled_state (drained : Bool) (phase : Phase δ τ) :
    (phase.settled drained).state = phase.state.settled drained := by
  cases phase with
  | idle source => rfl
  | ready session =>
      simp only [Phase.settled, Session.settled, Phase.state]
      cases session.playback with
      | started stream => cases drained <;> rfl
      | _ => rfl

theorem Output.state_eq (output : Output δ τ) : output.state = output.phase.state.settled output.drained := by
  obtain ⟨options, load, phase, requested, drained, mailbox, journal, device⟩ := output
  cases phase with
  | idle source => rfl
  | ready session =>
      simp only [Output.state, Output.playback, Phase.state]
      cases session.playback <;> rfl

@[simp] theorem StreamState.settled_false (state : StreamState) : state.settled false = state := by
  cases state <;> rfl

theorem Holding.Path.leavesOpen {first last : Holding} (path : Path first events last) (without : first.streams = []) :
    PcmOutput.leavesOpen events = !last.streams.isEmpty := by
  have live := path.streams
  rw [without] at live
  simp only [PcmOutput.leavesOpen, PcmOutput.liveStreams, live]

variable {phase phase' : Phase (WatchedDevice δ) τ}

theorem Starting.state_afterStart (starting : Starting timeoutNanos phase events result phase') :
    phase'.state = phase.state.afterStart events := by
  have path := starting.path
  cases starting with
  | uninitialized => rfl
  | already started =>
      simp only [Phase.state, started]
      rfl
  | @failed session stream events cause resting transit =>
      have unconfirmed := transit.unconfirmed
      simp only [Phase.state]
      generalize session.playback = playback at resting
      cases resting <;> simp [Playback.state, StreamState.afterStart, unconfirmed]
  | @started session stream events resting transit =>
      have confirmed := transit.confirmed
      simp only [Phase.state]
      generalize session.playback = playback at resting
      cases resting <;> simp [Playback.state, StreamState.afterStart, confirmed]
  | @unopened session events cause closed opening =>
      have unconfirmed : confirms .start events = false := confirms_quiet opening.quiet
      have unopened := path.leavesOpen (by simp [Phase.holding, session.holding_closed closed, Holding.streams])
      simp [Phase.state, closed, Playback.state, StreamState.afterStart, unconfirmed, unopened, Phase.holding,
        session.holding_closed closed, Holding.streams]
  | @onlyReopened session opening opened events cause closed reopening transit =>
      have unconfirmed := (confirms_append reopening.quiet).trans transit.unconfirmed
      have reopened := path.leavesOpen (by simp [Phase.holding, session.holding_closed closed, Holding.streams])
      simp [Phase.state, closed, Playback.state, StreamState.afterStart, unconfirmed, reopened, Phase.holding,
        Session.holding, Session.reopened, Playback.stream?, Holding.streams]
  | @reopened session opening opened events closed reopening transit =>
      have confirmed := (confirms_append reopening.quiet).trans transit.confirmed
      simp [Phase.state, closed, Playback.state, StreamState.afterStart, confirmed]

theorem Pausing.state_next {paused : Bool} (pausing : Pausing timeoutNanos paused phase events result phase')
    (uses : List SourceEvent) : phase'.state = phase.state.next ⟨.setPause paused, events, uses⟩ := by
  cases pausing with
  | uninitialized => cases paused <;> rfl
  | closed closed =>
      simp only [Phase.state, closed]
      cases paused <;> rfl
  | already paused =>
      simp only [Phase.state, paused, Playback.state, StreamState.next]
  | unrequested opened => simp [Phase.state, opened, Playback.state, StreamState.next]
  | failed started transit =>
      have unconfirmed := transit.unconfirmed
      simp [Phase.state, started, Playback.state, StreamState.next, unconfirmed]
  | paused started transit =>
      have confirmed := transit.confirmed
      simp [Phase.state, started, Playback.state, StreamState.next, confirmed]
  | @playedOn session stream _ _ _ streams starting =>
      have played := starting.state_afterStart
      have unclosed : session.playback.state ≠ .closed := by
        cases playback : session.playback with
        | closed => simp [playback, Playback.stream?] at streams
        | _ => simp [Playback.state]
      rw [played]
      change session.playback.state.afterStart _ = session.playback.state.next _
      cases state : session.playback.state with
      | closed => exact absurd state unclosed
      | _ => rfl

theorem TakingDown.leavesOpen_append {source : τ} (takingDown : TakingDown phase earlier source) :
    leavesOpen (earlier ++ later) = leavesOpen later := by
  cases takingDown with
  | idle => rfl
  | ready closing => cases closing <;> simp [leavesOpen, liveStreams, streamedUpon]

theorem Beginning.state_eq [AudioSource τ] {load : Loader (WatchedDevice δ)} {options : Options} {request : AudioRequest}
    {source : τ} (beginning : Beginning load options request source events result phase) :
    phase.state = if leavesOpen events then .opened else .closed := by
  rw [beginning.path.leavesOpen rfl]
  cases beginning <;> rfl

/-- What is seen of a step, from what it adds to the events of the device and of the source. -/
def Observation.between (step : Step) (before after : Output (WatchedDevice δ) (WatchedSource σ)) : Observation where
  step := step
  traffic := after.device.events.drop before.device.events.length
  uses := after.source.events.drop before.source.events.length

variable [AudioSource σ] {before after : Output (WatchedDevice δ) (WatchedSource σ)} {step : Step}

theorem Course.between_eq (course : Course before step events result after) :
    Observation.between step before after = ⟨step, events, after.source.events.drop before.source.events.length⟩ := by
  simp [Observation.between, course.events_append]

/-- A read of the source is one use of it, and seen as such. -/
theorem Filled.uses_between {request : DataRequest} {session : Session (WatchedDevice δ) (WatchedSource σ)} {written : Int}
    {stamp : Except Int (Int × Int)} {answer : DataAnswer} (ready : before.phase = .ready session)
    (filled : Filled request session stream written stamp before answer after) :
    (after.source.events.drop before.source.events.length).any SourceEvent.ends =
      (session.reading request written (presentedBy written stamp)).pull.eof := by
  obtain ⟨missed, phase⟩ := filled.phase
  simp [Output.source, phase, ready, Session.reading, AudioSource.read, SourceEvent.ends]

theorem Resetting.state_eq (resetting : Resetting phase events phase') : phase'.state = .closed := by
  cases resetting with
  | idle => rfl
  | ready closing =>
      cases closing with
      | already closed => simp [Phase.state, closed, Playback.state]
      | closed => rfl

theorem StreamState.settled_or (drained ended : Bool) (state : StreamState) :
    state.settled (drained || ended) = (state.settled drained).settled ended := by
  cases state <;> cases drained <;> cases ended <;> rfl

theorem StreamState.next_data (state : StreamState) (request : DataRequest) (traffic : List DeviceEvent)
    (uses : List SourceEvent) : state.next ⟨.data request, traffic, uses⟩ = state.settled (uses.any SourceEvent.ends) := by
  cases state <;> rfl

theorem Course.state_next (course : Course before step events result after) :
    after.state = before.state.next (.between step before after) := by
  rw [course.between_eq, Output.state_eq, Output.state_eq]
  cases course with
  | init _ _ down beginning =>
      rw [beginning.state_eq]
      change _ = if leavesOpen (_ ++ _) then StreamState.opened else .closed
      rw [down.leavesOpen_append]
      split <;> rfl
  | start _ undrained starting =>
      rw [undrained, StreamState.settled_false, starting.state_afterStart, Phase.settled_state]
      rfl
  | setPause _ undrained pausing =>
      rw [undrained, StreamState.settled_false, pausing.state_next, Phase.settled_state]
  | reset _ _ resetting =>
      rw [resetting.state_eq]
      rfl
  | uninit _ _ idle =>
      rw [idle]
      rfl
  | lost =>
      rw [StreamState.next_data]
      simp [Output.witnessing, Output.source]
  | @filled _ _ _ written stamp answer filled' _ _ ready filled =>
      obtain ⟨missed, phase⟩ := filled.phase
      have ended := filled.uses_between ready
      change filled'.phase.state.settled filled'.drained = _
      rw [StreamState.next_data, phase, ready, filled.drained, StreamState.settled_or, ← ended]
      rfl
  | error complaining => cases complaining <;> rfl
  | mailbox which =>
      rcases which with same | same
      · rw [same]
        rfl
      · rw [same]
        rfl

/-- The state that a step succeeds in; the others cannot fail. -/
def Step.Achieved : Step → StreamState → Prop
  | .init _, state => state = .opened
  | .start, state | .setPause false, state => state = .started
  | .setPause true, state => state = .paused
  | _, _ => True

theorem Starting.ok_iff (starting : Starting timeoutNanos phase events result phase') :
    result = .ok () ↔ phase'.state = .started := by
  cases starting with
  | uninitialized | onlyReopened => simp [Phase.state, Session.reopened, Playback.state]
  | already started => simp [Phase.state, started, Playback.state]
  | @failed session _ _ _ resting =>
      simp only [Phase.state]
      generalize session.playback = playback at resting
      cases resting <;> simp [Playback.state]
  | started | reopened => simp [Phase.state, Playback.state]
  | unopened closed => simp [Phase.state, closed, Playback.state]

theorem Pausing.ok_iff {paused : Bool} (pausing : Pausing timeoutNanos paused phase events result phase') :
    result = .ok () ↔ (Step.setPause paused).Achieved phase'.state := by
  cases pausing with
  | uninitialized => cases paused <;> simp [Step.Achieved, Phase.state]
  | closed closed => cases paused <;> simp [Step.Achieved, Phase.state, closed, Playback.state]
  | already paused => simp [Step.Achieved, Phase.state, paused, Playback.state]
  | unrequested | paused => simp [Step.Achieved, Phase.state, Playback.state]
  | failed started => simp [Step.Achieved, Phase.state, started, Playback.state]
  | playedOn _ starting => exact starting.ok_iff

theorem Course.ok_iff (course : Course before step events result after) :
    result = .ok () ↔ step.Achieved after.state := by
  rw [Output.state_eq]
  cases course with
  | init _ _ _ beginning =>
      generalize after.phase = phase at beginning ⊢
      cases beginning <;> simp [Step.Achieved, Phase.state, Playback.state, StreamState.settled]
  | start _ undrained starting =>
      rw [undrained, StreamState.settled_false]
      exact starting.ok_iff
  | setPause _ undrained pausing =>
      rw [undrained, StreamState.settled_false]
      exact pausing.ok_iff
  | mailbox which => rcases which with same | same <;> simp [same, Step.Achieved]
  | _ => simp [Step.Achieved]

def Output.observed : List Step → Output (WatchedDevice δ) (WatchedSource σ) → List Observation
  | [], _ => []
  | step :: rest, output =>
    let after := (step.work.run output).2
    .between step output after :: after.observed rest

theorem Output.Reports.state_following (reports : before.Reports) (steps : List Step) :
    (before.following steps).state = (before.observed steps).foldl StreamState.next before.state := by
  induction steps generalizing before with
  | nil => rfl
  | cons step rest ih =>
      obtain ⟨events, course⟩ := step.work_course reports
      have following := ih (course.reports reports)
      rw [course.state_next] at following
      exact following

/--
At every point of a run an output shows the state of the machine that sees what the output sees and knows of an
end of the source at once; and a step succeeds just when that state is the one it aims at.
-/
theorem Output.state_eager (options : Options) (load : Loader δ) (source : σ) (device : δ) (steps : List Step) :
    let output := Output.fresh options load source device
    (output.following steps).state = (output.observed steps).foldl StreamState.next .closed ∧
    ∀ step : Step, let done := step.work.run (output.following steps)
      done.1 = .ok () ↔ step.Achieved done.2.state := by
  intro output
  have reports := Output.fresh_reports options load source device
  constructor
  · exact reports.state_following steps
  · intro step
    obtain ⟨following, _⟩ := Output.following_keeps (fun _ => True) reports trivial (fun _ _ _ _ _ _ _ _ => trivial) steps
    obtain ⟨events, course⟩ := step.work_course following
    exact course.ok_iff

end PcmOutput
