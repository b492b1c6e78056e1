import PcmOutput.Proofs.Handles.Run
import PcmOutput.Proofs.State.Motion

/-!
# Belief and motion

What an output believes of its stream is kept in step with the motion of the stream, but for one thing: a
request that the device accepted and did not confirm moves the stream and not the belief. The output goes on
believing what it believed before, and acts on it.
-/

set_option autoImplicit false

namespace PcmOutput

/-- A stream with this motion is believed to be started. -/
def Motion.believed : Motion → Bool
  | .confirmed .start | .accepted .pause => true
  | _ => false

theorem Motion.plays_of_believed {motion : Motion} (runs : motion.believed = true) :
    motion.plays = !decide (motion = .accepted .pause) := by
  cases motion with
  | untouched | stopped => cases runs
  | accepted transition | confirmed transition => cases transition <;> simp_all [Motion.believed, Motion.plays]

theorem Motion.plays_of_unbelieved {motion : Motion} (quiet : motion.believed = false) :
    motion.plays = decide (motion = .accepted .start) := by
  cases motion with
  | untouched | stopped => rfl
  | accepted transition | confirmed transition => cases transition <;> simp_all [Motion.believed, Motion.plays]

/-- What an output believes of its stream, settled, and what the device does with it. -/
inductive Believes : Playback → Option Track → Prop where
  | closed : Believes .closed none
  | opened {stream motion} : motion.believed = false → Believes (.opened stream) (some ⟨stream, motion⟩)
  | paused {stream motion} : motion.believed = false → Believes (.paused stream) (some ⟨stream, motion⟩)
  | started {stream motion} : motion.believed = true → Believes (.started stream) (some ⟨stream, motion⟩)

variable {δ τ : Type} {builder : BuilderHandle} {stream : StreamHandle} {motion : Motion} {transition : Transition}
  {timeoutNanos : Int} {config : StreamConfiguration} {events : List DeviceEvent} {result : Except OutputError Unit}
  {phase phase' : Phase (WatchedDevice δ) τ} {track : Option Track}

def Phase.playback : Phase δ τ → Playback
  | .idle _ => .closed
  | .ready session => session.playback

inductive Moved (transition : Transition) (motion : Motion) : Except OutputError Unit → Motion → Prop where
  | unmoved {cause} : Moved transition motion (.error cause) motion
  | unconfirmed {cause} : Moved transition motion (.error cause) (.accepted transition)
  | confirmed : Moved transition motion (.ok ()) (.confirmed transition)

theorem Confirmation.moves {waits : Nat}
    (confirmation : Confirmation stream transition timeoutNanos waits events result) :
    ∃ motion', events.foldl tracked (some ⟨stream, .accepted transition⟩) = some ⟨stream, motion'⟩ ∧
      Moved transition motion result motion' := by
  induction confirmation with
  | exhausted => exact ⟨_, rfl, .unconfirmed⟩
  | failed => exact ⟨_, rfl, .unconfirmed⟩
  | reached => exact ⟨.confirmed transition, by simp [tracked, Motion.after], .confirmed⟩
  | elsewhere other => exact ⟨.accepted transition, by simp [tracked, Motion.after, other], .unconfirmed⟩
  | again _ ih => simpa [tracked, Motion.after, transition.transient_ne_target] using ih

theorem Transit.moves (transit : Transit stream transition timeoutNanos events result) :
    ∃ motion', events.foldl tracked (some ⟨stream, motion⟩) = some ⟨stream, motion'⟩ ∧
      Moved transition motion result motion' := by
  cases transit with
  | refused refused => exact ⟨motion, by simp [tracked, Motion.after, refused], .unmoved⟩
  | accepted accepted confirmation =>
      obtain ⟨motion', onward, moved⟩ := confirmation.moves
      exact ⟨motion', by simpa [tracked, Motion.after, accepted] using onward, moved⟩

theorem LayoutSearch.unmoved {found : Except OutputError ChannelMap} (search : LayoutSearch config stream events found)
    (track : Track) : events.foldl tracked (some track) = some track := by
  cases search <;> rfl

theorem Opening.untouched {earlier : Option StreamFormat} {opened : OpenedStream}
    (opening : Opening builder config earlier events (.ok opened)) (track : Option Track) :
    events.foldl tracked track = some ⟨opened.stream, .untouched⟩ := by
  cases opening with
  | opened search =>
      rw [List.foldl_cons, List.foldl_append]
      change List.foldl tracked (List.foldl tracked (some ⟨_, .untouched⟩) _) _ = _
      rw [search.unmoved]
      rfl

theorem Holding.Step.tracked_stream {first last : Holding} {event : DeviceEvent} (step : Holding.Step first event last)
    (held : track.map Track.stream = first.streams.head?) :
    (tracked track event).map Track.stream = last.streams.head? := by
  cases track with
  | none => cases step <;> simp_all [Holding.streams, tracked]
  | some track => cases step <;> simp_all [Holding.streams, tracked]

theorem Holding.Path.tracked_stream {first last : Holding} (path : Holding.Path first events last)
    (held : track.map Track.stream = first.streams.head?) :
    (events.foldl tracked track).map Track.stream = last.streams.head? := by
  induction path generalizing track with
  | nil => exact held
  | cons step _ ih => exact ih (step.tracked_stream held)

theorem Phase.holding_streams (phase : Phase δ τ) : phase.holding.streams.head? = phase.playback.stream? := by
  cases phase with
  | idle => rfl
  | ready session =>
      simp only [Phase.holding, Session.holding, Phase.playback]
      cases session.playback.stream? <;> rfl

theorem Believes.stream? {playback : Playback} (believes : Believes playback track) :
    track.map Track.stream = playback.stream? := by
  cases believes <;> rfl

/-- Where no stream is open, none is tracked. -/
theorem Believes.closing {last : Holding} (believes : Believes phase.playback track)
    (path : Holding.Path phase.holding events last) (without : last.streams = []) : events.foldl tracked track = none := by
  have held := path.tracked_stream (believes.stream?.trans phase.holding_streams.symm)
  rw [without] at held
  exact Option.map_eq_none_iff.mp held

theorem Believes.resting {playback : Playback} (believes : Believes playback track) (resting : Resting stream playback) :
    ∃ motion, track = some ⟨stream, motion⟩ ∧ motion.believed = false := by
  cases resting with
  | opened =>
      cases believes with
      | opened quiet => exact ⟨_, rfl, quiet⟩
  | paused =>
      cases believes with
      | paused quiet => exact ⟨_, rfl, quiet⟩

theorem Resting.believes {playback : Playback} (resting : Resting stream playback) (quiet : motion.believed = false) :
    Believes playback (some ⟨stream, motion⟩) := by
  cases resting with
  | opened => exact .opened quiet
  | paused => exact .paused quiet

/-- Failing to bring a stream to another state does not change what is to be believed of it. -/
theorem Moved.unbelieved {cause : OutputError} {motion' : Motion} (moved : Moved .start motion (.error cause) motion')
    (quiet : motion.believed = false) : motion'.believed = false := by
  cases moved with
  | unmoved => exact quiet
  | unconfirmed => rfl

theorem Moved.believed {cause : OutputError} {motion' : Motion} (moved : Moved .pause motion (.error cause) motion')
    (runs : motion.believed = true) : motion'.believed = true := by
  cases moved with
  | unmoved => exact runs
  | unconfirmed => rfl

theorem Starting.believes (starting : Starting timeoutNanos phase events result phase')
    (believes : Believes phase.playback track) : Believes phase'.playback (events.foldl tracked track) := by
  have path := starting.path
  cases starting with
  | uninitialized | already => exact believes
  | failed resting transit =>
      obtain ⟨motion, same, quiet⟩ := believes.resting resting
      obtain ⟨motion', onward, moved⟩ := transit.moves
      rw [same, onward]
      exact resting.believes (moved.unbelieved quiet)
  | started resting transit =>
      obtain ⟨motion, same, quiet⟩ := believes.resting resting
      obtain ⟨motion', onward, moved⟩ := transit.moves
      rw [same, onward]
      cases moved
      exact .started rfl
  | @unopened session _ _ closed =>
      rw [believes.closing path (by simp [Phase.holding, session.holding_closed closed, Holding.streams])]
      simp only [Phase.playback, closed]
      exact .closed
  | onlyReopened closed reopening transit =>
      obtain ⟨motion', onward, moved⟩ := transit.moves
      rw [List.foldl_append, reopening.untouched, onward]
      exact .opened (moved.unbelieved rfl)
  | reopened closed reopening transit =>
      obtain ⟨motion', onward, moved⟩ := transit.moves
      rw [List.foldl_append, reopening.untouched, onward]
      cases moved
      exact .started rfl

theorem Pausing.believes {paused : Bool} (pausing : Pausing timeoutNanos paused phase events result phase')
    (believes : Believes phase.playback track) : Believes phase'.playback (events.foldl tracked track) := by
  cases pausing with
  | uninitialized | closed | already => exact believes
  | unrequested opened =>
      simp only [Phase.playback, opened] at believes
      cases believes with
      | opened quiet => exact .paused quiet
  | failed started transit =>
      simp only [Phase.playback, started] at believes ⊢
      cases believes with
      | started runs =>
          obtain ⟨motion', onward, moved⟩ := transit.moves
          rw [onward]
          exact .started (moved.believed runs)
  | paused started transit =>
      simp only [Phase.playback, started] at believes
      cases believes with
      | started runs =>
          obtain ⟨motion', onward, moved⟩ := transit.moves
          rw [onward]
          cases moved
          exact .paused rfl
  | playedOn _ starting => exact starting.believes believes

theorem Starting.plays (starting : Starting timeoutNanos phase events (.ok ()) phase')
    (believes : Believes phase.playback track) :
    (events.foldl tracked track).any (fun track => track.motion.plays) =
      !track.any fun track => track.motion = .accepted .pause := by
  cases starting with
  | already started =>
      simp only [Phase.playback, started] at believes
      cases believes with
      | started runs => simpa using Motion.plays_of_believed runs
  | started resting transit =>
      obtain ⟨motion, same, quiet⟩ := believes.resting resting
      obtain ⟨motion', onward, moved⟩ := transit.moves
      have unpaused : motion ≠ .accepted .pause := by
        intro paused
        rw [paused] at quiet
        cases quiet
      rw [same, onward]
      cases moved
      simp [Motion.plays, unpaused]
  | reopened closed reopening transit =>
      simp only [Phase.playback, closed] at believes
      cases believes
      obtain ⟨motion', onward, moved⟩ := transit.moves
      rw [List.foldl_append, reopening.untouched, onward]
      cases moved
      rfl

theorem Pausing.plays (pausing : Pausing timeoutNanos true phase events (.ok ()) phase')
    (believes : Believes phase.playback track) :
    (events.foldl tracked track).any (fun track => track.motion.plays) =
      track.any fun track => track.motion = .accepted .start := by
  cases pausing with
  | already paused =>
      simp only [Phase.playback, paused] at believes
      cases believes with
      | paused quiet => simpa using Motion.plays_of_unbelieved quiet
  | unrequested opened =>
      simp only [Phase.playback, opened] at believes
      cases believes with
      | opened quiet => simpa using Motion.plays_of_unbelieved quiet
  | paused started transit =>
      simp only [Phase.playback, started] at believes
      cases believes with
      | @started _ motion runs =>
          obtain ⟨motion', onward, moved⟩ := transit.moves
          have confirmed : motion ≠ .accepted .start := by
            intro accepted
            rw [accepted] at runs
            cases runs
          rw [onward]
          cases moved
          simp [Motion.plays, confirmed]

theorem Pausing.starting (pausing : Pausing timeoutNanos false phase events (.ok ()) phase') :
    Starting timeoutNanos phase events (.ok ()) phase' := by
  cases pausing with
  | playedOn _ starting => exact starting

theorem Beginning.believes [AudioSource τ] {load : Loader (WatchedDevice δ)} {options : Options} {request : AudioRequest}
    {source : τ} (beginning : Beginning load options request source events result phase) (drained : Bool) :
    Believes (phase.settled drained).playback (events.foldl tracked none) := by
  have held : (events.foldl tracked none).map Track.stream = phase.holding.streams.head? :=
    beginning.path.tracked_stream rfl
  cases beginning with
  | unbound | disagreed | builderRefused => exact .closed
  | unopened =>
      rw [Option.map_eq_none_iff.mp held]
      exact .closed
  | opened _ _ opening =>
      rw [List.foldl_cons, List.foldl_append, opening.untouched]
      exact .opened rfl

theorem Resetting.closed (resetting : Resetting phase events phase') : phase'.playback = .closed := by
  cases resetting with
  | idle => rfl
  | ready closing =>
      cases closing with
      | already closed => exact closed
      | closed => rfl

theorem Playback.settled_or (drained ended : Bool) (playback : Playback) :
    playback.settled (drained || ended) = (playback.settled drained).settled ended := by
  cases playback <;> cases drained <;> cases ended <;> rfl

theorem Phase.settled_playback (drained : Bool) (phase : Phase δ τ) :
    (phase.settled drained).playback = phase.playback.settled drained := by
  cases phase <;> rfl

/-- A data callback that stops the stream and says so is believed. -/
theorem Believes.stopped {playback : Playback} (believes : Believes playback (some ⟨stream, motion⟩)) :
    Believes (playback.settled true) (some ⟨stream, .stopped⟩) := by
  cases believes with
  | opened | started => exact .opened rfl
  | paused => exact .paused rfl

/-- A data callback is genuine when it comes with the output it was registered with, for the stream that is open. -/
def Step.genuine (output : Output δ τ) : Step → Bool
  | .data request => request.attached && request.stream = output.playback.stream?
  | _ => true

/-- What the output believes, once settled, tells of the motion of its stream. -/
def Output.Informed (output : Output (WatchedDevice δ) τ) : Prop :=
  Believes (output.phase.settled output.drained).playback (track? output.device.events)

theorem tracked_calledBack_none (track : Option Track) : tracked track (.calledBack none .stop) = track := by
  cases track with
  | none => rfl
  | some track => simp [tracked, Motion.after]

theorem DataRequest.Lost.streamless {request : DataRequest} {before : Output (WatchedDevice δ) τ} (lost : request.Lost before)
    (genuine : (Step.data request).genuine before = true) : request.stream = none := by
  obtain ⟨attached, asked⟩ : request.attached = true ∧ request.stream = before.playback.stream? := by
    simpa [Step.genuine] using genuine
  rcases lost with detached | streamless | ⟨source, idle⟩
  · rw [detached] at attached
    cases attached
  · exact streamless
  · simpa [Output.playback, idle, Playback.stream?] using asked

theorem track?_onward (later : List DeviceEvent) : track? (events ++ later) = later.foldl tracked (track? events) :=
  List.foldl_append

variable {before after : Output (WatchedDevice δ) τ} {step : Step}

theorem Output.Informed.closing {last : Holding} (informed : before.Informed)
    (path : Holding.Path before.phase.holding events last) (without : last.streams = []) :
    events.foldl tracked (track? before.device.events) = none := by
  rw [← Phase.settled_holding before.drained] at path
  exact Believes.closing informed path without

variable [AudioSource τ]

theorem Filled.informed {request : DataRequest} {session : Session (WatchedDevice δ) τ} {written : Int}
    {stamp : Except Int (Int × Int)} {answer : DataAnswer} (ready : before.phase = .ready session)
    (filled : Filled request session stream written stamp before answer after)
    (plays : session.playback.stream? = some stream) (informed : before.Informed) :
    (after.witnessing (.calledBack (some stream) answer.result)).Informed := by
  obtain ⟨missed, phase⟩ := filled.phase
  have playback : (after.phase.settled after.drained).playback = (before.phase.settled before.drained).playback.settled
      (session.reading request written (presentedBy written stamp)).pull.eof := by
    rw [filled.drained, Phase.settled_playback, Playback.settled_or, Phase.settled_playback, phase, ready]
    rfl
  have tracks : (track? before.device.events).map Track.stream = some stream := by
    rw [informed.stream?, Phase.settled_playback, Playback.settled_stream?, ← plays, ready]
    rfl
  obtain ⟨⟨_, motion⟩, found, same⟩ := Option.map_eq_some_iff.mp tracks
  cases same
  unfold Output.Informed at informed ⊢
  rw [found] at informed
  change Believes (after.phase.settled after.drained).playback (track? (after.device.events ++ [_]))
  rw [playback, filled.events, List.append_assoc, track?_onward, found, filled.result]
  cases (session.reading request written (presentedBy written stamp)).pull.eof with
  | false =>
      rw [Playback.settled_false]
      exact informed
  | true => simpa [tracked, Motion.after] using informed.stopped

theorem Course.informed (course : Course before step events result after) (genuine : step.genuine before = true)
    (informed : before.Informed) : after.Informed := by
  have onward := course.events_append
  unfold Output.Informed
  cases course with
  | init _ drained down beginning =>
      rw [onward, track?_onward, List.foldl_append, informed.closing down.path rfl]
      exact beginning.believes _
  | start _ undrained starting =>
      rw [onward, track?_onward, undrained, Phase.settled_false]
      exact starting.believes informed
  | setPause _ undrained pausing =>
      rw [onward, track?_onward, undrained, Phase.settled_false]
      exact pausing.believes informed
  | reset _ drained resetting =>
      have closed := resetting.closed
      have without : after.phase.holding.streams = [] := by
        rw [← List.head?_eq_none_iff, Phase.holding_streams, closed]
        rfl
      rw [onward, track?_onward, informed.closing resetting.path without, Phase.settled_playback, closed]
      exact .closed
  | uninit _ _ idle down =>
      rw [onward, track?_onward, informed.closing down.path rfl, idle]
      exact .closed
  | lost lost =>
      rw [onward, track?_onward, lost.streamless genuine, List.foldl_cons, tracked_calledBack_none]
      exact informed
  | filled attached asked ready filled =>
      have plays := genuine
      simp only [Step.genuine, attached, asked, Output.playback, ready, Bool.true_and, decide_eq_true_eq] at plays
      exact filled.informed ready plays.symm informed
  | error complaining => cases complaining <;> exact informed
  | mailbox => exact informed

def Output.genuine : List Step → Output (WatchedDevice δ) τ → Bool
  | [], _ => true
  | step :: rest, output => step.genuine output && (step.work.run output).2.genuine rest

theorem Output.Informed.following (informed : before.Informed) (reports : before.Reports) (steps : List Step)
    (genuine : before.genuine steps = true) : (before.following steps).Reports ∧ (before.following steps).Informed := by
  induction steps generalizing before with
  | nil => exact ⟨reports, informed⟩
  | cons step rest ih =>
      obtain ⟨first, later⟩ := Bool.and_eq_true_iff.mp genuine
      obtain ⟨events, course⟩ := step.work_course reports
      exact ih (course.informed first informed) (course.reports reports) later

theorem Output.fresh_informed {σ : Type} (options : Options) (load : Loader δ) (source : σ) (device : δ) :
    (Output.fresh options load source device).Informed :=
  Believes.closed

theorem Course.pause_plays (course : Course before (.setPause true) events (.ok ()) after) (informed : before.Informed) :
    playing after.device.events = unconfirmed .start before.device.events := by
  rw [playing, course.events_append, track?_onward]
  cases course with
  | setPause _ _ pausing => exact pausing.plays informed
  | mailbox which => simp at which

/-- The steps after which an owner expects to hear something. -/
inductive Step.PlaysOn : Step → Prop where
  | start : Step.PlaysOn .start
  | unpause : Step.PlaysOn (.setPause false)

theorem Course.start_plays (course : Course before step events (.ok ()) after) (onward : step.PlaysOn)
    (informed : before.Informed) : playing after.device.events = !unconfirmed .pause before.device.events := by
  rw [playing, course.events_append, track?_onward]
  cases onward with
  | start =>
      cases course with
      | start _ _ starting => exact starting.plays informed
      | mailbox which => simp at which
  | unpause =>
      cases course with
      | setPause _ _ pausing => exact pausing.starting.plays informed
      | mailbox which => simp at which

/--
A pause that succeeds leaves the device playing just when a start was accepted and never confirmed: the output
believes the stream to be at rest, and asks for nothing.
-/
theorem Output.pause_playing {σ : Type} [AudioSource σ] (options : Options) (load : Loader δ) (source : σ) (device : δ)
    (steps : List Step) (genuine : (Output.fresh options load source device).genuine steps = true) :
    let output := (Output.fresh options load source device).following steps
    let paused := (Step.setPause true).work.run output
    paused.1 = .ok () → playing paused.2.device.events = unconfirmed .start output.device.events := by
  intro output paused succeeded
  obtain ⟨reports, informed⟩ := (Output.fresh_informed options load source device).following
    (Output.fresh_reports options load source device) steps genuine
  obtain ⟨events, course⟩ := (Step.setPause true).work_course reports
  rw [show ((Step.setPause true).work.run output).1 = .ok () from succeeded] at course
  exact course.pause_plays informed

def DataRequest.genuine (stream : StreamHandle) : DataRequest where
  stream := some stream
  buffer := some (List.replicate 16 0)
  frames := 2
  now := .time 1 0

theorem Output.pause_playing_simulated :
    let output := (Output.simulated {}).following [.init .plain, .start, .data (.genuine ⟨1⟩)]
    let paused := (Step.setPause true).work.run output
    (Output.simulated {}).genuine [.init .plain, .start, .data (.genuine ⟨1⟩)] = true ∧ paused.1 = .ok () ∧
      playing paused.2.device.events = unconfirmed .start output.device.events := by
  have genuine : (Output.simulated {}).genuine [.init .plain, .start, .data (.genuine ⟨1⟩)] = true := by
    decide +kernel
  have succeeds : ((Step.setPause true).work.run
      ((Output.simulated {}).following [.init .plain, .start, .data (.genuine ⟨1⟩)])).1 = .ok () := by
    decide +kernel
  unfold Output.simulated at genuine succeeds ⊢
  exact ⟨genuine, succeeds, Output.pause_playing {} (presentLoader (SimulatedDevice.api 27 []))
    (⟨.scripted {}, []⟩ : SimulatedSource) {} _ genuine succeeds⟩

/-- A device that accepts a start and fails the wait for it. -/
def SimulatedDevice.doubtful : SimulatedDevice where
  waits := [ResultCode.invalidState]

/-- A start that could not be confirmed plays on through a pause that succeeds. -/
theorem Output.paused_playing :
    let output := (Output.simulated .doubtful).following [.init .plain, .start]
    let paused := (Step.setPause true).work.run output
    (Output.simulated .doubtful).genuine [.init .plain, .start] = true ∧ paused.1 = .ok () ∧
      playing paused.2.device.events = true := by
  decide +kernel

/--
A start that succeeds leaves the device playing, unless a pause was accepted and never confirmed: then the output
believes the stream to play already, and asks for nothing.
-/
theorem Output.start_playing {σ : Type} [AudioSource σ] (options : Options) (load : Loader δ) (source : σ) (device : δ)
    (steps : List Step) (genuine : (Output.fresh options load source device).genuine steps = true) (step : Step)
    (onward : step.PlaysOn) :
    let output := (Output.fresh options load source device).following steps
    let started := step.work.run output
    started.1 = .ok () → playing started.2.device.events = !unconfirmed .pause output.device.events := by
  intro output started succeeded
  obtain ⟨reports, informed⟩ := (Output.fresh_informed options load source device).following
    (Output.fresh_reports options load source device) steps genuine
  obtain ⟨events, course⟩ := step.work_course reports
  rw [show (step.work.run output).1 = .ok () from succeeded] at course
  exact course.start_plays onward informed

theorem Output.start_playing_simulated :
    let output := (Output.simulated {}).following [.init .plain, .start, .data (.genuine ⟨1⟩), .setPause true]
    let started := Step.start.work.run output
    (Output.simulated {}).genuine [.init .plain, .start, .data (.genuine ⟨1⟩), .setPause true] = true ∧
      Step.start.PlaysOn ∧ started.1 = .ok () ∧
        playing started.2.device.events = !unconfirmed .pause output.device.events := by
  have genuine : (Output.simulated {}).genuine [.init .plain, .start, .data (.genuine ⟨1⟩), .setPause true] = true := by
    decide +kernel
  have succeeds : (Step.start.work.run ((Output.simulated {}).following
      [.init .plain, .start, .data (.genuine ⟨1⟩), .setPause true])).1 = .ok () := by
    decide +kernel
  unfold Output.simulated at genuine succeeds ⊢
  exact ⟨genuine, .start, succeeds, Output.start_playing {} (presentLoader (SimulatedDevice.api 27 []))
    (⟨.scripted {}, []⟩ : SimulatedSource) {} _ genuine .start .start succeeds⟩

/-- A device that confirms a start, and then accepts a pause and fails the wait for it. -/
def SimulatedDevice.reluctant : SimulatedDevice where
  waits := [StateCode.started, ResultCode.invalidState]

/-- A pause that could not be confirmed keeps the device silent through a start that succeeds. -/
theorem Output.started_silent :
    let output := (Output.simulated .reluctant).following [.init .plain, .start, .setPause true]
    let started := Step.start.work.run output
    (Output.simulated .reluctant).genuine [.init .plain, .start, .setPause true] = true ∧ started.1 = .ok () ∧
      playing started.2.device.events = false := by
  decide +kernel

end PcmOutput
