import PcmOutput.Proofs.Course.Session
import PcmOutput.Proofs.Course.Transit

/-!
# The course of playback

Starting and pausing first learn of an end of the source. What follows depends on what the stream was
brought to: nothing is requested of a stream that is believed to be there already.
-/

set_option autoImplicit false

namespace PcmOutput

variable {δ τ : Type}

/-- What a stream was brought to, once an end of the source is taken into account. -/
def Playback.settled (drained : Bool) : Playback → Playback
  | .started stream => if drained then .opened stream else .started stream
  | playback => playback

def Session.settled (drained : Bool) (session : Session δ τ) : Session δ τ :=
  { session with playback := session.playback.settled drained }

def Phase.settled (drained : Bool) : Phase δ τ → Phase δ τ
  | .idle source => .idle source
  | .ready session => .ready (session.settled drained)

/-- The session with another stream in place of the one that was closed. -/
def Session.reopened (session : Session δ τ) (opened : OpenedStream) : Session δ τ :=
  { session with
    format := opened.format
    deviceBuffer := opened.deviceBuffer
    playback := .opened opened.stream }

/-- The stream is open, and the output does not believe it to be started. -/
inductive Resting (stream : StreamHandle) : Playback → Prop where
  | opened : Resting stream (.opened stream)
  | paused : Resting stream (.paused stream)

/-- The start of a settled phase, what it comes to, and the phase after it. -/
inductive Starting (timeoutNanos : Int) : Phase (WatchedDevice δ) τ → List DeviceEvent →
    Except OutputError Unit → Phase (WatchedDevice δ) τ → Prop where
  | uninitialized {source} : Starting timeoutNanos (.idle source) [] (.error .notInitialized) (.idle source)
  | already {session stream} : session.playback = .started stream →
      Starting timeoutNanos (.ready session) [] (.ok ()) (.ready session)
  | failed {session stream events cause} : Resting stream session.playback →
      Transit stream .start timeoutNanos events (.error cause) →
      Starting timeoutNanos (.ready session) events (.error cause) (.ready session)
  | started {session stream events} : Resting stream session.playback →
      Transit stream .start timeoutNanos events (.ok ()) →
      Starting timeoutNanos (.ready session) events (.ok ()) (.ready { session with playback := .started stream })
  | unopened {session events cause} : session.playback = .closed →
      Opening session.builder session.config (some session.format) events (.error cause) →
      Starting timeoutNanos (.ready session) events (.error cause) (.ready session)
  | onlyReopened {session opening opened events cause} : session.playback = .closed →
      Opening session.builder session.config (some session.format) opening (.ok opened) →
      Transit opened.stream .start timeoutNanos events (.error cause) →
      Starting timeoutNanos (.ready session) (opening ++ events) (.error cause) (.ready (session.reopened opened))
  | reopened {session opening opened events} : session.playback = .closed →
      Opening session.builder session.config (some session.format) opening (.ok opened) →
      Transit opened.stream .start timeoutNanos events (.ok ()) →
      Starting timeoutNanos (.ready session) (opening ++ events) (.ok ())
        (.ready { session.reopened opened with playback := .started opened.stream })

/-- A pause of a settled phase, or its end. -/
inductive Pausing (timeoutNanos : Int) : Bool → Phase (WatchedDevice δ) τ → List DeviceEvent →
    Except OutputError Unit → Phase (WatchedDevice δ) τ → Prop where
  | uninitialized {paused source} : Pausing timeoutNanos paused (.idle source) [] (.error .notOpen) (.idle source)
  | closed {paused session} : session.playback = .closed →
      Pausing timeoutNanos paused (.ready session) [] (.error .notOpen) (.ready session)
  | already {session stream} : session.playback = .paused stream →
      Pausing timeoutNanos true (.ready session) [] (.ok ()) (.ready session)
  | unrequested {session stream} : session.playback = .opened stream →
      Pausing timeoutNanos true (.ready session) [] (.ok ()) (.ready { session with playback := .paused stream })
  | failed {session stream events cause} : session.playback = .started stream →
      Transit stream .pause timeoutNanos events (.error cause) →
      Pausing timeoutNanos true (.ready session) events (.error cause) (.ready session)
  | paused {session stream events} : session.playback = .started stream →
      Transit stream .pause timeoutNanos events (.ok ()) →
      Pausing timeoutNanos true (.ready session) events (.ok ()) (.ready { session with playback := .paused stream })
  | playedOn {session stream events result after} : session.playback.stream? = some stream →
      Starting timeoutNanos (.ready session) events result after →
      Pausing timeoutNanos false (.ready session) events result after

theorem Phase.settled_api? (drained : Bool) (phase : Phase δ τ) : (phase.settled drained).api? = phase.api? := by
  cases phase <;> rfl

variable {timeoutNanos : Int} {phase phase' : Phase (WatchedDevice δ) τ} {events : List DeviceEvent}
  {result : Except OutputError Unit}

theorem Starting.api? (starting : Starting timeoutNanos phase events result phase') :
    phase'.api? = phase.api? := by
  cases starting <;> rfl

theorem Pausing.api? {paused : Bool} (pausing : Pausing timeoutNanos paused phase events result phase') :
    phase'.api? = phase.api? := by
  cases pausing with
  | playedOn _ starting => exact starting.api?
  | _ => rfl

@[simp] theorem Playback.settled_false (playback : Playback) : playback.settled false = playback := by
  cases playback <;> rfl

@[simp] theorem Phase.settled_false (phase : Phase δ τ) : phase.settled false = phase := by
  cases phase <;> simp [Phase.settled, Session.settled]

theorem Session.settled_eq {session : Session δ τ} {drained : Bool}
    (same : session.playback.settled drained = session.playback) : session.settled drained = session := by
  unfold Session.settled
  rw [same]

variable {before : Output (WatchedDevice δ) τ}

theorem settleDrain_course :
    Ends Output.settleDrain before fun _ after => Kept before [] after ∧ after.drained = false ∧
      after.phase = before.phase.settled before.drained := by
  have cleared : ∀ middle : Output (WatchedDevice δ) τ, Kept before [] middle →
      middle.phase = before.phase.settled before.drained →
      Ends (modify fun output => { output with drained := false }) middle fun _ after =>
        Kept before [] after ∧ after.drained = false ∧ after.phase = before.phase.settled before.drained := by
    intro middle kept settled
    exact Ends.change ⟨⟨kept.options, kept.load, kept.reloadRequested, kept.mailbox, kept.events⟩, rfl, settled⟩
  have untouched : before.phase.settled before.drained = before.phase →
      Ends (modify fun output => { output with drained := false }) before fun _ after =>
        Kept before [] after ∧ after.drained = false ∧ after.phase = before.phase.settled before.drained :=
    fun same => cleared before Kept.refl same.symm
  apply Ends.read
  cases phase : before.phase with
  | idle source =>
      simp only [Output.playback, phase] at cleared untouched ⊢
      exact untouched rfl
  | ready session =>
      cases playback : session.playback with
      | started stream =>
          cases drained : before.drained with
          | false =>
              simp only [Output.playback, phase, playback, drained] at cleared untouched ⊢
              exact untouched (by simp)
          | true =>
              simp only [Output.playback, phase, playback, drained] at cleared untouched ⊢
              apply (note_dealt _ _ before).andThen
              intro _ noted quiet
              apply (setPlayback_kept _ (quiet.phase.trans phase)).andThen
              intro _ settled changed
              obtain ⟨kept, _, ready⟩ := changed
              refine cleared settled (quiet.toKept.silently kept) ?_
              simp [ready, Phase.settled, Session.settled, playback, Playback.settled]
      | _ =>
          simp only [Output.playback, phase, playback] at cleared untouched ⊢
          exact untouched (congrArg Phase.ready (Session.settled_eq (by rw [playback]; rfl)))

theorem reopen_course {session : Session (WatchedDevice δ) τ} (reports : session.api.Reports)
    (ready : before.phase = .ready session) :
    Ends (Output.reopen session).run before fun result after => ∃ events, Kept before events after ∧
      after.drained = before.drained ∧
        ((∃ cause, result = .error cause ∧ after.phase = .ready session ∧
          Opening session.builder session.config (some session.format) events (.error cause)) ∨
        (∃ opened, result = .ok opened.stream ∧ after.phase = .ready (session.reopened opened) ∧
          Opening session.builder session.config (some session.format) events (.ok opened))) := by
  apply Ends.always (openHandle_course reports before)
  intro result opening course
  obtain ⟨events, dealt, course⟩ := course
  cases result with
  | error cause =>
      apply Ends.always (note_dealt _ _ opening)
      intro _ after noted
      have final := dealt.silently noted
      exact Ends.failed ⟨events, final.toKept, final.drained, .inl ⟨cause, rfl, final.phase.trans ready, course⟩⟩
  | ok opened =>
      apply Ends.always (modifySession_kept _ (dealt.phase.trans ready))
      intro _ after changed
      obtain ⟨kept, drained, phase⟩ := changed
      exact Ends.succeeded ⟨events, dealt.toKept.silently kept, drained.trans dealt.drained,
        .inr ⟨opened, rfl, phase, course⟩⟩

theorem bring_course {session : Session (WatchedDevice δ) τ} (reports : session.api.Reports)
    (stream : StreamHandle) (transition : Transition) :
    Ends (Output.bring session stream transition (pure ())).run before fun result after => ∃ events,
      Dealt before events after ∧
        Transit stream transition before.options.stateTimeoutNanos events result := by
  apply Ends.readAlways
  apply Ends.always (transit_course reports before)
  intro result middle course
  obtain ⟨events, dealt, course⟩ := course
  cases result with
  | error cause =>
      apply Ends.always (note_dealt _ _ middle)
      intro _ after noted
      exact Ends.failed ⟨events, dealt.silently noted, course⟩
  | ok => exact Ends.succeeded ⟨events, dealt, course⟩

/-- The session after a transition: what was aimed at is believed only of a confirmed one. -/
def Session.brought (session : Session δ τ) (playback : Playback) : Except OutputError Unit → Session δ τ
  | .ok () => { session with playback := playback }
  | .error _ => session

theorem bringTo_course {session current : Session (WatchedDevice δ) τ} (reports : session.api.Reports)
    (ready : before.phase = .ready current) (stream : StreamHandle) (transition : Transition)
    (playback : Playback) :
    Ends (do
        Output.bring session stream transition (pure ())
        always (setPlayback playback) : Attempt (WatchedDevice δ) τ Unit).run before
      fun result after => ∃ events, Kept before events after ∧ after.drained = before.drained ∧
        Transit stream transition before.options.stateTimeoutNanos events result ∧
          after.phase = .ready (current.brought playback result) := by
  refine Ends.orFail (bring_course reports stream transition) ?_ ?_
  · intro cause after course
    obtain ⟨events, dealt, transit⟩ := course
    exact ⟨events, dealt.toKept, dealt.drained, transit, dealt.phase.trans ready⟩
  · intro _ middle course
    obtain ⟨events, dealt, transit⟩ := course
    apply Ends.alwaysDone (setPlayback_kept playback (dealt.phase.trans ready))
    intro _ after changed
    obtain ⟨kept, drained, phase⟩ := changed
    exact ⟨events, dealt.toKept.silently kept, drained.trans dealt.drained, transit, phase⟩

theorem Output.Reports.settled {settled : Output (WatchedDevice δ) τ} (reports : before.Reports)
    (load : settled.load = before.load) (phase : settled.phase = before.phase.settled before.drained) :
    settled.Reports where
  loader := load ▸ reports.loader
  session session ready := by
    cases earlier : before.phase with
    | idle source => simp [phase, earlier, Phase.settled] at ready
    | ready first =>
        have same : first.settled before.drained = session := by
          simpa [phase, earlier, Phase.settled] using ready
        exact same ▸ reports.session first earlier

theorem start_course (reports : before.Reports) :
    Ends Output.start.run before fun result after => ∃ events, Kept before events after ∧
      after.drained = false ∧ Starting before.options.stateTimeoutNanos
        (before.phase.settled before.drained) events result after.phase := by
  apply Ends.always settleDrain_course
  intro _ settled reached
  obtain ⟨kept, down, phase⟩ := reached
  have honest := reports.settled kept.load phase
  rw [← phase, ← kept.options]
  apply Ends.readAlways
  cases ready : settled.phase with
  | idle source => exact Ends.failed ⟨[], kept, down, by rw [ready]; exact .uninitialized⟩
  | ready session =>
      have brought : ∀ stream, Resting stream session.playback →
          Ends (do
              Output.bring session stream .start (pure ())
              always (setPlayback (.started stream)) : Attempt (WatchedDevice δ) τ Unit).run settled
            fun result after => ∃ events, Kept before events after ∧ after.drained = false ∧
              Starting settled.options.stateTimeoutNanos (.ready session) events result after.phase := by
        intro stream resting
        apply (bringTo_course (honest.session _ ready) ready stream .start _).weaken
        intro result after course
        obtain ⟨events, dealt, drained, transit, phase⟩ := course
        refine ⟨events, kept.trans dealt, drained.trans down, ?_⟩
        rw [phase]
        cases result with
        | error cause => exact .failed resting transit
        | ok => exact .started resting transit
      dsimp only
      cases playback : session.playback with
      | started stream => exact Ends.succeeded ⟨[], kept, down, by rw [ready]; exact .already playback⟩
      | opened stream => exact brought stream (playback ▸ .opened)
      | paused stream => exact brought stream (playback ▸ .paused)
      | closed =>
          refine Ends.orFail (reopen_course (honest.session _ ready) ready) ?_ ?_
          · intro cause after course
            obtain ⟨events, dealt, drained, course⟩ := course
            refine ⟨events, kept.trans dealt, drained.trans down, ?_⟩
            rcases course with ⟨_, same, phase, opening⟩ | ⟨_, impossible, _⟩
            · cases same
              rw [phase]
              exact .unopened playback opening
            · cases impossible
          · intro stream opening course
            obtain ⟨events, dealt, drained, course⟩ := course
            rcases course with ⟨_, impossible, _⟩ | ⟨opened, same, phase, course⟩
            · cases impossible
            · cases same
              apply (bringTo_course (honest.session _ ready) phase _ .start _).weaken
              intro result after reached
              obtain ⟨others, dealt', drained', transit, phase⟩ := reached
              refine ⟨events ++ others, kept.trans (dealt.trans dealt'), drained'.trans (drained.trans down), ?_⟩
              rw [dealt.options] at transit
              rw [phase]
              cases result with
              | error cause => exact .onlyReopened playback course transit
              | ok => exact .reopened playback course transit

theorem setPause_course (reports : before.Reports) (paused : Bool) :
    Ends (Output.setPause paused).run before fun result after => ∃ events, Kept before events after ∧
      after.drained = false ∧ Pausing before.options.stateTimeoutNanos paused
        (before.phase.settled before.drained) events result after.phase := by
  apply Ends.always settleDrain_course
  intro _ settled reached
  obtain ⟨kept, down, phase⟩ := reached
  have honest := reports.settled kept.load phase
  rw [← phase, ← kept.options]
  apply Ends.readAlways
  cases ready : settled.phase with
  | idle source => exact Ends.failed ⟨[], kept, down, by rw [ready]; exact .uninitialized⟩
  | ready session =>
      -- Playing on is a start, which finds the flag down and so settles nothing more.
      have playedOn : ∀ stream, session.playback.stream? = some stream →
          Ends Output.start.run settled fun result after => ∃ events, Kept before events after ∧
            after.drained = false ∧
              Pausing settled.options.stateTimeoutNanos false (.ready session) events result after.phase := by
        intro stream streams
        apply (start_course honest).weaken
        intro result after course
        obtain ⟨events, dealt, drained, starting⟩ := course
        rw [down, Phase.settled_false, ready] at starting
        exact ⟨events, kept.trans dealt, drained, .playedOn streams starting⟩
      dsimp only
      cases playback : session.playback with
      | closed => exact Ends.failed ⟨[], kept, down, by rw [ready]; exact .closed playback⟩
      | opened stream =>
          cases paused with
          | false => exact playedOn stream (by rw [playback]; rfl)
          | true =>
              apply Ends.alwaysDone (setPlayback_kept _ ready)
              intro _ after changed
              obtain ⟨quiet, drained, phase⟩ := changed
              refine ⟨[], kept.trans quiet, drained.trans down, ?_⟩
              rw [phase]
              exact .unrequested playback
      | paused stream =>
          cases paused with
          | false => exact playedOn stream (by rw [playback]; rfl)
          | true => exact Ends.succeeded ⟨[], kept, down, by rw [ready]; exact .already playback⟩
      | started stream =>
          cases paused with
          | false =>
              refine Ends.succeeded ⟨[], kept, down, ?_⟩
              rw [ready]
              exact .playedOn (by rw [playback]; rfl) (.already playback)
          | true =>
              apply (bringTo_course (honest.session _ ready) ready stream .pause _).weaken
              intro result after course
              obtain ⟨events, dealt, drained, transit, phase⟩ := course
              refine ⟨events, kept.trans dealt, drained.trans down, ?_⟩
              rw [phase]
              cases result with
              | error cause => exact .failed playback transit
              | ok => exact .paused playback transit

end PcmOutput
