import PcmOutput.Proofs.Course.Callback
import PcmOutput.Proofs.Course.Playback

/-!
# Runs of an output

A run is any sequence of the owner's operations and the device's callbacks. Every step has a course that
tells all it can do; what every course preserves holds along every run.
-/

set_option autoImplicit false

namespace PcmOutput

variable {δ τ : Type}

/-- What happens to an output from outside, between any two of its operations or as one of them. -/
inductive Step
  | init (request : AudioRequest)
  | start
  | setPause (paused : Bool)
  | reset
  | uninit
  | data (request : DataRequest)
  | error (code : Int)
  /-- The owner reads the mailbox. -/
  | collect
  /-- The owner stops reading the mailbox. -/
  | abandon

/-- The result of a step; callbacks and the owner's reading cannot fail. What the device is told by its data
callback is passed on. -/
def Step.performed [AudioSource τ] (told : Option StreamHandle → CallbackResult → Work δ τ Unit) :
    Step → Work δ τ (Except OutputError Unit)
  | .init request => (Output.init request).run
  | .start => Output.start.run
  | .setPause paused => (Output.setPause paused).run
  | .reset => do
    Output.reset
    return .ok ()
  | .uninit => do
    Output.uninit
    return .ok ()
  | .data request => do
    let answer ← dataCallback request
    told request.stream answer.result
    return .ok ()
  | .error code => do
    errorCallback code
    return .ok ()
  | .collect => do
    modify fun output => { output with mailbox := output.mailbox.collect.2 }
    return .ok ()
  | .abandon => do
    modify fun output => { output with mailbox := output.mailbox.abandon }
    return .ok ()

/-- The output when its device has lived through something more. -/
def Output.witnessing (event : DeviceEvent) (output : Output (WatchedDevice δ) τ) : Output (WatchedDevice δ) τ :=
  { output with device := { output.device with events := output.device.events ++ [event] } }

/-- A step on a watched device, which is seen to be told by its data callback. -/
def Step.work [AudioSource τ] : Step → Work (WatchedDevice δ) τ (Except OutputError Unit) :=
  Step.performed fun stream result => modify (Output.witnessing (.calledBack stream result))

/-- An output before its first step, on a device and with a source that are watched. -/
def Output.fresh (options : Options) (load : Loader δ) (source : τ) (device : δ) :
    Output (WatchedDevice δ) (WatchedSource τ) :=
  Output.create options load.watched ⟨source, []⟩ ⟨device, []⟩

theorem Output.fresh_reports (options : Options) (load : Loader δ) (source : τ) (device : δ) :
    (Output.fresh options load source device).Reports where
  loader := load.watched_reports
  session session ready := by cases ready

def Output.following [AudioSource τ] (steps : List Step) (output : Output (WatchedDevice δ) τ) :
    Output (WatchedDevice δ) τ :=
  steps.foldl (fun output step => (step.work.run output).2) output

theorem Output.following_append [AudioSource τ] (steps later : List Step) (output : Output (WatchedDevice δ) τ) :
    output.following (steps ++ later) = (output.following steps).following later :=
  List.foldl_append

/-- Everything a step can do, with what the device answered in it and the result. -/
inductive Course [AudioSource τ] (before : Output (WatchedDevice δ) τ) :
    Step → List DeviceEvent → Except OutputError Unit → Output (WatchedDevice δ) τ → Prop where
  | init {request down source beginning result after} : Kept before (down ++ beginning) after →
      after.drained = before.drained → TakingDown before.phase down source →
      Beginning before.load before.options request source beginning result after.phase →
      Course before (.init request) (down ++ beginning) result after
  | start {events result after} : Kept before events after → after.drained = false →
      Starting before.options.stateTimeoutNanos (before.phase.settled before.drained) events result after.phase →
      Course before .start events result after
  | setPause {paused events result after} : Kept before events after → after.drained = false →
      Pausing before.options.stateTimeoutNanos paused (before.phase.settled before.drained) events result
        after.phase →
      Course before (.setPause paused) events result after
  | reset {events after} : Kept before events after → after.drained = before.drained →
      Resetting before.phase events after.phase → Course before .reset events (.ok ()) after
  | uninit {events source after} : Kept before events after → after.drained = before.drained →
      after.phase = .idle source → TakingDown before.phase events source →
      Course before .uninit events (.ok ()) after
  | lost {request} : request.Lost before →
      Course before (.data request) [.calledBack request.stream .stop] (.ok ())
        (before.witnessing (.calledBack request.stream .stop))
  | filled {request session stream written stamp answer after} : request.attached = true →
      request.stream = some stream → before.phase = .ready session →
      Filled request session stream written stamp before answer after →
      Course before (.data request)
        [.answered (.framesWritten stream) written, .answered (.timestamp stream ModeCode.monotonicClock) stamp,
          .calledBack (some stream) answer.result]
        (.ok ()) (after.witnessing (.calledBack (some stream) answer.result))
  | error {code after} : Complaining before after → Course before (.error code) [] (.ok ()) after
  | mailbox {step mailbox} : step = .collect ∨ step = .abandon →
      Course before step [] (.ok ()) { before with mailbox := mailbox }

variable [AudioSource τ] {before after : Output (WatchedDevice δ) τ} {step : Step} {events : List DeviceEvent}
  {result : Except OutputError Unit}

theorem Step.work_course (reports : before.Reports) (step : Step) :
    Ends step.work before fun result after => ∃ events, Course before step events result after := by
  cases step with
  | init request =>
      apply (init_course reports request).weaken
      intro result after reached
      obtain ⟨down, source, beginning, kept, drained, taken, begun⟩ := reached
      exact ⟨_, .init kept drained taken begun⟩
  | start =>
      apply (start_course reports).weaken
      intro result after reached
      obtain ⟨events, kept, drained, starting⟩ := reached
      exact ⟨_, .start kept drained starting⟩
  | setPause paused =>
      apply (setPause_course reports paused).weaken
      intro result after reached
      obtain ⟨events, kept, drained, pausing⟩ := reached
      exact ⟨_, .setPause kept drained pausing⟩
  | reset =>
      apply (reset_course reports).andThen
      intro _ after reached
      obtain ⟨events, kept, drained, resetting⟩ := reached
      exact Ends.done ⟨_, .reset kept drained resetting⟩
  | uninit =>
      apply (uninit_course reports).andThen
      intro _ after reached
      obtain ⟨events, source, kept, drained, phase, taken⟩ := reached
      exact Ends.done ⟨_, .uninit kept drained phase taken⟩
  | data request =>
      apply (dataCallback_course reports request).andThen
      intro answer filled reached
      refine Ends.andThen (Ends.change rfl : Ends (modify _) filled fun _ after => after =
        filled.witnessing (.calledBack request.stream answer.result)) fun _ after same => ?_
      subst same
      apply Ends.done
      cases reached with
      | lost lost => exact ⟨_, .lost lost⟩
      | filled attached stream ready filled =>
          rw [stream]
          exact ⟨_, .filled attached stream ready filled⟩
  | error code =>
      apply (errorCallback_course code).andThen
      intro _ after complaining
      exact Ends.done ⟨_, .error complaining⟩
  | collect => exact ⟨_, .mailbox (.inl rfl)⟩
  | abandon => exact ⟨_, .mailbox (.inr rfl)⟩

theorem Course.events_append (course : Course before step events result after) :
    after.device.events = before.device.events ++ events := by
  cases course with
  | init kept | start kept | setPause kept | reset kept | uninit kept => exact kept.events
  | lost => rfl
  | filled _ _ _ filled =>
      simp only [Output.witnessing, filled.events, List.append_assoc, List.cons_append, List.nil_append]
  | error complaining => cases complaining <;> simp
  | mailbox => simp

/-- An API is come by in an initialization only. -/
theorem Course.reports (reports : before.Reports) (course : Course before step events result after) :
    after.Reports := by
  have same : after.load = before.load → after.phase.api? = before.phase.api? → after.Reports := by
    intro load api
    refine ⟨load ▸ reports.loader, fun session ready => ?_⟩
    rw [ready] at api
    cases phase : before.phase with
    | idle source => simp [phase, Phase.api?] at api
    | ready earlier =>
        have equal : session.api = earlier.api := by simpa [phase, Phase.api?] using api
        exact equal ▸ reports.session earlier phase
  cases course with
  | init kept _ _ beginning =>
      refine ⟨kept.load ▸ reports.loader, fun session ready => ?_⟩
      rw [ready] at beginning
      cases beginning with
      | opened agreed =>
          obtain ⟨device, loaded⟩ := agreed.loaded
          exact reports.loader.reports _ _ _ loaded
  | start kept _ starting => exact same kept.load (starting.api?.trans (Phase.settled_api? _ _))
  | setPause kept _ pausing => exact same kept.load (pausing.api?.trans (Phase.settled_api? _ _))
  | reset kept _ resetting => exact same kept.load resetting.api?
  | uninit kept _ idle =>
      refine ⟨kept.load ▸ reports.loader, fun session ready => ?_⟩
      cases idle.symm.trans ready
  | lost => exact same rfl rfl
  | filled _ _ ready filled =>
      obtain ⟨missed, phase⟩ := filled.phase
      exact same filled.load (by simp [Output.witnessing, phase, ready, Phase.api?])
  | error complaining => cases complaining <;> exact same rfl rfl
  | mailbox => exact same rfl rfl

/-- What every course preserves holds after every run. -/
theorem Output.following_keeps (holds : Output (WatchedDevice δ) τ → Prop) (reports : before.Reports)
    (start : holds before)
    (keeps : ∀ before step events result after, before.Reports → holds before →
      Course before step events result after → holds after) (steps : List Step) :
    (before.following steps).Reports ∧ holds (before.following steps) := by
  induction steps generalizing before with
  | nil => exact ⟨reports, start⟩
  | cons step rest ih =>
      obtain ⟨events, course⟩ := step.work_course reports
      exact ih (course.reports reports) (keeps _ _ _ _ _ reports start course)

end PcmOutput
