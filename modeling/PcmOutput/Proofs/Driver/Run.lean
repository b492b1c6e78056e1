import Mathlib.Control.Monad.Basic
import PcmOutput.Proofs.Driver.Callback
import PcmOutput.Proofs.Handles.Run

/-!
# Runs of a driver

A run is any sequence of what the owner and the device do to a driver. At every point of it the parts of the driver
are those of an output that went through the same, so that what is known of the courses of outputs is known of drivers.
-/

set_option autoImplicit false

namespace PcmOutput

variable {δ τ : Type}

/-- What is done to a driver from outside. -/
inductive Act
  | step (step : Step)
  /-- The owner asks how often the device ran out of frames. -/
  | xrunCount

/-- What comes of it, for the one who did it. -/
inductive Outcome
  | completed (result : Except OutputError Unit)
  | filled (answer : DataAnswer)
  | counted (count : Option Int)
deriving DecidableEq

/-- Something done to an output. What the device is told by its data callback is passed on. -/
def Act.performed [AudioSource τ] (told : Option StreamHandle → CallbackResult → Work δ τ Unit) : Act → Work δ τ Outcome
  | .step (.data request) => do
    let answer ← dataCallback request
    told request.stream answer.result
    return .filled answer
  | .step taken => return .completed (← taken.performed told)
  | .xrunCount => return .counted (← Output.xrunCount)

def Act.handled [AudioSource τ] (told : Option StreamHandle → CallbackResult → Work δ Unit Unit) :
    Act → Handling δ τ Outcome
  | .step (.init request) => return .completed (← (Driver.init request).run)
  | .step .start => return .completed (← Driver.start.run)
  | .step (.setPause paused) => return .completed (← (Driver.setPause paused).run)
  | .step .reset => do
    Driver.reset
    return .completed (.ok ())
  | .step .uninit => do
    Driver.uninit
    return .completed (.ok ())
  | .step (.data request) => do
    let answer ← Driver.dataCallback request
    atDesk (told request.stream answer.result)
    return .filled answer
  | .step (.error code) => do
    Driver.errorCallback code
    return .completed (.ok ())
  | .step .collect => do
    atDesk (modify fun desk => { desk with mailbox := desk.mailbox.collect.2 })
    return .completed (.ok ())
  | .step .abandon => do
    atDesk (modify fun desk => { desk with mailbox := desk.mailbox.abandon })
    return .completed (.ok ())
  | .xrunCount => return .counted (← Driver.xrunCount)

theorem Refines.atDesk {value : Type} {work : Work δ τ value} {work' : Work δ Unit value} (same : AtDesk work work') :
    Refines (PcmOutput.atDesk work') work := by
  rintro _ _ ⟨desk, phase⟩
  cases phase with
  | idle source =>
      apply Paired.deskDone same rfl
      intro _ desk
      exact ⟨rfl, .intro desk (.idle source)⟩
  | ready session =>
      apply Paired.deskDone same rfl
      intro _ desk
      exact ⟨rfl, .intro desk (.ready session)⟩

theorem Act.handled_refines [AudioSource τ] {told : Option StreamHandle → CallbackResult → Work δ τ Unit}
    {told' : Option StreamHandle → CallbackResult → Work δ Unit Unit}
    (telling : ∀ stream result, AtDesk (told stream result) (told' stream result)) (act : Act) :
    Refines (act.handled told') (act.performed told) := by
  have mailed : ∀ change : Mailbox → Mailbox, AtDesk
      (modify fun output : Output δ τ => { output with mailbox := change output.mailbox })
      (modify fun desk : Desk δ => { desk with mailbox := change desk.mailbox }) := by
    intro change phase output desk seated
    cases seated
    exact ⟨rfl, rfl⟩
  cases act with
  | xrunCount => exact Driver.xrunCount_refines.andThen fun _ => Refines.done
  | step step =>
      cases step with
      | init request => exact (Driver.init_refines request).andThen fun _ => Refines.done
      | start => exact Driver.start_refines.andThen fun _ => Refines.done
      | setPause paused => exact (Driver.setPause_refines paused).andThen fun _ => Refines.done
      | reset => exact Driver.closeStream_refines.andThen fun _ => Refines.done
      | uninit => exact Driver.uninit_refines.andThen fun _ => Refines.done
      | data request =>
          apply (Driver.dataCallback_refines request).andThen
          intro answer
          exact (Refines.atDesk (telling request.stream answer.result)).andThen fun _ => Refines.done
      | error code => exact (Driver.errorCallback_refines code).andThen fun _ => Refines.done
      | collect => exact (Refines.atDesk (mailed fun mailbox => mailbox.collect.2)).andThen fun _ => Refines.done
      | abandon => exact (Refines.atDesk (mailed Mailbox.abandon)).andThen fun _ => Refines.done

/-! ## Watched runs -/

/-- Something done to an output on a watched device, which is seen to be told by its data callback. -/
def Act.work [AudioSource τ] : Act → Work (WatchedDevice δ) τ Outcome :=
  Act.performed fun stream result => modify (Output.witnessing (.calledBack stream result))

def Act.handling [AudioSource τ] : Act → Handling (WatchedDevice δ) τ Outcome :=
  Act.handled fun stream result => modify (Output.witnessing (.calledBack stream result))

def Output.afterActs [AudioSource τ] (acts : List Act) (output : Output (WatchedDevice δ) τ) :
    Output (WatchedDevice δ) τ :=
  acts.foldl (fun output act => (act.work.run output).2) output

/-- An output before anything was done to it, on a device that is watched. -/
def Output.begun (options : Options) (load : Loader δ) (source : τ) (device : δ) : Output (WatchedDevice δ) τ :=
  create options load.watched source ⟨device, []⟩

namespace Driver

def fresh (options : Options) (load : Loader δ) (source : τ) (device : δ) : Driver (WatchedDevice δ) τ :=
  create options load.watched source ⟨device, []⟩

def afterActs [AudioSource τ] (acts : List Act) (driver : Driver (WatchedDevice δ) τ) : Driver (WatchedDevice δ) τ :=
  acts.foldl (fun driver act => (act.handling.run driver).2) driver

def outcomes [AudioSource τ] : List Act → Driver (WatchedDevice δ) τ → List Outcome
  | [], _ => []
  | act :: rest, driver => (act.handling.run driver).1 :: outcomes rest (act.handling.run driver).2

/-- The calls the device answered, with the answers, and what it was told, since the run began. -/
def traffic (driver : Driver (WatchedDevice δ) τ) : List DeviceEvent :=
  driver.desk.device.events

end Driver

/-- A driver before anything was done to it, on a simulated device and with a source without an end. -/
def Driver.simulated (device : SimulatedDevice) :
    Driver (WatchedDevice SimulatedDevice) (WatchedSource SimulatedSource) :=
  fresh {} (presentLoader (SimulatedDevice.api 27 [])) ⟨⟨.scripted {}, []⟩, []⟩ device

theorem Driver.created_fits (options : Options) (load : Loader δ) (source : τ) (device : δ) :
    Fits (Driver.create options load source device) (Output.create options load source device) :=
  .intro (Output.create options load () device) (.idle source)

theorem Driver.fresh_fits (options : Options) (load : Loader δ) (source : τ) (device : δ) :
    Fits (Driver.fresh options load source device) (Output.begun options load source device) :=
  created_fits options load.watched source ⟨device, []⟩

theorem Output.begun_reports (options : Options) (load : Loader δ) (source : τ) (device : δ) :
    (Output.begun options load source device).Reports where
  loader := load.watched_reports
  session session ready := by cases ready

inductive Counting : List DeviceEvent → Prop where
  | spared : Counting []
  | asked {stream count} : Counting [.answered (.query stream .xrunCount) count]

theorem xrunCount_kept {before : Output (WatchedDevice δ) τ} (reports : before.Reports) :
    Ends Output.xrunCount before fun _ after => ∃ events, Kept before events after ∧ after.phase = before.phase ∧
      after.drained = before.drained ∧ Counting events := by
  apply Ends.read
  cases phase : before.phase with
  | idle source => exact Ends.done ⟨[], Kept.refl, phase, rfl, .spared⟩
  | ready session =>
      dsimp only
      cases session.playback.stream? with
      | none => exact Ends.done ⟨[], Kept.refl, phase, rfl, .spared⟩
      | some stream =>
          apply (call_dealt (reports.session session phase) (.query stream .xrunCount) before).andThen
          intro count heard dealt
          exact Ends.done ⟨_, dealt.toKept, dealt.phase.trans phase, dealt.drained, .asked⟩

variable [AudioSource τ]

theorem Act.handling_refines (act : Act) : Refines (act.handling : Handling (WatchedDevice δ) τ Outcome) act.work := by
  refine act.handled_refines fun stream result phase output desk seated => ?_
  cases seated
  exact ⟨rfl, rfl⟩

theorem Fits.afterActs {driver : Driver (WatchedDevice δ) τ} {output : Output (WatchedDevice δ) τ}
    (fits : Fits driver output) (acts : List Act) : Fits (driver.afterActs acts) (output.afterActs acts) := by
  induction acts generalizing driver output with
  | nil => exact fits
  | cons act rest ih => exact ih (act.handling_refines.run fits).2

inductive Acted (before : Output (WatchedDevice δ) τ) : Act → Outcome → Output (WatchedDevice δ) τ → Prop where
  | completed {step events result after} : (∀ request, step ≠ .data request) →
      Course before step events result after → Acted before (.step step) (.completed result) after
  | filled {request answer filled} : Delivering request before answer filled →
      Acted before (.step (.data request)) (.filled answer)
        (filled.witnessing (.calledBack request.stream answer.result))
  | counted {count events after} : Kept before events after → after.phase = before.phase →
      after.drained = before.drained → Counting events → Acted before .xrunCount (.counted count) after

variable {before after : Output (WatchedDevice δ) τ} {act : Act} {outcome : Outcome}

theorem Act.work_acted (reports : before.Reports) (act : Act) :
    Ends act.work before fun outcome after => Acted before act outcome after := by
  have done : ∀ step : Step, (∀ request, step ≠ .data request) →
      Ends (do return Outcome.completed (← step.work)) before fun outcome after =>
        Acted before (.step step) outcome after := by
    intro step other
    apply (step.work_course reports).andThen
    intro result after course
    obtain ⟨events, course⟩ := course
    exact Ends.done (.completed other course)
  cases act with
  | xrunCount =>
      apply (xrunCount_kept reports).andThen
      intro count after reached
      obtain ⟨events, kept, phase, drained, counting⟩ := reached
      exact Ends.done (.counted kept phase drained counting)
  | step step =>
      cases step with
      | data request =>
          apply (dataCallback_course reports request).andThen
          intro answer filled delivering
          exact .filled delivering
      | _ => exact done _ nofun

theorem Delivering.course {request : DataRequest} {answer : DataAnswer} {filled : Output (WatchedDevice δ) τ}
    (delivering : Delivering request before answer filled) :
    ∃ events, Course before (.data request) events (.ok ())
      (filled.witnessing (.calledBack request.stream answer.result)) := by
  cases delivering with
  | lost lost => exact ⟨_, .lost lost⟩
  | filled attached stream ready filled =>
      rw [stream]
      exact ⟨_, .filled attached stream ready filled⟩

/-- A data callback in a session that has all its parts fills the buffer, and the device is told whether to go on. -/
theorem Acted.filling {wanted : DataRequest} {session : Session (WatchedDevice δ) τ} {stream : StreamHandle}
    (acted : Acted before (.step (.data wanted)) outcome after) (ready : before.phase = .ready session)
    (attached : wanted.attached = true) (streams : wanted.stream = some stream) :
    ∃ written stamp answer filled, outcome = .filled answer ∧
      Filled wanted session stream written stamp before answer filled ∧
        after = filled.witnessing (.calledBack (some stream) answer.result) := by
  cases acted with
  | completed other => exact absurd rfl (other wanted)
  | filled delivering =>
      cases delivering with
      | lost lost =>
          rcases lost with detached | streamless | ⟨source, idle⟩
          · cases attached.symm.trans detached
          · cases streams.symm.trans streamless
          · cases ready.symm.trans idle
      | filled _ streams' same filled =>
          cases streams.symm.trans streams'
          cases ready.symm.trans same
          exact ⟨_, _, _, _, rfl, filled, by rw [streams]⟩

theorem Acted.heard (acted : Acted before act outcome after) :
    ∃ events, after.device.events = before.device.events ++ events := by
  cases acted with
  | completed _ course => exact ⟨_, course.events_append⟩
  | filled delivering =>
      obtain ⟨events, course⟩ := delivering.course
      exact ⟨_, course.events_append⟩
  | counted kept => exact ⟨_, kept.events⟩

theorem Acted.reports (reports : before.Reports) (acted : Acted before act outcome after) : after.Reports := by
  cases acted with
  | completed _ course => exact course.reports reports
  | filled delivering =>
      obtain ⟨events, course⟩ := delivering.course
      exact course.reports reports
  | counted kept phase =>
      exact ⟨kept.load ▸ reports.loader, fun session ready => reports.session session (phase ▸ ready)⟩

/-- What every act preserves holds after every run. -/
theorem Output.afterActs_keeps (holds : Output (WatchedDevice δ) τ → Prop)
    (reports : before.Reports) (start : holds before)
    (keeps : ∀ before act outcome after, before.Reports → holds before → Acted before act outcome after → holds after)
    (acts : List Act) : (before.afterActs acts).Reports ∧ holds (before.afterActs acts) := by
  induction acts generalizing before with
  | nil => exact ⟨reports, start⟩
  | cons act rest ih =>
      have acted : Acted before act (act.work.run before).1 (act.work.run before).2 := act.work_acted reports
      exact ih (acted.reports reports) (keeps _ _ _ _ reports start acted)

theorem Acted.equipped (acted : Acted before act outcome after) :
    after.load = before.load ∧ after.options = before.options := by
  have kept : ∀ {step events result} {after : Output (WatchedDevice δ) τ}, Course before step events result after →
      after.load = before.load ∧ after.options = before.options := by
    intro step events result after course
    cases course with
    | init kept | start kept | setPause kept | reset kept | uninit kept => exact ⟨kept.load, kept.options⟩
    | filled _ _ _ filled => exact ⟨filled.load, filled.options⟩
    | error complaining => cases complaining <;> exact ⟨rfl, rfl⟩
    | lost | mailbox => exact ⟨rfl, rfl⟩
  cases acted with
  | completed _ course => exact kept course
  | filled delivering =>
      obtain ⟨events, course⟩ := delivering.course
      exact kept course
  | counted keeping => exact ⟨keeping.load, keeping.options⟩

theorem Output.afterActs_begun (options : Options) (load : Loader δ) (source : τ) (device : δ) (acts : List Act) :
    let output := (Output.begun options load source device).afterActs acts
    output.Reports ∧ output.load = load.watched ∧ output.options = options :=
  afterActs_keeps (fun output => output.load = load.watched ∧ output.options = options)
    (begun_reports options load source device) ⟨rfl, rfl⟩
    (fun _ _ _ _ _ equipped acted => ⟨acted.equipped.1.trans equipped.1, acted.equipped.2.trans equipped.2⟩) acts

end PcmOutput
