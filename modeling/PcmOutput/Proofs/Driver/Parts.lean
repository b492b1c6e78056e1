import PcmOutput.Proofs.Driver.Custody
import PcmOutput.Proofs.State.Eager

/-!
# The parts of a driver

The parts of a driver come and go one by one while an operation is under way, and are all there or all gone when it is
over. So no operation ever misses a part that an earlier one should have left, and what an operation fails for is what
the library, the device or the request gave as the reason.
-/

set_option autoImplicit false

namespace PcmOutput

variable {δ τ : Type}

/-- The parts of a session are there together or not at all, and a stream is there while the state is not closed. -/
structure Driver.Whole (driver : Driver δ τ) : Prop where
  builder : driver.builder.isSome = driver.api.isSome
  context : driver.context.isSome = driver.api.isSome
  config : driver.config.isSome = driver.api.isSome
  format : driver.format.isSome = driver.api.isSome
  stream : driver.stream.isSome = true ↔ driver.state ≠ .closed
  streaming : driver.stream.isSome = true → driver.api.isSome = true

theorem Output.state_eq_closed_iff {output : Output δ τ} : output.state = .closed ↔ output.playback.stream? = none := by
  unfold Output.state
  cases output.playback with
  | started stream => cases output.drained <;> simp [Playback.state, Playback.stream?]
  | _ => simp [Playback.state, Playback.stream?]

theorem Phase.ready_closed_iff {session : Session δ τ} :
    (Phase.ready session).state = .closed ↔ session.playback = .closed := by
  cases playback : session.playback <;> simp [Phase.state, playback, Playback.state]

theorem Phase.unclosed {session : Session δ τ} {stream : StreamHandle}
    (streams : session.playback.stream? = some stream) : (Phase.ready session).state ≠ .closed := by
  rw [ne_eq, Phase.ready_closed_iff, Playback.eq_closed_iff, streams]
  nofun

namespace Fits

variable {driver : Driver δ τ} {output : Output δ τ}

theorem api (fits : Fits driver output) : driver.api = output.phase.api? := by
  obtain ⟨desk, phase⟩ := fits
  cases phase <;> rfl

theorem builder (fits : Fits driver output) : driver.builder = output.session?.map Session.builder := by
  obtain ⟨desk, phase⟩ := fits
  cases phase <;> rfl

/-- The state the owner sees is the one that the phase has once the end of the source is settled. -/
theorem settled_state (fits : Fits driver output) :
    driver.state = (output.phase.settled output.drained).state := by
  rw [fits.state, Output.state_eq, Phase.settled_state]

theorem settled_api (fits : Fits driver output) : driver.api = (output.phase.settled output.drained).api? := by
  rw [fits.api, Phase.settled_api?]

theorem whole (fits : Fits driver output) : driver.Whole := by
  have streams : driver.stream.isSome = true ↔ driver.state ≠ .closed := by
    rw [fits.stream, fits.state, ne_eq, Output.state_eq_closed_iff, Option.isSome_iff_ne_none]
  obtain ⟨desk, phase⟩ := fits
  cases phase with
  | idle source => exact ⟨rfl, rfl, rfl, rfl, streams, nofun⟩
  | ready session => exact ⟨rfl, rfl, rfl, rfl, streams, fun _ => rfl⟩

end Fits

/-! ## Causes of failure -/

/-- Why no stream takes the place of an earlier one. -/
inductive Unopened : OutputError → Prop
  | refused (text : String) : Unopened (.openRefused text)
  | unknownChannelCount (count : Int) : Unopened (.unknownChannelCount count)
  | layoutChanged (before after : String) : Unopened (.layoutChanged before after)

/-- Why an initialization fails. -/
inductive Uninitialized : OutputError → Prop
  | unbound {cause : OutputError} : Unbound cause → Uninitialized cause
  | disagreed {cause : OutputError} : Disagreement cause → Uninitialized cause
  | builderRefused (text : String) : Uninitialized (.builderRefused text)
  | openRefused (text : String) : Uninitialized (.openRefused text)
  | unknownChannelCount (count : Int) : Uninitialized (.unknownChannelCount count)

variable {builder : BuilderHandle} {stream : StreamHandle} {transition : Transition} {timeoutNanos : Int}
  {config : StreamConfiguration} {earlier : Option StreamFormat} {events : List DeviceEvent} {cause : OutputError}

theorem Confirmation.reason {waits : Nat}
    (confirmation : Confirmation stream transition timeoutNanos waits events (.error cause)) :
    ∃ text, cause = .transport transition.name text := by
  generalize failed : (.error cause : Except OutputError Unit) = result at confirmation
  induction confirmation with
  | exhausted | failed | elsewhere =>
      cases failed
      exact ⟨_, rfl⟩
  | reached => cases failed
  | again _ ih => exact ih failed

theorem Transit.reason (transit : Transit stream transition timeoutNanos events (.error cause)) :
    ∃ text, cause = .transport transition.name text := by
  cases transit with
  | refused => exact ⟨_, rfl⟩
  | accepted _ confirmation => exact confirmation.reason

theorem requireLayout_reason {layout : ChannelMap} (refused : requireLayout layout earlier = .error cause) :
    ∃ format, earlier = some format ∧ cause = .layoutChanged format.channels.name layout.name := by
  cases earlier with
  | none => simp [requireLayout] at refused
  | some format =>
      by_cases same : format.channels = layout
      · simp [requireLayout, same] at refused
      · simp only [requireLayout, same, if_false, Except.error.injEq] at refused
        exact ⟨format, rfl, refused.symm⟩

theorem Opening.reason (opening : Opening builder config earlier events (.error cause)) : Unopened cause := by
  cases opening with
  | refused => exact .refused _
  | unknownLayout search =>
      cases search
      exact .unknownChannelCount _
  | otherLayout _ required =>
      obtain ⟨format, -, rfl⟩ := requireLayout_reason required
      exact .layoutChanged _ _

/-- The first stream of a session has no layout that it could change. -/
theorem Opening.reason_first (opening : Opening builder config none events (.error cause)) : Uninitialized cause := by
  cases opening with
  | refused => exact .openRefused _
  | unknownLayout search =>
      cases search
      exact .unknownChannelCount _
  | otherLayout _ required =>
      obtain ⟨_, impossible, -⟩ := requireLayout_reason required
      cases impossible

variable {phase phase' : Phase (WatchedDevice δ) τ} {load : Loader (WatchedDevice δ)} {options : Options}
  {request : AudioRequest} {source : τ}

theorem Beginning.reason [AudioSource τ] (beginning : Beginning load options request source events (.error cause) phase)
    (binds : ∀ device, (load options device).1.FailsFor Unbound) : Uninitialized cause := by
  generalize failed : (.error cause : Except OutputError Unit) = result at beginning
  cases beginning with
  | unbound failing =>
      cases failed
      exact .unbound (binds _ _ failing)
  | disagreed _ disagreeing =>
      cases failed
      exact .disagreed (negotiate_failsFor _ _ _ _ disagreeing)
  | builderRefused =>
      cases failed
      exact .builderRefused _
  | unopened _ _ opening =>
      cases failed
      exact opening.reason_first
  | opened => cases failed

/-- Why a start of a phase fails. -/
inductive Unstarted : Phase δ τ → OutputError → Prop
  | uninitialized {source : τ} : Unstarted (.idle source) .notInitialized
  | unopened {session : Session δ τ} {cause : OutputError} : session.playback = .closed → Unopened cause →
      Unstarted (.ready session) cause
  | unbrought {session : Session δ τ} (text : String) :
      Unstarted (.ready session) (.transport Transition.start.name text)

theorem Starting.reason (starting : Starting timeoutNanos phase events (.error cause) phase') :
    Unstarted phase cause := by
  have unbrought : ∀ {session : Session (WatchedDevice δ) τ} {stream : StreamHandle} {events : List DeviceEvent},
      Transit stream .start timeoutNanos events (.error cause) → Unstarted (.ready session) cause := by
    intro session stream events transit
    obtain ⟨text, rfl⟩ := transit.reason
    exact .unbrought text
  cases starting with
  | uninitialized => exact .uninitialized
  | failed _ transit => exact unbrought transit
  | unopened closed opening => exact .unopened closed opening.reason
  | onlyReopened _ _ transit => exact unbrought transit

theorem Pausing.reason {paused : Bool} (pausing : Pausing timeoutNanos paused phase events (.error cause) phase') :
    phase.state = .closed ∧ cause = .notOpen ∨
      phase.state ≠ .closed ∧ ∃ (transition : Transition) (text : String), cause = .transport transition.name text := by
  cases pausing with
  | uninitialized => exact .inl ⟨rfl, rfl⟩
  | closed closed => exact .inl ⟨Phase.ready_closed_iff.mpr closed, rfl⟩
  | failed started transit =>
      obtain ⟨text, rfl⟩ := transit.reason
      exact .inr ⟨Phase.unclosed (congrArg Playback.stream? started), .pause, text, rfl⟩
  | playedOn streams starting =>
      have unclosed := Phase.unclosed streams
      cases starting.reason with
      | unopened closed => exact absurd (Phase.ready_closed_iff.mpr closed) unclosed
      | unbrought text => exact .inr ⟨unclosed, .start, text, rfl⟩

/-! ## Failures of a driver -/

variable {driver : Driver (WatchedDevice δ) τ} {output : Output (WatchedDevice δ) τ}

theorem Fits.init_reason [AudioSource τ] (fits : Fits driver output) (reports : output.Reports) (request : AudioRequest)
    (binds : ∀ device, (output.load output.options device).1.FailsFor Unbound)
    (failed : ((Driver.init request).run.run driver).1 = .error cause) : Uninitialized cause := by
  rw [((Driver.init_refines request).run fits).1] at failed
  obtain ⟨down, source, events, -, -, -, beginning⟩ := init_course reports request
  rw [failed] at beginning
  exact beginning.reason binds

theorem Fits.start_reason (fits : Fits driver output) (reports : output.Reports) :
    ((Driver.start.run.run driver).1 = .error .notInitialized ↔ driver.api = none) ∧
      ∀ cause, (Driver.start.run.run driver).1 = .error cause → cause ≠ .notInitialized →
        (∃ text, cause = .transport Transition.start.name text) ∨ driver.state = .closed ∧ Unopened cause := by
  obtain ⟨events, -, -, starting⟩ := start_course reports
  rw [(Driver.start_refines.run fits).1, fits.settled_api, fits.settled_state]
  generalize (Output.start.run.run output).1 = result at starting ⊢
  generalize (Output.start.run.run output).2.phase = after at starting
  generalize output.phase.settled output.drained = phase at starting ⊢
  refine ⟨⟨?_, ?_⟩, ?_⟩
  · rintro rfl
    cases starting.reason with
    | uninitialized => rfl
    | unopened _ unopened => cases unopened
  · intro idle
    cases starting with
    | uninitialized => rfl
    | _ => cases idle
  · rintro cause rfl initialized
    cases starting.reason with
    | uninitialized => exact absurd rfl initialized
    | unopened closed unopened => exact .inr ⟨Phase.ready_closed_iff.mpr closed, unopened⟩
    | unbrought text => exact .inl ⟨text, rfl⟩

theorem Fits.setPause_reason (fits : Fits driver output) (reports : output.Reports) (paused : Bool) :
    (((Driver.setPause paused).run.run driver).1 = .error .notOpen ↔ driver.state = .closed) ∧
      ∀ cause, ((Driver.setPause paused).run.run driver).1 = .error cause → cause ≠ .notOpen →
        ∃ (transition : Transition) (text : String), cause = .transport transition.name text := by
  obtain ⟨events, -, -, pausing⟩ := setPause_course reports paused
  rw [((Driver.setPause_refines paused).run fits).1, fits.settled_state]
  generalize ((Output.setPause paused).run.run output).1 = result at pausing ⊢
  generalize ((Output.setPause paused).run.run output).2.phase = after at pausing
  generalize output.phase.settled output.drained = phase at pausing ⊢
  refine ⟨⟨?_, ?_⟩, ?_⟩
  · rintro rfl
    rcases pausing.reason with ⟨closed, -⟩ | ⟨-, transition, text, impossible⟩
    · exact closed
    · cases impossible
  · intro closed
    cases pausing with
    | uninitialized | closed => rfl
    | already playback | unrequested playback | failed playback | paused playback =>
        exact absurd closed (Phase.unclosed (congrArg Playback.stream? playback))
    | playedOn streams => exact absurd closed (Phase.unclosed streams)
  · rintro cause rfl unclosed
    rcases pausing.reason with ⟨-, closed⟩ | ⟨-, brought⟩
    · exact absurd closed unclosed
    · exact brought

/--
Between two operations the parts of a driver are there together or not at all, if its loader is that of libraries or
fails, as that one does, for want of a device API only. An initialization then fails for the library, the request or the
device; a start, as not initialized if the driver is just that, and else for a transition or for the stream it has to
open; and a pause, as not open if the state is closed, and else for a transition.
-/
theorem Driver.whole_throughout [AudioSource τ] (options : Options) (load : Loader δ) (source : τ) (device : δ)
    (acts : List Act)
    (binds : (∃ linkage points, load = libraryLoader linkage points) ∨
      ∀ options device, (load options device).1.FailsFor Unbound) :
    let driver := (Driver.fresh options load source device).afterActs acts
    driver.Whole ∧
      (∀ request cause, ((Driver.init request).run.run driver).1 = .error cause → Uninitialized cause) ∧
      (((Driver.start.run.run driver).1 = .error .notInitialized ↔ driver.api = none) ∧
        ∀ cause, (Driver.start.run.run driver).1 = .error cause → cause ≠ .notInitialized →
          (∃ text, cause = .transport Transition.start.name text) ∨ driver.state = .closed ∧ Unopened cause) ∧
      ∀ paused, (((Driver.setPause paused).run.run driver).1 = .error .notOpen ↔ driver.state = .closed) ∧
        ∀ cause, ((Driver.setPause paused).run.run driver).1 = .error cause → cause ≠ .notOpen →
          ∃ (transition : Transition) (text : String), cause = .transport transition.name text := by
  intro driver
  obtain ⟨reports, loader, -⟩ := Output.afterActs_begun options load source device acts
  have fits : Fits driver _ := (Driver.fresh_fits options load source device).afterActs acts
  have bound : ∀ options device, (load options device).1.FailsFor Unbound := by
    rcases binds with ⟨linkage, points, rfl⟩ | bound
    · exact libraryLoader_failsFor linkage points
    · exact bound
  refine ⟨fits.whole, fun request cause failed => ?_, fits.start_reason reports, fits.setPause_reason reports⟩
  refine fits.init_reason reports request (fun device cause failing => ?_) failed
  rw [loader] at failing
  exact bound _ _ cause (Loader.watched_failed failing)

/-- A process that holds every entry point, and no library. -/
def Linkage.selfContained : Linkage where
  library _ := none
  process _ := some 1

theorem Driver.whole_throughout_libraries :
    let load := libraryLoader .selfContained SimulatedDevice.entryPoints
    let options : Options := { library := "", apiLevel := some 27 }
    let driver := (Driver.fresh options load (⟨.scripted {}, []⟩ : SimulatedSource) {}).afterActs
      [.step (.init .plain), .step .start]
    (∃ linkage points, load = libraryLoader linkage points) ∧ driver.state = .started ∧ driver.api.isSome = true := by
  have loading : ∃ linkage points, libraryLoader .selfContained SimulatedDevice.entryPoints =
      libraryLoader linkage points := ⟨_, _, rfl⟩
  have started : ((Driver.fresh { library := "", apiLevel := some 27 }
      (libraryLoader .selfContained SimulatedDevice.entryPoints) (⟨.scripted {}, []⟩ : SimulatedSource) {}).afterActs
      [.step (.init .plain), .step .start]).state = .started := by
    decide +kernel
  obtain ⟨whole, -⟩ := Driver.whole_throughout { library := "", apiLevel := some 27 }
    (libraryLoader .selfContained SimulatedDevice.entryPoints) (⟨.scripted {}, []⟩ : SimulatedSource) {}
    [.step (.init .plain), .step .start] (.inl loading)
  refine ⟨loading, started, whole.streaming (whole.stream.mpr ?_)⟩
  rw [started]
  nofun

end PcmOutput
