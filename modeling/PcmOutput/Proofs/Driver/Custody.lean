import PcmOutput.Proofs.Driver.Run

/-!
# The custody of the source

A driver is given a source and gives it back. In between the source is with the driver or with the context of its
callbacks, and has been put to exactly the uses that the run made of it, in their order.
-/

set_option autoImplicit false

namespace PcmOutput

variable {δ τ : Type}

/-- What a source is put to. -/
inductive Use
  | prepare (format : StreamFormat)
  | read (buffer : List UInt8) (frames : Nat) (deadline : Int)

def Use.on [AudioSource τ] (source : τ) : Use → τ
  | .prepare format => AudioSource.prepare format source
  | .read buffer frames deadline => (AudioSource.read buffer frames deadline source).source

/-- What a data callback learned from the device: the frames written, and those presented. -/
def learned : List DeviceEvent → Option (Int × Int)
  | [.answered (.framesWritten _) written, .answered (.timestamp _ _) stamp, .calledBack _ _] =>
    some (written, presentedBy written stamp)
  | _ => none

/-- The read that a data callback makes for the context it is given. -/
def DataRequest.reading (request : DataRequest) (context : CallbackContext δ τ) (written presented : Int) : Use :=
  .read ((request.buffer.getD []).take (request.frames.toNat * context.frameBytes)) request.frames.toNat
    (presentationDeadline request.now.nanos request.frames.toNat written presented context.sampleRate)

namespace Driver

/-- What the device answered, and was told, from the one driver to the other. -/
def since (earlier later : Driver (WatchedDevice δ) τ) : List DeviceEvent :=
  later.traffic.drop earlier.traffic.length

/-- The uses that an act makes of the source, whatever source it is: a successful initialization tells it the format,
and a data callback with all its parts reads it once. -/
def uses (act : Act) (outcome : Outcome) (before after : Driver (WatchedDevice δ) τ) : List Use :=
  match act, outcome with
  | .step (.init _), .completed (.ok ()) => after.format.toList.map .prepare
  | .step (.data request), _ =>
    match request.attached, request.stream, before.context, learned (before.since after) with
    | true, some _, some context, some (written, presented) => [request.reading context written presented]
    | _, _, _, _ => []
  | _, _ => []

def usesOf [AudioSource τ] : List Act → Driver (WatchedDevice δ) τ → List Use
  | [], _ => []
  | act :: rest, driver =>
    let after := (act.handling.run driver).2
    uses act (act.handling.run driver).1 driver after ++ usesOf rest after

end Driver

theorem Fits.since {driver driver' : Driver (WatchedDevice δ) τ} {output output' : Output (WatchedDevice δ) τ}
    {events : List DeviceEvent} (fits : Fits driver output) (fits' : Fits driver' output')
    (heard : output'.device.events = output.device.events ++ events) : driver.since driver' = events := by
  unfold Driver.since Driver.traffic
  rw [fits.device, fits'.device, heard]
  exact List.drop_left

/-! ## What the courses do with the source -/

def Phase.source : Phase δ τ → τ
  | .idle source => source
  | .ready session => session.source

theorem Output.source_eq (output : Output δ τ) : output.source = output.phase.source := by
  unfold Output.source Phase.source
  cases output.phase <;> rfl

theorem Phase.settled_source (drained : Bool) (phase : Phase δ τ) : (phase.settled drained).source = phase.source := by
  cases phase <;> rfl

variable {phase phase' : Phase (WatchedDevice δ) τ} {events : List DeviceEvent} {result : Except OutputError Unit}
  {timeoutNanos : Int}

theorem Closing.source {session closed : Session (WatchedDevice δ) τ} (closing : Closing session events closed) :
    closed.source = session.source := by
  cases closing <;> rfl

theorem Resetting.source (resetting : Resetting phase events phase') : phase'.source = phase.source := by
  cases resetting with
  | idle => rfl
  | ready closing => exact closing.source

theorem TakingDown.source {source : τ} (taking : TakingDown phase events source) : source = phase.source := by
  cases taking <;> rfl

theorem Starting.source (starting : Starting timeoutNanos phase events result phase') :
    phase'.source = phase.source := by
  cases starting <;> rfl

theorem Pausing.source {paused : Bool} (pausing : Pausing timeoutNanos paused phase events result phase') :
    phase'.source = phase.source := by
  cases pausing with
  | playedOn _ starting => exact starting.source
  | _ => rfl

variable [AudioSource τ] {before after : Output (WatchedDevice δ) τ} {driver driver' : Driver (WatchedDevice δ) τ}
  {step : Step} {act : Act} {outcome : Outcome}

theorem Course.source (course : Course before step events result after) (noInit : ∀ request, step ≠ .init request)
    (noData : ∀ request, step ≠ .data request) : after.source = before.source := by
  rw [after.source_eq, before.source_eq]
  cases course with
  | init => exact absurd rfl (noInit _)
  | start _ _ starting => exact starting.source.trans (Phase.settled_source _ _)
  | setPause _ _ pausing => exact pausing.source.trans (Phase.settled_source _ _)
  | reset _ _ resetting => exact resetting.source
  | uninit _ _ idle taking => rw [idle, ← taking.source]; rfl
  | lost | filled => exact absurd rfl (noData _)
  | error complaining => cases complaining <;> rfl
  | mailbox => rfl

/-- An initialization prepares the source, once it succeeded, for the format it came to. -/
theorem Course.source_init {request : AudioRequest} (course : Course before (.init request) events result after)
    (fits : Fits driver' after) :
    (Driver.uses (.step (.init request)) (.completed result) driver driver').foldl Use.on before.source =
      after.source := by
  cases course with
  | init _ _ taking beginning =>
      rw [after.source_eq, before.source_eq, ← taking.source]
      unfold Driver.uses
      rw [fits.format]
      unfold Output.streamFormat? Output.session?
      generalize after.phase = phase at beginning ⊢
      cases beginning <;> rfl
  | mailbox impossible => cases impossible <;> contradiction

/-- A data callback that has all its parts reads the source once, and another one leaves it alone. -/
theorem Delivering.source {request : DataRequest} {answer : DataAnswer} {filled : Output (WatchedDevice δ) τ}
    (delivering : Delivering request before answer filled) (fits : Fits driver before)
    (fits' : Fits driver' (filled.witnessing (.calledBack request.stream answer.result))) :
    (Driver.uses (.step (.data request)) (.filled answer) driver driver').foldl Use.on before.source =
      filled.source := by
  unfold Driver.uses
  rw [fits.context]
  cases delivering with
  | lost lost =>
      rcases lost with detached | streamless | ⟨source, idle⟩
      · simp [detached]
      · simp [streamless]
      · simp [Output.session?, idle]
  | @filled session stream written stamp _ _ attached streams ready filled =>
      have heard : driver.since driver' =
          [.answered (.framesWritten stream) written, .answered (.timestamp stream ModeCode.monotonicClock) stamp,
            .calledBack request.stream answer.result] :=
        fits.since fits' (by simp [Output.witnessing, filled.events])
      obtain ⟨missed, phase⟩ := filled.phase
      dsimp only
      rw [attached, streams, heard]
      simp only [Output.session?, ready, learned, Option.map_some, List.foldl_cons, List.foldl_nil,
        Output.source, phase]
      rfl

theorem Acted.source (acted : Acted before act outcome after) (fits : Fits driver before) (fits' : Fits driver' after) :
    (Driver.uses act outcome driver driver').foldl Use.on before.source = after.source := by
  cases acted with
  | @completed step _ result _ other course =>
      cases step with
      | init request => exact course.source_init fits'
      | data request => exact absurd rfl (other request)
      | _ => exact (course.source nofun nofun).symm
  | filled delivering => exact delivering.source fits fits'
  | counted _ phase => simp [Driver.uses, Output.source, phase]

theorem Fits.usesOf (fits : Fits driver before) (reports : before.Reports) (acts : List Act) :
    (Driver.usesOf acts driver).foldl Use.on before.source = (before.afterActs acts).source := by
  induction acts generalizing driver before with
  | nil => rfl
  | cons act rest ih =>
      have acted : Acted before act (act.work.run before).1 (act.work.run before).2 := act.work_acted reports
      obtain ⟨same, onward⟩ := act.handling_refines.run fits
      -- The uses of the act are read off the driver, and what they make of the source off the output.
      have used := acted.source fits onward
      have later := ih onward (acted.reports reports)
      rw [← used, ← same] at later
      simp only [Driver.usesOf, List.foldl_append]
      exact later

/-! ## An initialization never misses its source -/

omit [AudioSource τ] in
theorem Opening.sourced {builder : BuilderHandle} {config : StreamConfiguration} {earlier : Option StreamFormat}
    {cause : OutputError} (opening : Opening builder config earlier events (.error cause)) : cause ≠ .noSource := by
  cases opening with
  | refused => nofun
  | unknownLayout search => cases search; nofun
  | otherLayout _ required =>
      unfold requireLayout at required
      split at required
      · cases required
      · split at required <;> cases required
        nofun

/-- Only the loader can make an initialization fail for want of a source. -/
theorem Beginning.sourced {load : Loader (WatchedDevice δ)} {options : Options} {request : AudioRequest} {source : τ}
    (beginning : Beginning load options request source events (.error .noSource) phase) :
    ∃ device, (load options device).1.result = .error .noSource := by
  generalize failed : Except.error OutputError.noSource = result at beginning
  cases beginning with
  | @unbound device _ failing =>
      cases failed
      exact ⟨device, failing⟩
  | disagreed _ disagreeing =>
      cases failed
      cases negotiate_failsFor _ _ _ _ disagreeing
  | builderRefused => cases failed
  | unopened _ _ opening =>
      cases failed
      exact absurd rfl opening.sourced
  | opened => cases failed

theorem Loader.watched_failed {load : Loader δ} {options : Options} {device : WatchedDevice δ} {cause : OutputError}
    (failed : (load.watched options device).1.result = .error cause) :
    (load options device.subject).1.result = .error cause := by
  rcases Noted.bind_error failed with failed | ⟨api, -, impossible⟩
  · exact failed
  · cases impossible

omit [AudioSource τ] in
theorem Output.intoSource_returns (reports : before.Reports) : (Output.intoSource.run before).1 = before.source := by
  have returned : Ends Output.intoSource before fun result _ => result = before.source := by
    apply (uninit_course reports).andThen
    intro _ after reached
    obtain ⟨events, source, _, _, idle, taking⟩ := reached
    refine Ends.read (Ends.done ?_)
    rw [after.source_eq, before.source_eq, idle, ← taking.source]
    rfl
  exact returned

/--
After any run exactly one of the driver and the context of its callbacks has the source, it is the source that was
given to the driver after the uses of the run, and the owner gets it back. An initialization fails for want of a
source only if the loader says so, which the loader of libraries never does.
-/
theorem Driver.source_kept (options : Options) (load : Loader δ) (source : τ) (device : δ) (acts : List Act) :
    let begun := Driver.fresh options load source device
    let driver := begun.afterActs acts
    let kept := (Driver.usesOf acts begun).foldl Use.on source
    (driver.source = some kept ∧ driver.context = none ∨
        driver.source = none ∧ driver.context.bind CallbackContext.source = some kept) ∧
      (Driver.intoSource.run driver).1 = some kept ∧
      ∀ request, ((Driver.init request).run.run driver).1 = .error .noSource →
        (∃ device, (load options device).1.result = .error .noSource) ∧
          ∀ linkage points, load ≠ libraryLoader linkage points := by
  intro begun driver kept
  have fresh := Driver.fresh_fits options load source device
  obtain ⟨reports, equipped⟩ := Output.afterActs_begun options load source device acts
  have fits := fresh.afterActs acts
  have used := fresh.usesOf (Output.begun_reports options load source device) acts
  let output := (Output.begun options load source device).afterActs acts
  have same : kept = output.source := used
  rw [same]
  refine ⟨fits.custody, ?_, fun request failed => ?_⟩
  · rw [intoSource_refines fits, output.intoSource_returns reports]
  · have unsourced : ∃ device, (load options device).1.result = .error .noSource := by
      rw [((init_refines request).run fits).1] at failed
      obtain ⟨down, source, events, -, -, -, beginning⟩ := init_course reports request
      rw [failed, equipped.1, equipped.2] at beginning
      obtain ⟨device, failed⟩ := beginning.sourced
      exact ⟨device.subject, Loader.watched_failed failed⟩
    refine ⟨unsourced, fun linkage points same => ?_⟩
    obtain ⟨device, failed⟩ := unsourced
    subst same
    cases libraryLoader_failsFor linkage points options device .noSource failed

end PcmOutput
