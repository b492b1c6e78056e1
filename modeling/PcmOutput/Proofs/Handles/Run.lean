import PcmOutput.Proofs.Handles.Discipline
import PcmOutput.Proofs.Run
import PcmOutput.Simulation.Device

/-!
# The handles of a run

Every course uses the handles as they may be used, and leads from what the phase before it holds to what
the phase after it holds. So no run of an output forgets a handle or gives one back twice.
-/

set_option autoImplicit false

namespace PcmOutput

variable {δ τ : Type}

/-- What a session holds; a stream was asked of its builder when it began. -/
def Session.holding (session : Session δ τ) : Holding :=
  match session.playback.stream? with
  | none => .building session.builder true
  | some stream => .streaming session.builder stream

def Phase.holding : Phase δ τ → Holding
  | .idle _ => .nothing
  | .ready session => session.holding

theorem Session.holding_closed {session : Session δ τ} (closed : session.playback = .closed) :
    session.holding = .building session.builder true := by
  simp [holding, closed, Playback.stream?]

theorem Session.holding_open {session : Session δ τ} {stream : StreamHandle}
    (streams : session.playback.stream? = some stream) : session.holding = .streaming session.builder stream := by
  simp [holding, streams]

theorem Resting.stream? {stream : StreamHandle} {playback : Playback} (resting : Resting stream playback) :
    playback.stream? = some stream := by
  cases resting <;> rfl

theorem Playback.settled_stream? (drained : Bool) (playback : Playback) :
    (playback.settled drained).stream? = playback.stream? := by
  cases playback <;> cases drained <;> rfl

theorem Phase.settled_holding (drained : Bool) (phase : Phase δ τ) :
    (phase.settled drained).holding = phase.holding := by
  cases phase with
  | idle => rfl
  | ready session =>
      simp [Phase.settled, Phase.holding, Session.holding, Session.settled, Playback.settled_stream?]

open Holding (Path)

variable {builder : BuilderHandle} {stream : StreamHandle} {transition : Transition} {timeoutNanos : Int}
  {config : StreamConfiguration} {events : List DeviceEvent} {result : Except OutputError Unit}
  {phase phase' : Phase (WatchedDevice δ) τ}

theorem Confirmation.path {waits : Nat} (confirmation : Confirmation stream transition timeoutNanos waits events result) :
    Path (.streaming builder stream) events (.streaming builder stream) := by
  induction confirmation with
  | exhausted => exact .nil
  | failed | reached | elsewhere => exact .single .waited
  | again _ ih => exact .cons .waited ih

theorem Transit.path (transit : Transit stream transition timeoutNanos events result) :
    Path (.streaming builder stream) events (.streaming builder stream) := by
  cases transit with
  | refused => exact .single .requested
  | accepted _ confirmation => exact .cons .requested confirmation.path

theorem LayoutSearch.path {found : Except OutputError ChannelMap} (search : LayoutSearch config stream events found) :
    Path (.streaming builder stream) events (.streaming builder stream) := by
  cases search with
  | masked => exact .nil
  | counted | unknown => exact .single .queried

def heldAfter (builder : BuilderHandle) : Except OutputError OpenedStream → Holding
  | .ok opened => .streaming builder opened.stream
  | .error _ => .building builder true

theorem Opening.path {earlier : Option StreamFormat} {result : Except OutputError OpenedStream} {asked : Bool}
    (opening : Opening builder config earlier events result) :
    Path (.building builder asked) events (heldAfter builder result) := by
  cases opening with
  | refused => exact .single .unopened
  | unknownLayout search => exact .cons .opened (search.path.append (.single .closed))
  | otherLayout search => exact .cons .opened (search.path.append (.single .closed))
  | opened search =>
      exact .cons .opened
        (search.path.append (.cons .queried (.cons .queried (.cons .queried (.single .queried)))))

def Telling (builder : BuilderHandle) : Call → Prop
  | .configure told _ _ | .registerData told | .registerError told => told = builder
  | _ => False

theorem Told.path {calls : List Call} (told : Told calls events) (telling : ∀ call ∈ calls, Telling builder call) :
    Path (.building builder false) events (.building builder false) := by
  induction told with
  | nil => exact .nil
  | @cons call answer _ _ _ ih =>
      have first := telling call List.mem_cons_self
      have rest := ih fun call member => telling call (List.mem_cons_of_mem _ member)
      cases call with
      | configure told setting value =>
          cases first
          exact .cons .configured rest
      | registerData told =>
          cases first
          exact .cons .dataRegistered rest
      | registerError told =>
          cases first
          exact .cons .errorRegistered rest
      | _ => exact first.elim

theorem StreamConfiguration.telling (config : StreamConfiguration) :
    ∀ call ∈ config.channelCall builder :: config.calls builder, Telling builder call := by
  simp only [StreamConfiguration.channelCall, StreamConfiguration.calls, Telling, List.cons_append, List.nil_append,
    List.forall_mem_cons, List.forall_mem_map, true_and]
  exact fun _ _ => trivial

theorem Closing.path {session closed : Session (WatchedDevice δ) τ} (closing : Closing session events closed) :
    Path session.holding events (.building session.builder true) ∧ closed.holding = .building session.builder true := by
  cases closing with
  | already streams =>
      have holding := session.holding_closed streams
      exact ⟨by rw [holding]; exact .nil, holding⟩
  | closed streams => exact ⟨by rw [session.holding_open streams]; exact .single .closed, rfl⟩

theorem Resetting.path (resetting : Resetting phase events phase') : Path phase.holding events phase'.holding := by
  cases resetting with
  | idle => exact .nil
  | ready closing =>
      obtain ⟨path, closed⟩ := closing.path
      simp only [Phase.holding]
      rw [closed]
      exact path

theorem TakingDown.path {source : τ} (takingDown : TakingDown phase events source) :
    Path phase.holding events .nothing := by
  cases takingDown with
  | idle => exact .nil
  | ready closing => exact closing.path.1.append (.single .deleted)

theorem Beginning.path [AudioSource τ] {load : Loader (WatchedDevice δ)} {options : Options} {request : AudioRequest}
    {source : τ} (beginning : Beginning load options request source events result phase) :
    Path .nothing events phase.holding := by
  cases beginning with
  | unbound | disagreed => exact .nil
  | builderRefused => exact .single .refused
  | @unopened _ config _ _ _ _ _ _ told opening =>
      exact .cons .created (((told.path config.telling).append opening.path).append (.single .deleted))
  | @opened _ config _ _ _ _ _ told opening => exact .cons .created ((told.path config.telling).append opening.path)

theorem Starting.path (starting : Starting timeoutNanos phase events result phase') :
    Path phase.holding events phase'.holding := by
  cases starting with
  | uninitialized | already => exact .nil
  | failed resting transit =>
      simp only [Phase.holding]
      rw [Session.holding_open resting.stream?]
      exact transit.path
  | started resting transit =>
      simp only [Phase.holding]
      rw [Session.holding_open resting.stream?]
      exact transit.path
  | unopened closed opening =>
      simp only [Phase.holding]
      rw [Session.holding_closed closed]
      exact opening.path
  | onlyReopened closed opening transit | reopened closed opening transit =>
      simp only [Phase.holding]
      rw [Session.holding_closed closed]
      exact opening.path.append transit.path

theorem Pausing.path {paused : Bool} (pausing : Pausing timeoutNanos paused phase events result phase') :
    Path phase.holding events phase'.holding := by
  cases pausing with
  | uninitialized | closed | already => exact .nil
  | unrequested opened =>
      simp only [Phase.holding, Session.holding, opened, Playback.stream?]
      exact .nil
  | failed started transit | paused started transit =>
      simp only [Phase.holding, Session.holding, started, Playback.stream?]
      exact transit.path
  | playedOn _ starting => exact starting.path

variable [AudioSource τ] {before after : Output (WatchedDevice δ) τ} {step : Step}

theorem Course.path (course : Course before step events result after) :
    Path before.phase.holding events after.phase.holding := by
  cases course with
  | init _ _ down beginning => exact down.path.append beginning.path
  | start _ _ starting =>
      rw [← Phase.settled_holding before.drained]
      exact starting.path
  | setPause _ _ pausing =>
      rw [← Phase.settled_holding before.drained]
      exact pausing.path
  | reset _ _ resetting => exact resetting.path
  | uninit _ _ idle down =>
      rw [idle]
      exact down.path
  | lost => exact .single .calledBack
  | @filled _ _ stream _ _ answer filled' _ _ ready filled =>
      obtain ⟨missed, phase⟩ := filled.phase
      have same : (filled'.witnessing (.calledBack (some stream) answer.result)).phase.holding =
          before.phase.holding := by
        simp only [Output.witnessing, phase, ready, Phase.holding, Session.holding]
      rw [same]
      exact .cons .framesWritten (.cons .timestamp (.single .calledBack))
  | error complaining => cases complaining <;> exact .nil
  | mailbox => exact .nil

theorem Beginning.failed {load : Loader (WatchedDevice δ)} {options : Options} {request : AudioRequest} {source : τ}
    {cause : OutputError} (beginning : Beginning load options request source events (.error cause) phase) :
    phase.holding = .nothing := by
  cases beginning <;> rfl

/-- A step after which the output holds nothing: it was taken down, or could not be initialized. -/
def Step.givesBack : Step → Except OutputError Unit → Bool
  | .uninit, _ => true
  | .init _, .error _ => true
  | _, _ => false

theorem Course.holding_nothing (course : Course before step events result after)
    (back : step.givesBack result = true) : after.phase.holding = .nothing := by
  cases course with
  | @init _ _ _ _ result _ _ _ _ beginning =>
      cases result with
      | error cause => exact beginning.failed
      | ok => cases back
  | uninit _ _ idle =>
      rw [idle]
      rfl
  | mailbox which =>
      rcases which with same | same
      · rw [same] at back
        cases back
      · rw [same] at back
        cases back
  | _ => cases back

/-- How an owner parts with an output: for the source it plays, or for nothing. -/
inductive Parting
  | intoSource | drop

/-- The output at its end. Whoever has got the source back drops the output as well. -/
def Output.parted (parting : Parting) (output : Output (WatchedDevice δ) τ) : Output (WatchedDevice δ) τ :=
  match parting with
  | .intoSource => (Output.uninit.run (Output.intoSource.run output).2).2
  | .drop => (Output.uninit.run output).2

def Parting.firstSteps : Parting → List Step
  | .intoSource => [.uninit]
  | .drop => []

theorem Output.parted_eq (parting : Parting) (output : Output (WatchedDevice δ) τ) :
    output.parted parting = (Step.uninit.work.run (output.following parting.firstSteps)).2 := by
  cases parting <;> rfl

/-- The handles of a run are accounted for at its every point. -/
theorem Output.following_path (options : Options) (load : Loader δ) (source : τ) (device : δ) (steps : List Step) :
    let output := (Output.fresh options load source device).following steps
    output.Reports ∧ Path .nothing output.device.events output.phase.holding := by
  refine Output.following_keeps (fun output => Path .nothing output.device.events output.phase.holding)
    (Output.fresh_reports options load source device) .nil ?_ steps
  intro before step events result after _ path course
  rw [course.events_append]
  exact path.append course.path

theorem Output.following_step_path (options : Options) (load : Loader δ) (source : τ) (device : δ)
    (steps : List Step) (step : Step) :
    let output := (Output.fresh options load source device).following steps
    step.givesBack (step.work.run output).1 = true → Path .nothing (step.work.run output).2.device.events .nothing := by
  intro output back
  obtain ⟨reports, path⟩ := Output.following_path options load source device steps
  obtain ⟨events, course⟩ := step.work_course reports
  have whole := path.append course.path
  rw [← course.events_append, course.holding_nothing back] at whole
  exact whole

/--
However an owner parts with an output, and whatever was done with it before: every handle was given back
once, and used in between only. Nothing is held when an output was taken down or failed to initialize.
-/
theorem Output.handles_disciplined (options : Options) (load : Loader δ) (source : τ) (device : δ)
    (steps : List Step) :
    let output := (Output.fresh options load source device).following steps
    (∀ parting, WellFormed (output.parted parting).device.events ∧
      AllReturned (output.parted parting).device.events) ∧
    ∀ step : Step, step.givesBack (step.work.run output).1 = true →
      AllReturned (step.work.run output).2.device.events := by
  intro output
  constructor
  · intro parting
    have path := Output.following_step_path options load source device (steps ++ parting.firstSteps) .uninit rfl
    rw [Output.following_append, ← Output.parted_eq] at path
    exact ⟨path.wellFormed, path.allReturned⟩
  · intro step back
    exact (Output.following_step_path options load source device steps step back).allReturned

def AudioRequest.plain : AudioRequest where
  format := .float
  channels := .stereo
  sampleRate := 48000

/-- An output before its first step, on a simulated device and with a source without an end. -/
def Output.simulated (device : SimulatedDevice) : Output (WatchedDevice SimulatedDevice) (WatchedSource SimulatedSource) :=
  Output.fresh {} (presentLoader (SimulatedDevice.api 27 [])) ⟨.scripted {}, []⟩ device

/-- A device from which no stream is to be had. -/
def SimulatedDevice.streamless : SimulatedDevice where
  script := { openResult := ResultCode.invalidState }

theorem Output.streamless_returned :
    let output := (Output.simulated .streamless).following [.start]
    (Step.init .plain).givesBack ((Step.init .plain).work.run output).1 = true ∧
      AllReturned ((Step.init .plain).work.run output).2.device.events := by
  have disciplined := Output.handles_disciplined {} (presentLoader (SimulatedDevice.api 27 []))
    (⟨.scripted {}, []⟩ : SimulatedSource) .streamless [.start]
  have fails : (Step.init .plain).givesBack ((Step.init .plain).work.run
      ((Output.simulated .streamless).following [.start])).1 = true := by
    decide +kernel
  unfold Output.simulated at fails ⊢
  exact ⟨fails, disciplined.2 (.init .plain) fails⟩

end PcmOutput
