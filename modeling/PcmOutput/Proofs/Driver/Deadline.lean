import PcmOutput.Proofs.Driver.Constancy
import PcmOutput.Proofs.Layouts.Negotiation
import PcmOutput.Proofs.Saturation

/-!
# The deadline of a read

A data callback tells the source when the last of its frames becomes audible: at the present time, later by the frames
themselves, and later by those that the device was given and has not presented. The rate of a session was negotiated,
so that it is never zero.
-/

set_option autoImplicit false

namespace PcmOutput

variable {δ τ σ : Type}

/-! ## Configurations are negotiated -/

def StreamConfiguration.Negotiated (config : StreamConfiguration) : Prop :=
  ∃ request options caps, (negotiate request options caps).result = .ok config

theorem StreamConfiguration.Negotiated.rated {config : StreamConfiguration} (negotiated : config.Negotiated) :
    1 ≤ config.sampleRate := by
  obtain ⟨request, options, caps, agreed⟩ := negotiated
  rw [negotiate_sampleRate agreed]
  exact (negotiate_eq_ok_iff.mp agreed).1.1

def Phase.config? : Phase δ τ → Option StreamConfiguration
  | .idle _ => none
  | .ready session => some session.config

theorem Phase.settled_config? (drained : Bool) (phase : Phase δ τ) :
    (phase.settled drained).config? = phase.config? := by
  cases phase <;> rfl

section Courses

variable {timeoutNanos : Int} {phase phase' : Phase (WatchedDevice δ) τ} {events : List DeviceEvent}
  {result : Except OutputError Unit}

theorem Resetting.config? (resetting : Resetting phase events phase') : phase'.config? = phase.config? := by
  cases resetting with
  | idle => rfl
  | ready closing => cases closing <;> rfl

theorem Starting.config? (starting : Starting timeoutNanos phase events result phase') :
    phase'.config? = phase.config? := by
  cases starting <;> rfl

theorem Pausing.config? {paused : Bool} (pausing : Pausing timeoutNanos paused phase events result phase') :
    phase'.config? = phase.config? := by
  cases pausing with
  | playedOn _ starting => exact starting.config?
  | _ => rfl

/-- If there is a session, its configuration came of a negotiation. -/
def Phase.Negotiated (phase : Phase δ τ) : Prop :=
  ∀ config ∈ phase.config?, config.Negotiated

variable [AudioSource τ] {before after : Output (WatchedDevice δ) τ} {step : Step} {act : Act} {outcome : Outcome}

theorem Course.negotiated (course : Course before step events result after) (negotiated : before.phase.Negotiated) :
    after.phase.Negotiated := by
  have stays : after.phase.config? = before.phase.config? → after.phase.Negotiated := by
    intro same config held
    exact negotiated config (same ▸ held)
  cases course with
  | init _ _ _ beginning =>
      intro config held
      generalize after.phase = phase at beginning held
      cases beginning with
      | opened agreed =>
          cases held
          exact ⟨_, _, _, agreed.negotiated⟩
      | _ => cases held
  | start _ _ starting => exact stays (starting.config?.trans (Phase.settled_config? _ _))
  | setPause _ _ pausing => exact stays (pausing.config?.trans (Phase.settled_config? _ _))
  | reset _ _ resetting => exact stays resetting.config?
  | uninit _ _ idle =>
      intro config held
      rw [idle] at held
      cases held
  | lost | mailbox => exact stays rfl
  | filled _ _ ready filled =>
      obtain ⟨missed, phase⟩ := filled.phase
      exact stays (by simp [Output.witnessing, phase, ready, Phase.config?])
  | error complaining => cases complaining <;> exact stays rfl

theorem Acted.negotiated (acted : Acted before act outcome after) (negotiated : before.phase.Negotiated) :
    after.phase.Negotiated := by
  cases acted with
  | completed _ course => exact course.negotiated negotiated
  | filled delivering =>
      obtain ⟨events, course⟩ := delivering.course
      exact course.negotiated negotiated
  | counted _ phase => exact phase ▸ negotiated

theorem Output.afterActs_negotiated (options : Options) (load : Loader δ) (source : τ) (device : δ) (acts : List Act) :
    ((Output.begun options load source device).afterActs acts).phase.Negotiated := by
  have begun : (Output.begun options load source device).phase.Negotiated := by
    intro config held
    cases held
  exact (Output.afterActs_keeps (fun output => output.phase.Negotiated) (begun_reports options load source device) begun
    (fun _ _ _ _ _ negotiated acted => acted.negotiated negotiated) acts).2

end Courses

/-! ## What a data callback tells the source -/

theorem Fits.filling [AudioSource σ] {driver : Driver (WatchedDevice δ) (WatchedSource σ)}
    {output : Output (WatchedDevice δ) (WatchedSource σ)} {session : Session (WatchedDevice δ) (WatchedSource σ)}
    {wanted : DataRequest} {stream : StreamHandle} (fits : Fits driver output) (reports : output.Reports)
    (ready : output.phase = .ready session) (attached : wanted.attached = true)
    (streams : wanted.stream = some stream) :
    let next := (Act.step (.data wanted)).handling.run driver
    ∃ (written : Int) (stamp : Except Int (Int × Int)) (answer : DataAnswer) (room : Nat) (pull : Pull),
      next.1 = .filled answer ∧
      driver.since next.2 = [.answered (.framesWritten stream) written,
        .answered (.timestamp stream ModeCode.monotonicClock) stamp, .calledBack (some stream) answer.result] ∧
      next.2.sourceEvents = driver.sourceEvents ++
        [.read wanted.frames.toNat room
          (presentationDeadline wanted.now.nanos wanted.frames.toNat written (presentedBy written stamp)
            session.config.sampleRate) pull] := by
  intro next
  obtain ⟨same, fits'⟩ := (Act.step (.data wanted)).handling_refines.run fits
  have acted := (Act.step (.data wanted)).work_acted reports
  obtain ⟨written, stamp, answer, filled', answered, filled, after⟩ := Acted.filling acted ready attached streams
  rw [after] at fits'
  have reads := filled.reads ready
  rw [← fits.sourceEvents] at reads
  refine ⟨written, stamp, answer, _, _, same.trans answered, fits.since fits' ?_, fits'.sourceEvents.trans reads⟩
  simp [Output.witnessing, filled.events]

/--
For every data callback on the open stream, the deadline that the source is told is the exact sum of the present time,
the duration of the frames wanted and that of the frames written and not presented, each cut off to whole nanoseconds,
and the sum is cut off once at the latest time. A presentation time that is not known stands for no backlog.
-/
theorem Driver.deadline_exact [AudioSource σ] (options : Options) (load : Loader δ) (source : WatchedSource σ)
    (device : δ) (history : List Act) (wanted : DataRequest) (stream : StreamHandle) (seconds nanoseconds : Int)
    (opened : ((Driver.fresh options load source device).afterActs history).stream = some stream)
    (attached : wanted.attached = true) (streams : wanted.stream = some stream)
    (now : wanted.now = .time seconds nanoseconds) (future : 0 ≤ seconds)
    (within : 0 ≤ nanoseconds ∧ nanoseconds < 10 ^ 9) :
    let driver := (Driver.fresh options load source device).afterActs history
    let next := (Act.step (.data wanted)).handling.run driver
    ∃ config, driver.config = some config ∧ 1 ≤ config.sampleRate ∧ (config.sampleRate ≤ 10 ^ 9 →
      ∃ (written : Int) (stamp : Except Int (Int × Int)) (answer : DataAnswer) (room : Nat) (pull : Pull),
        next.1 = .filled answer ∧
        driver.since next.2 = [.answered (.framesWritten stream) written,
          .answered (.timestamp stream ModeCode.monotonicClock) stamp, .calledBack (some stream) answer.result] ∧
        next.2.sourceEvents = driver.sourceEvents ++
          [.read wanted.frames.toNat room
            (min (2 ^ 63 - 1) (seconds * 10 ^ 9 + nanoseconds + max wanted.frames 0 * 10 ^ 9 / config.sampleRate +
              max 0 (written - presentedBy written stamp) * 10 ^ 9 / config.sampleRate)) pull] ∧
        (wanted.frames < 2 ^ 31 → Wide (wanted.frames.toNat * nanosPerSecond)) ∧
        Wide (backlog written (presentedBy written stamp) * nanosPerSecond)) := by
  intro driver next
  obtain ⟨reports, -⟩ := Output.afterActs_begun options load source device history
  have negotiated := Output.afterActs_negotiated options load source device history
  have fits : Fits driver _ := (Driver.fresh_fits options load source device).afterActs history
  generalize (Output.begun options load source device).afterActs history = output at reports negotiated fits
  cases phase : output.phase with
  | idle kept =>
      have closed : driver.stream = none := by simp [fits.stream, Output.playback, phase, Playback.stream?]
      cases opened.symm.trans closed
  | ready session =>
      have rated : 1 ≤ session.config.sampleRate := (negotiated session.config (by rw [phase]; rfl)).rated
      refine ⟨session.config, (fits.holds phase).config, rated, fun slow => ?_⟩
      obtain ⟨written, stamp, answer, room, pull, filled, heard, uses⟩ := fits.filling reports phase attached streams
      refine ⟨written, stamp, answer, room, pull, filled, heard, ?_, fun narrow => ?_, ?_⟩
      · have second : nanosPerSecond = 10 ^ 9 := by decide
        have last : latest = 2 ^ 63 - 1 := by decide
        rw [uses, now, presentationDeadline_eq future within.1 rated slow, Int.ofNat_toNat, second, last]
      · exact wide_nanos (by simp only [earliest]; omega) (by simp only [latest]; omega)
      · rw [backlog_eq]
        exact wide_nanos (earliest_le_clampTime _) (clampTime_le_latest _)

/-- Of 9600 frames written, 4800 were presented, which leaves a tenth of a second. -/
theorem Driver.deadline_exact_simulated :
    let device : SimulatedDevice := { script := { framesWritten := 9600, timestamp := .ok (4800, 0) } }
    let driver := (Driver.simulated device).afterActs [.step (.init .plain), .step .start]
    let wanted : DataRequest :=
      { stream := some ⟨1⟩, buffer := some (List.replicate (480 * 8) 0), frames := 480, now := .time 5 7 }
    driver.stream = some ⟨1⟩ ∧ ∃ room pull,
      ((Act.step (.data wanted)).handling.run driver).2.sourceEvents =
        driver.sourceEvents ++ [.read 480 room 5110000007 pull] := by
  intro device driver wanted
  have opened : driver.stream = some ⟨1⟩ := by
    decide +kernel
  have rate : driver.config.map StreamConfiguration.sampleRate = some 48000 := by
    decide +kernel
  have told : learned (driver.since ((Act.step (.data wanted)).handling.run driver).2) = some (9600, 4800) := by
    decide +kernel
  obtain ⟨config, configured, -, exactly⟩ := Driver.deadline_exact {} (presentLoader (SimulatedDevice.api 27 []))
    (⟨⟨.scripted {}, []⟩, []⟩ : WatchedSource SimulatedSource) device [.step (.init .plain), .step .start] wanted ⟨1⟩
    5 7 opened rfl rfl rfl (by decide) (by decide)
  have rated : config.sampleRate = 48000 :=
    Option.some.inj ((congrArg (Option.map StreamConfiguration.sampleRate) configured).symm.trans rate)
  obtain ⟨written, stamp, answer, room, pull, -, heard, uses, -⟩ := exactly (by omega)
  have counts : (written, presentedBy written stamp) = (9600, 4800) :=
    Option.some.inj ((congrArg learned heard).symm.trans told)
  obtain ⟨rfl, presented⟩ := Prod.mk.inj counts
  refine ⟨opened, room, pull, uses.trans ?_⟩
  rw [presented, rated]
  rfl

end PcmOutput
