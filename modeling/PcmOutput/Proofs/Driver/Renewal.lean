import PcmOutput.Proofs.Driver.Custody
import PcmOutput.Proofs.Kinship.Acts

/-!
# A driver that was taken down is as good as new

Once a driver was taken down, by its owner or by a failed initialization, nothing of its past has an effect on what it
does. From there it cannot be told from a driver that was just created with the same source.
-/

set_option autoImplicit false

namespace PcmOutput

variable {δ δ' τ σ : Type}

/-- Devices that answer alike, by other names of the handles; the sources are the same. -/
def Kinship.ofDevices (names : Renaming) (alike : δ → δ' → Prop) : Kinship δ δ' τ τ where
  names := names
  device := alike
  source := Eq
  close := False

/-- The owner takes the driver down, or an initialization fails. -/
def Act.takesDown : Act → Outcome → Bool
  | .step .uninit, _ => true
  | .step (.init _), .completed (.error _) => true
  | _, _ => false

variable {names : Renaming} {alike : δ → δ' → Prop} {past past' : List DeviceEvent}
  {driver : Driver (WatchedDevice δ) τ} {driver' : Driver (WatchedDevice δ') τ} {output : Output (WatchedDevice δ) τ}
  {output' : Output (WatchedDevice δ') τ}

theorem Fits.idle_source {kept : τ} (fits : Fits driver output) (idle : output.phase = .idle kept) :
    driver.source = some kept := by
  rcases fits.custody with ⟨held, -⟩ | ⟨-, lent⟩
  · rw [held, Output.source, idle]
  · simp [fits.context, Output.session?, idle] at lent

/-- An idle output is kin to one that was just created, whatever was done to it before. -/
theorem Kinship.idle_begun {kept : τ} {load : Loader δ} {load' : Loader δ'} {device' : δ'}
    (loaders : (Kinship.ofDevices names alike : Kinship δ δ' τ τ).Loaders load load')
    (loader : output.load = load.watched) (idle : output.phase = .idle kept)
    (found : alike output.device.subject device') :
    ((Kinship.ofDevices names alike).heard output.device.events []).Outputs False output
      (Output.begun output.options load' kept device') where
  options := rfl
  loaders := by
    rw [loader]
    exact loaders.heard
  phases := by
    rw [idle]
    exact .idle rfl
  device := ⟨found, [], (List.append_nil _).symm, rfl⟩
  drained heeded := by
    -- An idle output pays no heed to the flag, so it does not matter what was noted before.
    rw [idle] at heeded
    simp [Phase.heeds] at heeded
  told := nofun

variable [AudioSource τ]

theorem Acted.idle {before after : Output (WatchedDevice δ) τ} {act : Act} {outcome : Outcome}
    (acted : Acted before act outcome after) (down : act.takesDown outcome = true) :
    ∃ source, after.phase = .idle source := by
  cases acted with
  | filled | counted => cases down
  | completed _ course =>
      cases course with
      | init _ _ _ beginning =>
          generalize after.phase = phase at beginning ⊢
          cases beginning with
          | opened => cases down
          | _ => exact ⟨_, rfl⟩
      | uninit _ _ idle => exact ⟨_, idle⟩
      | mailbox step => rcases step with rfl | rfl <;> cases down
      | _ => cases down

theorem Kinship.ofDevices_sources : (Kinship.ofDevices names alike : Kinship δ δ' τ τ).Sources where
  prepared format same := congrArg (AudioSource.prepare format) same
  read buffer frames deadline same := by
    cases same
    exact ⟨rfl, rfl, rfl⟩

/-- Whatever is done to two drivers that fit kin outputs comes to the same, and they still fit kin outputs. -/
theorem Fits.outcomes (fits : Fits driver output) (fits' : Fits driver' output')
    (outputs : ((Kinship.ofDevices names alike).heard past past').Outputs False output output') (acts : List Act) :
    driver'.outcomes (acts.map (Act.renamed names)) = driver.outcomes acts ∧
      ((Kinship.ofDevices names alike).heard past past').Outputs False (output.afterActs acts)
        (output'.afterActs (acts.map (Act.renamed names))) := by
  induction acts generalizing driver driver' output output' with
  | nil => exact ⟨rfl, outputs⟩
  | cons act rest ih =>
      obtain ⟨same, onward⟩ := Kinship.work_matched Kinship.ofDevices_sources act output output' outputs
      obtain ⟨first, kept⟩ := act.handling_refines.run fits
      obtain ⟨first', kept'⟩ := (act.renamed names).handling_refines.run fits'
      obtain ⟨later, final⟩ := ih kept kept' onward
      refine ⟨?_, final⟩
      have equal : ((act.renamed names).handling.run driver').1 = (act.handling.run driver).1 :=
        first'.trans (same.trans first.symm)
      simp only [List.map_cons, Driver.outcomes, equal, later]

/--
After a history that ended with the driver being taken down, whatever is done next comes to what it comes to on a
driver that was just created with the options, a loader that finds the same, and the source that the history left:
the outcomes and the uses of the source are the same, and the device is dealt with in the same way, up to the names of
handles. What waits for the owner and the reload flag are not compared.
-/
theorem Driver.renewed [AudioSource σ] (names : Renaming) (alike : δ → δ' → Prop) (options : Options) (load : Loader δ)
    (load' : Loader δ') (source : WatchedSource σ) (device : δ) (device' : δ') (history : List Act) (last : Act)
    (loaders : (Kinship.ofDevices names alike : Kinship δ δ' (WatchedSource σ) (WatchedSource σ)).Loaders load load')
    (down : last.takesDown
      (last.handling.run ((Driver.fresh options load source device).afterActs history)).1 = true)
    (found : alike
      ((Driver.fresh options load source device).afterActs (history ++ [last])).desk.device.subject
      device') :
    let left := (Driver.fresh options load source device).afterActs (history ++ [last])
    ∃ kept, left.source = some kept ∧ ∀ later : List Act,
      let fresh := Driver.fresh options load' kept device'
      let renamed := later.map (Act.renamed names)
      fresh.outcomes renamed = left.outcomes later ∧
        (fresh.afterActs renamed).face = (left.afterActs later).face ∧
        (Driver.intoSource.run (fresh.afterActs renamed)).1 = (Driver.intoSource.run (left.afterActs later)).1 ∧
        (fresh.afterActs renamed).traffic = (left.since (left.afterActs later)).map (DeviceEvent.renamed names) := by
  intro left
  let before := (Output.begun options load source device).afterActs history
  let output := (last.work.run before).2
  have fits_before : Fits ((Driver.fresh options load source device).afterActs history) before :=
    (Driver.fresh_fits options load source device).afterActs history
  obtain ⟨reports_before, -⟩ := Output.afterActs_begun options load source device history
  obtain ⟨reports, equipped⟩ :=
    Output.afterActs_begun options load source device (history ++ [last])
  have whole : (Output.begun options load source device).afterActs (history ++ [last]) = output :=
    List.foldl_append
  have fits : Fits left output := by
    rw [← whole]
    exact (Driver.fresh_fits options load source device).afterActs _
  rw [whole] at reports equipped
  have acted : Acted before last (last.work.run before).1 output := last.work_acted reports_before
  rw [(last.handling_refines.run fits_before).1] at down
  obtain ⟨kept, idle⟩ := acted.idle down
  have outputs := Kinship.idle_begun loaders equipped.1 idle (fits.device ▸ found)
  rw [equipped.2] at outputs
  refine ⟨kept, fits.idle_source idle, ?_⟩
  intro later fresh renamed
  have fits' : Fits fresh (Output.begun options load' kept device') := Driver.fresh_fits options load' kept device'
  obtain ⟨same, final⟩ := fits.outcomes fits' outputs later
  have ended := fits.afterActs later
  have ended' := fits'.afterActs renamed
  refine ⟨same, ?_, ?_, ?_⟩
  · have faces := final.face ended ended' id fun _ _ related => related.symm
    rwa [Face.map_id] at faces
  · have reports' : ((Output.begun options load' kept device').afterActs renamed).Reports :=
      (Output.afterActs_begun options load' kept device' renamed).1
    have reports : (output.afterActs later).Reports :=
      (Output.afterActs_keeps (fun _ => True) reports trivial (fun _ _ _ _ _ _ _ => trivial) later).1
    rw [Driver.intoSource_refines ended, Driver.intoSource_refines ended', Output.intoSource_returns reports,
      Output.intoSource_returns reports', final.source]
  · obtain ⟨-, traffic, heard, heard'⟩ := final.device
    have since : left.since (left.afterActs later) = traffic :=
      fits.since ended heard
    rw [since]
    unfold Driver.traffic
    rw [ended'.device, heard', List.nil_append]
    rfl

/-! ## A device that counts on -/

/-- Every handle is known by the number before. -/
def Renaming.before : Renaming where
  builder handle := ⟨handle.number - 1⟩
  stream handle := ⟨handle.number - 1⟩

/-- The first device gave out one builder and one stream more than the second, and is like it in all that it answers. -/
def SimulatedDevice.Ahead (device device' : SimulatedDevice) : Prop :=
  ∃ openStreams log, device = { device' with
    builders := device'.builders + 1
    streams := device'.streams + 1
    openStreams := openStreams
    log := log }

def SimulatedDevice.unused (device : SimulatedDevice) : SimulatedDevice :=
  { device with builders := 0, streams := 0, openStreams := [], log := [] }

theorem SimulatedDevice.ahead_unused {device : SimulatedDevice} (once : device.builders = 1 ∧ device.streams = 1) :
    device.Ahead device.unused := by
  obtain ⟨⟩ := device
  obtain ⟨rfl, rfl⟩ := once
  exact ⟨_, _, rfl⟩

/-- Whether a handle is given out does not depend on the handle. -/
theorem SimulatedDevice.handOut_cases (handle : Type) (code : Int) (withheld : Bool) :
    (∃ cause, ∀ given : handle, handOut code withheld given = .error cause) ∨
      ∀ given : handle, handOut code withheld given = .ok given := by
  unfold handOut
  split
  · exact .inl ⟨_, fun _ => rfl⟩
  · split
    · exact .inl ⟨_, fun _ => rfl⟩
    · exact .inr fun _ => rfl

omit [AudioSource τ] in
theorem SimulatedDevice.api_ahead (level : Int) (tiers : List Int) :
    (Kinship.ofDevices .before Ahead : Kinship _ _ τ τ).Apis (api level tiers) (api level tiers) where
  level := rfl
  hasTier := rfl
  farewell := rfl
  resultText _ _ := rfl
  stateText _ _ := rfl
  answered {device device'} call ahead := by
    obtain ⟨openStreams, log, rfl⟩ := ahead
    cases call with
    | createBuilder =>
        simp only [api, respond, createBuilder, record, Renaming.call]
        rcases handOut_cases BuilderHandle device'.script.createResult device'.script.withholdsBuilder with
          ⟨cause, refused⟩ | given
        · simp only [refused]
          exact ⟨rfl, _, _, rfl⟩
        · simp only [given]
          exact ⟨rfl, _, _, rfl⟩
    | openStream =>
        simp only [api, respond, openStream, record, Renaming.call]
        rcases handOut_cases StreamHandle device'.script.openResult device'.script.withholdsStream with
          ⟨cause, refused⟩ | given
        · simp only [refused]
          exact ⟨rfl, _, _, rfl⟩
        · simp only [given]
          exact ⟨rfl, _, _, rfl⟩
    | configure builder setting value => exact ⟨by cases setting <;> rfl, by cases setting <;> exact ⟨_, _, rfl⟩⟩
    | request stream transition =>
        cases transition with
        | start =>
            simp only [api, respond, request, requestResult, record, Renaming.call]
            by_cases accepted : ResultCode.succeeded device'.script.startResult <;> simp only [accepted] <;>
              exact ⟨rfl, _, _, rfl⟩
        | pause =>
            simp only [api, respond, request, requestResult, record, Renaming.call]
            by_cases accepted : ResultCode.succeeded device'.script.pauseResult <;> simp only [accepted] <;>
              exact ⟨rfl, _, _, rfl⟩
    | waitForChange stream state timeout =>
        simp only [api, respond, wait, record, Renaming.call]
        cases device'.waits <;> exact ⟨rfl, _, _, rfl⟩
    | query stream property => exact ⟨by cases property <;> rfl, _, _, rfl⟩
    | _ => exact ⟨rfl, _, _, rfl⟩

theorem Driver.renewed_simulated :
    let history : List Act := [.step (.init .plain), .step .start]
    let left := (Driver.simulated {}).afterActs (history ++ [.step .uninit])
    let device := left.desk.device.subject.unused
    Act.takesDown (.step .uninit)
      ((Act.handling (.step .uninit)).run ((Driver.simulated {}).afterActs history)).1 = true ∧
      left.desk.device.subject.Ahead device ∧
      ∃ kept, left.source = some kept ∧ ∀ later : List Act,
        let fresh := Driver.fresh {} (presentLoader (SimulatedDevice.api 27 [])) kept device
        let renamed := later.map (Act.renamed .before)
        fresh.outcomes renamed = left.outcomes later ∧
          (fresh.afterActs renamed).face = (left.afterActs later).face ∧
          (Driver.intoSource.run (fresh.afterActs renamed)).1 = (Driver.intoSource.run (left.afterActs later)).1 ∧
          (fresh.afterActs renamed).traffic =
            (left.since (left.afterActs later)).map (DeviceEvent.renamed .before) := by
  have loaders : (Kinship.ofDevices .before SimulatedDevice.Ahead :
      Kinship _ _ (WatchedSource SimulatedSource) (WatchedSource SimulatedSource)).Loaders
      (presentLoader (SimulatedDevice.api 27 [])) (presentLoader (SimulatedDevice.api 27 [])) :=
    fun _ _ _ related => ⟨rfl, .loaded (SimulatedDevice.api_ahead 27 []), related⟩
  have down : Act.takesDown (.step .uninit) ((Act.handling (.step .uninit)).run
      ((Driver.simulated {}).afterActs [.step (.init .plain), .step .start])).1 = true := by
    decide +kernel
  have once : let left := (Driver.simulated {}).afterActs ([.step (.init .plain), .step .start] ++ [.step .uninit])
      left.desk.device.subject.builders = 1 ∧ left.desk.device.subject.streams = 1 := by
    decide +kernel
  have ahead := SimulatedDevice.ahead_unused once
  unfold Driver.simulated at down ahead ⊢
  exact ⟨down, ahead, Driver.renewed .before SimulatedDevice.Ahead {} (presentLoader (SimulatedDevice.api 27 []))
    (presentLoader (SimulatedDevice.api 27 [])) (⟨⟨.scripted {}, []⟩, []⟩ : WatchedSource SimulatedSource) {} _
    [.step (.init .plain), .step .start] (.step .uninit) loaders down ahead⟩

end PcmOutput
