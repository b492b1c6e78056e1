import PcmOutput.Output.Callback
import PcmOutput.Proofs.Kinship.Matched

/-!
# Outputs of one kind

Two outputs are kin when their devices and their sources are, their sessions agree up to the names of handles,
and a difference in what was noted of the end of the source makes no difference. What the owner has been told may
differ, unless the kinship is a close one. Every operation and every callback keeps kin outputs kin.
-/

set_option autoImplicit false

namespace PcmOutput

variable {δ δ' τ τ' : Type}

/-- How the devices and the sources of two outputs are related, and what handles are called on the second side. -/
structure Kinship (δ δ' τ τ' : Type) where
  names : Renaming
  device : δ → δ' → Prop
  source : τ → τ' → Prop
  /-- Whether the owners are told the same. -/
  close : Prop

/-- Whether the flag for the end of the source counts: it does while the stream is believed to be started. -/
def Phase.heeds : Phase δ τ → Bool
  | .idle _ => false
  | .ready session => session.playback.state == .started

/-- What an output has for its owner, and the flag for the end of the source. -/
def Output.told (output : Output δ τ) : Bool × Bool × Mailbox × List Line :=
  (output.drained, output.reloadRequested, output.mailbox, output.journal)

theorem Output.heeds_of_started {output : Output δ τ} {stream : StreamHandle}
    (started : output.playback = .started stream) : output.phase.heeds = true := by
  cases phase : output.phase with
  | idle source => simp [Output.playback, phase] at started
  | ready session =>
      have playing : session.playback = .started stream := by simpa [Output.playback, phase] using started
      simp [Phase.heeds, playing, Playback.state]

namespace Kinship

variable (kin : Kinship δ δ' τ τ')

/-- Sources that are used alike stay related, and give the same sound. -/
structure Sources [AudioSource τ] [AudioSource τ'] : Prop where
  prepared : ∀ {source source'} (format : StreamFormat), kin.source source source' →
    kin.source (AudioSource.prepare format source) (AudioSource.prepare format source')
  read : ∀ {source source'} (buffer : List UInt8) (frames : Nat) (deadline : Int), kin.source source source' →
    let reading := AudioSource.read buffer frames deadline source
    let reading' := AudioSource.read buffer frames deadline source'
    reading'.buffer = reading.buffer ∧ reading'.pull = reading.pull ∧ kin.source reading.source reading'.source

structure Apis (api : DeviceApi δ) (api' : DeviceApi δ') : Prop where
  level : api'.level = api.level
  hasTier : api'.hasTier = api.hasTier
  farewell : api'.farewell = api.farewell
  resultText : ∀ {device device'} (code : Int), kin.device device device' →
    api'.resultText device' code = api.resultText device code
  stateText : ∀ {device device'} (code : Int), kin.device device device' →
    api'.stateText device' code = api.stateText device code
  answered : ∀ {device device'} (call : Call), kin.device device device' →
    (api'.respond (kin.names.call call) device').1 = kin.names.answer call (api.respond call device).1 ∧
      kin.device (api.respond call device).2 (api'.respond (kin.names.call call) device').2

inductive Loaded : Except OutputError (DeviceApi δ) → Except OutputError (DeviceApi δ') → Prop where
  | failed {cause} : Loaded (.error cause) (.error cause)
  | loaded {api api'} : kin.Apis api api' → Loaded (.ok api) (.ok api')

structure Loading (found : Noted (DeviceApi δ) × δ) (found' : Noted (DeviceApi δ') × δ') : Prop where
  lines : found'.1.lines = found.1.lines
  result : kin.Loaded found.1.result found'.1.result
  device : kin.device found.2 found'.2

def Loaders (load : Loader δ) (load' : Loader δ') : Prop :=
  ∀ options device device', kin.device device device' → kin.Loading (load options device) (load' options device')

structure Sessions (session : Session δ τ) (session' : Session δ' τ') : Prop where
  apis : kin.Apis session.api session'.api
  builder : session'.builder = kin.names.builder session.builder
  config : session'.config = session.config
  format : session'.format = session.format
  deviceBuffer : session'.deviceBuffer = session.deviceBuffer
  playback : session'.playback = kin.names.playback session.playback
  source : kin.source session.source session'.source
  timestampMissed : session'.timestampMissed = session.timestampMissed

inductive Phases : Phase δ τ → Phase δ' τ' → Prop where
  | idle {source source'} : kin.source source source' → Phases (.idle source) (.idle source')
  | ready {session session'} : kin.Sessions session session' → Phases (.ready session) (.ready session')

/-- Outputs that are kin. After an end of the source was settled, the flags for it are the same. -/
structure Outputs (settled : Prop) (output : Output δ τ) (output' : Output δ' τ') : Prop where
  options : output'.options = output.options
  loaders : kin.Loaders output.load output'.load
  phases : kin.Phases output.phase output'.phase
  device : kin.device output.device output'.device
  drained : settled ∨ output.phase.heeds = true → output'.drained = output.drained
  told : kin.close → output'.told = output.told

variable {kin} {settled : Prop}

namespace Outputs

variable {output : Output δ τ} {output' : Output δ' τ'}

theorem relax {unsettled : Prop} (outputs : kin.Outputs settled output output') (implied : unsettled → settled) :
    kin.Outputs unsettled output output' :=
  { outputs with drained := fun heeded => outputs.drained (heeded.imp_left implied) }

theorem source (outputs : kin.Outputs settled output output') : kin.source output.source output'.source := by
  have phases := outputs.phases
  simp only [Output.source]
  generalize output.phase = phase, output'.phase = phase' at phases
  cases phases with
  | idle source => exact source
  | ready sessions => exact sessions.source

theorem playback (outputs : kin.Outputs settled output output') :
    output'.playback = kin.names.playback output.playback := by
  have phases := outputs.phases
  simp only [Output.playback]
  generalize output.phase = phase, output'.phase = phase' at phases
  cases phases with
  | idle => rfl
  | ready sessions => exact sessions.playback

/-- In another phase the flag for the end of the source may begin to count, but not unless it was settled. -/
theorem entering (outputs : kin.Outputs settled output output') {phase : Phase δ τ} {phase' : Phase δ' τ'}
    (phases : kin.Phases phase phase') (heeding : phase.heeds = true → settled ∨ output.phase.heeds = true) :
    kin.Outputs settled { output with phase := phase } { output' with phase := phase' } :=
  { outputs with
    phases := phases
    drained := fun heeded => outputs.drained (heeded.elim .inl heeding) }

theorem onDevice (outputs : kin.Outputs settled output output') {device : δ} {device' : δ'}
    (related : kin.device device device') :
    kin.Outputs settled { output with device := device } { output' with device := device' } :=
  { outputs with device := related }

theorem telling (outputs : kin.Outputs settled output output') {requested requested' : Bool}
    {mailbox mailbox' : Mailbox} {journal journal' : List Line}
    (same : kin.close → requested' = requested ∧ mailbox' = mailbox ∧ journal' = journal) :
    kin.Outputs settled { output with reloadRequested := requested, mailbox := mailbox, journal := journal }
      { output' with reloadRequested := requested', mailbox := mailbox', journal := journal' } where
  options := outputs.options
  loaders := outputs.loaders
  phases := outputs.phases
  device := outputs.device
  drained := outputs.drained
  told closely := by
    obtain ⟨requested, mailbox, journal⟩ := same closely
    have told := outputs.told closely
    simp only [Output.told, Prod.mk.injEq] at told ⊢
    exact ⟨told.1, requested, mailbox, journal⟩

theorem noted (outputs : kin.Outputs settled output output') (lines : List Line) :
    kin.Outputs settled (output.noted lines) (output'.noted lines) := by
  refine outputs.telling fun closely => ?_
  have told := outputs.told closely
  simp only [Output.told, Prod.mk.injEq] at told
  exact ⟨told.2.1, told.2.2.1, by rw [told.2.2.2]⟩

end Outputs

theorem Apis.serves {api : DeviceApi δ} {api' : DeviceApi δ'} (apis : kin.Apis api api') (settled : Prop) :
    Serves kin.names true api api' (kin.Outputs settled) where
  answered call _ outputs :=
    ⟨(apis.answered call outputs.device).1, outputs.onDevice (apis.answered call outputs.device).2⟩
  resultText code outputs := apis.resultText code outputs.device
  stateText code outputs := apis.stateText code outputs.device
  noted lines outputs := outputs.noted lines

theorem Apis.caps {api : DeviceApi δ} {api' : DeviceApi δ'} (apis : kin.Apis api api') :
    DeviceCaps.ofApi api' = DeviceCaps.ofApi api := by
  simp [DeviceCaps.ofApi, apis.level, apis.hasTier]

theorem releaseApi_matched {api : DeviceApi δ} {api' : DeviceApi δ'} (apis : kin.Apis api api') :
    Matched (kin.Outputs settled) id (releaseApi api) (releaseApi api') := by
  unfold releaseApi
  rw [apis.farewell]
  exact Matched.change fun _ _ outputs => outputs.noted _

theorem modifySession_matched {change : Session δ τ → Session δ τ} {change' : Session δ' τ' → Session δ' τ'}
    (keeps : ∀ session session', kin.Sessions session session' → kin.Sessions (change session) (change' session'))
    (heeding : ∀ session : Session δ τ, (Phase.ready (change session)).heeds = true →
      settled ∨ (Phase.ready session).heeds = true) :
    Matched (kin.Outputs settled) id (modifySession change) (modifySession change') := by
  refine Matched.change fun output output' outputs => ?_
  have phases := outputs.phases
  cases phase : output.phase with
  | idle source =>
      rw [phase] at phases
      cases phase' : output'.phase with
      | idle source' => exact outputs
      | ready session' => rw [phase'] at phases; cases phases
  | ready session =>
      rw [phase] at phases
      cases phase' : output'.phase with
      | idle source' => rw [phase'] at phases; cases phases
      | ready session' =>
          rw [phase'] at phases
          cases phases with
          | ready sessions =>
              exact outputs.entering (.ready (keeps _ _ sessions)) (by rw [phase]; exact heeding session)

/-- Playback may become a started one only when the end of the source was settled. -/
theorem setPlayback_matched (playback : Playback) (heeding : playback.state = .started → settled) :
    Matched (kin.Outputs settled) id (setPlayback playback) (setPlayback (kin.names.playback playback)) :=
  modifySession_matched (fun _ _ sessions => { sessions with playback := rfl })
    (fun _ heeded => .inl (heeding (by simpa [Phase.heeds] using heeded)))

end Kinship

end PcmOutput
