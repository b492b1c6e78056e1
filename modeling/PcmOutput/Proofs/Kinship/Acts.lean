import PcmOutput.Proofs.Driver.Run
import PcmOutput.Proofs.Kinship.Steps

/-!
# The traffic of kin outputs

Kin devices that are watched stay kin, and what is seen of the one is what is seen of the other by other names. So
outputs that are kin not only come to the same, but make the same calls on the way.
-/

set_option autoImplicit false

namespace PcmOutput

variable {δ δ' τ τ' : Type}

def Act.renamed (names : Renaming) : Act → Act
  | .step taken => .step (taken.renamed names)
  | .xrunCount => .xrunCount

def DeviceEvent.renamed (names : Renaming) : DeviceEvent → DeviceEvent
  | .answered call answer => .answered (names.call call) (names.answer call answer)
  | .calledBack stream result => .calledBack (stream.map names.stream) result

/-- Since one point of each of two histories the same happened, by other names. -/
def HeardAlike (names : Renaming) (past past' : List DeviceEvent) (events events' : List DeviceEvent) : Prop :=
  ∃ traffic, events = past ++ traffic ∧ events' = past' ++ traffic.map (DeviceEvent.renamed names)

theorem HeardAlike.next {names : Renaming} {past past' events events' : List DeviceEvent}
    (heard : HeardAlike names past past' events events') (event : DeviceEvent) :
    HeardAlike names past past' (events ++ [event]) (events' ++ [event.renamed names]) := by
  obtain ⟨traffic, rfl, rfl⟩ := heard
  exact ⟨traffic ++ [event], by simp, by simp⟩

/-- What a driver lets its owner see, apart from the messages, and who has the source. -/
structure Face (τ : Type) where
  state : StreamState
  isOpen : Bool
  format : Option StreamFormat
  deviceBuffer : Int
  apiLevel? : Option Int
  /-- The source, if it is with the driver. -/
  source : Option τ
  /-- The source, if it is with the context of the callbacks. -/
  lent : Option τ

def Driver.face (driver : Driver δ τ) : Face τ where
  state := driver.state
  isOpen := driver.isOpen
  format := driver.format
  deviceBuffer := driver.deviceBuffer
  apiLevel? := driver.apiLevel?
  source := driver.source
  lent := driver.context.bind CallbackContext.source

/-- What is seen of a driver, if only the content of its source is looked at. -/
def Face.map (content : τ' → τ) (face : Face τ') : Face τ :=
  { face with
    source := face.source.map content
    lent := face.lent.map content }

theorem Face.map_id (face : Face τ) : face.map id = face := by
  simp [Face.map]

namespace Kinship

variable (kin : Kinship δ δ' τ τ')

/-- The owners of drivers that fit kin outputs see the same. -/
theorem Outputs.face {kin : Kinship δ δ' τ τ'} {settled : Prop} {driver : Driver δ τ} {driver' : Driver δ' τ'}
    {output : Output δ τ} {output' : Output δ' τ'} (outputs : kin.Outputs settled output output')
    (fits : Fits driver output) (fits' : Fits driver' output') (content : τ' → τ)
    (same : ∀ source source', kin.source source source' → content source' = source) :
    driver'.face.map content = driver.face := by
  have sources : driver'.source.map content = driver.source ∧
      (driver'.context.bind CallbackContext.source).map content = driver.context.bind CallbackContext.source := by
    have phases := outputs.phases
    obtain ⟨desk, phase⟩ := fits
    obtain ⟨desk', phase'⟩ := fits'
    cases phases with
    | idle related => exact ⟨congrArg some (same _ _ related), rfl⟩
    | ready sessions => exact ⟨rfl, congrArg some (same _ _ sessions.source)⟩
  unfold Driver.face Face.map
  rw [fits.state, fits'.state, outputs.state, fits.isOpen, fits'.isOpen, outputs.isOpen, fits.format, fits'.format,
    outputs.streamFormat?, fits.deviceBuffer, fits'.deviceBuffer, outputs.deviceBuffer, fits.apiLevel?, fits'.apiLevel?,
    outputs.apiLevel?, sources.1, sources.2]

theorem acted_matched [AudioSource τ] [AudioSource τ'] {kin : Kinship δ δ' τ τ'} {settled : Prop}
    (sources : kin.Sources)
    {told : Option StreamHandle → CallbackResult → Work δ τ Unit}
    {told' : Option StreamHandle → CallbackResult → Work δ' τ' Unit}
    (telling : ∀ stream result, Matched (kin.Outputs settled) id (told stream result)
      (told' (stream.map kin.names.stream) result)) (act : Act) :
    Matched (kin.Outputs settled) id (act.performed told) ((act.renamed kin.names).performed told') := by
  have passed : ∀ outcome : Outcome, Matched (kin.Outputs settled) id (pure outcome) (pure outcome) :=
    fun _ => Matched.done
  have completed : ∀ step : Step, Matched (kin.Outputs settled) id
      (do return Outcome.completed (← step.performed told))
      (do return Outcome.completed (← (step.renamed kin.names).performed told')) :=
    fun step => (performed_matched sources telling step).andThen fun _ => passed _
  cases act with
  | xrunCount => exact xrunCount_matched.andThen fun _ => passed _
  | step step =>
      cases step with
      | data request =>
          apply (dataCallback_matched sources request).andThen
          intro answer
          exact (telling request.stream answer.result).andThen fun _ => passed _
      | _ => exact completed _

/-- The kinship of the watched devices, from when they had lived through what is past. -/
def heard (past past' : List DeviceEvent) : Kinship (WatchedDevice δ) (WatchedDevice δ') τ τ' where
  names := kin.names
  device watched watched' :=
    kin.device watched.subject watched'.subject ∧ HeardAlike kin.names past past' watched.events watched'.events
  source := kin.source
  close := kin.close

variable {kin} {past past' : List DeviceEvent}

theorem Apis.heard {api : DeviceApi δ} {api' : DeviceApi δ'} (apis : kin.Apis api api') :
    (kin.heard past past').Apis api.watched api'.watched where
  level := apis.level
  hasTier := apis.hasTier
  farewell := apis.farewell
  resultText code related := apis.resultText code related.1
  stateText code related := apis.stateText code related.1
  answered {device device'} call related := by
    obtain ⟨same, onward⟩ := apis.answered call related.1
    refine ⟨same, onward, ?_⟩
    have next := related.2.next (.answered call (api.respond call device.subject).1)
    simp only [DeviceEvent.renamed, ← same] at next
    exact next

theorem Loaded.heard {found : Except OutputError (DeviceApi δ)} {found' : Except OutputError (DeviceApi δ')}
    (loaded : kin.Loaded found found') :
    (kin.heard past past').Loaded (found.map DeviceApi.watched) (found'.map DeviceApi.watched) := by
  cases loaded with
  | failed => exact .failed
  | loaded apis => exact .loaded apis.heard

theorem Loaders.heard {load : Loader δ} {load' : Loader δ'} (loaders : kin.Loaders load load') :
    (kin.heard past past').Loaders load.watched load'.watched := by
  intro options device device' related
  obtain ⟨lines, result, onward⟩ := loaders options _ _ related.1
  constructor
  · simpa only [Loader.watched, Noted.bind_pure_eq] using lines
  · simpa only [Loader.watched, Noted.bind_pure_eq] using result.heard
  · exact ⟨onward, related.2⟩

theorem Sources.heard [AudioSource τ] [AudioSource τ'] (sources : kin.Sources) : (kin.heard past past').Sources where
  prepared := sources.prepared
  read := sources.read

theorem work_matched [AudioSource τ] [AudioSource τ'] {settled : Prop} (sources : kin.Sources) (act : Act) :
    Matched ((kin.heard past past').Outputs settled) id act.work (act.renamed kin.names).work := by
  have telling : ∀ stream result, Matched ((kin.heard past past').Outputs settled) id
      (modify (Output.witnessing (.calledBack stream result)) : Work (WatchedDevice δ) τ Unit)
      (modify (Output.witnessing (.calledBack (stream.map (kin.heard past past').names.stream) result))) :=
    fun stream result => Matched.change fun output output' outputs =>
      outputs.onDevice ⟨outputs.device.1, outputs.device.2.next (.calledBack stream result)⟩
  exact acted_matched sources.heard telling act

end Kinship

end PcmOutput
