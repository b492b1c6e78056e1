import PcmOutput.Proofs.Kinship.Acts
import PcmOutput.Proofs.Kinship.Overlay

/-!
# Watching changes nothing

An output on a watched device, with a watched source, does what it does without being watched: it comes to the
same results and to the same state, but for what was recorded. So what is proved of the watched outputs holds
of all outputs, and the same goes for drivers.
-/

set_option autoImplicit false

namespace PcmOutput

variable {δ τ : Type}

/-- The kinship of an output and the one that is watched. -/
abbrev Kinship.watching : Kinship δ (WatchedDevice δ) τ (WatchedSource τ) :=
  overlay Watched.subject Watched.subject

theorem Loader.watched_carries (load : Loader δ) :
    Kinship.Carries Watched.subject DeviceApi.watched load load.watched where
  passes _ := ⟨rfl, rfl, rfl, fun _ _ => rfl, fun _ _ => rfl, fun _ _ => rfl, fun _ _ => rfl⟩
  loaded _ _ := rfl
  onward _ _ := rfl

theorem Kinship.watching_sources [AudioSource τ] :
    (watching : Kinship δ (WatchedDevice δ) τ (WatchedSource τ)).Sources where
  prepared format related := congrArg (AudioSource.prepare format) related
  read buffer frames deadline related := by
    cases related
    exact ⟨rfl, rfl, rfl⟩

def Step.unwatched [AudioSource τ] : Step → Work δ τ (Except OutputError Unit) :=
  Step.performed fun _ _ => pure ()

def Output.followingUnwatched [AudioSource τ] (steps : List Step) (output : Output δ τ) : Output δ τ :=
  steps.foldl (fun output step => (step.unwatched.run output).2) output

variable [AudioSource τ] {settled : Prop}

theorem Step.work_matched (step : Step) :
    Matched ((Kinship.watching : Kinship δ _ τ _).Outputs settled) id step.unwatched step.work := by
  have performed := @Kinship.performed_matched δ _ τ _ Kinship.watching settled _ _ Kinship.watching_sources
    (fun _ _ => pure ()) (fun stream result => modify (Output.witnessing (.calledBack stream result)))
    (fun _ _ _ _ outputs => ⟨rfl, outputs.onDevice outputs.device⟩) step
  rwa [show step.renamed (Kinship.watching : Kinship δ _ τ _).names = step from step.renamed_same] at performed

theorem Output.following_watched {output : Output δ τ} {watched : Output (WatchedDevice δ) (WatchedSource τ)}
    (outputs : Kinship.watching.Outputs settled output watched) (steps : List Step) :
    Kinship.watching.Outputs settled (output.followingUnwatched steps) (watched.following steps) := by
  induction steps generalizing output watched with
  | nil => exact outputs
  | cons step rest ih => exact ih (step.work_matched _ _ outputs).2

/-- Whatever the steps before, an output shows the same state and comes to the same result when it is watched. -/
theorem Output.watching_transparent (options : Options) (load : Loader δ) (source : τ) (device : δ)
    (steps : List Step) (step : Step) :
    let watched := (Output.fresh options load source device).following steps
    let output := (Output.create options load source device).followingUnwatched steps
    watched.state = output.state ∧ (step.work.run watched).1 = (step.unwatched.run output).1 ∧
      (step.work.run watched).2.journal = (step.unwatched.run output).2.journal := by
  intro watched output
  have fresh : Kinship.watching.Outputs True (Output.create options load source device)
      (Output.fresh options load source device) :=
    Kinship.overlay_created options (⟨source, []⟩ : WatchedSource τ) (⟨device, []⟩ : WatchedDevice δ)
      load.watched_carries.loaders
  have outputs := Output.following_watched fresh steps
  obtain ⟨same, after⟩ := step.work_matched _ _ outputs
  exact ⟨outputs.state, same, congrArg (fun told => told.2.2.2) (after.told trivial)⟩

/-! ## Drivers -/

/-- Something done to a driver, without anything being seen of it. -/
def Act.unwatched : Act → Handling δ τ Outcome :=
  Act.handled fun _ _ => pure ()

def Act.unwatchedWork : Act → Work δ τ Outcome :=
  Act.performed fun _ _ => pure ()

def Driver.afterUnwatched (acts : List Act) (driver : Driver δ τ) : Driver δ τ :=
  acts.foldl (fun driver act => (act.unwatched.run driver).2) driver

def Output.afterUnwatched (acts : List Act) (output : Output δ τ) : Output δ τ :=
  acts.foldl (fun output act => (act.unwatchedWork.run output).2) output

theorem Act.renamed_same (act : Act) : act.renamed .same = act := by
  cases act with
  | step step => exact congrArg Act.step step.renamed_same
  | xrunCount => rfl

theorem Act.unwatched_refines (act : Act) : Refines (act.unwatched : Handling δ τ Outcome) act.unwatchedWork :=
  act.handled_refines fun _ _ _ _ _ seated => by
    cases seated
    exact ⟨rfl, rfl⟩

theorem Fits.afterUnwatched {driver : Driver δ τ} {output : Output δ τ} (fits : Fits driver output) (acts : List Act) :
    Fits (driver.afterUnwatched acts) (output.afterUnwatched acts) := by
  induction acts generalizing driver output with
  | nil => exact fits
  | cons act rest ih => exact ih (act.unwatched_refines.run fits).2

theorem Act.work_matched (act : Act) :
    Matched ((Kinship.watching : Kinship δ _ τ _).Outputs settled) id act.unwatchedWork act.work := by
  have acted := @Kinship.acted_matched δ _ τ _ _ _ Kinship.watching settled Kinship.watching_sources
    (fun _ _ => pure ()) (fun stream result => modify (Output.witnessing (.calledBack stream result)))
    (fun _ _ _ _ outputs => ⟨rfl, outputs.onDevice outputs.device⟩) act
  rwa [show act.renamed (Kinship.watching : Kinship δ _ τ _).names = act from act.renamed_same] at acted

theorem Output.afterActs_watched {output : Output δ τ} {watched : Output (WatchedDevice δ) (WatchedSource τ)}
    (outputs : Kinship.watching.Outputs settled output watched) (acts : List Act) :
    Kinship.watching.Outputs settled (output.afterUnwatched acts) (watched.afterActs acts) := by
  induction acts generalizing output watched with
  | nil => exact outputs
  | cons act rest ih => exact ih (act.work_matched _ _ outputs).2

/-- Whatever was done before, a driver shows the same and the same comes of what is done when it is watched. -/
theorem Driver.watching_transparent (options : Options) (load : Loader δ) (source : τ) (device : δ)
    (acts : List Act) (act : Act) :
    let watched := (Driver.fresh options load (⟨source, []⟩ : WatchedSource τ) device).afterActs acts
    let driver := (Driver.create options load source device).afterUnwatched acts
    watched.face.map Watched.subject = driver.face ∧ watched.desk.device.subject = driver.desk.device ∧
      (act.handling.run watched).1 = (act.unwatched.run driver).1 := by
  intro watched driver
  have fresh : Kinship.watching.Outputs True (Output.create options load source device)
      (Output.begun options load (⟨source, []⟩ : WatchedSource τ) device) :=
    Kinship.overlay_created options (⟨source, []⟩ : WatchedSource τ) (⟨device, []⟩ : WatchedDevice δ)
      load.watched_carries.loaders
  have outputs := Output.afterActs_watched fresh acts
  have fits' : Fits watched _ := (Driver.fresh_fits options load (⟨source, []⟩ : WatchedSource τ) device).afterActs acts
  have fits : Fits driver _ := (Driver.created_fits options load source device).afterUnwatched acts
  refine ⟨outputs.face fits fits' Watched.subject fun _ _ related => related, ?_, ?_⟩
  · rw [fits.device, fits'.device]
    exact outputs.device
  · rw [(act.handling_refines.run fits').1, (act.unwatched_refines.run fits).1]
    exact (act.work_matched _ _ outputs).1

end PcmOutput
