import PcmOutput.Proofs.Kinship.Operations
import PcmOutput.Proofs.Run

/-!
# The runs of kin outputs

Taken through the same steps, with the streams of the callbacks by their other names, kin outputs come to the
same results and show the same to their owners.
-/

set_option autoImplicit false

namespace PcmOutput

variable {δ δ' τ τ' : Type}

def Step.renamed (names : Renaming) : Step → Step
  | .data request => .data (request.renamed names)
  | step => step

theorem Step.renamed_same (step : Step) : step.renamed .same = step := by
  cases step with
  | data request => simp [Step.renamed, DataRequest.renamed, Renaming.same]
  | _ => rfl

namespace Kinship

variable {kin : Kinship δ δ' τ τ'} {settled : Prop}

/-- What is done to the mailbox by its owner is done to the same mailbox, if the owners are told the same. -/
theorem mailbox_matched (change : Mailbox → Mailbox) :
    Matched (kin.Outputs settled) id (modify fun output => { output with mailbox := change output.mailbox })
      (modify fun output => { output with mailbox := change output.mailbox }) := by
  refine Matched.change fun output output' outputs => outputs.telling fun closely => ?_
  have told := outputs.told closely
  simp only [Output.told, Prod.mk.injEq] at told
  exact ⟨told.2.1, by rw [told.2.2.1], told.2.2.2⟩

theorem xrunCount_matched : Matched (kin.Outputs settled) id Output.xrunCount Output.xrunCount := by
  refine Matched.read fun output output' outputs => ?_
  have phases := outputs.phases
  generalize output.phase = phase, output'.phase = phase' at phases
  cases phases with
  | idle => exact Matched.done
  | @ready session session' sessions =>
      simp only [sessions.playback, Renaming.playback_stream?]
      cases session.playback.stream? with
      | none => exact Matched.done
      | some stream =>
          exact ((sessions.apis.serves settled).call (.query stream .xrunCount) nofun).andThen fun _ => Matched.done

theorem performed_matched [AudioSource τ] [AudioSource τ'] (sources : kin.Sources)
    {told : Option StreamHandle → CallbackResult → Work δ τ Unit}
    {told' : Option StreamHandle → CallbackResult → Work δ' τ' Unit}
    (telling : ∀ stream result, Matched (kin.Outputs settled) id (told stream result)
      (told' (stream.map kin.names.stream) result)) (step : Step) :
    Matched (kin.Outputs settled) id (step.performed told) ((step.renamed kin.names).performed told') := by
  cases step with
  | init request =>
      rw [← Except.map_id]
      exact init_matched sources request
  | start =>
      rw [← Except.map_id]
      exact start_matched
  | setPause paused =>
      rw [← Except.map_id]
      exact setPause_matched paused
  | reset => exact reset_matched.andThen fun _ => Matched.done
  | uninit => exact uninit_matched.andThen fun _ => Matched.done
  | data request =>
      apply (dataCallback_matched sources request).andThen
      intro answer
      exact (telling request.stream answer.result).andThen fun _ => Matched.done
  | error code => exact (errorCallback_matched code).andThen fun _ => Matched.done
  | collect => exact (mailbox_matched fun mailbox => mailbox.collect.2).andThen fun _ => Matched.done
  | abandon => exact (mailbox_matched Mailbox.abandon).andThen fun _ => Matched.done

namespace Outputs

variable {output : Output δ τ} {output' : Output δ' τ'}

theorem state (outputs : kin.Outputs settled output output') : output'.state = output.state := by
  unfold Output.state
  rw [outputs.playback, Renaming.playback_state]
  cases playback : output.playback with
  | started stream =>
      simp only [Playback.state, outputs.drained (.inr (output.heeds_of_started playback))]
  | _ => rfl

theorem isOpen (outputs : kin.Outputs settled output output') : output'.isOpen = output.isOpen := by
  simp [Output.isOpen, outputs.playback, Renaming.playback_stream?]

/-- What is kept of a session without naming a handle is the same. -/
theorem session {value : Type} (outputs : kin.Outputs settled output output') {look : Session δ τ → value}
    {look' : Session δ' τ' → value}
    (same : ∀ session session', kin.Sessions session session' → look' session' = look session) :
    output'.session?.map look' = output.session?.map look := by
  have phases := outputs.phases
  unfold Output.session?
  generalize output.phase = phase, output'.phase = phase' at phases
  cases phases with
  | idle => rfl
  | ready sessions => exact congrArg some (same _ _ sessions)

theorem streamFormat? (outputs : kin.Outputs settled output output') : output'.streamFormat? = output.streamFormat? :=
  outputs.session fun _ _ sessions => sessions.format

theorem deviceBuffer (outputs : kin.Outputs settled output output') : output'.deviceBuffer = output.deviceBuffer :=
  congrArg (·.getD 0) (outputs.session fun _ _ sessions => sessions.deviceBuffer)

theorem apiLevel? (outputs : kin.Outputs settled output output') : output'.apiLevel? = output.apiLevel? :=
  outputs.session fun _ _ sessions => sessions.apis.level

end Outputs

end Kinship

end PcmOutput
