import PcmOutput.Proofs.Course.Callback
import PcmOutput.Proofs.Driver.Lifecycle

/-!
# A driver answers as an output does

The callbacks of a driver see its context only. That they answer as those of an output do is due to the context
knowing the rate, the bytes of a frame and the source of the session.
-/

set_option autoImplicit false

namespace PcmOutput

variable {δ τ : Type}

namespace Driver

theorem presentedFrames_agrees (session : Session δ τ) (desk : Desk δ) (stream : StreamHandle) (written : Int) :
    Paired (presentedFrames session.context stream written) (PcmOutput.presentedFrames session stream written)
      ((Phase.ready session).driver desk) (desk.occupied (.ready session)) fun result driver result' output =>
        result = result' ∧ ∃ desk missed,
          driver = (Phase.ready { session with timestampMissed := missed }).driver desk ∧
          output = desk.occupied (.ready { session with timestampMissed := missed }) := by
  obtain ⟨api, builder, config, format, deviceBuffer, playback, source, missed⟩ := session
  apply Paired.desk (AtDesk.call api (.timestamp stream ModeCode.monotonicClock)) rfl
  intro stamp desk
  cases stamp with
  | ok stamp => exact ⟨rfl, desk, missed, rfl, rfl⟩
  | error code =>
      cases missed with
      | true => exact ⟨rfl, desk, true, rfl, rfl⟩
      | false =>
          have told := (AtDesk.resultText (τ := τ) api code).andThen fun text =>
            AtDesk.note .debug s!"No presentation timestamp ({text}), assuming zero latency"
          apply Paired.changes
          apply Paired.changesOutput
          rw [← bind_assoc]
          apply Paired.desk told rfl
          intro _ desk
          exact ⟨rfl, desk, true, rfl, rfl⟩

theorem process_agrees [AudioSource τ] (session : Session δ τ) (desk : Desk δ) (stream : StreamHandle)
    (request : DataRequest) :
    Paired (process session.context stream request) (fill session stream request) ((Phase.ready session).driver desk)
      (desk.occupied (.ready session)) Agree := by
  apply Paired.desk (AtDesk.call session.api (.framesWritten stream)) rfl
  intro written desk
  apply (presentedFrames_agrees session desk stream written).andThen
  rintro presented _ _ _ ⟨rfl, desk, missed, rfl, rfl⟩
  apply Paired.changes
  apply Paired.changesOutput
  have ended : ∀ (source : τ) (eof : Bool) (answer : DataAnswer),
      Paired (if eof = true then (do atDesk notifyDrained; return answer) else return answer)
        (if eof = true then (do notifyDrained; return answer) else return answer)
        ((Phase.ready { session with source := source, timestampMissed := missed }).driver desk)
        (desk.occupied (.ready { session with source := source, timestampMissed := missed })) Agree := by
    intro source eof answer
    cases eof with
    | false => exact ⟨rfl, .intro desk (.ready { session with source := source, timestampMissed := missed })⟩
    | true =>
        apply Paired.desk AtDesk.notifyDrained rfl
        intro _ desk
        exact ⟨rfl, .intro desk (.ready { session with source := source, timestampMissed := missed })⟩
  let reading := session.reading request written presented
  exact ended reading.source reading.pull.eof
    ⟨if reading.pull.eof then .stop else .continue, request.buffer.map fun buffer =>
    reading.buffer ++ buffer.drop (session.format.bufferBytes request.frames)⟩

theorem dataCallback_refines [AudioSource τ] (request : DataRequest) :
    Refines (dataCallback request : Handling δ τ DataAnswer) (PcmOutput.dataCallback request) := by
  rintro _ _ ⟨desk, phase⟩
  have lost := Fits.intro desk phase
  obtain ⟨attached, stream, buffer, frames, now⟩ := request
  apply Paired.gets
  apply Paired.reads
  cases attached with
  | false => exact ⟨rfl, lost⟩
  | true =>
      cases stream with
      | none => exact ⟨rfl, lost⟩
      | some stream =>
          cases phase with
          | idle source => exact ⟨rfl, lost⟩
          | ready session => exact process_agrees session desk stream ⟨true, some stream, buffer, frames, now⟩

theorem errorCallback_refines (code : Int) :
    Refines (errorCallback code : Handling δ τ Unit) (PcmOutput.errorCallback code) := by
  rintro _ _ ⟨desk, phase⟩
  apply Paired.gets
  apply Paired.reads
  cases phase with
  | idle source => exact ⟨rfl, .intro desk (.idle source)⟩
  | ready session =>
      have complained := (AtDesk.resultText (τ := τ) session.api code).andThen fun text =>
        (AtDesk.note .error s!"{text}, trying to reload...").andThen fun _ => AtDesk.requestReload
      apply Paired.deskDone complained rfl
      intro _ desk
      exact ⟨rfl, .intro desk (.ready session)⟩

end Driver

end PcmOutput
