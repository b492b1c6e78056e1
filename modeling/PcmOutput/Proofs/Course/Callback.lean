import PcmOutput.Output.Callback
import PcmOutput.Proofs.Course.Session

/-!
# The course of a callback

A data callback asks its stream for two numbers and reads the source once, or does nothing at all. An
error callback asks the owner for another output, and touches neither the device nor the session.
-/

set_option autoImplicit false

namespace PcmOutput

variable {δ τ : Type}

def Mailbox.offered (mailbox : Mailbox) (message : Message) : Mailbox :=
  match mailbox.post message with
  | .ok posted => posted
  | .error _ => mailbox

def presentedBy (written : Int) : Except Int (Int × Int) → Int
  | .ok (position, _) => position
  | .error _ => written

def Session.reading [AudioSource τ] (session : Session δ τ) (request : DataRequest) (written presented : Int) :
    Reading τ :=
  AudioSource.read ((request.buffer.getD []).take (session.format.bufferBytes request.frames)) request.frames.toNat
    (presentationDeadline request.now.nanos request.frames.toNat written presented session.config.sampleRate)
    session.source

structure Filled [AudioSource τ] (request : DataRequest) (session : Session (WatchedDevice δ) τ) (stream : StreamHandle)
    (written : Int) (stamp : Except Int (Int × Int)) (before : Output (WatchedDevice δ) τ) (answer : DataAnswer)
    (after : Output (WatchedDevice δ) τ) : Prop where
  options : after.options = before.options
  load : after.load = before.load
  reloadRequested : after.reloadRequested = before.reloadRequested
  events : after.device.events = before.device.events ++
    [.answered (.framesWritten stream) written, .answered (.timestamp stream ModeCode.monotonicClock) stamp]
  phase : ∃ missed, after.phase = .ready { session with
    source := (session.reading request written (presentedBy written stamp)).source
    timestampMissed := missed }
  drained : after.drained =
    (before.drained || (session.reading request written (presentedBy written stamp)).pull.eof)
  mailbox : after.mailbox =
    if (session.reading request written (presentedBy written stamp)).pull.eof then before.mailbox.offered .drained
    else before.mailbox
  result : answer.result =
    if (session.reading request written (presentedBy written stamp)).pull.eof then .stop else .continue
  buffer : answer.buffer = request.buffer.map fun buffer =>
    (session.reading request written (presentedBy written stamp)).buffer ++
      buffer.drop (session.format.bufferBytes request.frames)

/-- Without the output, a stream or a session there is nothing to read into. -/
def DataRequest.Lost (request : DataRequest) (before : Output (WatchedDevice δ) τ) : Prop :=
  request.attached = false ∨ request.stream = none ∨ ∃ source, before.phase = .idle source

inductive Delivering [AudioSource τ] (request : DataRequest) (before : Output (WatchedDevice δ) τ) :
    DataAnswer → Output (WatchedDevice δ) τ → Prop where
  | lost : request.Lost before → Delivering request before ⟨.stop, request.buffer⟩ before
  | filled {session stream written stamp answer after} : request.attached = true → request.stream = some stream →
      before.phase = .ready session → Filled request session stream written stamp before answer after →
      Delivering request before answer after

/-- An error callback: one message is left for the owner, whatever the number of errors. -/
inductive Complaining (before : Output (WatchedDevice δ) τ) : Output (WatchedDevice δ) τ → Prop where
  | idle {source} : before.phase = .idle source → Complaining before before
  | ready {session journal} : before.phase = .ready session → Complaining before { before with
      reloadRequested := true
      mailbox := if before.reloadRequested then before.mailbox else before.mailbox.offered .reload
      journal := journal }

variable {before : Output (WatchedDevice δ) τ}

theorem post_offers (message : Message) (what : String) :
    Ends (post message what) before fun _ after => ∃ journal,
      after = { before with mailbox := before.mailbox.offered message, journal := journal } := by
  apply Ends.read
  unfold Mailbox.offered
  cases before.mailbox.post message with
  | ok mailbox => exact Ends.change ⟨_, rfl⟩
  | error refusal => exact Ends.change ⟨_, rfl⟩

theorem requestReload_course :
    Ends requestReload before fun _ after => ∃ journal, after = { before with
      reloadRequested := true
      mailbox := if before.reloadRequested then before.mailbox else before.mailbox.offered .reload
      journal := journal } := by
  apply Ends.read
  obtain ⟨options, load, phase, requested, drained, mailbox, journal, device⟩ := before
  cases requested with
  | true => exact Ends.done ⟨journal, rfl⟩
  | false => exact post_offers .reload _

theorem errorCallback_course (code : Int) :
    Ends (errorCallback code) before fun _ after => Complaining before after := by
  apply Ends.read
  cases phase : before.phase with
  | idle source => exact Ends.done (.idle phase)
  | ready session =>
      have asked : ∀ code, Ends (resultText session.api code) before fun _ told => told = before := fun _ => rfl
      apply (asked code).andThen
      intro text told same
      subst same
      have written : ∀ level text, Ends (note level text) told fun _ noted =>
          ∃ journal, noted = { told with journal := journal } := fun _ _ => ⟨_, rfl⟩
      apply (written _ _).andThen
      intro _ noted reached
      obtain ⟨_, same⟩ := reached
      subst same
      apply requestReload_course.weaken
      intro _ after requested
      obtain ⟨journal, same⟩ := requested
      subst same
      exact .ready phase

theorem presentedFrames_course {session : Session (WatchedDevice δ) τ} (reports : session.api.Reports)
    (ready : before.phase = .ready session) (stream : StreamHandle) (written : Int) :
    Ends (presentedFrames session stream written) before fun presented after => ∃ stamp missed,
      presented = presentedBy written stamp ∧
        Kept before [.answered (.timestamp stream ModeCode.monotonicClock) stamp] after ∧
          after.drained = before.drained ∧ after.phase = .ready { session with timestampMissed := missed } := by
  apply (call_dealt reports _ before).andThen
  intro stamp heard asked
  have phase := asked.phase.trans ready
  cases stamp with
  | ok stamp => exact Ends.done ⟨.ok stamp, _, rfl, asked.toKept, asked.drained, phase⟩
  | error code =>
      dsimp only
      split
      · apply (modifySession_kept _ phase).andThen
        intro _ marked changed
        obtain ⟨kept, drained, ready⟩ := changed
        apply (resultText_dealt _ _ marked).andThen
        intro text told quiet
        apply (note_dealt _ _ told).andThen
        intro _ noted silent
        have dealt := quiet.silently silent
        exact Ends.done ⟨.error code, true, rfl, (asked.toKept.silently kept).silently dealt.toKept,
          dealt.drained.trans (drained.trans asked.drained), dealt.phase.trans ready⟩
      · exact Ends.done ⟨.error code, _, rfl, asked.toKept, asked.drained, phase⟩

theorem notifyDrained_course :
    Ends notifyDrained before fun _ after => ∃ journal, after = { before with
      drained := true
      mailbox := before.mailbox.offered .drained
      journal := journal } :=
  post_offers .drained _

theorem fill_course [AudioSource τ] {session : Session (WatchedDevice δ) τ} (reports : session.api.Reports)
    (ready : before.phase = .ready session) (stream : StreamHandle) (request : DataRequest) :
    Ends (fill session stream request) before fun answer after => ∃ written stamp,
      Filled request session stream written stamp before answer after := by
  apply (call_dealt reports _ before).andThen
  intro written heard asked
  refine (presentedFrames_course reports (asked.phase.trans ready) stream written).andThen
    fun presented timed reached => ?_
  obtain ⟨stamp, missed, same, timing, drained, phase⟩ := reached
  subst same
  apply (modifySession_kept _ phase).andThen
  intro _ refilled changed
  obtain ⟨quiet, undrained, ready⟩ := changed
  have kept := (asked.toKept.trans timing).silently quiet
  have held := undrained.trans (drained.trans asked.drained)
  dsimp only
  split
  · rename_i ended
    apply notifyDrained_course.andThen
    intro _ after reached
    obtain ⟨journal, same⟩ := reached
    subst same
    refine Ends.done ⟨written, stamp, kept.options, kept.load, kept.reloadRequested, kept.events, ⟨missed, ready⟩,
      ?_, ?_, (if_pos ended).symm, rfl⟩
    · exact (Bool.or_eq_true_iff.mpr (.inr ended)).symm
    · rw [← kept.mailbox]
      exact (if_pos ended).symm
  · rename_i goesOn
    have unended : (session.reading request written (presentedBy written stamp)).pull.eof = false :=
      eq_false_of_ne_true goesOn
    refine Ends.done ⟨written, stamp, kept.options, kept.load, kept.reloadRequested, kept.events, ⟨missed, ready⟩,
      ?_, ?_, (if_neg goesOn).symm, rfl⟩
    · rw [unended, Bool.or_false]
      exact held
    · exact kept.mailbox.trans (if_neg goesOn).symm

theorem dataCallback_course [AudioSource τ] (reports : before.Reports) (request : DataRequest) :
    Ends (dataCallback request) before fun answer after => Delivering request before answer after := by
  apply Ends.read
  cases attached : request.attached with
  | false => exact Ends.done (.lost (.inl attached))
  | true =>
      cases stream : request.stream with
      | none => exact Ends.done (.lost (.inr (.inl stream)))
      | some stream' =>
          cases phase : before.phase with
          | idle source => exact Ends.done (.lost (.inr (.inr ⟨source, phase⟩)))
          | ready session =>
              apply (fill_course (reports.session _ phase) phase stream' request).weaken
              intro answer after course
              obtain ⟨written, stamp, filled⟩ := course
              exact .filled attached stream phase filled

end PcmOutput
