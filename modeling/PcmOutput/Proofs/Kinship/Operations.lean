import PcmOutput.Proofs.Kinship.Outputs

/-!
# The operations of kin outputs

Each operation of the owner and each callback, begun with kin outputs, comes to the same result and leaves the
outputs kin. A start and a pause settle the end of the source first, and so bring the flags for it together.
-/

set_option autoImplicit false

namespace PcmOutput

variable {δ δ' τ τ' : Type} {kin : Kinship δ δ' τ τ'} {settled : Prop}

/-! ## What work comes to that has no relation to keep -/

theorem takeOver_run {first : Type} (work : Noted first) (before : Output δ τ) :
    (takeOver work).run.run before = (work.result, before.noted work.lines) := by
  obtain ⟨lines, result⟩ := work
  cases result <;> rfl

theorem bindApi_run (before : Output δ τ) :
    Output.bindApi.run.run before =
      let (loaded, device) := before.load before.options before.device
      (loaded.result, { before with device := device }.noted loaded.lines) :=
  takeOver_run (before.load before.options before.device).1
    { before with device := (before.load before.options before.device).2 }

/-- What a message does to the mailbox and to the journal. -/
def Message.delivered (message : Message) (what : String) (mailbox : Mailbox) (journal : List Line) :
    Mailbox × List Line :=
  match mailbox.post message with
  | .ok posted => (posted, journal)
  | .error refusal => (mailbox, journal ++ [⟨.warning, s!"{what} not delivered: {refusal.message}"⟩])

theorem post_run (message : Message) (what : String) (before : Output δ τ) :
    (post message what).run before = ((), { before with
      mailbox := (message.delivered what before.mailbox before.journal).1
      journal := (message.delivered what before.mailbox before.journal).2 }) := by
  unfold post Message.delivered
  simp only [StateT.run_bind, StateT.run_get, pure_bind]
  cases before.mailbox.post message <;> rfl

theorem requestReload_run (before : Output δ τ) :
    requestReload.run before = ((), { before with
      reloadRequested := true
      mailbox := if before.reloadRequested then before.mailbox
        else (Message.reload.delivered "Reload request" before.mailbox before.journal).1
      journal := if before.reloadRequested then before.journal
        else (Message.reload.delivered "Reload request" before.mailbox before.journal).2 }) := by
  obtain ⟨options, load, phase, requested, drained, mailbox, journal, device⟩ := before
  cases requested with
  | true => rfl
  | false => exact post_run .reload "Reload request" ⟨options, load, phase, true, drained, mailbox, journal, device⟩

/-! ## Operations -/

namespace Kinship

theorem reset_matched : Matched (kin.Outputs settled) id Output.reset Output.reset := by
  refine Matched.read fun output output' outputs => ?_
  have phases := outputs.phases
  generalize output.phase = phase, output'.phase = phase' at phases
  cases phases with
  | idle => exact Matched.done
  | @ready session session' sessions =>
      simp only [sessions.playback, Renaming.playback_stream?]
      cases session.playback.stream? with
      | none => exact Matched.done
      | some stream =>
          exact ((sessions.apis.serves settled).closeHandle stream).andThen fun _ =>
            setPlayback_matched .closed nofun

theorem uninit_matched : Matched (kin.Outputs settled) id Output.uninit Output.uninit := by
  apply reset_matched.andThen
  intro _
  refine Matched.read fun output output' outputs => ?_
  have phases := outputs.phases
  generalize output.phase = phase, output'.phase = phase' at phases
  cases phases with
  | idle => exact Matched.done
  | @ready session session' sessions =>
      simp only [sessions.builder]
      apply ((sessions.apis.serves settled).deleteHandle session.builder).andThen
      intro _
      have left : Matched (kin.Outputs settled) id
          (modify fun output : Output δ τ => { output with phase := .idle output.source })
          (modify fun output : Output δ' τ' => { output with phase := .idle output.source }) :=
        Matched.change fun _ _ outputs => outputs.entering (.idle outputs.source) nofun
      exact left.andThen fun _ => releaseApi_matched sessions.apis

theorem createBuilder_matched {api : DeviceApi δ} {api' : DeviceApi δ'} (apis : kin.Apis api api')
    (request : AudioRequest) :
    Matched (kin.Outputs settled) (Except.map (Prod.map id kin.names.builder)) (Output.createBuilder api request).run
      (Output.createBuilder api' request).run := by
  refine Matched.readAlways fun output output' outputs => ?_
  rw [outputs.options, apis.caps]
  have serves := apis.serves settled
  apply (serves.takeOver _).orFail
  intro config
  apply (serves.call .createBuilder nofun).always
  intro answer
  cases answer with
  | error code => exact (serves.callResult code).always fun text => Matched.failed
  | ok builder => exact Matched.succeeded

theorem note_matched (level : Level) (text : String) :
    Matched (kin.Outputs settled) id (note level text) (note level text) :=
  Matched.change fun _ _ outputs => outputs.noted [⟨level, text⟩]

theorem abandonInit_matched {first first' : Type} {rule : first → first'} (cause : OutputError)
    {takeDown : Work δ τ Unit} {takeDown' : Work δ' τ' Unit}
    (ended : Matched (kin.Outputs settled) id takeDown takeDown') :
    Matched (kin.Outputs settled) (Except.map rule) (Output.abandonInit cause takeDown : Attempt δ τ first).run
      (Output.abandonInit cause takeDown' : Attempt δ' τ' first').run := by
  apply (note_matched _ _).always
  intro _
  exact ended.always fun _ => Matched.failed

theorem adopt_matched [AudioSource τ] [AudioSource τ'] (sources : kin.Sources) {api : DeviceApi δ}
    {api' : DeviceApi δ'} (apis : kin.Apis api api') (config : StreamConfiguration) (builder : BuilderHandle)
    (opened : OpenedStream) :
    Matched (kin.Outputs settled) id (Output.adopt api config builder opened)
      (Output.adopt api' config (kin.names.builder builder) (kin.names.opened opened)) := by
  refine Matched.change fun output output' outputs => outputs.entering (.ready ?_) nofun
  exact ⟨apis, rfl, rfl, rfl, rfl, rfl, sources.prepared opened.format outputs.source, rfl⟩

/-- The two loaders find APIs that are kin, or fail for the same cause. -/
theorem bindApi_matched {rule : Except OutputError Unit → Except OutputError Unit}
    {next : Except OutputError (DeviceApi δ) → Attempt δ τ Unit}
    {next' : Except OutputError (DeviceApi δ') → Attempt δ' τ' Unit}
    (goesOn : ∀ result result', kin.Loaded result result' →
      Matched (kin.Outputs settled) rule (next result).run (next' result').run) :
    Matched (kin.Outputs settled) rule (always Output.bindApi.run >>= next).run
      (always Output.bindApi.run >>= next').run := by
  intro output output' outputs
  have loading := outputs.loaders output.options _ _ outputs.device
  have bound := (outputs.onDevice loading.device).noted (output.load output.options output.device).1.lines
  have onward := goesOn _ _ loading.result _ _ bound
  have ran : (Output.bindApi.run.run output') =
      ((output'.load output.options output'.device).1.result,
        { output' with device := (output'.load output.options output'.device).2 }.noted
          (output.load output.options output.device).1.lines) := by
    rw [bindApi_run, outputs.options, ← loading.lines]
  change (StateT.run (next' (Output.bindApi.run.run output').1).run (Output.bindApi.run.run output').2).1 =
      rule (StateT.run (next (Output.bindApi.run.run output).1).run (Output.bindApi.run.run output).2).1 ∧
    kin.Outputs settled (StateT.run (next (Output.bindApi.run.run output).1).run (Output.bindApi.run.run output).2).2
      (StateT.run (next' (Output.bindApi.run.run output').1).run (Output.bindApi.run.run output').2).2
  rw [ran, bindApi_run]
  exact onward

theorem init_matched [AudioSource τ] [AudioSource τ'] (sources : kin.Sources) (request : AudioRequest) :
    Matched (kin.Outputs settled) (Except.map id) (Output.init request).run (Output.init request).run := by
  apply uninit_matched.always
  intro _
  apply bindApi_matched
  intro result result' loaded
  cases loaded with
  | failed => exact abandonInit_matched _ Matched.done
  | @loaded api api' apis =>
      have serves := apis.serves settled
      apply (createBuilder_matched apis request).always
      intro result
      cases result with
      | error cause => exact abandonInit_matched cause (releaseApi_matched apis)
      | ok created =>
          obtain ⟨config, builder⟩ := created
          apply (serves.configure config builder).always
          intro _
          apply (serves.openHandle builder config none).always
          intro result
          cases result with
          | error cause =>
              exact abandonInit_matched cause ((serves.deleteHandle builder).andThen fun _ => releaseApi_matched apis)
          | ok opened => exact (adopt_matched sources apis config builder opened).alwaysDone

/-- What an output learns of the end of its source, it learns on both sides; the flags are down after it. -/
theorem settleDrain_settles {output : Output δ τ} {output' : Output δ' τ'}
    (outputs : kin.Outputs settled output output') :
    kin.Outputs True (Output.settleDrain.run output).2 (Output.settleDrain.run output').2 := by
  have cleared : ∀ {output : Output δ τ} {output' : Output δ' τ'}, kin.Outputs settled output output' →
      kin.Outputs True { output with drained := false } { output' with drained := false } := by
    intro output output' outputs
    refine { outputs with drained := fun _ => rfl, told := fun closely => ?_ }
    have told := outputs.told closely
    simp only [Output.told, Prod.mk.injEq, true_and] at told ⊢
    exact told.2
  unfold Output.settleDrain
  simp only [StateT.run_bind, StateT.run_get, pure_bind, outputs.playback]
  cases playback : output.playback with
  | started stream =>
      have heeded := outputs.drained (.inr (output.heeds_of_started playback))
      have unstarted : (Playback.opened stream).state = .started → settled := by
        intro started
        cases started
      have stopped : Matched (kin.Outputs settled) id
          (do note .debug "Stream stopped at end of stream"; setPlayback (.opened stream))
          (do note .debug "Stream stopped at end of stream"; setPlayback (.opened (kin.names.stream stream))) :=
        (note_matched _ _).andThen fun _ => setPlayback_matched (.opened stream) unstarted
      simp only [Renaming.playback, heeded]
      cases output.drained with
      | false => exact cleared outputs
      | true => exact cleared (stopped _ _ outputs).2
  | _ => exact cleared outputs

theorem bring_matched {session : Session δ τ} {session' : Session δ' τ'} (sessions : kin.Sessions session session')
    (stream : StreamHandle) (transition : Transition) {meanwhile : Work δ τ Unit} {meanwhile' : Work δ' τ' Unit}
    (meanwhiles : Matched (kin.Outputs settled) id meanwhile meanwhile') :
    Matched (kin.Outputs settled) (Except.map id) (Output.bring session stream transition meanwhile).run
      (Output.bring session' (kin.names.stream stream) transition meanwhile').run := by
  refine Matched.readAlways fun output output' outputs => ?_
  rw [outputs.options]
  apply ((sessions.apis.serves settled).transitMeanwhile stream transition _ meanwhiles).always
  intro result
  cases result with
  | error cause => exact (note_matched _ _).always fun _ => Matched.failed
  | ok => exact Matched.succeeded

theorem reopen_matched {session : Session δ τ} {session' : Session δ' τ'} (sessions : kin.Sessions session session') :
    Matched (kin.Outputs settled) (Except.map kin.names.stream) (Output.reopen session).run
      (Output.reopen session').run := by
  unfold Output.reopen
  rw [sessions.builder, sessions.config, sessions.format]
  apply ((sessions.apis.serves settled).openHandle session.builder session.config (some session.format)).always
  intro result
  cases result with
  | error cause => exact (note_matched _ _).always fun _ => Matched.failed
  | ok opened =>
      refine Matched.always (modifySession_matched (fun _ _ sessions => ?_) fun _ => nofun) fun _ => Matched.succeeded
      exact { sessions with format := rfl, deviceBuffer := rfl, playback := rfl }

/-- What follows on settling the end of the source finds the same flag on both sides. -/
theorem settleDrain_matched {rule : Except OutputError Unit → Except OutputError Unit} {next : Unit → Attempt δ τ Unit}
    {next' : Unit → Attempt δ' τ' Unit} (goesOn : Matched (kin.Outputs True) rule (next ()).run (next' ()).run) :
    Matched (kin.Outputs settled) rule (always Output.settleDrain >>= next).run
      (always Output.settleDrain >>= next').run := by
  intro output output' outputs
  obtain ⟨same, kept⟩ := goesOn _ _ (settleDrain_settles outputs)
  exact ⟨same, kept.relax fun _ => trivial⟩

/-- What happens while a stream starts happens after the end of the source was settled. -/
theorem startMeanwhile_matched {meanwhile : Work δ τ Unit} {meanwhile' : Work δ' τ' Unit}
    (meanwhiles : Matched (kin.Outputs True) id meanwhile meanwhile') :
    Matched (kin.Outputs settled) (Except.map id) (Output.startMeanwhile meanwhile).run
      (Output.startMeanwhile meanwhile').run := by
  apply settleDrain_matched
  refine Matched.readAlways fun output output' outputs => ?_
  have phases := outputs.phases
  generalize output.phase = phase, output'.phase = phase' at phases
  cases phases with
  | idle => exact Matched.failed
  | @ready session session' sessions =>
      -- A stream may be started on both sides, as the flags for the end of the source are the same by now.
      have brought : ∀ stream, Matched (kin.Outputs True) (Except.map id)
          (do
            Output.bring session stream .start meanwhile
            always (setPlayback (.started stream)) : Attempt δ τ Unit).run
          (do
            Output.bring session' (kin.names.stream stream) .start meanwhile'
            always (setPlayback (.started (kin.names.stream stream))) : Attempt δ' τ' Unit).run :=
        fun stream => (bring_matched sessions stream .start meanwhiles).orFail fun _ =>
          (setPlayback_matched (.started stream) fun _ => trivial).alwaysDone
      simp only [sessions.playback]
      cases session.playback with
      | started stream => exact Matched.succeeded
      | opened stream | paused stream => exact brought stream
      | closed => exact (reopen_matched sessions).orFail brought

theorem start_matched : Matched (kin.Outputs settled) (Except.map id) Output.start.run Output.start.run :=
  startMeanwhile_matched Matched.done

theorem setPause_matched (paused : Bool) :
    Matched (kin.Outputs settled) (Except.map id) (Output.setPause paused).run (Output.setPause paused).run := by
  apply settleDrain_matched
  refine Matched.readAlways fun output output' outputs => ?_
  have phases := outputs.phases
  generalize output.phase = phase, output'.phase = phase' at phases
  cases phases with
  | idle => exact Matched.failed
  | @ready session session' sessions =>
      simp only [sessions.playback]
      cases session.playback with
      | closed => exact Matched.failed
      | opened stream =>
          cases paused with
          | true => exact (setPlayback_matched (.paused stream) nofun).alwaysDone
          | false => exact start_matched
      | paused stream =>
          cases paused with
          | true => exact Matched.succeeded
          | false => exact start_matched
      | started stream =>
          cases paused with
          | true =>
              exact (bring_matched sessions stream .pause Matched.done).orFail fun _ =>
                (setPlayback_matched (.paused stream) nofun).alwaysDone
          | false => exact Matched.succeeded

theorem post_matched (message : Message) (what : String) :
    Matched (kin.Outputs settled) id (post message what) (post message what) := by
  intro output output' outputs
  rw [post_run, post_run]
  refine ⟨rfl, outputs.telling fun closely => ?_⟩
  have told := outputs.told closely
  simp only [Output.told, Prod.mk.injEq] at told
  obtain ⟨_, requested, mailbox, journal⟩ := told
  rw [mailbox, journal]
  exact ⟨requested, rfl, rfl⟩

theorem requestReload_matched : Matched (kin.Outputs settled) id requestReload requestReload := by
  intro output output' outputs
  rw [requestReload_run, requestReload_run]
  refine ⟨rfl, outputs.telling fun closely => ?_⟩
  have told := outputs.told closely
  simp only [Output.told, Prod.mk.injEq] at told
  obtain ⟨_, requested, mailbox, journal⟩ := told
  rw [requested, mailbox, journal]
  exact ⟨rfl, rfl, rfl⟩

theorem notifyDrained_matched : Matched (kin.Outputs settled) id notifyDrained notifyDrained := by
  have raised : Matched (kin.Outputs settled) id (modify fun output : Output δ τ => { output with drained := true })
      (modify fun output : Output δ' τ' => { output with drained := true }) := by
    refine Matched.change fun output output' outputs =>
      { outputs with drained := fun _ => rfl, told := fun closely => ?_ }
    have told := outputs.told closely
    simp only [Output.told, Prod.mk.injEq, true_and] at told ⊢
    exact told.2
  exact raised.andThen fun _ => post_matched _ _

theorem presentedFrames_matched {session : Session δ τ} {session' : Session δ' τ'}
    (sessions : kin.Sessions session session') (stream : StreamHandle) (written : Int) :
    Matched (kin.Outputs settled) id (presentedFrames session stream written)
      (presentedFrames session' (kin.names.stream stream) written) := by
  have serves := sessions.apis.serves settled
  apply (serves.call (.timestamp stream ModeCode.monotonicClock) nofun).andThen
  intro stamp
  cases stamp with
  | ok stamp => exact Matched.done
  | error code =>
      dsimp only [Renaming.answer]
      rw [sessions.timestampMissed]
      split
      · refine Matched.andThen (modifySession_matched (fun _ _ sessions => ?_) fun _ heeded => .inr heeded) fun _ => ?_
        · exact { sessions with timestampMissed := rfl }
        · apply (serves.callResult code).andThen
          intro text
          exact (serves.note _ _).andThen fun _ => Matched.done
      · exact Matched.done

theorem fill_matched [AudioSource τ] [AudioSource τ'] (sources : kin.Sources) {session : Session δ τ}
    {session' : Session δ' τ'} (sessions : kin.Sessions session session') (stream : StreamHandle)
    (request : DataRequest) :
    Matched (kin.Outputs settled) id (fill session stream request)
      (fill session' (kin.names.stream stream) request) := by
  have serves := sessions.apis.serves settled
  unfold fill
  rw [sessions.format, sessions.config]
  apply (serves.call (.framesWritten stream) nofun).andThen
  intro written
  apply (presentedFrames_matched sessions stream written).andThen
  intro presented
  dsimp only [Renaming.answer, id]
  obtain ⟨buffer, pull, source⟩ :=
    sources.read ((request.buffer.getD []).take (session.format.bufferBytes request.frames))
    request.frames.toNat (presentationDeadline request.now.nanos request.frames.toNat written presented
      session.config.sampleRate) sessions.source
  refine Matched.andThen (modifySession_matched (fun _ _ sessions => ?_) fun _ heeded => .inr heeded) fun _ => ?_
  · exact { sessions with source := source }
  · rw [pull, buffer]
    split
    · exact notifyDrained_matched.andThen fun _ => Matched.done
    · exact Matched.done

end Kinship

/-- The same request, with the stream by another name. -/
def DataRequest.renamed (names : Renaming) (request : DataRequest) : DataRequest :=
  { request with stream := request.stream.map names.stream }

namespace Kinship

theorem dataCallback_matched [AudioSource τ] [AudioSource τ'] (sources : kin.Sources) (request : DataRequest) :
    Matched (kin.Outputs settled) id (dataCallback request) (dataCallback (request.renamed kin.names)) := by
  refine Matched.read fun output output' outputs => ?_
  have phases := outputs.phases
  obtain ⟨attached, stream, buffer, frames, now⟩ := request
  generalize output.phase = phase, output'.phase = phase' at phases
  cases attached with
  | false => exact Matched.done
  | true =>
      cases stream with
      | none => exact Matched.done
      | some stream =>
          cases phases with
          | idle => exact Matched.done
          | ready sessions => exact fill_matched sources sessions stream ⟨true, some stream, buffer, frames, now⟩

theorem errorCallback_matched (code : Int) :
    Matched (kin.Outputs settled) id (errorCallback code) (errorCallback code) := by
  refine Matched.read fun output output' outputs => ?_
  have phases := outputs.phases
  generalize output.phase = phase, output'.phase = phase' at phases
  cases phases with
  | idle => exact Matched.done
  | ready sessions =>
      apply ((sessions.apis.serves settled).callResult code).andThen
      intro text
      exact (note_matched _ _).andThen fun _ => requestReload_matched

end Kinship

end PcmOutput
