import PcmOutput.Proofs.Course.Opening

/-!
# The course of a session

A session begins with an initialization, loses its stream at a reset and ends when it is taken down. Each
of the three is told by what passes between the output and its device, and by the phase it leads to.
-/

set_option autoImplicit false

namespace PcmOutput

variable {δ τ : Type}

inductive Closing : Session (WatchedDevice δ) τ → List DeviceEvent → Session (WatchedDevice δ) τ → Prop where
  | already {session} : session.playback = .closed → Closing session [] session
  | closed {session stream code} : session.playback.stream? = some stream →
      Closing session [.answered (.closeStream stream) code] { session with playback := .closed }

inductive Resetting : Phase (WatchedDevice δ) τ → List DeviceEvent → Phase (WatchedDevice δ) τ → Prop where
  | idle {source} : Resetting (.idle source) [] (.idle source)
  | ready {session closing closed} : Closing session closing closed →
      Resetting (.ready session) closing (.ready closed)

/-- The end of a session, if there is one; the source is left. -/
inductive TakingDown : Phase (WatchedDevice δ) τ → List DeviceEvent → τ → Prop where
  | idle {source} : TakingDown (.idle source) [] source
  | ready {session closing closed code} : Closing session closing closed →
      TakingDown (.ready session) (closing ++ [.answered (.deleteBuilder session.builder) code]) session.source

/-- An API was come by, and what to ask of it was agreed on. -/
structure Agreed (load : Loader (WatchedDevice δ)) (options : Options) (request : AudioRequest)
    (api : DeviceApi (WatchedDevice δ)) (config : StreamConfiguration) : Prop where
  loaded : ∃ device, (load options device).1.result = .ok api
  negotiated : (negotiate request options (DeviceCaps.ofApi api)).result = .ok config

/-- The beginning of a session for a source; a failure takes all down that was made. -/
inductive Beginning [AudioSource τ] (load : Loader (WatchedDevice δ)) (options : Options) (request : AudioRequest)
    (source : τ) : List DeviceEvent → Except OutputError Unit → Phase (WatchedDevice δ) τ → Prop where
  | unbound {device cause} : (load options device).1.result = .error cause →
      Beginning load options request source [] (.error cause) (.idle source)
  | disagreed {device api cause} : (load options device).1.result = .ok api →
      (negotiate request options (DeviceCaps.ofApi api)).result = .error cause →
      Beginning load options request source [] (.error cause) (.idle source)
  | builderRefused {api config code text} : Agreed load options request api config →
      Beginning load options request source [.answered .createBuilder (.error code)]
        (.error (.builderRefused text)) (.idle source)
  | unopened {api config builder told opening cause code} : Agreed load options request api config →
      Told (config.channelCall builder :: config.calls builder) told →
      Opening builder config none opening (.error cause) →
      Beginning load options request source
        (.answered .createBuilder (.ok builder) :: (told ++ opening ++ [.answered (.deleteBuilder builder) code]))
        (.error cause) (.idle source)
  | opened {api config builder told opening opened} : Agreed load options request api config →
      Told (config.channelCall builder :: config.calls builder) told →
      Opening builder config none opening (.ok opened) →
      Beginning load options request source (.answered .createBuilder (.ok builder) :: (told ++ opening)) (.ok ())
        (.ready {
          api := api
          builder := builder
          config := config
          format := opened.format
          deviceBuffer := opened.deviceBuffer
          playback := .opened opened.stream
          source := AudioSource.prepare opened.format source
          timestampMissed := false })

def Phase.api? : Phase δ τ → Option (DeviceApi δ)
  | .idle _ => none
  | .ready session => some session.api

theorem Resetting.api? {phase phase' : Phase (WatchedDevice δ) τ} {events : List DeviceEvent}
    (resetting : Resetting phase events phase') : phase'.api? = phase.api? := by
  cases resetting with
  | idle => rfl
  | ready closing => cases closing <;> rfl

theorem Playback.eq_closed_iff {playback : Playback} : playback = .closed ↔ playback.stream? = none := by
  cases playback <;> simp [Playback.stream?]

variable {before : Output (WatchedDevice δ) τ}

theorem modifySession_kept (change : Session (WatchedDevice δ) τ → Session (WatchedDevice δ) τ)
    {session : Session (WatchedDevice δ) τ} (ready : before.phase = .ready session) :
    Ends (modifySession change) before fun _ after =>
      Kept before [] after ∧ after.drained = before.drained ∧ after.phase = .ready (change session) := by
  cases before
  cases ready
  exact Ends.change ⟨⟨rfl, rfl, rfl, rfl, (List.append_nil _).symm⟩, rfl, rfl⟩

theorem setPlayback_kept (playback : Playback) {session : Session (WatchedDevice δ) τ}
    (ready : before.phase = .ready session) :
    Ends (setPlayback playback) before fun _ after =>
      Kept before [] after ∧ after.drained = before.drained ∧
        after.phase = .ready { session with playback := playback } :=
  modifySession_kept _ ready

theorem reset_course (reports : before.Reports) :
    Ends Output.reset before fun _ after => ∃ events, Kept before events after ∧
      after.drained = before.drained ∧ Resetting before.phase events after.phase := by
  apply Ends.read
  cases phase : before.phase with
  | idle source => exact Ends.done ⟨[], Kept.refl, rfl, phase ▸ .idle⟩
  | ready session =>
      dsimp only
      cases streams : session.playback.stream? with
      | none =>
          have closed := Playback.eq_closed_iff.mpr streams
          exact Ends.done ⟨[], Kept.refl, rfl, phase ▸ .ready (.already closed)⟩
      | some stream =>
          apply (closeHandle_course (reports.session _ phase) before).andThen
          intro _ middle reached
          obtain ⟨code, dealt⟩ := reached
          apply (setPlayback_kept .closed (dealt.phase.trans phase)).weaken
          intro _ after reached
          obtain ⟨kept, drained, ready⟩ := reached
          refine ⟨_, dealt.toKept.silently kept, drained.trans dealt.drained, ?_⟩
          rw [ready]
          exact .ready (.closed streams)

theorem releaseApi_dealt (api : DeviceApi (WatchedDevice δ)) :
    Ends (releaseApi api) before fun _ after => Dealt before [] after :=
  ⟨⟨rfl, rfl, rfl, rfl, (List.append_nil _).symm⟩, rfl, rfl⟩

theorem uninit_course (reports : before.Reports) :
    Ends Output.uninit before fun _ after => ∃ events source, Kept before events after ∧
      after.drained = before.drained ∧ after.phase = .idle source ∧ TakingDown before.phase events source := by
  apply (reset_course reports).andThen
  intro _ closed reached
  obtain ⟨closing, kept, drained, resetting⟩ := reached
  apply Ends.read
  generalize beforePhase : before.phase = phase at resetting ⊢
  generalize closedPhase : closed.phase = phase at resetting ⊢
  cases resetting with
  | @idle source => exact Ends.done ⟨_, source, kept, drained, closedPhase, .idle⟩
  | @ready session _ rest closing =>
      have same : rest.api = session.api ∧ rest.builder = session.builder ∧ rest.source = session.source := by
        cases closing <;> exact ⟨rfl, rfl, rfl⟩
      obtain ⟨api, builder, source⟩ := same
      have honest : rest.api.Reports := api ▸ reports.session session beforePhase
      apply (deleteHandle_course honest closed).andThen
      intro _ deleted reached
      obtain ⟨code, dealt⟩ := reached
      have ready := dealt.phase.trans closedPhase
      have left : Ends (modify fun output => { output with phase := .idle output.source }) deleted
          fun _ after => Kept deleted [] after ∧ after.drained = deleted.drained ∧
            after.phase = .idle session.source := by
        refine Ends.change ⟨⟨rfl, rfl, rfl, rfl, (List.append_nil _).symm⟩, rfl, ?_⟩
        simp [Output.source, ready, source]
      apply left.andThen
      intro _ idle reached
      obtain ⟨quiet, undrained, phase⟩ := reached
      apply (releaseApi_dealt rest.api).weaken
      intro _ after released
      refine ⟨_, session.source, ((kept.trans dealt.toKept).silently quiet).silently released.toKept,
        ?_, released.phase.trans phase, ?_⟩
      · rw [released.drained, undrained, dealt.drained, drained]
      · rw [builder]
        exact .ready closing

theorem bindApi_course (reports : before.load.Reports) :
    Ends Output.bindApi.run before fun result after => Dealt before [] after ∧
      ∃ device, result = (before.load before.options device).1.result := by
  apply Ends.readAlways
  dsimp only
  have set : Ends (set { before with device := (before.load before.options before.device).2 } :
      Attempt (WatchedDevice δ) τ Unit).run before
      fun result after => result = .ok () ∧ Dealt before [] after :=
    ⟨rfl, ⟨rfl, rfl, rfl, rfl, (reports.quiet _ _).trans (List.append_nil _).symm⟩, rfl, rfl⟩
  refine Ends.orFail set ?_ ?_
  · intro cause middle reached
    obtain ⟨impossible, _⟩ := reached
    cases impossible
  · intro _ middle reached
    obtain ⟨_, dealt⟩ := reached
    apply (takeOver_dealt _ middle).weaken
    intro result after reached
    obtain ⟨same, quiet⟩ := reached
    exact ⟨dealt.silently quiet, before.device, same⟩

inductive BuilderCreation (request : AudioRequest) (options : Options) (api : DeviceApi (WatchedDevice δ)) :
    List DeviceEvent → Except OutputError (StreamConfiguration × BuilderHandle) → Prop where
  | disagreed {cause} : (negotiate request options (DeviceCaps.ofApi api)).result = .error cause →
      BuilderCreation request options api [] (.error cause)
  | refused {config code text} : (negotiate request options (DeviceCaps.ofApi api)).result = .ok config →
      BuilderCreation request options api [.answered .createBuilder (.error code)] (.error (.builderRefused text))
  | created {config builder} : (negotiate request options (DeviceCaps.ofApi api)).result = .ok config →
      BuilderCreation request options api [.answered .createBuilder (.ok builder)] (.ok (config, builder))

theorem createBuilder_course {api : DeviceApi (WatchedDevice δ)} (reports : api.Reports) (request : AudioRequest) :
    Ends (Output.createBuilder api request).run before fun result after => ∃ events,
      Dealt before events after ∧ BuilderCreation request before.options api events result := by
  apply Ends.readAlways
  refine Ends.orFail (takeOver_dealt _ before) ?_ ?_
  · intro cause after reached
    obtain ⟨disagreed, dealt⟩ := reached
    exact ⟨[], dealt, .disagreed disagreed.symm⟩
  · intro config agreed reached
    obtain ⟨negotiated, quiet⟩ := reached
    apply Ends.always (call_dealt reports _ agreed)
    intro answer heard asked
    cases answer with
    | error code =>
        apply Ends.always (resultText_dealt api code heard)
        intro text after told
        exact Ends.failed ⟨_, (quiet.trans asked).silently told, .refused negotiated.symm⟩
    | ok builder => exact Ends.succeeded ⟨_, quiet.trans asked, .created negotiated.symm⟩

theorem abandonInit_course {takeDown : Work (WatchedDevice δ) τ Unit} {cause : OutputError} {value : Type}
    {given : List DeviceEvent → Prop}
    (ended : ∀ noted, Ends takeDown noted fun _ after => ∃ events, Dealt noted events after ∧ given events) :
    Ends (Output.abandonInit cause takeDown : Attempt (WatchedDevice δ) τ value).run before
      fun result after => result = .error cause ∧ ∃ events, Dealt before events after ∧ given events := by
  apply Ends.always (note_dealt _ _ before)
  intro _ noted quiet
  apply Ends.always (ended noted)
  intro _ after reached
  obtain ⟨events, dealt, given⟩ := reached
  exact Ends.failed ⟨rfl, events, quiet.trans dealt, given⟩

theorem adopt_kept [AudioSource τ] (api : DeviceApi (WatchedDevice δ)) (config : StreamConfiguration)
    (builder : BuilderHandle) (opened : OpenedStream) :
    Ends (Output.adopt api config builder opened) before fun _ after =>
      Kept before [] after ∧ after.drained = before.drained ∧ after.phase = .ready {
        api := api
        builder := builder
        config := config
        format := opened.format
        deviceBuffer := opened.deviceBuffer
        playback := .opened opened.stream
        source := AudioSource.prepare opened.format before.source
        timestampMissed := false } :=
  Ends.change ⟨⟨rfl, rfl, rfl, rfl, (List.append_nil _).symm⟩, rfl, rfl⟩

theorem giveBack_course {api : DeviceApi (WatchedDevice δ)} (reports : api.Reports) (builder : BuilderHandle)
    (before : Output (WatchedDevice δ) τ) :
    Ends (do deleteHandle api builder; releaseApi api) before fun _ after => ∃ events, Dealt before events after ∧
      ∃ code, events = [.answered (.deleteBuilder builder) code] := by
  apply (deleteHandle_course reports before).andThen
  intro _ deleted reached
  obtain ⟨code, dealt⟩ := reached
  apply (releaseApi_dealt api).weaken
  intro _ after released
  exact ⟨_, dealt.silently released, code, rfl⟩

/-- What an initialization does with its builder: a session begins with a stream of it, or it is given back. -/
theorem firstStream_course [AudioSource τ] {load : Loader (WatchedDevice δ)} {options : Options} {request : AudioRequest}
    {source : τ} {api : DeviceApi (WatchedDevice δ)} {config : StreamConfiguration} {builder : BuilderHandle}
    (reports : api.Reports) (agreed : Agreed load options request api config) (idle : before.phase = .idle source) :
    Ends (do
        always (configure api config builder)
        match ← always (openHandle api builder config none).run with
        | .error cause =>
          Output.abandonInit cause do
            deleteHandle api builder
            releaseApi api
        | .ok opened => always (Output.adopt api config builder opened) : Attempt (WatchedDevice δ) τ Unit).run before
      fun result after => ∃ events, Kept before events after ∧ after.drained = before.drained ∧
        Beginning load options request source (.answered .createBuilder (.ok builder) :: events) result after.phase := by
  apply Ends.always (configure_course reports before)
  intro _ configured reached
  obtain ⟨telling, told_dealt, told, -⟩ := reached
  apply Ends.always (openHandle_course reports configured)
  intro result opening reached
  obtain ⟨events, dealt, course⟩ := reached
  have made := told_dealt.trans dealt
  cases result with
  | error cause =>
      apply (abandonInit_course (giveBack_course reports builder)).weaken
      intro _ after reached
      obtain ⟨rfl, _, given, code, rfl⟩ := reached
      have whole := made.trans given
      refine ⟨_, whole.toKept, whole.drained, ?_⟩
      rw [whole.phase, idle]
      exact .unopened agreed told course
  | ok opened =>
      apply Ends.alwaysDone (adopt_kept api config builder opened)
      intro _ after reached
      obtain ⟨adopted, drained, ready⟩ := reached
      have held : opening.source = source := by simp [Output.source, made.phase.trans idle]
      refine ⟨_, made.toKept.silently adopted, drained.trans made.drained, ?_⟩
      rw [ready, held]
      exact .opened agreed told course

theorem init_course [AudioSource τ] (reports : before.Reports) (request : AudioRequest) :
    Ends (Output.init request).run before fun result after => ∃ down source beginning,
      Kept before (down ++ beginning) after ∧ after.drained = before.drained ∧
        TakingDown before.phase down source ∧
          Beginning before.load before.options request source beginning result after.phase := by
  apply Ends.always (uninit_course reports)
  intro _ idle reached
  obtain ⟨down, source, down_kept, undrained, phase, taken⟩ := reached
  have loader : idle.load.Reports := down_kept.load ▸ reports.loader
  apply Ends.always (bindApi_course loader)
  intro result bound reached
  obtain ⟨binding, device, rfl⟩ := reached
  rw [← down_kept.load, ← down_kept.options]
  -- What is left to show of every failure: the device was given back what it had given out.
  have abandoned : ∀ {cause after events}, Dealt idle events after →
      Beginning idle.load idle.options request source events (.error cause) (.idle source) →
      ∃ down source beginning, Kept before (down ++ beginning) after ∧ after.drained = before.drained ∧
        TakingDown before.phase down source ∧
          Beginning idle.load idle.options request source beginning (.error cause) after.phase := by
    intro cause after events dealt beginning
    refine ⟨down, source, events, down_kept.trans dealt.toKept, dealt.drained.trans undrained, taken, ?_⟩
    rwa [dealt.phase, phase]
  cases loaded : (idle.load idle.options device).1.result with
  | error cause =>
      have nothing : ∀ noted, Ends (pure ()) noted fun _ (after : Output (WatchedDevice δ) τ) =>
          ∃ events, Dealt noted events after ∧ events = [] :=
        fun noted => Ends.done ⟨[], Dealt.refl, rfl⟩
      apply (abandonInit_course nothing).weaken
      intro _ after reached
      obtain ⟨rfl, _, dealt, rfl⟩ := reached
      exact abandoned (binding.trans dealt) (.unbound loaded)
  | ok api =>
      have honest := loader.reports _ _ _ loaded
      apply Ends.always (createBuilder_course honest request)
      intro result settled reached
      obtain ⟨creating, created, creation⟩ := reached
      rw [binding.options] at creation
      have letGo : ∀ noted, Ends (releaseApi api) noted fun _ (after : Output (WatchedDevice δ) τ) =>
          ∃ events, Dealt noted events after ∧ events = [] :=
        fun noted => (releaseApi_dealt api).weaken fun _ _ dealt => ⟨[], dealt, rfl⟩
      cases creation with
      | disagreed disagreed =>
          apply (abandonInit_course letGo).weaken
          intro _ after reached
          obtain ⟨rfl, _, dealt, rfl⟩ := reached
          exact abandoned ((binding.trans created).trans dealt) (.disagreed loaded disagreed)
      | refused negotiated =>
          apply (abandonInit_course letGo).weaken
          intro _ after reached
          obtain ⟨rfl, _, dealt, rfl⟩ := reached
          exact abandoned ((binding.trans created).trans dealt) (.builderRefused ⟨⟨device, loaded⟩, negotiated⟩)
      | @created config builder negotiated =>
          have made := binding.trans created
          have agreed : Agreed idle.load idle.options request api config := ⟨⟨device, loaded⟩, negotiated⟩
          apply (firstStream_course honest agreed (made.phase.trans phase)).weaken
          intro result after reached
          obtain ⟨events, kept, drained, beginning⟩ := reached
          exact ⟨down, source, _, down_kept.trans (made.toKept.trans kept), drained.trans (made.drained.trans undrained),
            taken, beginning⟩

end PcmOutput
