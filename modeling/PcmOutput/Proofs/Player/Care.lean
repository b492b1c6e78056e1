import PcmOutput.Proofs.Driver.Custody
import PcmOutput.Proofs.Player.Conduct

/-!
# A source in good care

In a performance a source is told a format once at most, and is read after that. Nothing else happens to it on its way
through the output, and it is given back as it was left. So what these uses keep true of a source is true of the source
that comes out of a performance.
-/

set_option autoImplicit false

namespace PcmOutput

variable {δ τ first : Type}

/-! ## Work that leaves the phase alone -/

def KeepsPhase (work : Work δ τ first) : Prop :=
  ∀ before, Ends work before fun _ after => after.phase = before.phase

theorem AtDesk.keepsPhase {work : Work δ τ first} {work' : Work δ Unit first} (same : AtDesk work work') :
    KeepsPhase work := by
  intro before
  let desk : Desk δ := ⟨before.options, before.load, .idle (), before.reloadRequested, before.drained, before.mailbox,
    before.journal, before.device⟩
  have ran := same.run desk before.phase
  exact congrArg (fun ended => ended.2.phase) ran

theorem AtDesk.acceptable (api : DeviceApi δ) (config : StreamConfiguration) (stream : StreamHandle)
    (earlier : Option StreamFormat) :
    AtDesk (ExceptT.run do
        let layout ← PcmOutput.grantedLayout api config stream
        ExceptT.mk (pure (requireLayout layout earlier))
        return layout : Work δ τ (Except OutputError ChannelMap))
      (ExceptT.run do
        let layout ← PcmOutput.grantedLayout api config stream
        ExceptT.mk (pure (requireLayout layout earlier))
        return layout) :=
  fun phase => (Seated.serves api phase).acceptable config stream earlier

theorem openHandle_rate (api : DeviceApi δ) (builder : BuilderHandle) (config : StreamConfiguration)
    (earlier : Option StreamFormat) (before : Output δ τ) :
    Ends (openHandle api builder config earlier).run before fun result after =>
      after.phase = before.phase ∧ ∀ opened, result = .ok opened → opened.format.sampleRate = config.sampleRate := by
  apply Ends.always ((AtDesk.call api _).keepsPhase before)
  intro answer asked phase
  cases answer with
  | error code =>
      apply Ends.always ((AtDesk.resultText api code).keepsPhase asked)
      intro text after same
      exact Ends.failed ⟨same.trans phase, nofun⟩
  | ok stream =>
      apply Ends.always ((AtDesk.acceptable api config stream earlier).keepsPhase asked)
      intro acceptable checked same
      cases acceptable with
      | error cause =>
          apply Ends.always ((AtDesk.closeHandle api stream).keepsPhase checked)
          intro _ after closed
          exact Ends.failed ⟨closed.trans (same.trans phase), nofun⟩
      | ok layout =>
          apply Ends.always ((AtDesk.call api _).keepsPhase checked)
          intro capacity sized second
          apply Ends.always ((AtDesk.call api _).keepsPhase sized)
          intro rate rated third
          apply Ends.perhapsAlways ((AtDesk.note _ _).keepsPhase rated) rfl
          intro warned fourth
          apply Ends.always ((AtDesk.call api _).keepsPhase warned)
          intro code coded fifth
          apply Ends.always ((AtDesk.call api _).keepsPhase coded)
          intro burst counted sixth
          apply Ends.always ((AtDesk.note _ _).keepsPhase counted)
          intro _ after seventh
          refine Ends.succeeded ⟨?_, ?_⟩
          · rw [seventh, sixth, fifth, fourth, third, second, same, phase]
          · intro opened same
            cases same
            rfl

/-! ## What is true of a source in every phase -/

/-- What is true of a source that is not in use stays true when it is told a format of the rate, read, and given back. -/
structure Care [AudioSource τ] (rate : Nat) (idle ready : τ → Prop) : Prop where
  prepared : ∀ format source, format.sampleRate = rate → idle source → ready (AudioSource.prepare format source)
  read : ∀ buffer frames deadline source, ready source → ready (AudioSource.read buffer frames deadline source).source
  returned : ∀ source, ready source → idle source

def Phase.Tended (idle ready : τ → Prop) : Phase δ τ → Prop
  | .idle source => idle source
  | .ready session => ready session.source

def Output.Tended (idle ready : τ → Prop) (output : Output δ τ) : Prop :=
  output.phase.Tended idle ready

variable {idle ready : τ → Prop} {before : Output δ τ}

theorem KeepsPhase.tended {work : Work δ τ first} (keeps : KeepsPhase work) (tended : before.Tended idle ready) :
    Ends work before fun _ after => after.Tended idle ready := by
  apply (keeps before).weaken
  intro _ after same
  unfold Output.Tended
  rwa [same]

theorem modifySession_tended {change : Session δ τ → Session δ τ} (tended : before.Tended idle ready)
    (keeps : ∀ session, before.phase = .ready session → ready session.source → ready (change session).source) :
    Ends (modifySession change) before fun _ after => after.Tended idle ready := by
  apply Ends.change
  unfold Output.Tended at tended
  cases phase : before.phase with
  | idle source =>
      rw [phase] at tended
      simpa [Output.Tended, phase] using tended
  | ready session =>
      rw [phase] at tended
      exact keeps session phase tended

theorem setPlayback_tended (playback : Playback) (tended : before.Tended idle ready) :
    Ends (setPlayback playback) before fun _ after => after.Tended idle ready :=
  modifySession_tended tended fun _ _ cared => cared

namespace Output

theorem reset_tended (tended : before.Tended idle ready) :
    Ends reset before fun _ after => after.Tended idle ready := by
  apply Ends.read
  cases before.phase with
  | idle source => exact Ends.done tended
  | ready session =>
      dsimp only
      cases session.playback.stream? with
      | none => exact Ends.done tended
      | some stream =>
          apply ((AtDesk.closeHandle session.api stream).keepsPhase.tended tended).andThen
          intro _ closed cared
          exact setPlayback_tended .closed cared

theorem abandonInit_keepsPhase {value : Type} (cause : OutputError) {takeDown : Work δ τ Unit}
    (keeps : KeepsPhase takeDown) : KeepsPhase (abandonInit cause takeDown : Attempt δ τ value).run := by
  intro before
  apply Ends.always ((AtDesk.note _ _).keepsPhase before)
  intro _ noted first
  apply Ends.always (keeps noted)
  intro _ after second
  exact Ends.failed (second.trans first)

variable [AudioSource τ] {rate : Nat}

theorem uninit_tended (care : Care rate idle ready) (tended : before.Tended idle ready) :
    Ends uninit before fun _ after => ∃ source, after.phase = .idle source ∧ idle source := by
  apply (reset_tended tended).andThen
  intro _ closed cared
  apply Ends.read
  unfold Output.Tended at cared
  cases phase : closed.phase with
  | idle source =>
      rw [phase] at cared
      exact Ends.done ⟨source, phase, cared⟩
  | ready session =>
      rw [phase] at cared
      apply ((AtDesk.deleteHandle session.api session.builder).keepsPhase closed).andThen
      intro _ deleted same
      have idle : Ends (modify fun output => { output with phase := .idle output.source }) deleted fun _ left =>
          ∃ source, left.phase = .idle source ∧ idle source := by
        refine Ends.change ⟨_, rfl, ?_⟩
        unfold Output.source
        rw [same, phase]
        exact care.returned _ cared
      apply idle.andThen
      intro _ left given
      apply ((AtDesk.releaseApi session.api).keepsPhase left).weaken
      intro _ after same
      rwa [same]

/-- A session that begins tells the source its format; an initialization that fails leaves the source alone. -/
theorem init_tended (request : AudioRequest) (care : Care request.sampleRate idle ready)
    (tended : before.Tended idle ready) :
    Ends (init request).run before fun _ after => after.Tended idle ready := by
  apply Ends.always (uninit_tended care tended)
  intro _ down given
  obtain ⟨source, phase, cared⟩ := given
  -- Up to the adoption nothing reaches the phase, so that wherever this gives up the source is the one given back.
  have unheld : ∀ {after : Output δ τ}, after.phase = down.phase → after.Tended idle ready := by
    intro after same
    unfold Output.Tended
    rw [same, phase]
    exact cared
  apply Ends.always (AtDesk.bindApi.keepsPhase down)
  intro result bound first
  cases result with
  | error cause =>
      have nothing : KeepsPhase (pure () : Work δ τ Unit) := fun _ => rfl
      apply (abandonInit_keepsPhase cause nothing bound).weaken
      intro _ after second
      exact unheld (second.trans first)
  | ok api =>
      have made : Ends (createBuilder api request).run bound fun result after => after.phase = bound.phase ∧
          ∀ config builder, result = .ok (config, builder) → config.sampleRate = request.sampleRate :=
        ⟨(AtDesk.createBuilder api request).keepsPhase bound, fun _ _ created => Driver.createBuilder_sampleRate created⟩
      apply Ends.always made
      intro result settled reached
      obtain ⟨second, agreed⟩ := reached
      cases result with
      | error cause =>
          apply (abandonInit_keepsPhase cause (AtDesk.releaseApi api).keepsPhase settled).weaken
          intro _ after third
          exact unheld (third.trans (second.trans first))
      | ok made =>
          obtain ⟨config, builder⟩ := made
          apply Ends.always ((AtDesk.configure api config builder).keepsPhase settled)
          intro _ configured third
          apply Ends.always (openHandle_rate api builder config none configured)
          intro result opening reached
          obtain ⟨fourth, rated⟩ := reached
          have unchanged : opening.phase = down.phase := fourth.trans (third.trans (second.trans first))
          cases result with
          | error cause =>
              have givenBack : AtDesk (do deleteHandle api builder; releaseApi api : Work δ τ Unit)
                  (do deleteHandle api builder; releaseApi api) :=
                (AtDesk.deleteHandle api builder).andThen fun _ => AtDesk.releaseApi api
              apply (abandonInit_keepsPhase cause givenBack.keepsPhase opening).weaken
              intro _ after fifth
              exact unheld (fifth.trans unchanged)
          | ok opened =>
              have adopted : Ends (adopt api config builder opened) opening fun _ after => after.Tended idle ready := by
                refine Ends.change (care.prepared opened.format opening.source ?_ ?_)
                · exact (rated opened rfl).trans (agreed config builder rfl)
                · unfold Output.source
                  rw [unchanged, phase]
                  exact cared
              exact Ends.alwaysDone adopted fun _ _ cared => cared

/-! ## Starting -/

omit [AudioSource τ] in
theorem settleDrain_tended (tended : before.Tended idle ready) :
    Ends settleDrain before fun _ after => after.Tended idle ready := by
  have cleared : ∀ {output : Output δ τ}, output.Tended idle ready →
      Ends (modify fun output => { output with drained := false }) output fun _ after => after.Tended idle ready :=
    fun cared => Ends.change cared
  apply Ends.read
  cases before.playback with
  | started stream =>
      cases before.drained with
      | false => exact cleared tended
      | true =>
          apply ((AtDesk.note _ _).keepsPhase.tended tended).andThen
          intro _ noted cared
          apply (setPlayback_tended (.opened stream) cared).andThen
          intro _ stopped cared
          exact cleared cared
  | _ => exact cleared tended

omit [AudioSource τ] in
theorem reopen_tended (session : Session δ τ) (tended : before.Tended idle ready) :
    Ends (reopen session).run before fun _ after => after.Tended idle ready := by
  have opening : KeepsPhase (openHandle session.api session.builder session.config (some session.format) :
      Attempt δ τ OpenedStream).run :=
    fun before => (openHandle_rate _ _ _ _ before).1
  apply Ends.always (opening.tended tended)
  intro result tried cared
  cases result with
  | error cause =>
      apply Ends.always ((AtDesk.note _ _).keepsPhase.tended cared)
      intro _ after cared
      exact Ends.failed cared
  | ok opened =>
      have adopted : Ends (modifySession fun session => { session with
            format := opened.format
            deviceBuffer := opened.deviceBuffer
            playback := .opened opened.stream }) tried fun _ after => after.Tended idle ready :=
        modifySession_tended cared fun _ _ owned => owned
      apply Ends.always adopted
      intro _ after cared
      exact Ends.succeeded cared

omit [AudioSource τ] in
theorem confirm_keepsPhase (api : DeviceApi δ) (stream : StreamHandle) (transition : Transition) (timeoutNanos : Int)
    (waits : Nat) : KeepsPhase (confirm api stream transition timeoutNanos waits : Attempt δ τ Unit).run := by
  have same : AtDesk (confirm api stream transition timeoutNanos waits : Attempt δ τ Unit).run
      (confirm api stream transition timeoutNanos waits).run := by
    intro phase
    rw [← Except.map_id]
    exact (Seated.serves api phase).confirm stream transition timeoutNanos waits
  exact same.keepsPhase

variable {meanwhile : Work δ τ Unit}

omit [AudioSource τ] in
theorem bring_tended (session : Session δ τ) (stream : StreamHandle) (transition : Transition)
    (caring : ∀ before : Output δ τ, before.Tended idle ready →
      Ends meanwhile before fun _ after => after.Tended idle ready)
    (tended : before.Tended idle ready) :
    Ends (bring session stream transition meanwhile).run before fun _ after => after.Tended idle ready := by
  apply Ends.readAlways
  have brought : Ends (transit session.api stream transition before.options.stateTimeoutNanos meanwhile).run before
      fun _ after => after.Tended idle ready := by
    apply Ends.always ((AtDesk.call session.api _).keepsPhase.tended tended)
    intro code asked cared
    split
    · apply Ends.always (caring asked cared)
      intro _ called cared
      exact (confirm_keepsPhase session.api stream transition _ _).tended cared
    · apply Ends.always ((AtDesk.resultText session.api _).keepsPhase.tended cared)
      intro text after cared
      exact Ends.failed cared
  apply Ends.always brought
  intro result tried cared
  cases result with
  | error cause =>
      apply Ends.always ((AtDesk.note _ _).keepsPhase.tended cared)
      intro _ after cared
      exact Ends.failed cared
  | ok => exact Ends.succeeded cared

omit [AudioSource τ] in
theorem startMeanwhile_tended
    (caring : ∀ before : Output δ τ, before.Tended idle ready →
      Ends meanwhile before fun _ after => after.Tended idle ready)
    (tended : before.Tended idle ready) :
    Ends (startMeanwhile meanwhile).run before fun _ after => after.Tended idle ready := by
  apply Ends.always (settleDrain_tended tended)
  intro _ settled cared
  apply Ends.readAlways
  cases settled.phase with
  | idle source => exact Ends.failed cared
  | ready session =>
      have started : ∀ (stream : StreamHandle) (opened : Output δ τ), opened.Tended idle ready →
          Ends (do
            bring session stream .start meanwhile
            always (setPlayback (.started stream)) : Attempt δ τ Unit).run opened
            fun _ after => after.Tended idle ready := by
        intro stream opened cared
        apply (bring_tended session stream .start caring cared).orFail
        · intro cause after cared
          exact cared
        · intro _ brought cared
          exact Ends.alwaysDone (setPlayback_tended _ cared) fun _ _ cared => cared
      dsimp only
      cases session.playback with
      | started stream => exact Ends.succeeded cared
      | opened stream | paused stream => exact started stream settled cared
      | closed =>
          apply (reopen_tended session cared).orFail
          · intro cause after cared
            exact cared
          · intro stream opened cared
            exact started stream opened cared

end Output

/-! ## Callbacks -/

theorem presentedFrames_tended (session : Session δ τ) (stream : StreamHandle) (written : Int)
    (tended : before.Tended idle ready) :
    Ends (presentedFrames session stream written) before fun _ after => after.Tended idle ready := by
  apply ((AtDesk.call session.api (.timestamp stream ModeCode.monotonicClock)).keepsPhase.tended tended).andThen
  intro stamp asked cared
  cases stamp with
  | ok => exact Ends.done cared
  | error code =>
      dsimp only
      split
      · have marked : Ends (modifySession fun session => { session with timestampMissed := true }) asked
            fun _ after => after.Tended idle ready :=
          modifySession_tended cared fun _ _ owned => owned
        apply marked.andThen
        intro _ missed cared
        apply ((AtDesk.resultText session.api code).keepsPhase.tended cared).andThen
        intro text told cared
        apply ((AtDesk.note _ _).keepsPhase.tended cared).andThen
        intro _ noted cared
        exact Ends.done cared
      · exact Ends.done cared

variable [AudioSource τ] {rate : Nat}

theorem fill_tended (care : Care rate idle ready) {session : Session δ τ} (owned : ready session.source)
    (stream : StreamHandle) (request : DataRequest) (tended : before.Tended idle ready) :
    Ends (fill session stream request) before fun _ after => after.Tended idle ready := by
  apply ((AtDesk.call session.api (.framesWritten stream)).keepsPhase.tended tended).andThen
  intro written asked cared
  apply (presentedFrames_tended session stream written cared).andThen
  intro presented heard cared
  -- The session that is read is the one that the callback began with; only its source is put back.
  have reread : ∀ source, ready source → Ends (modifySession fun session => { session with source := source }) heard
      fun _ after => after.Tended idle ready :=
    fun source kept => modifySession_tended cared fun _ _ _ => kept
  apply (reread _ (care.read _ _ _ _ owned)).andThen
  intro _ read cared
  dsimp only
  split
  · apply (AtDesk.notifyDrained.keepsPhase.tended cared).andThen
    intro _ notified cared
    exact Ends.done cared
  · exact Ends.done cared

theorem dataCallback_tended (care : Care rate idle ready) (request : DataRequest) (tended : before.Tended idle ready) :
    Ends (dataCallback request) before fun _ after => after.Tended idle ready := by
  apply Ends.read
  split
  · rename_i stream session _ _ phase
    have owned : ready session.source := by
      unfold Output.Tended at tended
      rwa [phase] at tended
    exact fill_tended care owned stream request tended
  · exact Ends.done tended

omit [AudioSource τ] in
theorem errorCallback_tended (code : Int) (tended : before.Tended idle ready) :
    Ends (errorCallback code) before fun _ after => after.Tended idle ready := by
  apply Ends.read
  cases before.phase with
  | idle source => exact Ends.done tended
  | ready session =>
      apply ((AtDesk.resultText session.api code).keepsPhase.tended tended).andThen
      intro text told cared
      apply ((AtDesk.note _ _).keepsPhase.tended cared).andThen
      intro _ noted cared
      exact AtDesk.requestReload.keepsPhase.tended cared

namespace Player

theorem Conduct.tended (care : Care rate idle ready) (content : τ → Tone) (conduct : Conduct δ)
    (before : Output δ τ) (tended : before.Tended idle ready) :
    Ends (conduct.work content) before fun _ after => after.Tended idle ready := by
  induction conduct generalizing before with
  | rest => exact Ends.done tended
  | data request next ih =>
      apply (dataCallback_tended care request tended).andThen
      intro answer filled cared
      exact ih answer filled cared
  | error code next ih =>
      apply (errorCallback_tended code tended).andThen
      intro _ reported cared
      exact ih reported cared
  | look next ih => exact Ends.read (ih _ _ _ before tended)
  | change step next ih =>
      have changed : Ends (modify fun output => { output with device := step output.device }) before
          fun _ after => after.Tended idle ready := Ends.change tended
      apply changed.andThen
      intro _ after cared
      exact ih after cared

/-! ## Performances -/

/-- The source that a performance gives back, if it does. -/
def PerformanceEnd.source? : PerformanceEnd τ → Option τ
  | .finished source | .reload source => some source
  | .failed _ | .crashed => none

variable {request : AudioRequest}

omit [AudioSource τ] in
theorem announce_keepsPhase : KeepsPhase (announce : Work δ τ Unit) := by
  intro before
  apply Ends.read
  cases before.streamFormat? with
  | none => exact Ends.done rfl
  | some format => exact (AtDesk.note _ _).keepsPhase before

theorem intoSource_tended (care : Care rate idle ready) (tended : before.Tended idle ready)
    {ending : τ → PerformanceEnd τ} (gives : ∀ source, (ending source).source? = some source) :
    Ends (do let source ← Output.intoSource; return ending source) before fun ended after =>
      idle after.source ∧ ∀ source ∈ ended.source?, source = after.source := by
  have returned : Ends Output.intoSource before fun source after => after.source = source ∧ idle source := by
    apply (Output.uninit_tended care tended).andThen
    intro _ down given
    obtain ⟨source, phase, cared⟩ := given
    refine Ends.read (Ends.done ⟨rfl, ?_⟩)
    rwa [down.source_eq, phase]
  apply returned.andThen
  intro source after given
  obtain ⟨left, cared⟩ := given
  refine Ends.done ⟨left ▸ cared, ?_⟩
  intro other back
  rw [gives source, Option.mem_some_iff] at back
  rw [left, back]

theorem conclude_tended (care : Care rate idle ready) (venue : Venue δ) (content : τ → Tone) (waitable : Bool)
    (tended : before.Tended idle ready) :
    Ends (conclude (venue.host content) waitable) before fun ended after =>
      idle after.source ∧ ∀ source ∈ ended.source?, source = after.source := by
  unfold conclude
  split
  · refine Ends.done ⟨?_, nofun⟩
    rw [before.source_eq]
    unfold Output.Tended at tended
    cases phase : before.phase with
    | idle source => rwa [phase] at tended
    | ready session =>
        rw [phase] at tended
        exact care.returned _ tended
  · apply (venue.playing.tended care content before tended).andThen
    intro _ played cared
    apply Ends.read
    split
    · exact intoSource_tended care cared fun _ => rfl
    · exact intoSource_tended care cared fun _ => rfl
    · apply ((AtDesk.note _ _).keepsPhase.tended cared).andThen
      intro _ noted cared
      exact intoSource_tended care cared fun _ => rfl

/-- However a performance goes, the source is in good care at its end, and if one is given back it is this source. -/
theorem performance_tended (care : Care request.sampleRate idle ready) (venue : Venue δ) (content : τ → Tone)
    (waitable : Bool) (tended : before.Tended idle ready) :
    Ends (performance (venue.host content) request waitable) before fun ended after =>
      idle after.source ∧ ∀ source ∈ ended.source?, source = after.source := by
  have begun : Ends (begin (venue.host content) request).run before fun _ after => after.Tended idle ready := by
    apply (Output.init_tended request care tended).orFail
    · intro cause after cared
      exact cared
    · intro _ ready cared
      apply Ends.always (announce_keepsPhase.tended cared)
      intro _ announced cared
      exact Output.startMeanwhile_tended (venue.starting.tended care content) cared
  apply begun.andThen
  intro result started cared
  cases result with
  | error cause =>
      apply (Output.uninit_tended care cared).andThen
      intro _ down given
      obtain ⟨source, phase, cared⟩ := given
      refine Ends.done ⟨?_, nofun⟩
      rwa [down.source_eq, phase]
  | ok => exact conclude_tended care venue content waitable cared

end Player

end PcmOutput
