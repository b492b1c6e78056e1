import PcmOutput.ChannelMap.Layouts
import PcmOutput.Proofs.Transparency

/-!
# The channels of an open stream

A device tells how many channels a stream has as soon as it is open. An output that asked for channels by their count
asks the device, and plays as many as it tells. An output that asked by a mask plays the layout of the mask, and the
device is not asked at all.
-/

set_option autoImplicit false

namespace PcmOutput

variable {δ τ : Type}

/-- A device that keeps, for every stream, how many channels it would have told for it when it was opened. -/
structure Announced (δ : Type) where
  subject : δ
  channels : StreamHandle → Int := fun _ => 0

/-- What is kept after a call that left the device as it is now. -/
def DeviceApi.announced (api : DeviceApi δ) (device : δ) (channels : StreamHandle → Int) :
    (call : Call) → call.Answer → StreamHandle → Int
  | .openStream _, .ok stream => fun other =>
    if other = stream then (api.respond (.query stream .channelCount) device).1 else channels other
  | _, _ => channels

def DeviceApi.announcing (api : DeviceApi δ) : DeviceApi (Announced δ) where
  level := api.level
  hasTier := api.hasTier
  resultText device code := api.resultText device.subject code
  stateText device code := api.stateText device.subject code
  respond call device :=
    let (answer, subject) := api.respond call device.subject
    (answer, ⟨subject, api.announced subject device.channels call answer⟩)
  farewell := api.farewell

def Loader.announcing (load : Loader δ) : Loader (Announced δ) := fun options device =>
  let (loaded, subject) := load options device.subject
  let announcing := loaded >>= fun api => pure api.announcing
  (announcing, { device with subject := subject })

theorem Loader.announcing_carries (load : Loader δ) :
    Kinship.Carries Announced.subject DeviceApi.announcing load load.announcing where
  passes _ := ⟨rfl, rfl, rfl, fun _ _ => rfl, fun _ _ => rfl, fun _ _ => rfl, fun _ _ => rfl⟩
  loaded _ _ := rfl
  onward _ _ := rfl

/-! ## Devices that announce -/

/-- What is kept of a stream changes only when it is opened, and is then what the device tells when it is asked. -/
structure DeviceApi.Announces (api : DeviceApi (Announced δ)) : Prop where
  keeps : ∀ call device, call.opens = false → (api.respond call device).2.channels = device.channels
  opened : ∀ builder device stream, (api.respond (.openStream builder) device).1 = .ok stream →
    let after := (api.respond (.openStream builder) device).2
    (api.respond (.query stream .channelCount) after).1 = after.channels stream

theorem DeviceApi.announcing_announces (api : DeviceApi δ) : api.announcing.Announces where
  keeps call device quiet := by
    cases call with
    | openStream => cases quiet
    | _ => rfl
  opened builder device stream opened := by
    have given : (api.respond (.openStream builder) device.subject).1 = .ok stream := opened
    simp [announcing, announced, given]

structure Loader.Announces (load : Loader (Announced δ)) : Prop where
  keeps : ∀ options device, (load options device).2.channels = device.channels
  announces : ∀ options device api, (load options device).1.result = .ok api → api.Announces

theorem Loader.announcing_announces (load : Loader δ) : load.announcing.Announces where
  keeps _ _ := rfl
  announces options device api loaded := by
    change ((load options device.subject).1 >>= fun api => pure api.announcing).result = .ok api at loaded
    rw [Noted.bind_pure_eq] at loaded
    cases found : (load options device.subject).1.result with
    | error cause => simp [found, Except.map] at loaded
    | ok bare =>
        have same : bare.announcing = api := by simpa [found, Except.map] using loaded
        exact same ▸ bare.announcing_announces

/-! ## What leaves the channels alone -/

/-- Nothing was opened, and the output is in the phase that it was in. -/
structure Still (before after : Output (Announced δ) τ) : Prop where
  phase : after.phase = before.phase
  load : after.load = before.load
  channels : after.device.channels = before.device.channels

theorem Still.refl {before : Output (Announced δ) τ} : Still before before :=
  ⟨rfl, rfl, rfl⟩

theorem Still.trans {before middle after : Output (Announced δ) τ} (earlier : Still before middle)
    (later : Still middle after) : Still before after :=
  ⟨later.phase.trans earlier.phase, later.load.trans earlier.load, later.channels.trans earlier.channels⟩

variable {api : DeviceApi (Announced δ)} {before after : Output (Announced δ) τ}

theorem DeviceApi.Announces.serves (announces : api.Announces) (before : Output (Announced δ) τ) :
    Serves .same false api api fun output output' => output' = output ∧ Still before output where
  answered {output output'} call opening related := by
    obtain ⟨rfl, still⟩ := related
    have quiet : call.opens = false := by
      cases opens : call.opens with
      | false => rfl
      | true => cases opening opens
    refine ⟨Renaming.same_answer (fun call => (api.respond call output'.device).1) call, ?_, ?_⟩
    · rw [Renaming.same_call]
    · exact still.trans ⟨rfl, rfl, announces.keeps call output'.device quiet⟩
  resultText code related := by rw [related.1]
  stateText code related := by rw [related.1]
  noted lines related := by
    obtain ⟨rfl, still⟩ := related
    exact ⟨rfl, still.trans ⟨rfl, rfl, rfl⟩⟩

theorem Matched.still {first : Type} {rule : first → first} {work work' : Work (Announced δ) τ first}
    (matched : Matched (fun output output' => output' = output ∧ Still before output) rule work work') :
    Ends work before fun _ after => Still before after :=
  (matched before before ⟨rfl, .refl⟩).2.2

theorem note_still (level : Level) (text : String) : Ends (note level text) before fun _ after => Still before after :=
  ⟨rfl, rfl, rfl⟩

theorem change_still {rule : Output (Announced δ) τ → Output (Announced δ) τ} (still : Still before (rule before)) :
    Ends (modify rule) before fun _ after => Still before after :=
  still

/-! ## Openings -/

theorem ChannelMap.ofCount?_size {count : Int} {layout : ChannelMap} (found : ofCount? count = some layout) :
    (layout.size : Int) = count := by
  have sized : ∀ index < byCount.length, ∀ layout ∈ (byCount[index]?).join, layout.size = index := by
    decide
  cases count with
  | negSucc => cases found
  | ofNat index =>
      rw [sized index ?_ layout found]
      · rfl
      · apply Nat.lt_of_not_le
        intro beyond
        simp [ofCount?, List.getElem?_eq_none beyond] at found

/-- The layout is that of the mask, or has as many channels as the device told. -/
def ChannelRequest.Tells (channels : ChannelRequest) (layout : ChannelMap) (told : Int) : Prop :=
  match channels with
  | .mask asked _ => layout = asked
  | .count _ => (layout.size : Int) = told

variable {config : StreamConfiguration} {stream : StreamHandle}

theorem grantedLayout_tells (announces : api.Announces)
    (told : (api.respond (.query stream .channelCount) before.device).1 = before.device.channels stream) :
    Ends (grantedLayout api config stream).run before fun result after => Still before after ∧
      ∀ layout, result = .ok layout → config.channels.Tells layout (before.device.channels stream) := by
  unfold grantedLayout
  split
  · rename_i asked mask masked
    refine Ends.succeeded ⟨.refl, ?_⟩
    rintro _ ⟨⟩
    simp [masked, ChannelRequest.Tells]
  · rename_i asked counted
    have queried : Ends (call api (.query stream .channelCount)) before fun count after =>
        count = before.device.channels stream ∧ Still before after :=
      ⟨told, rfl, rfl, announces.keeps _ _ rfl⟩
    apply Ends.always queried
    rintro _ heard ⟨rfl, still⟩
    split
    · rename_i layout known
      refine Ends.succeeded ⟨still, ?_⟩
      rintro _ ⟨⟩
      simpa [counted, ChannelRequest.Tells] using ChannelMap.ofCount?_size known
    · refine Ends.failed ⟨still, ?_⟩
      rintro _ ⟨⟩

variable {earlier : Option StreamFormat} {builder : BuilderHandle}

private theorem acceptable_tells (announces : api.Announces)
    (told : (api.respond (.query stream .channelCount) before.device).1 = before.device.channels stream) :
    Ends (ExceptT.run do
        let layout ← grantedLayout api config stream
        ExceptT.mk (pure (requireLayout layout earlier))
        return layout) before fun result after => Still before after ∧
      ∀ layout, result = .ok layout → config.channels.Tells layout (before.device.channels stream) := by
  refine Ends.orFail (grantedLayout_tells announces told) ?_ ?_
  · intro cause after reached
    exact ⟨reached.1, nofun⟩
  · intro layout after reached
    obtain ⟨still, tells⟩ := reached
    have checked : Ends (ExceptT.mk (pure (requireLayout layout earlier)) : Attempt (Announced δ) τ Unit).run after
        fun _ same => same = after := rfl
    refine Ends.orFail checked ?_ ?_
    · rintro cause _ rfl
      exact ⟨still, nofun⟩
    · rintro _ _ rfl
      refine Ends.succeeded ⟨still, ?_⟩
      rintro _ ⟨⟩
      exact tells layout rfl

theorem openHandle_tells (announces : api.Announces) (before : Output (Announced δ) τ) :
    Ends (openHandle api builder config earlier).run before fun result after =>
      after.phase = before.phase ∧ after.load = before.load ∧ ∀ opened, result = .ok opened →
        config.channels.Tells opened.format.channels (after.device.channels opened.stream) := by
  have asked : Ends (call api (.openStream builder)) before fun answer heard =>
      heard.phase = before.phase ∧ heard.load = before.load ∧ ∀ stream, answer = .ok stream →
        (api.respond (.query stream .channelCount) heard.device).1 = heard.device.channels stream :=
    ⟨rfl, rfl, announces.opened builder before.device⟩
  apply Ends.always asked
  intro answer heard reached
  obtain ⟨phase, load, told⟩ := reached
  cases answer with
  | error code =>
      apply Ends.always ((announces.serves heard).callResult code).still
      intro text after still
      exact Ends.failed ⟨still.phase.trans phase, still.load.trans load, nofun⟩
  | ok stream =>
      apply Ends.always (acceptable_tells announces (told stream rfl))
      intro result middle reached
      obtain ⟨still, tells⟩ := reached
      cases result with
      | error cause =>
          apply Ends.always ((announces.serves middle).closeHandle stream).still
          intro _ after closed
          have still := still.trans closed
          exact Ends.failed ⟨still.phase.trans phase, still.load.trans load, nofun⟩
      | ok layout =>
          apply Ends.always ((announces.serves middle).call (.query stream .bufferCapacity) nofun).still
          intro capacity sized first
          apply Ends.always ((announces.serves sized).call (.query stream .sampleRate) nofun).still
          intro rate rated second
          apply Ends.perhapsAlways (note_still _ _) Still.refl
          intro warned third
          apply Ends.always ((announces.serves warned).call (.query stream .format) nofun).still
          intro code coded fourth
          apply Ends.always ((announces.serves coded).call (.query stream .framesPerBurst) nofun).still
          intro burst counted fifth
          apply Ends.always (note_still _ _)
          intro _ after sixth
          have whole := still.trans (first.trans (second.trans (third.trans (fourth.trans (fifth.trans sixth)))))
          refine Ends.succeeded ⟨whole.phase.trans phase, whole.load.trans load, ?_⟩
          rintro _ ⟨⟩
          rw [whole.channels]
          exact tells layout rfl

/-! ## Operations -/

structure Session.Sized (session : Session (Announced δ) τ) (channels : StreamHandle → Int) : Prop where
  announces : session.api.Announces
  tells : ∀ stream, session.playback.stream? = some stream →
    session.config.channels.Tells session.format.channels (channels stream)

/-- Whatever stream is open has the channels that it is to have. -/
structure Output.Sized (output : Output (Announced δ) τ) : Prop where
  loader : output.load.Announces
  session : ∀ session, output.phase = .ready session → session.Sized output.device.channels

theorem Output.Sized.still (sized : before.Sized) (still : Still before after) : after.Sized where
  loader := still.load ▸ sized.loader
  session session ready := by
    rw [still.channels]
    exact sized.session session (still.phase ▸ ready)

/-- A session may change in whatever has nothing to do with its channels, and may lose its stream. -/
theorem modifySession_sized {change : Session (Announced δ) τ → Session (Announced δ) τ} (sized : before.Sized)
    (keeps : ∀ session, before.phase = .ready session → session.Sized before.device.channels →
      (change session).Sized before.device.channels) :
    Ends (modifySession change) before fun _ after => after.Sized := by
  refine Ends.change ⟨?_, ?_⟩
  · cases before.phase <;> exact sized.loader
  · cases phase : before.phase with
    | idle source =>
        intro session ready
        cases phase.symm.trans ready
    | ready session =>
        rintro _ ⟨⟩
        exact keeps session phase (sized.session session phase)

theorem setPlayback_sized {playback : Playback} (sized : before.Sized)
    (same : ∀ session stream, before.phase = .ready session → playback.stream? = some stream →
      session.playback.stream? = some stream) :
    Ends (setPlayback playback) before fun _ after => after.Sized :=
  modifySession_sized sized fun session ready held =>
    ⟨held.announces, fun stream open_ => held.tells stream (same session stream ready open_)⟩

theorem reset_sized (sized : before.Sized) : Ends Output.reset before fun _ after => after.Sized := by
  apply Ends.read
  cases phase : before.phase with
  | idle source => exact Ends.done sized
  | ready session =>
      dsimp only
      cases session.playback.stream? with
      | none => exact Ends.done sized
      | some stream =>
          have announces := (sized.session session phase).announces
          apply ((announces.serves before).closeHandle stream).still.andThen
          intro _ closed still
          refine setPlayback_sized (sized.still still) ?_
          intro _ _ _ reopened
          cases reopened

theorem uninit_idle (sized : before.Sized) :
    Ends Output.uninit before fun _ after => after.load.Announces ∧ ∃ source, after.phase = .idle source := by
  apply (reset_sized sized).andThen
  intro _ closed sized
  apply Ends.read
  cases phase : closed.phase with
  | idle source => exact Ends.done ⟨sized.loader, source, phase⟩
  | ready session =>
      have announces := (sized.session session phase).announces
      apply ((announces.serves closed).deleteHandle session.builder).still.andThen
      intro _ deleted still
      have idle : Ends (modify fun output => { output with phase := .idle output.source }) deleted fun _ left =>
          left.load.Announces ∧ ∃ source, left.phase = .idle source :=
        ⟨still.load ▸ sized.loader, _, rfl⟩
      apply idle.andThen
      intro _ left reached
      exact reached

theorem bindApi_announces (loader : before.load.Announces) :
    Ends Output.bindApi.run before fun result after =>
      Still before after ∧ ∀ api, result = .ok api → api.Announces := by
  unfold Ends
  rw [bindApi_run]
  exact ⟨⟨rfl, rfl, loader.keeps _ _⟩, fun api found => loader.announces _ _ api found⟩

theorem createBuilder_still (announces : api.Announces) (request : AudioRequest) :
    Ends (Output.createBuilder api request).run before fun _ after => Still before after := by
  apply Ends.readAlways
  have taken : Ends (takeOver (negotiate request before.options (DeviceCaps.ofApi api))).run before
      fun _ after => Still before after := by
    unfold Ends
    rw [takeOver_run]
    exact ⟨rfl, rfl, rfl⟩
  refine Ends.orFail taken (fun _ _ still => still) ?_
  intro config middle still
  apply Ends.always ((announces.serves middle).call .createBuilder nofun).still
  intro answer heard again
  cases answer with
  | ok builder => exact Ends.succeeded (still.trans again)
  | error code =>
      apply Ends.always ((announces.serves heard).callResult code).still
      intro text after last
      exact Ends.failed ((still.trans again).trans last)

theorem abandonInit_still {takeDown : Work (Announced δ) τ Unit} {cause : OutputError} {value : Type}
    (ended : ∀ noted, Ends takeDown noted fun _ after => Still noted after) :
    Ends (Output.abandonInit cause takeDown : Attempt (Announced δ) τ value).run before fun _ after =>
      Still before after := by
  apply Ends.always (note_still _ _)
  intro _ noted first
  apply Ends.always (ended noted)
  intro _ after second
  exact Ends.failed (first.trans second)

theorem releaseApi_still (api : DeviceApi (Announced δ)) :
    Ends (releaseApi api) before fun _ after => Still before after :=
  ⟨rfl, rfl, rfl⟩

theorem init_sized [AudioSource τ] (sized : before.Sized) (request : AudioRequest) :
    Ends (Output.init request).run before fun _ after => after.Sized := by
  apply Ends.always (uninit_idle sized)
  intro _ idle reached
  obtain ⟨loader, source, phase⟩ := reached
  -- Until a session begins there is none that could have other channels.
  have nothing : ∀ {after : Output (Announced δ) τ},
      after.phase = idle.phase → after.load = idle.load → after.Sized := by
    intro after same load
    refine ⟨load ▸ loader, fun session ready => ?_⟩
    cases (same.trans phase).symm.trans ready
  apply Ends.always (bindApi_announces loader)
  intro result bound reached
  obtain ⟨first, announces⟩ := reached
  cases result with
  | error cause =>
      apply (abandonInit_still fun noted => Ends.done Still.refl).weaken
      intro _ after second
      exact nothing (first.trans second).phase (first.trans second).load
  | ok api =>
      have announces := announces api rfl
      apply Ends.always (createBuilder_still announces request)
      intro result settled second
      have still := first.trans second
      cases result with
      | error cause =>
          apply (abandonInit_still fun noted => releaseApi_still api).weaken
          intro _ after third
          exact nothing (still.trans third).phase (still.trans third).load
      | ok made =>
          obtain ⟨config, builder⟩ := made
          apply Ends.always ((announces.serves settled).configure config builder).still
          intro _ configured third
          have still := still.trans third
          apply Ends.always (openHandle_tells announces configured)
          intro result opening reached
          obtain ⟨phase, load, tells⟩ := reached
          cases result with
          | error cause =>
              have givenBack : ∀ noted : Output (Announced δ) τ,
                  Ends (do deleteHandle api builder; releaseApi api) noted fun _ after => Still noted after := by
                intro noted
                apply ((announces.serves noted).deleteHandle builder).still.andThen
                intro _ deleted still
                exact (releaseApi_still api).weaken fun _ _ last => still.trans last
              apply (abandonInit_still givenBack).weaken
              intro _ after last
              exact nothing (last.phase.trans (phase.trans still.phase)) (last.load.trans (load.trans still.load))
          | ok opened =>
              refine Ends.alwaysDone (Ends.change rfl : Ends (Output.adopt api config builder opened) opening
                fun _ after => after = _) ?_
              rintro _ _ rfl
              refine ⟨?_, ?_⟩
              · exact load.trans still.load ▸ loader
              · rintro _ ⟨⟩
                refine ⟨announces, ?_⟩
                rintro _ ⟨⟩
                exact tells opened rfl

theorem settleDrain_sized (sized : before.Sized) : Ends Output.settleDrain before fun _ after => after.Sized := by
  apply Ends.read
  have cleared : ∀ {output : Output (Announced δ) τ}, output.Sized →
      Ends (modify fun output => { output with drained := false }) output fun _ after => after.Sized :=
    fun sized => sized.still ⟨rfl, rfl, rfl⟩
  cases playback : before.playback with
  | started stream =>
      cases drained : before.drained with
      | false => exact cleared sized
      | true =>
          apply (note_still _ _).andThen
          intro _ noted still
          have stopped : Ends (setPlayback (.opened stream)) noted fun _ after => after.Sized := by
            refine setPlayback_sized (sized.still still) ?_
            rintro session _ ready ⟨⟩
            rw [still.phase] at ready
            have held : session.playback = .started stream := by simpa [Output.playback, ready] using playback
            rw [held]
            rfl
          apply stopped.andThen
          intro _ settled sized
          exact cleared sized
  | _ => exact cleared sized

theorem bring_still {session : Session (Announced δ) τ} {stream : StreamHandle} {transition : Transition}
    (announces : session.api.Announces) :
    Ends (Output.bring session stream transition (pure ())).run before fun _ after => Still before after := by
  apply Ends.readAlways
  apply Ends.always ((announces.serves before).transit stream transition _).still
  intro result brought still
  cases result with
  | error cause =>
      apply Ends.always (note_still _ _)
      intro _ noted last
      exact Ends.failed (still.trans last)
  | ok => exact Ends.succeeded still

/-- A stream of the session that is brought somewhere stays the stream of the session. -/
theorem brought_sized {session : Session (Announced δ) τ} {stream : StreamHandle} {transition : Transition}
    {playback : Playback} (sized : before.Sized) (announces : session.api.Announces)
    (stays : playback.stream? = some stream)
    (open_ : ∀ session, before.phase = .ready session → session.playback.stream? = some stream) :
    Ends (do
        Output.bring session stream transition (pure ())
        always (setPlayback playback) : Attempt (Announced δ) τ Unit).run before fun _ after => after.Sized := by
  refine Ends.orFail (bring_still announces) (fun _ _ still => sized.still still) ?_
  intro _ middle still
  refine Ends.alwaysDone (setPlayback_sized (sized.still still) ?_) fun _ _ sized => sized
  intro held other ready same
  cases stays.symm.trans same
  exact open_ held (still.phase ▸ ready)

theorem reopen_sized {session : Session (Announced δ) τ} (sized : before.Sized) (ready : before.phase = .ready session)
    (closed : session.playback = .closed) :
    Ends (Output.reopen session).run before fun result after => after.Sized ∧ ∀ stream, result = .ok stream →
      ∀ held, after.phase = .ready held → held.playback.stream? = some stream := by
  have announces := (sized.session session ready).announces
  apply Ends.always (openHandle_tells announces before)
  intro result opening reached
  obtain ⟨phase, load, tells⟩ := reached
  -- The stream of the session is closed, so what was opened since has no bearing on its channels.
  have sized : opening.Sized := by
    refine ⟨load ▸ sized.loader, ?_⟩
    intro held same
    cases (phase.trans ready).symm.trans same
    refine ⟨announces, ?_⟩
    rw [closed]
    nofun
  cases result with
  | error cause =>
      apply Ends.always (note_still _ _)
      intro _ noted still
      exact Ends.failed ⟨sized.still still, nofun⟩
  | ok opened =>
      have adopted : Ends (modifySession fun session => { session with
            format := opened.format
            deviceBuffer := opened.deviceBuffer
            playback := .opened opened.stream }) opening fun _ after => after.Sized ∧
          ∀ held, after.phase = .ready held → held.playback.stream? = some opened.stream := by
        refine And.intro ?_ ?_
        · refine modifySession_sized sized fun held same _ => ⟨?_, ?_⟩
          · cases (phase.trans ready).symm.trans same
            exact announces
          · cases (phase.trans ready).symm.trans same
            rintro _ ⟨⟩
            exact tells opened rfl
        · intro held same
          simp only [modifySession, StateT.run_modify, phase.trans ready] at same
          cases same
          rfl
      apply Ends.always adopted
      rintro _ after ⟨sized, playing⟩
      refine Ends.succeeded ⟨sized, ?_⟩
      rintro _ ⟨⟩
      exact playing

theorem start_sized (sized : before.Sized) : Ends Output.start.run before fun _ after => after.Sized := by
  apply Ends.always (settleDrain_sized sized)
  intro _ settled sized
  apply Ends.readAlways
  cases phase : settled.phase with
  | idle source => exact Ends.failed sized
  | ready session =>
      have announces := (sized.session session phase).announces
      dsimp only
      cases playback : session.playback with
      | started stream => exact Ends.succeeded sized
      | opened stream | paused stream =>
          refine brought_sized sized announces rfl ?_
          intro held same
          cases phase.symm.trans same
          rw [playback]
          rfl
      | closed =>
          refine Ends.orFail (reopen_sized sized phase playback) (fun _ _ reached => reached.1) ?_
          intro stream reopened reached
          obtain ⟨sized, playing⟩ := reached
          exact brought_sized sized announces rfl (playing stream rfl)

theorem setPause_sized (paused : Bool) (sized : before.Sized) :
    Ends (Output.setPause paused).run before fun _ after => after.Sized := by
  apply Ends.always (settleDrain_sized sized)
  intro _ settled sized
  apply Ends.readAlways
  cases phase : settled.phase with
  | idle source => exact Ends.failed sized
  | ready session =>
      have announces := (sized.session session phase).announces
      have same : ∀ {stream}, session.playback.stream? = some stream →
          ∀ held, settled.phase = .ready held → held.playback.stream? = some stream := by
        intro stream playing held ready
        cases phase.symm.trans ready
        exact playing
      dsimp only
      cases playback : session.playback with
      | closed => cases paused <;> exact Ends.failed sized
      | opened stream =>
          cases paused with
          | false => exact start_sized sized
          | true =>
              refine Ends.alwaysDone (setPlayback_sized sized ?_) fun _ _ sized => sized
              rintro held _ ready ⟨⟩
              exact same (by rw [playback]; rfl) held ready
      | started stream =>
          cases paused with
          | false => exact Ends.succeeded sized
          | true => exact brought_sized sized announces rfl (same (by rw [playback]; rfl))
      | paused stream =>
          cases paused with
          | false => exact start_sized sized
          | true => exact Ends.succeeded sized

/-! ## Callbacks -/

theorem post_still (message : Message) (what : String) :
    Ends (post message what) before fun _ after => Still before after := by
  unfold Ends
  rw [post_run]
  exact ⟨rfl, rfl, rfl⟩

theorem requestReload_still : Ends requestReload before fun _ after => Still before after := by
  unfold Ends
  rw [requestReload_run]
  exact ⟨rfl, rfl, rfl⟩

theorem presentedFrames_sized {session : Session (Announced δ) τ} (sized : before.Sized)
    (announces : session.api.Announces) (stream : StreamHandle) (written : Int) :
    Ends (presentedFrames session stream written) before fun _ after => after.Sized := by
  apply ((announces.serves before).call (.timestamp stream ModeCode.monotonicClock) nofun).still.andThen
  intro stamp stamped still
  have sized := sized.still still
  cases stamp with
  | ok => exact Ends.done sized
  | error code =>
      dsimp only
      split
      · have marked : Ends (modifySession fun session => { session with timestampMissed := true }) stamped
            fun _ after => after.Sized :=
          modifySession_sized sized fun _ _ held => ⟨held.announces, held.tells⟩
        apply marked.andThen
        intro _ missed sized
        apply ((announces.serves missed).callResult code).still.andThen
        intro text told first
        apply (note_still _ _).andThen
        intro _ noted second
        exact Ends.done (sized.still (first.trans second))
      · exact Ends.done sized

theorem fill_sized [AudioSource τ] {session : Session (Announced δ) τ} (sized : before.Sized)
    (announces : session.api.Announces) (stream : StreamHandle) (request : DataRequest) :
    Ends (fill session stream request) before fun _ after => after.Sized := by
  apply ((announces.serves before).call (.framesWritten stream) nofun).still.andThen
  intro written counted still
  apply (presentedFrames_sized (sized.still still) announces stream written).andThen
  intro presented stamped sized
  have reread : ∀ source, Ends (modifySession fun session => { session with source := source }) stamped
      fun _ after => after.Sized :=
    fun _ => modifySession_sized sized fun _ _ held => ⟨held.announces, held.tells⟩
  apply (reread _).andThen
  intro _ read sized
  dsimp only
  split
  · have drained : Ends notifyDrained read fun _ after => Still read after := by
      apply (change_still (by exact ⟨rfl, rfl, rfl⟩)).andThen
      intro _ marked still
      exact (post_still _ _).weaken fun _ _ last => still.trans last
    apply drained.andThen
    intro _ notified still
    exact Ends.done (sized.still still)
  · exact Ends.done sized

theorem dataCallback_sized [AudioSource τ] (sized : before.Sized) (request : DataRequest) :
    Ends (dataCallback request) before fun _ after => after.Sized := by
  apply Ends.read
  split
  · rename_i session _ _ ready
    exact fill_sized sized (sized.session session ready).announces _ request
  · exact Ends.done sized

theorem errorCallback_sized (sized : before.Sized) (code : Int) :
    Ends (errorCallback code) before fun _ after => after.Sized := by
  apply Ends.read
  cases phase : before.phase with
  | idle source => exact Ends.done sized
  | ready session =>
      have announces := (sized.session session phase).announces
      apply ((announces.serves before).callResult code).still.andThen
      intro text told first
      apply (note_still _ _).andThen
      intro _ noted second
      apply requestReload_still.weaken
      intro _ after third
      exact sized.still ((first.trans second).trans third)

theorem xrunCount_sized (sized : before.Sized) : Ends Output.xrunCount before fun _ after => after.Sized := by
  apply Ends.read
  cases phase : before.phase with
  | idle source => exact Ends.done sized
  | ready session =>
      have announces := (sized.session session phase).announces
      dsimp only
      cases session.playback.stream? with
      | none => exact Ends.done sized
      | some stream =>
          apply ((announces.serves before).call (.query stream .xrunCount) nofun).still.andThen
          intro count counted still
          exact Ends.done (sized.still still)

/-! ## Runs -/

variable [AudioSource τ]

theorem Act.unwatchedWork_sized (sized : before.Sized) (act : Act) :
    Ends act.unwatchedWork before fun _ after => after.Sized := by
  have passed : ∀ {value : Type} {work : Work (Announced δ) τ value} {next : value → Outcome},
      (Ends work before fun _ after => after.Sized) →
        Ends (do return next (← work)) before fun _ after => after.Sized :=
    fun ended => ended.andThen fun _ _ sized => Ends.done sized
  cases act with
  | xrunCount => exact passed (xrunCount_sized sized)
  | step step =>
      cases step with
      | init request => exact passed (init_sized sized request)
      | start => exact passed (start_sized sized)
      | setPause paused => exact passed (setPause_sized paused sized)
      | reset => exact passed ((reset_sized sized).andThen fun _ _ sized => Ends.done sized)
      | uninit =>
          apply passed
          apply (uninit_idle sized).andThen
          intro _ idle reached
          obtain ⟨loader, source, phase⟩ := reached
          refine Ends.done ⟨loader, fun session ready => ?_⟩
          cases phase.symm.trans ready
      | data request =>
          apply (dataCallback_sized sized request).andThen
          intro answer filled sized
          exact Ends.done sized
      | error code => exact passed ((errorCallback_sized sized code).andThen fun _ _ sized => Ends.done sized)
      | collect => exact sized.still ⟨rfl, rfl, rfl⟩
      | abandon => exact sized.still ⟨rfl, rfl, rfl⟩

theorem Output.afterUnwatched_sized (sized : before.Sized) (acts : List Act) : (before.afterUnwatched acts).Sized := by
  induction acts generalizing before with
  | nil => exact sized
  | cons act rest ih => exact ih (act.unwatchedWork_sized sized)

/-- The kinship of an output and the one on a device that keeps what it announces. -/
abbrev Kinship.announcing : Kinship δ (Announced δ) τ τ :=
  overlay Announced.subject id

theorem Kinship.announcing_after {settled : Prop} {output : Output δ τ} {announced : Output (Announced δ) τ}
    (outputs : announcing.Outputs settled output announced) (acts : List Act) :
    announcing.Outputs settled (output.afterUnwatched acts) (announced.afterUnwatched acts) := by
  have sources : (announcing : Kinship δ (Announced δ) τ τ).Sources := by
    refine ⟨fun format related => congrArg (AudioSource.prepare format) related,
      fun buffer frames deadline related => ?_⟩
    cases related
    exact ⟨rfl, rfl, rfl⟩
  induction acts generalizing output announced with
  | nil => exact outputs
  | cons act rest ih =>
      have acted := @acted_matched δ _ τ _ _ _ announcing settled sources (fun _ _ => pure ()) (fun _ _ => pure ())
        (fun _ _ _ _ outputs => ⟨rfl, outputs⟩) act
      rw [show act.renamed (announcing : Kinship δ _ τ _).names = act from act.renamed_same] at acted
      exact ih (acted _ _ outputs).2

/-- A driver before anything was done to it, on a device that keeps what it announces. -/
def Driver.announced (options : Options) (load : Loader δ) (source : τ) (device : δ) : Driver (Announced δ) τ :=
  create options load.announcing source ⟨device, fun _ => 0⟩

/-- Keeping what is announced makes no difference: whatever was done, the same is seen of the driver, and the device
is in the same state. -/
theorem Driver.announced_transparent (options : Options) (load : Loader δ) (source : τ) (device : δ) (acts : List Act) :
    let announced := (Driver.announced options load source device).afterUnwatched acts
    let driver := (Driver.create options load source device).afterUnwatched acts
    announced.face = driver.face ∧ announced.desk.device.subject = driver.desk.device := by
  intro announced driver
  have created : Kinship.announcing.Outputs True (Output.create options load source device)
      (Output.create options load.announcing source ⟨device, fun _ => 0⟩) :=
    Kinship.overlay_created options source (⟨device, fun _ => 0⟩ : Announced δ) load.announcing_carries.loaders
  have outputs := Kinship.announcing_after created acts
  have fits' : Fits announced _ :=
    (Driver.created_fits options load.announcing source ⟨device, fun _ => 0⟩).afterUnwatched acts
  have fits : Fits driver _ := (Driver.created_fits options load source device).afterUnwatched acts
  have faces := outputs.face fits fits' id fun _ _ related => related
  rw [Face.map_id] at faces
  refine ⟨faces, ?_⟩
  rw [fits.device, fits'.device]
  exact outputs.device

/--
The format of an open stream has as many channels as the device told for the stream when it was opened, if they were
asked for by their count. Asked for by a mask, they are those of the mask, whatever the device has to tell.
-/
theorem Driver.channels_told (options : Options) (load : Loader δ) (source : τ) (device : δ) (acts : List Act)
    (stream : StreamHandle) :
    let driver := (Driver.announced options load source device).afterUnwatched acts
    let told := driver.desk.device.channels stream
    driver.stream = some stream → ∃ format config, driver.format = some format ∧ driver.config = some config ∧
      driver.context.map CallbackContext.frameBytes = some format.frameBytes ∧
        ((format.channels.size : Int) = told ↔
          ∀ layout mask, config.channels = .mask layout mask → (layout.size : Int) = told) := by
  intro driver told playing
  have fits : Fits driver _ :=
    (Driver.created_fits options load.announcing source ⟨device, fun _ => 0⟩).afterUnwatched acts
  have created : (Output.create options load.announcing source (⟨device, fun _ => 0⟩ : Announced δ)).Sized := by
    refine ⟨load.announcing_announces, fun session ready => ?_⟩
    cases ready
  have sized := Output.afterUnwatched_sized created acts
  have open_ := fits.stream.symm.trans playing
  generalize (Output.create options load.announcing source (⟨device, fun _ => 0⟩ : Announced δ)).afterUnwatched acts =
    output at fits sized open_
  cases phase : output.phase with
  | idle source => simp [Output.playback, phase, Playback.stream?] at open_
  | ready session =>
      have holds := fits.holds phase
      have tells := (sized.session session phase).tells stream (by rw [← holds.stream, playing])
      refine ⟨session.format, session.config, holds.format, holds.config, by rw [holds.context]; rfl, ?_⟩
      have same : told = output.device.channels stream := by rw [← fits.device]
      rw [same]
      cases channels : session.config.channels with
      | count => simpa [channels, ChannelRequest.Tells] using tells
      | mask layout mask =>
          have plays : session.format.channels = layout := by simpa [channels, ChannelRequest.Tells] using tells
          simp [plays]

theorem Driver.channels_told_simulated :
    let driver := (Driver.announced {} (presentLoader (SimulatedDevice.api 27 []))
      (⟨.scripted {}, []⟩ : SimulatedSource) {}).afterUnwatched [.step (.init .plain)]
    driver.stream = some ⟨1⟩ ∧ ∃ format, driver.format = some format ∧
      (format.channels.size : Int) = driver.desk.device.channels ⟨1⟩ := by
  have playing : ((Driver.announced {} (presentLoader (SimulatedDevice.api 27 []))
      (⟨.scripted {}, []⟩ : SimulatedSource) {}).afterUnwatched [.step (.init .plain)]).stream = some ⟨1⟩ := by
    decide +kernel
  have counted : ((Driver.announced {} (presentLoader (SimulatedDevice.api 27 []))
      (⟨.scripted {}, []⟩ : SimulatedSource) {}).afterUnwatched [.step (.init .plain)]).config.map
        StreamConfiguration.channels = some (.count 2) := by
    decide +kernel
  obtain ⟨format, config, known, agreed, -, told⟩ := Driver.channels_told {} (presentLoader (SimulatedDevice.api 27 []))
    (⟨.scripted {}, []⟩ : SimulatedSource) {} [.step (.init .plain)] ⟨1⟩ playing
  refine ⟨playing, format, known, told.mpr ?_⟩
  intro layout mask masked
  rw [agreed] at counted
  simp [masked] at counted

/-- A device that pays no heed to masks, and opens streams with one channel. -/
def SimulatedDevice.monaural : SimulatedDevice where
  script := { grantedChannels := 1, maskEffective := false }

/-- A stream that was asked for by the mask of two channels counts as one of two channels, though it has one. -/
theorem Driver.channels_untold :
    let driver := (Driver.announced {} (presentLoader (SimulatedDevice.api 33 [26, 28, 32]))
      (⟨.scripted {}, []⟩ : SimulatedSource) .monaural).afterUnwatched [.step (.init .plain)]
    driver.stream = some ⟨1⟩ ∧ driver.format.map (·.channels.size) = some 2 ∧
      driver.context.map (·.frameBytes) = some 8 ∧ driver.desk.device.channels ⟨1⟩ = 1 := by
  decide +kernel

end PcmOutput
