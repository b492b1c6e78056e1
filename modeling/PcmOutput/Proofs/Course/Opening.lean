import PcmOutput.Proofs.Watched

/-!
# The course of an opening

What passes between an output and its device while a builder is configured, a stream opened, and handles
given back. A stream whose layout is not acceptable is closed at once.
-/

set_option autoImplicit false

namespace PcmOutput

variable {δ τ : Type}

/-- The device answered exactly these calls, in this order. -/
inductive Told : List Call → List DeviceEvent → Prop where
  | nil : Told [] []
  | cons {call answer calls events} : Told calls events →
      Told (call :: calls) (.answered call answer :: events)

theorem Told.call_mem {calls : List Call} {events : List DeviceEvent} {call : Call} {answer : call.Answer}
    (told : Told calls events) (among : .answered call answer ∈ events) : call ∈ calls := by
  induction told with
  | nil => cases among
  | cons _ ih =>
      cases among with
      | head => exact List.mem_cons_self
      | tail _ later => exact List.mem_cons_of_mem _ (ih later)

/-- The device answers a call like this in some of its states. -/
inductive DeviceApi.Gives (api : DeviceApi (WatchedDevice δ)) : DeviceEvent → Prop where
  | answered (call : Call) (device : WatchedDevice δ) : Gives api (.answered call (api.respond call device).1)

def StreamConfiguration.channelCall (config : StreamConfiguration) (builder : BuilderHandle) : Call :=
  .configure builder (channelSetting config.channels).1 (channelSetting config.channels).2

inductive LayoutSearch (config : StreamConfiguration) (stream : StreamHandle) :
    List DeviceEvent → Except OutputError ChannelMap → Prop where
  | masked {layout mask} : config.channels = .mask layout mask → LayoutSearch config stream [] (.ok layout)
  | counted {asked count layout} : config.channels = .count asked → ChannelMap.ofCount? count = some layout →
      LayoutSearch config stream [.answered (.query stream .channelCount) count] (.ok layout)
  | unknown {asked count} : config.channels = .count asked → ChannelMap.ofCount? count = none →
      LayoutSearch config stream [.answered (.query stream .channelCount) count]
        (.error (.unknownChannelCount count))

/-- What the journal tells about a stream is asked of it. -/
abbrev inspected (stream : StreamHandle) (capacity rate code burst : Int) : List DeviceEvent :=
  [.answered (.query stream .bufferCapacity) capacity, .answered (.query stream .sampleRate) rate,
    .answered (.query stream .format) code, .answered (.query stream .framesPerBurst) burst]

inductive Opening (builder : BuilderHandle) (config : StreamConfiguration) (earlier : Option StreamFormat) :
    List DeviceEvent → Except OutputError OpenedStream → Prop where
  | refused {code text} :
      Opening builder config earlier [.answered (.openStream builder) (.error code)] (.error (.openRefused text))
  | unknownLayout {stream search cause code} : LayoutSearch config stream search (.error cause) →
      Opening builder config earlier
        (.answered (.openStream builder) (.ok stream) :: (search ++ [.answered (.closeStream stream) code]))
        (.error cause)
  | otherLayout {stream search layout cause code} : LayoutSearch config stream search (.ok layout) →
      requireLayout layout earlier = .error cause →
      Opening builder config earlier
        (.answered (.openStream builder) (.ok stream) :: (search ++ [.answered (.closeStream stream) code]))
        (.error cause)
  | opened {stream search layout capacity rate code burst} : LayoutSearch config stream search (.ok layout) →
      requireLayout layout earlier = .ok () →
      Opening builder config earlier
        (.answered (.openStream builder) (.ok stream) :: (search ++ inspected stream capacity rate code burst))
        (.ok ⟨stream, ⟨config.format.granted, layout, config.sampleRate⟩, capacity⟩)

variable {api : DeviceApi (WatchedDevice δ)} {builder : BuilderHandle} {stream : StreamHandle}
  {config : StreamConfiguration} {earlier : Option StreamFormat}

theorem closeHandle_course (reports : api.Reports) (before : Output (WatchedDevice δ) τ) :
    Ends (closeHandle api stream) before fun _ after =>
      ∃ code, Dealt before [.answered (.closeStream stream) code] after := by
  apply (call_dealt reports _ before).andThen
  intro code closed dealt
  split
  · apply (resultText_dealt api code closed).andThen
    intro text told quiet
    apply (note_dealt _ _ told).weaken
    intro _ after noted
    exact ⟨code, (dealt.silently quiet).silently noted⟩
  · exact Ends.done ⟨code, dealt⟩

theorem deleteHandle_course (reports : api.Reports) (before : Output (WatchedDevice δ) τ) :
    Ends (deleteHandle api builder) before fun _ after =>
      ∃ code, Dealt before [.answered (.deleteBuilder builder) code] after := by
  apply (call_dealt reports _ before).andThen
  intro code deleted dealt
  split
  · apply (resultText_dealt api code deleted).andThen
    intro text told quiet
    apply (note_dealt _ _ told).weaken
    intro _ after noted
    exact ⟨code, (dealt.silently quiet).silently noted⟩
  · exact Ends.done ⟨code, dealt⟩

theorem call_given (reports : api.Reports) (request : Call) (before : Output (WatchedDevice δ) τ) :
    Ends (call api request) before fun answer after =>
      api.Gives (.answered request answer) ∧ Dealt before [.answered request answer] after :=
  ⟨.answered request before.device, call_dealt reports request before⟩

private theorem calls_course (reports : api.Reports) (calls : List Call) (before : Output (WatchedDevice δ) τ) :
    Ends (calls.forM fun request => do let _ ← call api request) before fun _ after =>
      ∃ events, Dealt before events after ∧ Told calls events ∧ ∀ event ∈ events, api.Gives event := by
  induction calls generalizing before with
  | nil => exact Ends.done ⟨[], Dealt.refl, .nil, nofun⟩
  | cons request rest ih =>
      have first : Ends (do let _ ← call api request) before fun _ heard =>
          ∃ answer, api.Gives (.answered request answer) ∧ Dealt before [.answered request answer] heard :=
        (call_given reports request before).andThen fun answer heard asked => Ends.done ⟨answer, asked⟩
      apply first.andThen
      intro _ heard reached
      obtain ⟨answer, given, asked⟩ := reached
      apply (ih heard).weaken
      intro _ after course
      obtain ⟨events, dealt, told, others⟩ := course
      exact ⟨_, asked.trans dealt, .cons told, List.forall_mem_cons.mpr ⟨given, others⟩⟩

theorem configure_course (reports : api.Reports) (before : Output (WatchedDevice δ) τ) :
    Ends (configure api config builder) before fun _ after =>
      ∃ events, Dealt before events after ∧
        Told (config.channelCall builder :: config.calls builder) events ∧ ∀ event ∈ events, api.Gives event := by
  unfold configure StreamConfiguration.channelCall
  obtain ⟨setting, value⟩ := StreamConfiguration.channelSetting config.channels
  dsimp only
  apply (call_given reports _ before).andThen
  intro effective heard reached
  obtain ⟨given, asked⟩ := reached
  apply Ends.perhaps (note_dealt _ _ heard) Dealt.refl
  intro middle quiet
  apply (calls_course reports _ middle).weaken
  intro _ after course
  obtain ⟨events, dealt, told, others⟩ := course
  exact ⟨_, (asked.silently quiet).trans dealt, .cons told, List.forall_mem_cons.mpr ⟨given, others⟩⟩

theorem grantedLayout_course (reports : api.Reports) (before : Output (WatchedDevice δ) τ) :
    Ends (grantedLayout api config stream).run before fun result after =>
      ∃ search, Dealt before search after ∧ LayoutSearch config stream search result := by
  unfold grantedLayout
  split
  · rename_i layout mask masked
    exact Ends.succeeded ⟨[], Dealt.refl, .masked masked⟩
  · rename_i asked counted
    apply Ends.always (call_dealt reports _ before)
    intro count heard dealt
    split
    · rename_i layout found
      exact Ends.succeeded ⟨_, dealt, .counted counted found⟩
    · rename_i unknown
      exact Ends.failed ⟨_, dealt, .unknown counted unknown⟩

private theorem acceptable_course (reports : api.Reports) (before : Output (WatchedDevice δ) τ) :
    Ends (ExceptT.run do
        let layout ← grantedLayout api config stream
        ExceptT.mk (pure (requireLayout layout earlier))
        return layout) before fun result after =>
      ∃ search found, Dealt before search after ∧ LayoutSearch config stream search found ∧
        result = found >>= fun layout => requireLayout layout earlier >>= fun _ => .ok layout := by
  refine Ends.orFail (grantedLayout_course reports before) ?_ ?_
  · intro cause after reached
    obtain ⟨search, dealt, searched⟩ := reached
    exact ⟨search, _, dealt, searched, rfl⟩
  · intro layout after reached
    obtain ⟨search, dealt, searched⟩ := reached
    have checked : Ends (ExceptT.mk (pure (requireLayout layout earlier)) : Attempt (WatchedDevice δ) τ Unit).run
        after fun result same => result = requireLayout layout earlier ∧ same = after := ⟨rfl, rfl⟩
    refine Ends.orFail checked ?_ ?_
    · intro cause _ reached
      obtain ⟨refused, rfl⟩ := reached
      exact ⟨search, _, dealt, searched, by simp [bind, Except.bind, ← refused]⟩
    · intro _ _ reached
      obtain ⟨accepted, rfl⟩ := reached
      exact Ends.succeeded ⟨search, _, dealt, searched, by simp [bind, Except.bind, ← accepted]⟩

theorem openHandle_course (reports : api.Reports) (before : Output (WatchedDevice δ) τ) :
    Ends (openHandle api builder config earlier).run before fun result after =>
      ∃ events, Dealt before events after ∧ Opening builder config earlier events result := by
  apply Ends.always (call_dealt reports _ before)
  intro answer heard asked
  cases answer with
  | error code =>
      apply Ends.always (resultText_dealt api code heard)
      intro text after quiet
      exact Ends.failed ⟨_, asked.silently quiet, .refused⟩
  | ok stream =>
      apply Ends.always (acceptable_course reports heard)
      intro result searched reached
      obtain ⟨search, found, dealt, sought, rfl⟩ := reached
      have opening := asked.trans dealt
      cases found with
      | error cause =>
          apply Ends.always (closeHandle_course reports searched)
          intro _ after reached
          obtain ⟨code, closed⟩ := reached
          exact Ends.failed ⟨_, opening.trans closed, .unknownLayout sought⟩
      | ok layout =>
          simp only [bind, Except.bind]
          cases required : requireLayout layout earlier with
          | error cause =>
              apply Ends.always (closeHandle_course reports searched)
              intro _ after reached
              obtain ⟨code, closed⟩ := reached
              exact Ends.failed ⟨_, opening.trans closed, .otherLayout sought required⟩
          | ok =>
              dsimp only
              apply Ends.always (call_dealt reports _ searched)
              intro capacity sized first
              apply Ends.always (call_dealt reports _ sized)
              intro rate rated second
              apply Ends.perhapsAlways (note_dealt _ _ rated) Dealt.refl
              intro middle quiet
              apply Ends.always (call_dealt reports _ middle)
              intro code coded third
              apply Ends.always (call_dealt reports _ coded)
              intro burst counted fourth
              apply Ends.always (note_dealt _ _ counted)
              intro _ after noted
              have inspection := ((first.trans second).silently quiet).trans (third.trans fourth)
              exact Ends.succeeded
                ⟨_, opening.trans (inspection.silently noted), .opened sought required⟩

end PcmOutput
