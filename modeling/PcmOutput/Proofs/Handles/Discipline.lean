import PcmOutput.Proofs.Watched

/-!
# The handles of a device

A device gives out builders and streams, and gets them back. What it has given out and not got back is
live. The discipline says how the calls of one output use what is live; it is read off the calls alone.
-/

set_option autoImplicit false

namespace PcmOutput

def builtUpon : List BuilderHandle → DeviceEvent → List BuilderHandle
  | live, .answered .createBuilder (.ok builder) => builder :: live
  | live, .answered (.deleteBuilder builder) _ => live.erase builder
  | live, _ => live

def streamedUpon : List StreamHandle → DeviceEvent → List StreamHandle
  | live, .answered (.openStream _) (.ok stream) => stream :: live
  | live, .answered (.closeStream stream) _ => live.erase stream
  | live, _ => live

/-- The builders that were given out and not deleted since. -/
def liveBuilders (events : List DeviceEvent) : List BuilderHandle :=
  events.foldl builtUpon []

/-- The streams that were opened and not closed since. -/
def liveStreams (events : List DeviceEvent) : List StreamHandle :=
  events.foldl streamedUpon []

def AllReturned (events : List DeviceEvent) : Prop :=
  liveBuilders events = [] ∧ liveStreams events = []

def DeviceEvent.builder? : DeviceEvent → Option BuilderHandle
  | .answered (.deleteBuilder builder) _ | .answered (.configure builder _ _) _
  | .answered (.registerData builder) _ | .answered (.registerError builder) _
  | .answered (.openStream builder) _ => some builder
  | _ => none

def DeviceEvent.told? : DeviceEvent → Option BuilderHandle
  | .answered (.configure builder _ _) _ | .answered (.registerData builder) _
  | .answered (.registerError builder) _ => some builder
  | _ => none

/-- The stream that a call is made on, but for the two calls with which a data callback asks the stream
that it was given. -/
def DeviceEvent.stream? : DeviceEvent → Option StreamHandle
  | .answered (.closeStream stream) _ | .answered (.request stream _) _
  | .answered (.waitForChange stream _ _) _ | .answered (.query stream _) _ => some stream
  | _ => none

/-- The calls of an output that has come to its end. A handle may be given out anew after it was given
back; then it begins another life. -/
structure WellFormed (events : List DeviceEvent) : Prop where
  /-- A builder is deleted, and not twice. -/
  builderDeleted : ∀ {before builder after},
    events = before ++ .answered .createBuilder (.ok builder) :: after →
      ∃ life code rest, after = life ++ .answered (.deleteBuilder builder) code :: rest ∧
        ∀ code, .answered (.deleteBuilder builder) code ∉ life
  builderUnused : ∀ {before builder code between use after},
    events = before ++ .answered (.deleteBuilder builder) code :: (between ++ use :: after) →
      use.builder? = some builder → .answered .createBuilder (.ok builder) ∈ between
  /-- A stream is closed, not twice, and before its builder is deleted. -/
  streamClosed : ∀ {before builder stream after},
    events = before ++ .answered (.openStream builder) (.ok stream) :: after →
      ∃ life code rest, after = life ++ .answered (.closeStream stream) code :: rest ∧
        (∀ code, .answered (.closeStream stream) code ∉ life) ∧
        ∀ code, .answered (.deleteBuilder builder) code ∉ life
  streamUnused : ∀ {before stream code between use after},
    events = before ++ .answered (.closeStream stream) code :: (between ++ use :: after) →
      use.stream? = some stream → ∃ builder, .answered (.openStream builder) (.ok stream) ∈ between
  oneBuilder : ∀ {before after}, events = before ++ after → (liveBuilders before).length ≤ 1
  oneStream : ∀ {before after}, events = before ++ after → (liveStreams before).length ≤ 1
  builderLive : ∀ {before use builder after}, events = before ++ use :: after →
    use.builder? = some builder → liveBuilders before = [builder]
  streamLive : ∀ {before use stream after}, events = before ++ use :: after →
    use.stream? = some stream → liveStreams before = [stream]
  /-- A builder from which a stream was asked is told nothing more. -/
  settersFirst : ∀ {before builder answer between setter after},
    events = before ++ .answered (.openStream builder) answer :: (between ++ setter :: after) →
      setter.told? = some builder → .answered .createBuilder (.ok builder) ∈ between

/-- What an output holds of its device, and whether a stream was asked of the builder. -/
inductive Holding
  | nothing
  | building (builder : BuilderHandle) (asked : Bool)
  | streaming (builder : BuilderHandle) (stream : StreamHandle)

namespace Holding

def builders : Holding → List BuilderHandle
  | .nothing => []
  | .building builder _ | .streaming builder _ => [builder]

def streams : Holding → List StreamHandle
  | .nothing | .building _ _ => []
  | .streaming _ stream => [stream]

/-- What an output may do with what it holds, and what it holds then. -/
inductive Step : Holding → DeviceEvent → Holding → Prop where
  | calledBack {holding stream result} : Step holding (.calledBack stream result) holding
  | framesWritten {holding stream count} : Step holding (.answered (.framesWritten stream) count) holding
  | timestamp {holding stream clock stamp} : Step holding (.answered (.timestamp stream clock) stamp) holding
  | refused {code} : Step .nothing (.answered .createBuilder (.error code)) .nothing
  | created {builder} : Step .nothing (.answered .createBuilder (.ok builder)) (.building builder false)
  | configured {builder setting value effective} :
      Step (.building builder false) (.answered (.configure builder setting value) effective) (.building builder false)
  | dataRegistered {builder answer} :
      Step (.building builder false) (.answered (.registerData builder) answer) (.building builder false)
  | errorRegistered {builder answer} :
      Step (.building builder false) (.answered (.registerError builder) answer) (.building builder false)
  | unopened {builder asked code} :
      Step (.building builder asked) (.answered (.openStream builder) (.error code)) (.building builder true)
  | opened {builder asked stream} :
      Step (.building builder asked) (.answered (.openStream builder) (.ok stream)) (.streaming builder stream)
  | requested {builder stream transition code} :
      Step (.streaming builder stream) (.answered (.request stream transition) code) (.streaming builder stream)
  | waited {builder stream state timeoutNanos answer} :
      Step (.streaming builder stream) (.answered (.waitForChange stream state timeoutNanos) answer)
        (.streaming builder stream)
  | queried {builder stream property answer} :
      Step (.streaming builder stream) (.answered (.query stream property) answer) (.streaming builder stream)
  | closed {builder stream code} :
      Step (.streaming builder stream) (.answered (.closeStream stream) code) (.building builder true)
  | deleted {builder asked code} :
      Step (.building builder asked) (.answered (.deleteBuilder builder) code) .nothing

/-- A sequence of events that uses what is held as it may be used. -/
inductive Path : Holding → List DeviceEvent → Holding → Prop where
  | nil {holding} : Path holding [] holding
  | cons {first middle last event events} : Step first event middle → Path middle events last →
      Path first (event :: events) last

variable {first middle last : Holding} {event : DeviceEvent} {events earlier later : List DeviceEvent}

theorem Path.single (step : Step first event last) : Path first [event] last :=
  .cons step .nil

theorem Path.append (left : Path first earlier middle) (right : Path middle later last) :
    Path first (earlier ++ later) last := by
  induction left with
  | nil => exact right
  | cons step _ ih => exact .cons step (ih right)

theorem Path.split (path : Path first (earlier ++ later) last) :
    ∃ middle, Path first earlier middle ∧ Path middle later last := by
  induction earlier generalizing first with
  | nil => exact ⟨first, .nil, path⟩
  | cons event rest ih =>
      cases path with
      | cons step tail =>
          obtain ⟨middle, left, right⟩ := ih tail
          exact ⟨middle, .cons step left, right⟩

theorem Path.splitAt (path : Path first (earlier ++ event :: later) last) :
    ∃ before after, Path first earlier before ∧ Step before event after ∧ Path after later last := by
  obtain ⟨before, left, right⟩ := path.split
  cases right with
  | cons step tail => exact ⟨before, _, left, step, tail⟩

theorem Step.builders (step : Step first event last) : builtUpon first.builders event = last.builders := by
  cases step <;> simp [builtUpon, Holding.builders]

theorem Step.streams (step : Step first event last) : streamedUpon first.streams event = last.streams := by
  cases step <;> simp [streamedUpon, Holding.streams]

theorem Path.builders (path : Path first events last) : events.foldl builtUpon first.builders = last.builders := by
  induction path with
  | nil => rfl
  | cons step _ ih =>
      rw [List.foldl_cons, step.builders]
      exact ih

theorem Path.streams (path : Path first events last) : events.foldl streamedUpon first.streams = last.streams := by
  induction path with
  | nil => rfl
  | cons step _ ih =>
      rw [List.foldl_cons, step.streams]
      exact ih

theorem Path.liveBuilders (path : Path .nothing events last) : PcmOutput.liveBuilders events = last.builders :=
  path.builders

theorem Path.liveStreams (path : Path .nothing events last) : PcmOutput.liveStreams events = last.streams :=
  path.streams

theorem Path.allReturned (path : Path .nothing events .nothing) : AllReturned events :=
  ⟨path.liveBuilders, path.liveStreams⟩

variable {builder : BuilderHandle} {stream : StreamHandle}

theorem Step.builderLive (step : Step first event last) (made : event.builder? = some builder) :
    first.builders = [builder] := by
  cases step <;> simp_all [DeviceEvent.builder?, Holding.builders]

theorem Step.streamLive (step : Step first event last) (made : event.stream? = some stream) :
    first.streams = [stream] := by
  cases step <;> simp_all [DeviceEvent.stream?, Holding.streams]

theorem Step.unasked (step : Step first event last) (told : event.told? = some builder) :
    first = .building builder false := by
  cases step <;> simp_all [DeviceEvent.told?]

/-- A builder is held until it is deleted. -/
theorem Step.keepsBuilder (step : Step first event last) (held : first.builders = [builder]) :
    (∃ code, event = .answered (.deleteBuilder builder) code ∧ last = .nothing) ∨
      (last.builders = [builder] ∧ ∀ code, event ≠ .answered (.deleteBuilder builder) code) := by
  cases step with
  | deleted =>
      cases held
      exact .inl ⟨_, rfl, rfl⟩
  | refused | created => cases held
  | _ => exact .inr ⟨by simpa [Holding.builders] using held, fun _ => nofun⟩

theorem Path.deleted (path : Path first events .nothing) (held : first.builders = [builder]) :
    ∃ life code rest, events = life ++ .answered (.deleteBuilder builder) code :: rest ∧
      ∀ code, .answered (.deleteBuilder builder) code ∉ life := by
  generalize ended : Holding.nothing = last at path
  induction path with
  | nil =>
      cases ended
      cases held
  | cons step _ ih =>
      rcases step.keepsBuilder held with ⟨code, same, _⟩ | ⟨still, other⟩
      · exact ⟨[], code, _, by rw [same]; rfl, by simp⟩
      · obtain ⟨life, code, rest, split, once⟩ := ih still ended
        refine ⟨_ :: life, code, rest, by rw [split]; rfl, fun code member => ?_⟩
        rcases List.mem_cons.mp member with same | earlier
        · exact other code same.symm
        · exact once code earlier

/-- An open stream is held, with its builder, until it is closed. -/
theorem Step.keepsStream (step : Step (.streaming builder stream) event last) :
    (∃ code, event = .answered (.closeStream stream) code) ∨
      (last = .streaming builder stream ∧ (∀ code, event ≠ .answered (.closeStream stream) code) ∧
        ∀ code, event ≠ .answered (.deleteBuilder builder) code) := by
  cases step with
  | closed => exact .inl ⟨_, rfl⟩
  | _ => exact .inr ⟨rfl, fun _ => nofun, fun _ => nofun⟩

theorem Path.closed (path : Path (.streaming builder stream) events .nothing) :
    ∃ life code rest, events = life ++ .answered (.closeStream stream) code :: rest ∧
      (∀ code, .answered (.closeStream stream) code ∉ life) ∧
        ∀ code, .answered (.deleteBuilder builder) code ∉ life := by
  generalize began : Holding.streaming builder stream = first at path
  generalize ended : Holding.nothing = last at path
  induction path with
  | nil =>
      cases began
      cases ended
  | cons step _ ih =>
      subst began
      rcases step.keepsStream with ⟨code, same⟩ | ⟨still, unclosed, undeleted⟩
      · exact ⟨[], code, _, by rw [same]; rfl, by simp, by simp⟩
      · obtain ⟨life, code, rest, split, once, later⟩ := ih still.symm ended
        refine ⟨_ :: life, code, rest, by rw [split]; rfl, fun code member => ?_, fun code member => ?_⟩
        · rcases List.mem_cons.mp member with same | earlier
          · exact unclosed code same.symm
          · exact once code earlier
        · rcases List.mem_cons.mp member with same | earlier
          · exact undeleted code same.symm
          · exact later code earlier

/-- Along a path, what one step can only bring about by an event of some kind needs such an event. -/
theorem Path.needs {holds : Holding → Prop} {kind : DeviceEvent → Prop}
    (needed : ∀ {first event middle}, Step first event middle → holds middle → holds first ∨ kind event)
    (path : Path first events last) (reached : holds last) : holds first ∨ ∃ event ∈ events, kind event := by
  induction path with
  | nil => exact .inl reached
  | cons step _ ih =>
      rcases ih reached with middle | ⟨event, member, found⟩
      · rcases needed step middle with start | found
        · exact .inl start
        · exact .inr ⟨_, List.mem_cons_self, found⟩
      · exact .inr ⟨event, List.mem_cons_of_mem _ member, found⟩

theorem Path.recreated (path : Path first events last) (fresh : builder ∉ first.builders)
    (held : builder ∈ last.builders) : .answered .createBuilder (.ok builder) ∈ events := by
  have needed : ∀ {first event middle}, Step first event middle → builder ∈ middle.builders →
      builder ∈ first.builders ∨ event = .answered .createBuilder (.ok builder) := by
    intro first event middle step held
    cases step with
    | created =>
        have same : builder = _ := List.mem_singleton.mp held
        exact .inr (by rw [same])
    | deleted => cases held
    | _ => exact .inl held
  rcases path.needs needed held with early | ⟨event, member, same⟩
  · exact absurd early fresh
  · exact same ▸ member

theorem Path.streamedAnew (path : Path first events last) (fresh : stream ∉ first.streams)
    (held : stream ∈ last.streams) : ∃ builder, .answered (.openStream builder) (.ok stream) ∈ events := by
  have needed : ∀ {first event middle}, Step first event middle → stream ∈ middle.streams →
      stream ∈ first.streams ∨ ∃ builder, event = .answered (.openStream builder) (.ok stream) := by
    intro first event middle step held
    cases step with
    | opened =>
        have same : stream = _ := List.mem_singleton.mp held
        exact .inr ⟨_, by rw [same]⟩
    | closed | deleted => cases held
    | _ => exact .inl held
  rcases path.needs needed held with early | ⟨event, member, builder, same⟩
  · exact absurd early fresh
  · exact ⟨builder, same ▸ member⟩

/-- A builder that no stream was asked from is a new one. -/
theorem Path.unasked (path : Path first events (.building builder false))
    (asked : first ≠ .building builder false) : .answered .createBuilder (.ok builder) ∈ events := by
  have needed : ∀ {first event middle}, Step first event middle → middle = .building builder false →
      first = .building builder false ∨ event = .answered .createBuilder (.ok builder) := by
    intro first event middle step same
    cases step with
    | created =>
        cases same
        exact .inr rfl
    | unopened | opened | closed | deleted => cases same
    | _ => exact .inl same
  rcases path.needs needed rfl with early | ⟨event, member, same⟩
  · exact absurd early asked
  · exact same ▸ member

theorem Path.wellFormed (path : Path .nothing events .nothing) : WellFormed events where
  builderDeleted split := by
    subst split
    obtain ⟨held, made, _, step, rest⟩ := path.splitAt
    cases step with
    | created => exact rest.deleted rfl
  builderUnused split use := by
    subst split
    obtain ⟨held, left, _, step, rest⟩ := path.splitAt
    obtain ⟨before, after, between, used, _⟩ := rest.splitAt
    have live := used.builderLive use
    cases step with
    | deleted => exact between.recreated (by simp [Holding.builders]) (by simp [live])
  streamClosed split := by
    subst split
    obtain ⟨held, made, _, step, rest⟩ := path.splitAt
    cases step with
    | opened => exact rest.closed
  streamUnused split use := by
    subst split
    obtain ⟨held, left, _, step, rest⟩ := path.splitAt
    obtain ⟨before, after, between, used, _⟩ := rest.splitAt
    have live := used.streamLive use
    cases step with
    | closed => exact between.streamedAnew (by simp [Holding.streams]) (by simp [live])
  oneBuilder split := by
    subst split
    obtain ⟨held, left, _⟩ := path.split
    rw [left.liveBuilders]
    cases held <;> simp [Holding.builders]
  oneStream split := by
    subst split
    obtain ⟨held, left, _⟩ := path.split
    rw [left.liveStreams]
    cases held <;> simp [Holding.streams]
  builderLive split use := by
    subst split
    obtain ⟨held, _, left, step, _⟩ := path.splitAt
    rw [left.liveBuilders, step.builderLive use]
  streamLive split use := by
    subst split
    obtain ⟨held, _, left, step, _⟩ := path.splitAt
    rw [left.liveStreams, step.streamLive use]
  settersFirst split setter := by
    subst split
    obtain ⟨held, left, _, step, rest⟩ := path.splitAt
    obtain ⟨before, after, between, told, _⟩ := rest.splitAt
    have unasked := told.unasked setter
    subst unasked
    cases step with
    | unopened | opened => exact between.unasked (by simp)

end Holding

end PcmOutput
