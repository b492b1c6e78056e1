import PcmOutput.Proofs.Driver.Custody

/-!
# The format of a session

A session lasts from an initialization that succeeds until the driver is initialized again or taken down. Whatever
streams are opened in between, the format is the one that the source was prepared for, and every read is one of it.
-/

set_option autoImplicit false

namespace PcmOutput

variable {δ τ σ : Type}

/-- The act leaves a session in place: it neither begins one nor ends one. -/
def Act.within : Act → Bool
  | .step (.init _) | .step .uninit => false
  | _ => true

def DeviceEvent.opened? : DeviceEvent → Option StreamHandle
  | .answered (.openStream _) (.ok stream) => some stream
  | _ => none

/-- The number of channels that the device told for the stream, if that is what happened. -/
def DeviceEvent.channels? (stream : StreamHandle) : DeviceEvent → Option Int
  | .answered (.query of .channelCount) count => if of = stream then some count else none
  | _ => none

/-- The layout that an open stream was granted: the one that was asked for by a mask, or the one for the number of
channels that the device told. -/
def ChannelRequest.Granted (channels : ChannelRequest) (stream : StreamHandle) (events : List DeviceEvent)
    (layout : ChannelMap) : Prop :=
  match channels with
  | .mask asked _ => asked = layout
  | .count _ => ∃ count ∈ events.filterMap (DeviceEvent.channels? stream), ChannelMap.ofCount? count = some layout

/-- The format and the rate are those of the configuration. -/
def StreamConfiguration.Plays (config : StreamConfiguration) (format : StreamFormat) : Prop :=
  format = ⟨config.format.granted, format.channels, config.sampleRate⟩

def SourceEvent.isRead : SourceEvent → Bool
  | .prepared _ => false
  | .read .. => true

namespace Driver

/-- The uses that the source of a driver was put to, wherever it is. -/
def sourceEvents (driver : Driver δ (WatchedSource τ)) : List SourceEvent :=
  match driver.source.or (driver.context.bind CallbackContext.source) with
  | some source => source.events
  | none => []

end Driver

/-! ## Openings within a session -/

theorem ChannelRequest.Granted.mono {channels : ChannelRequest} {stream : StreamHandle} {events more : List DeviceEvent}
    {layout : ChannelMap} (granted : channels.Granted stream events layout) (included : events ⊆ more) :
    channels.Granted stream more layout := by
  cases channels with
  | mask => exact granted
  | count =>
      obtain ⟨count, told, found⟩ := granted
      obtain ⟨event, happened, tells⟩ := List.mem_filterMap.mp told
      exact ⟨count, List.mem_filterMap.mpr ⟨event, included happened, tells⟩, found⟩

variable {config : StreamConfiguration} {builder : BuilderHandle} {stream : StreamHandle}
  {events : List DeviceEvent} {result : Except OutputError Unit} {earlier : StreamFormat}

theorem LayoutSearch.opensNothing {found : Except OutputError ChannelMap}
    (search : LayoutSearch config stream events found) : events.filterMap DeviceEvent.opened? = [] := by
  cases search <;> rfl

theorem LayoutSearch.granted {layout : ChannelMap} (search : LayoutSearch config stream events (.ok layout)) :
    config.channels.Granted stream events layout := by
  cases search with
  | masked masked => simp [ChannelRequest.Granted, masked]
  | counted counted known => simp [ChannelRequest.Granted, counted, known, DeviceEvent.channels?]

/-- A stream that is closed again was granted what the search for its layout found, and nothing else. -/
theorem LayoutSearch.found_of_granted {found : Except OutputError ChannelMap} {layout : ChannelMap}
    {answer : Call.Answer (.openStream builder)} {code : Int} (search : LayoutSearch config stream events found)
    (granted : config.channels.Granted stream
      (.answered (.openStream builder) answer :: (events ++ [.answered (.closeStream stream) code])) layout) :
    found = .ok layout := by
  cases search with
  | masked masked => simpa [ChannelRequest.Granted, masked] using granted
  | counted counted known =>
      have same : some _ = some layout := known.symm.trans
        (by simpa [ChannelRequest.Granted, counted, DeviceEvent.channels?] using granted)
      cases same
      rfl
  | unknown counted unknown =>
      simp [ChannelRequest.Granted, counted, unknown, DeviceEvent.channels?] at granted

theorem requireLayout_eq_ok_iff {layout : ChannelMap} :
    requireLayout layout (some earlier) = .ok () ↔ earlier.channels = layout := by
  simp [requireLayout]

/-- A stream that is opened in place of an earlier one plays its format. -/
theorem Opening.format {opened : OpenedStream} (opening : Opening builder config (some earlier) events (.ok opened))
    (plays : config.Plays earlier) : opened.format = earlier := by
  cases opening with
  | opened _ required =>
      obtain ⟨rfl⟩ := requireLayout_eq_ok_iff.mp required
      exact plays.symm

theorem Opening.granted {opened : OpenedStream} {before : Option StreamFormat}
    (opening : Opening builder config before events (.ok opened)) :
    events.filterMap DeviceEvent.opened? = [opened.stream] ∧
      config.channels.Granted opened.stream events opened.format.channels := by
  cases opening with
  | opened search =>
      refine ⟨by simp [DeviceEvent.opened?, search.opensNothing], ?_⟩
      exact search.granted.mono (List.subset_cons_of_subset _ (List.subset_append_left _ _))

private theorem last_cons_concat {event : Type} (first last : event) (events : List event) :
    (first :: (events ++ [last])).getLast? = some last := by
  simp [List.getLast?_cons]

/-- A stream that the device opens, but that was granted another layout, is closed again, and only then. -/
theorem Opening.refusal {cause : OutputError}
    (opening : Opening builder config (some earlier) events (.error cause))
    (opened : stream ∈ events.filterMap DeviceEvent.opened?) :
    ¬ config.channels.Granted stream events earlier.channels ∧
      ∃ code, events.getLast? = some (.answered (.closeStream stream) code) := by
  cases opening with
  | refused => cases opened
  | unknownLayout search =>
      obtain rfl : stream = _ := by simpa [DeviceEvent.opened?, search.opensNothing] using opened
      refine ⟨fun granted => ?_, _, last_cons_concat _ _ _⟩
      cases search.found_of_granted granted
  | otherLayout search required =>
      obtain rfl : stream = _ := by simpa [DeviceEvent.opened?, search.opensNothing] using opened
      refine ⟨fun granted => ?_, _, last_cons_concat _ _ _⟩
      cases search.found_of_granted granted
      rw [requireLayout_eq_ok_iff.mpr rfl] at required
      cases required

/-! ## What a session keeps -/

/-- Nothing is opened while a stream is brought through a transition. -/
theorem Confirmation.opensNothing {transition : Transition} {timeoutNanos : Int} {waits : Nat}
    (confirmation : Confirmation stream transition timeoutNanos waits events result) :
    events.filterMap DeviceEvent.opened? = [] := by
  induction confirmation with
  | again _ ih => exact ih
  | _ => rfl

theorem Transit.opensNothing {transition : Transition} {timeoutNanos : Int}
    (transit : Transit stream transition timeoutNanos events result) : events.filterMap DeviceEvent.opened? = [] := by
  cases transit with
  | refused => rfl
  | accepted _ confirmation => exact confirmation.opensNothing

/-- Whatever streams come and go, the session has the same format for the same configuration, and the same source. -/
structure Session.Alike (session session' : Session δ τ) : Prop where
  format : session'.format = session.format
  config : session'.config = session.config
  source : session'.source = session.source

variable {session : Session (WatchedDevice δ) τ} {phase : Phase (WatchedDevice δ) τ} {timeoutNanos : Int}

theorem Starting.alike (starting : Starting timeoutNanos (.ready session) events result phase)
    (plays : session.config.Plays session.format) : ∃ session', phase = .ready session' ∧ session.Alike session' := by
  cases starting with
  | already | failed | started | unopened => exact ⟨_, rfl, rfl, rfl, rfl⟩
  | onlyReopened _ opening => exact ⟨_, rfl, opening.format plays, rfl, rfl⟩
  | reopened _ opening => exact ⟨_, rfl, opening.format plays, rfl, rfl⟩

theorem Pausing.alike {paused : Bool} (pausing : Pausing timeoutNanos paused (.ready session) events result phase)
    (plays : session.config.Plays session.format) : ∃ session', phase = .ready session' ∧ session.Alike session' := by
  cases pausing with
  | playedOn _ starting => exact starting.alike plays
  | _ => exact ⟨_, rfl, rfl, rfl, rfl⟩

/-- A stream that was opened in a session: it is adopted if it was granted the layout of the session, and otherwise
closed again, which is a failure. -/
inductive Regranted (channels : ChannelRequest) (layout : ChannelMap) (stream : StreamHandle)
    (events : List DeviceEvent) : Except OutputError Unit → Phase (WatchedDevice δ) τ → Prop where
  | adopted {playing ended} : channels.Granted stream events layout → playing.playback.stream? = some stream →
      Regranted channels layout stream events ended (.ready playing)
  | refused {silent cause code} : ¬ channels.Granted stream events layout → silent.playback.stream? = none →
      events.getLast? = some (.answered (.closeStream stream) code) →
      Regranted channels layout stream events (.error cause) (.ready silent)

theorem Starting.regranted (starting : Starting timeoutNanos (.ready session) events result phase)
    (plays : session.config.Plays session.format) (opened : stream ∈ events.filterMap DeviceEvent.opened?) :
    Regranted session.config.channels session.format.channels stream events result phase := by
  have reopened : ∀ {opening later : List DeviceEvent} {fresh : OpenedStream},
      Opening session.builder session.config (some session.format) opening (.ok fresh) →
      later.filterMap DeviceEvent.opened? = [] → stream ∈ (opening ++ later).filterMap DeviceEvent.opened? →
      fresh.stream = stream ∧ session.config.channels.Granted stream (opening ++ later) session.format.channels := by
    intro opening later fresh opens quiet among
    obtain ⟨only, granted⟩ := opens.granted
    obtain rfl : stream = fresh.stream := by simpa [only, quiet] using among
    rw [opens.format plays] at granted
    exact ⟨rfl, granted.mono (List.subset_append_left _ _)⟩
  -- Only the last three ways open a stream, and none of them opens a second one.
  cases starting with
  | already => cases opened
  | failed _ transit => simp [transit.opensNothing] at opened
  | started _ transit => simp [transit.opensNothing] at opened
  | unopened closed opening =>
      obtain ⟨otherwise, code, last⟩ := opening.refusal opened
      exact .refused otherwise (by simp [closed, Playback.stream?]) last
  | onlyReopened _ opening transit =>
      obtain ⟨rfl, granted⟩ := reopened opening transit.opensNothing opened
      exact .adopted granted rfl
  | reopened _ opening transit =>
      obtain ⟨rfl, granted⟩ := reopened opening transit.opensNothing opened
      exact .adopted granted rfl

theorem Pausing.regranted {paused : Bool} (pausing : Pausing timeoutNanos paused (.ready session) events result phase)
    (plays : session.config.Plays session.format) (opened : stream ∈ events.filterMap DeviceEvent.opened?) :
    Regranted session.config.channels session.format.channels stream events result phase := by
  cases pausing with
  | failed _ transit => simp [transit.opensNothing] at opened
  | paused _ transit => simp [transit.opensNothing] at opened
  | playedOn _ starting => exact starting.regranted plays opened
  | _ => cases opened

theorem Closing.opensNothing {closed : Session (WatchedDevice δ) τ} (closing : Closing session events closed) :
    events.filterMap DeviceEvent.opened? = [] := by
  cases closing <;> rfl

theorem Resetting.opensNothing {phase' : Phase (WatchedDevice δ) τ} (resetting : Resetting phase events phase') :
    events.filterMap DeviceEvent.opened? = [] := by
  cases resetting with
  | idle => rfl
  | ready closing => exact closing.opensNothing

theorem Session.settled_alike (drained : Bool) (session : Session δ τ) : session.Alike (session.settled drained) :=
  ⟨rfl, rfl, rfl⟩

section Regranting

variable [AudioSource τ] {before after : Output (WatchedDevice δ) τ} {act : Act} {outcome : Outcome} {step : Step}

theorem Course.regranted (course : Course before step events result after) (within : (Act.step step).within = true)
    (ready : before.phase = .ready session) (plays : session.config.Plays session.format)
    (opened : stream ∈ events.filterMap DeviceEvent.opened?) :
    Regranted session.config.channels session.format.channels stream events result after.phase := by
  cases course with
  | init | uninit => cases within
  | start _ _ starting =>
      rw [ready] at starting
      exact starting.regranted plays opened
  | setPause _ _ pausing =>
      rw [ready] at pausing
      exact pausing.regranted plays opened
  | reset _ _ resetting => simp [resetting.opensNothing] at opened
  | lost | filled | error | mailbox => cases opened

theorem Acted.regranted (acted : Acted before act outcome after) (within : act.within = true)
    (ready : before.phase = .ready session) (plays : session.config.Plays session.format)
    (heard : after.device.events = before.device.events ++ events)
    (opened : stream ∈ events.filterMap DeviceEvent.opened?) :
    ∃ result, outcome = .completed result ∧
      Regranted session.config.channels session.format.channels stream events result after.phase := by
  cases acted with
  | @completed _ events' _ _ _ course =>
      obtain rfl : events = events' := List.append_cancel_left (heard.symm.trans course.events_append)
      exact ⟨_, rfl, course.regranted within ready plays opened⟩
  | @filled _ _ filled delivering =>
      obtain ⟨events', course⟩ := delivering.course
      obtain rfl : events = events' := List.append_cancel_left (heard.symm.trans course.events_append)
      generalize filled.witnessing _ = after at course
      cases course <;> cases opened
  | @counted _ events' _ kept _ _ counting =>
      obtain rfl : events = events' := List.append_cancel_left (heard.symm.trans kept.events)
      cases counting <;> cases opened

end Regranting

/-- The session went on: it has the same format for the same configuration, and its source was only read. -/
structure Session.Onward (session session' : Session δ (WatchedSource σ)) : Prop where
  format : session'.format = session.format
  config : session'.config = session.config
  reads : ∃ reads, session'.source.events = session.source.events ++ reads ∧ ∀ event ∈ reads, event.isRead = true

namespace Session

variable {first second third : Session δ (WatchedSource σ)}

theorem Onward.refl : first.Onward first :=
  ⟨rfl, rfl, [], (List.append_nil _).symm, nofun⟩

theorem Onward.trans (earlier : first.Onward second) (later : second.Onward third) : first.Onward third := by
  obtain ⟨format, config, reads, events, only⟩ := earlier
  obtain ⟨format', config', reads', events', only'⟩ := later
  refine ⟨format'.trans format, config'.trans config, reads ++ reads', by rw [events', events, List.append_assoc], ?_⟩
  intro event among
  rcases List.mem_append.mp among with among | among
  · exact only event among
  · exact only' event among

theorem Alike.onward (alike : first.Alike second) : first.Onward second :=
  ⟨alike.format, alike.config, [], by simp [alike.source], nofun⟩

end Session

section Sessions

variable [AudioSource σ] {before after : Output (WatchedDevice δ) (WatchedSource σ)} {act : Act} {outcome : Outcome}
  {step : Step} {session : Session (WatchedDevice δ) (WatchedSource σ)}

theorem Filled.onward {request : DataRequest} {written : Int} {stamp : Except Int (Int × Int)} {answer : DataAnswer}
    (filled : Filled request session stream written stamp before answer after) :
    ∃ session', after.phase = .ready session' ∧ session.Onward session' := by
  obtain ⟨missed, phase⟩ := filled.phase
  refine ⟨_, phase, rfl, rfl, _, rfl, ?_⟩
  intro event among
  obtain rfl := List.mem_singleton.mp among
  rfl

theorem Course.onward (course : Course before step events result after) (within : (Act.step step).within = true)
    (ready : before.phase = .ready session) (plays : session.config.Plays session.format) :
    ∃ session', after.phase = .ready session' ∧ session.Onward session' := by
  have stays : after.phase = before.phase → ∃ session', after.phase = .ready session' ∧ session.Onward session' :=
    fun same => ⟨session, same.trans ready, .refl⟩
  cases course with
  | init | uninit => cases within
  | start _ _ starting =>
      rw [ready] at starting
      obtain ⟨session', phase, alike⟩ := starting.alike plays
      exact ⟨session', phase, ((session.settled_alike _).onward).trans alike.onward⟩
  | setPause _ _ pausing =>
      rw [ready] at pausing
      obtain ⟨session', phase, alike⟩ := pausing.alike plays
      exact ⟨session', phase, ((session.settled_alike _).onward).trans alike.onward⟩
  | reset _ _ resetting =>
      rw [ready] at resetting
      generalize after.phase = phase at resetting ⊢
      cases resetting with
      | ready closing => cases closing <;> exact ⟨_, rfl, rfl, rfl, [], (List.append_nil _).symm, nofun⟩
  | lost | mailbox => exact stays rfl
  | filled _ _ same filled =>
      cases ready.symm.trans same
      exact filled.onward
  | error complaining => cases complaining <;> exact stays rfl

theorem Acted.onward (acted : Acted before act outcome after) (within : act.within = true)
    (ready : before.phase = .ready session) (plays : session.config.Plays session.format) :
    ∃ session', after.phase = .ready session' ∧ session.Onward session' := by
  cases acted with
  | completed _ course => exact course.onward within ready plays
  | filled delivering =>
      obtain ⟨events, course⟩ := delivering.course
      exact course.onward rfl ready plays
  | counted _ phase => exact ⟨session, phase.trans ready, .refl⟩

theorem Output.afterActs_onward (reports : before.Reports) (acts : List Act) (within : ∀ act ∈ acts, act.within = true)
    (ready : before.phase = .ready session) (plays : session.config.Plays session.format) :
    (before.afterActs acts).Reports ∧
      ∃ session', (before.afterActs acts).phase = .ready session' ∧ session.Onward session' := by
  induction acts generalizing before session with
  | nil => exact ⟨reports, session, ready, .refl⟩
  | cons act rest ih =>
      have acted : Acted before act (act.work.run before).1 (act.work.run before).2 := act.work_acted reports
      -- What the configuration plays carries the induction: a stream that replaces another one plays the same.
      obtain ⟨middle, phase, onward⟩ := acted.onward (within act List.mem_cons_self) ready plays
      have plays' : middle.config.Plays middle.format := by rw [onward.config, onward.format]; exact plays
      obtain ⟨reports', session', phase', onward'⟩ :=
        ih (acted.reports reports) (fun act among => within act (List.mem_cons_of_mem _ among)) phase plays'
      exact ⟨reports', session', phase', onward.trans onward'⟩

end Sessions

structure Session.Begun (session : Session (WatchedDevice δ) (WatchedSource σ)) (past : List SourceEvent)
    (events : List DeviceEvent) : Prop where
  plays : session.config.Plays session.format
  source : session.source.events = past ++ [.prepared session.format]
  granted : ∃ stream, session.playback.stream? = some stream ∧
    session.config.channels.Granted stream events session.format.channels

theorem Acted.begun [AudioSource σ] {before after : Output (WatchedDevice δ) (WatchedSource σ)} {request : AudioRequest}
    (acted : Acted before (.step (.init request)) (.completed (.ok ())) after)
    (heard : after.device.events = before.device.events ++ events) :
    ∃ session, after.phase = .ready session ∧ session.Begun before.source.events events := by
  cases acted with
  | @completed _ events' _ _ _ course =>
      obtain rfl : events = events' := List.append_cancel_left (heard.symm.trans course.events_append)
      cases course with
      | mailbox impossible => rcases impossible with impossible | impossible <;> cases impossible
      | init _ _ taking beginning =>
          rw [before.source_eq, ← taking.source]
          generalize after.phase = phase at beginning ⊢
          cases beginning with
          | opened agreed told opening =>
              refine ⟨_, rfl, ?_, rfl, _, rfl, ?_⟩
              · cases opening
                rfl
              · apply opening.granted.2.mono
                intro event among
                simp [among]

theorem Filled.reads [AudioSource σ] {before after : Output (WatchedDevice δ) (WatchedSource σ)} {wanted : DataRequest}
    {session : Session (WatchedDevice δ) (WatchedSource σ)} {written : Int} {stamp : Except Int (Int × Int)}
    {answer : DataAnswer} (filled : Filled wanted session stream written stamp before answer after)
    (ready : before.phase = .ready session) :
    after.source.events = before.source.events ++
      [.read wanted.frames.toNat ((wanted.buffer.getD []).take (session.format.bufferBytes wanted.frames)).length
        (presentationDeadline wanted.now.nanos wanted.frames.toNat written (presentedBy written stamp)
          session.config.sampleRate)
        (session.reading wanted written (presentedBy written stamp)).pull] := by
  obtain ⟨missed, phase⟩ := filled.phase
  simp only [Output.source_eq, phase, ready]
  rfl

/-- A data callback that has all its parts reads once into all of the room that it is to fill. -/
theorem Acted.delivered [AudioSource σ] {before after : Output (WatchedDevice δ) (WatchedSource σ)}
    {wanted : DataRequest} {outcome : Outcome} {session : Session (WatchedDevice δ) (WatchedSource σ)}
    {buffer : List UInt8}
    (acted : Acted before (.step (.data wanted)) outcome after) (ready : before.phase = .ready session)
    (attached : wanted.attached = true) (streams : wanted.stream = some stream) (given : wanted.buffer = some buffer)
    (room : wanted.frames.toNat * session.format.frameBytes ≤ buffer.length) :
    ∃ answer deadline pull, outcome = .filled answer ∧ (answer.result = .stop ↔ pull.eof = true) ∧
      after.source.events = before.source.events ++
        [.read wanted.frames.toNat (wanted.frames.toNat * session.format.frameBytes) deadline pull] := by
  obtain ⟨written, stamp, answer, filled', rfl, filled, rfl⟩ := acted.filling ready attached streams
  have sized : ((wanted.buffer.getD []).take (session.format.bufferBytes wanted.frames)).length =
      wanted.frames.toNat * session.format.frameBytes := by
    simp [given, StreamFormat.bufferBytes, room]
  have uses := filled.reads ready
  rw [sized] at uses
  have stops : ∀ eof : Bool, (if eof then CallbackResult.stop else .continue) = .stop ↔ eof = true := by
    decide
  exact ⟨answer, _, _, rfl, by rw [filled.result]; exact stops _, uses⟩

theorem Fits.sourceEvents {driver : Driver δ (WatchedSource σ)} {output : Output δ (WatchedSource σ)}
    (fits : Fits driver output) : driver.sourceEvents = output.source.events := by
  unfold Driver.sourceEvents
  rcases fits.custody with ⟨held, -⟩ | ⟨none, lent⟩
  · simp [held]
  · simp [none, lent]

section Fitting

variable [AudioSource σ] {driver : Driver (WatchedDevice δ) (WatchedSource σ)}
    {output : Output (WatchedDevice δ) (WatchedSource σ)}
  {session : Session (WatchedDevice δ) (WatchedSource σ)}

theorem Fits.regranted (fits : Fits driver output) (reports : output.Reports) (ready : output.phase = .ready session)
    (plays : session.config.Plays session.format) {act : Act} (within : act.within = true) :
    let next := act.handling.run driver
    let events := driver.since next.2
    ∀ stream ∈ events.filterMap DeviceEvent.opened?,
      (session.config.channels.Granted stream events session.format.channels → next.2.stream = some stream) ∧
      (¬ session.config.channels.Granted stream events session.format.channels → next.2.stream = none ∧
        (∃ cause, next.1 = .completed (.error cause)) ∧
        ∃ code, events.getLast? = some (.answered (.closeStream stream) code)) := by
  intro next events stream opened
  obtain ⟨same, fits'⟩ := act.handling_refines.run fits
  have acted : Acted output act (act.work.run output).1 (act.work.run output).2 := act.work_acted reports
  obtain ⟨traffic, heard⟩ := acted.heard
  have since : events = traffic := fits.since fits' heard
  rw [since] at opened ⊢
  obtain ⟨result, completed, regranted⟩ := acted.regranted within ready plays heard opened
  have streams : next.2.stream = (act.work.run output).2.playback.stream? := fits'.stream
  rw [streams, show next.1 = .completed result from same.trans completed]
  unfold Output.playback
  generalize (act.work.run output).2.phase = phase at regranted ⊢
  cases regranted with
  | adopted granted playing => exact ⟨fun _ => playing, fun refused => absurd granted refused⟩
  | refused refused silent last =>
      exact ⟨fun granted => absurd granted refused, fun _ => ⟨silent, ⟨_, rfl⟩, _, last⟩⟩

theorem Fits.delivered (fits : Fits driver output) (reports : output.Reports) (ready : output.phase = .ready session)
    {wanted : DataRequest} {stream : StreamHandle} {buffer : List UInt8} (attached : wanted.attached = true)
    (streams : wanted.stream = some stream) (given : wanted.buffer = some buffer)
    (room : wanted.frames.toNat * session.format.frameBytes ≤ buffer.length) :
    let next := (Act.step (.data wanted)).handling.run driver
    ∃ answer deadline pull, next.1 = .filled answer ∧ (answer.result = .stop ↔ pull.eof = true) ∧
      next.2.sourceEvents = driver.sourceEvents ++
        [.read wanted.frames.toNat (wanted.frames.toNat * session.format.frameBytes) deadline pull] := by
  intro next
  obtain ⟨same, fits'⟩ := (Act.step (.data wanted)).handling_refines.run fits
  have acted := (Act.step (.data wanted)).work_acted reports
  obtain ⟨answer, deadline, pull, filled, stops, uses⟩ := Acted.delivered acted ready attached streams given room
  exact ⟨answer, deadline, pull, same.trans filled, stops, by rw [fits'.sourceEvents, fits.sourceEvents, uses]⟩

end Fitting

/--
From an initialization that succeeds until the next one, or until the driver is taken down, the format never changes.
It is the one that the source was prepared for, once and before any read, and the one that the bytes of a frame are
counted by. A stream that is opened meanwhile is adopted if it was granted the layout of the format, and otherwise
closed again, with an error. A data callback with a stream and a buffer makes one read of as many frames as it wants,
and stops just when that is the end.
-/
theorem Driver.format_lasts [AudioSource σ] (options : Options) (load : Loader δ)
    (source : WatchedSource σ) (device : δ) (history : List Act) (request : AudioRequest) (during : List Act)
    (begun : ((Act.step (.init request)).handling.run
      ((Driver.fresh options load source device).afterActs history)).1 = .completed (.ok ()))
    (within : ∀ act ∈ during, act.within = true) :
    let before := (Driver.fresh options load source device).afterActs history
    let opened := ((Act.step (.init request)).handling.run before).2
    let driver := opened.afterActs during
    ∃ format config,
      (opened.format = some format ∧ opened.config = some config ∧
        opened.sourceEvents = before.sourceEvents ++ [.prepared format] ∧
        ∃ stream, opened.stream = some stream ∧
          config.channels.Granted stream (before.since opened) format.channels) ∧
      (driver.format = some format ∧ driver.config = some config ∧
        driver.context.map CallbackContext.frameBytes = some format.frameBytes ∧
        ∃ reads, driver.sourceEvents = opened.sourceEvents ++ reads ∧ ∀ use ∈ reads, use.isRead = true) ∧
      (∀ act : Act, act.within = true →
        let next := act.handling.run driver
        let events := driver.since next.2
        ∀ stream ∈ events.filterMap DeviceEvent.opened?,
          (config.channels.Granted stream events format.channels → next.2.stream = some stream) ∧
          (¬ config.channels.Granted stream events format.channels → next.2.stream = none ∧
            (∃ cause, next.1 = .completed (.error cause)) ∧
            ∃ code, events.getLast? = some (.answered (.closeStream stream) code))) ∧
      ∀ (wanted : DataRequest) (stream : StreamHandle) (buffer : List UInt8),
        wanted.attached = true → wanted.stream = some stream → wanted.buffer = some buffer →
        wanted.frames.toNat * format.frameBytes ≤ buffer.length →
        let next := (Act.step (.data wanted)).handling.run driver
        ∃ answer deadline pull, next.1 = .filled answer ∧ (answer.result = .stop ↔ pull.eof = true) ∧
          next.2.sourceEvents = driver.sourceEvents ++
            [.read wanted.frames.toNat (wanted.frames.toNat * format.frameBytes) deadline pull] := by
  intro before opened driver
  let output := (Output.begun options load source device).afterActs history
  let beginning := (Act.step (.init request)).work.run output
  have fits : Fits before output := (Driver.fresh_fits options load source device).afterActs history
  obtain ⟨reports, -⟩ := Output.afterActs_begun options load source device history
  obtain ⟨same, opened_fits⟩ := (Act.step (.init request)).handling_refines.run fits
  have acted : Acted output (.step (.init request)) beginning.1 beginning.2 :=
    (Act.step (.init request)).work_acted reports
  rw [show beginning.1 = .completed (.ok ()) from same.symm.trans begun] at acted
  obtain ⟨events, heard⟩ := acted.heard
  obtain ⟨session, ready, starts⟩ := acted.begun heard
  obtain ⟨reports', session', ready', onward⟩ :=
    Output.afterActs_onward (acted.reports reports) during within ready starts.plays
  have driver_fits : Fits driver (beginning.2.afterActs during) := opened_fits.afterActs during
  have plays' : session'.config.Plays session'.format := by rw [onward.config, onward.format]; exact starts.plays
  have first := opened_fits.holds ready
  have last := driver_fits.holds ready'
  refine ⟨session.format, session.config, ⟨first.format, first.config, ?_, ?_⟩, ⟨?_, ?_, ?_, ?_⟩, ?_, ?_⟩
  · rw [opened_fits.sourceEvents, fits.sourceEvents, Output.source_eq _, ready]
    exact starts.source
  · rw [first.stream, fits.since opened_fits heard]
    exact starts.granted
  · rw [last.format, onward.format]
  · rw [last.config, onward.config]
  · rw [last.context, Option.map_some, ← onward.format]
    rfl
  · rw [driver_fits.sourceEvents, opened_fits.sourceEvents, Output.source_eq _, ready', Output.source_eq _, ready]
    exact onward.reads
  · intro act stays
    rw [← onward.config, ← onward.format]
    exact driver_fits.regranted reports' ready' plays' stays
  · intro wanted stream buffer attached streams given room
    rw [← onward.format] at room ⊢
    exact driver_fits.delivered reports' ready' attached streams given room

theorem Driver.format_lasts_simulated :
    let before := (Driver.simulated {}).afterActs []
    let opened := ((Act.step (.init .plain)).handling.run before).2
    let during : List Act := [.step .start, .step .reset, .step .start]
    ((Act.step (.init .plain)).handling.run before).1 = .completed (.ok ()) ∧ (∀ act ∈ during, act.within = true) ∧
      opened.format = some ⟨.float, .stereo, 48000⟩ ∧ (opened.afterActs during).format = opened.format := by
  have begun : ((Act.step (.init .plain)).handling.run ((Driver.simulated {}).afterActs [])).1 =
      .completed (.ok ()) := by
    decide +kernel
  have within : ∀ act ∈ [Act.step .start, .step .reset, .step .start], act.within = true := by
    simp [Act.within]
  have plain : ((Act.step (.init .plain)).handling.run ((Driver.simulated {}).afterActs [])).2.format =
      some ⟨.float, .stereo, 48000⟩ := by
    decide +kernel
  unfold Driver.simulated at begun plain ⊢
  obtain ⟨format, config, ⟨opened, -⟩, ⟨lasting, -⟩, -⟩ :=
    Driver.format_lasts {} (presentLoader (SimulatedDevice.api 27 []))
    (⟨⟨.scripted {}, []⟩, []⟩ : WatchedSource SimulatedSource) {} [] .plain _ begun within
  exact ⟨begun, within, plain, lasting.trans opened.symm⟩

end PcmOutput
