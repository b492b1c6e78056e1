import PcmOutput.Proofs.Player.Care
import PcmOutput.Proofs.Player.Hearing
import PcmOutput.Proofs.Tone.Sound

/-!
# One sound through all reloads

A tone that is handed from turn to turn goes on where it was: the first read of a turn finds it at the place where the
last read before left it. So all turns together play each frame of the tone once, as one turn would have done.
-/

set_option autoImplicit false

namespace PcmOutput

/-- A read whose buffer has just the size of the frames that it asks for. -/
def Heard.Sized (heard : Heard Tone) : Prop :=
  ∀ format, heard.source.format = some format → heard.buffer.length = heard.frames * format.frameBytes

/-- All the frames that some reads ask for. -/
def framesHeard : List (Heard Tone) → Nat
  | [] => 0
  | heard :: rest => heard.frames + framesHeard rest

namespace Tone

/-! ## Places in a tone -/

/-- The second tone is at the place of the first one; only what it was told of the stream may differ. -/
structure AtPlace (tone other : Tone) : Prop where
  swings : other.frequency = tone.frequency
  lasts : other.seconds = tone.seconds
  played : other.playedFrames = tone.playedFrames
  phase : other.phase = tone.phase

/-- A tone that was told a format of this rate. -/
structure ReadyAt (rate : Nat) (format : StreamFormat) (tone : Tone) : Prop where
  told : tone.format = some format
  rated : format.sampleRate = rate
  total : tone.totalFrames = framesIn tone.seconds rate

variable {tone other third left : Tone} {rate : Nat} {format : StreamFormat}

theorem AtPlace.refl : AtPlace tone tone :=
  ⟨rfl, rfl, rfl, rfl⟩

theorem AtPlace.trans (first : AtPlace tone other) (second : AtPlace other third) : AtPlace tone third :=
  ⟨second.swings.trans first.swings, second.lasts.trans first.lasts, second.played.trans first.played,
    second.phase.trans first.phase⟩

/-- What a tone is told of the stream does not move it. -/
theorem prepare_atPlace (format : StreamFormat) (tone : Tone) : AtPlace tone (tone.prepare format) :=
  ⟨rfl, rfl, rfl, rfl⟩

theorem prepare_readyAt (tone : Tone) (rated : format.sampleRate = rate) :
    ReadyAt rate format (tone.prepare format) where
  told := rfl
  rated := rated
  total := by rw [← rated]; rfl

theorem ReadyAt.read (ready : ReadyAt rate format tone) (buffer : List UInt8) (frames : Nat) (deadline : Int) :
    let reading := tone.read buffer frames deadline
    ReadyAt rate format reading.source ∧ reading.source.playedFrames = tone.playedFrames + reading.pull.frames := by
  intro reading
  have moved : reading.source = { tone with
      playedFrames := tone.playedFrames + reading.pull.frames
      phase := reading.source.phase
      lastDeadline := deadline } := by
    simp only [reading, Tone.read, ready.told]
  rw [moved]
  exact ⟨⟨ready.told, ready.rated, ready.total⟩, rfl⟩

/-! ## Reads one after another -/

/-- The reads take the one tone to the other, each of them beginning at the place where the one before ended. -/
inductive Leads (rate : Nat) : Tone → List (Heard Tone) → Tone → Prop
  | done {tone left : Tone} : AtPlace tone left → Leads rate tone [] left
  | read {tone left : Tone} {format : StreamFormat} {heard : Heard Tone} {rest : List (Heard Tone)} :
      AtPlace tone heard.source → ReadyAt rate format heard.source →
      Leads rate heard.reading.source rest left → Leads rate tone (heard :: rest) left

variable {heard : List (Heard Tone)}

theorem Leads.move (leads : Leads rate tone heard left) (moved : AtPlace left other) : Leads rate tone heard other := by
  induction leads with
  | done same => exact .done (same.trans moved)
  | read same ready _ ih => exact .read same ready (ih moved)

theorem Leads.next {read : Heard Tone} (leads : Leads rate tone heard read.source)
    (ready : ReadyAt rate format read.source) : Leads rate tone (heard ++ [read]) read.reading.source := by
  generalize end_ : read.source = left at leads
  induction leads with
  | done same =>
      subst end_
      exact .read same ready (.done .refl)
  | read same others _ ih => exact .read same others (ih end_)

/-! ## What reads one after another come to -/

theorem Leads.begins (leads : Leads rate tone heard left) (first : Heard Tone) (stands : heard[0]? = some first) :
    AtPlace tone first.source := by
  cases leads with
  | done => simp at stands
  | read same =>
      cases stands
      exact same

/-- Between two reads the tone is not moved. -/
theorem Leads.onward (leads : Leads rate tone heard left) (index : Nat) (earlier later : Heard Tone)
    (first : heard[index]? = some earlier) (second : heard[index + 1]? = some later) :
    AtPlace earlier.reading.source later.source := by
  induction leads generalizing index with
  | done => simp at first
  | read same ready rest ih =>
      cases index with
      | zero =>
          cases first
          exact rest.begins later second
      | succ index => exact ih index first second

/-- The frames that are played are those from the first place to the last one, each of them once. -/
theorem Leads.frames (leads : Leads rate tone heard left) :
    ∃ count, left.playedFrames = tone.playedFrames + count ∧
      heard.flatMap (fun read => List.range' read.source.playedFrames read.reading.pull.frames) =
        List.range' tone.playedFrames count := by
  induction leads with
  | done same => exact ⟨0, same.played, rfl⟩
  | @read tone left format heard rest same ready _ ih =>
      obtain ⟨count, ends, frames⟩ := ih
      have advanced : heard.reading.source.playedFrames = heard.source.playedFrames + heard.reading.pull.frames :=
        (ready.read heard.buffer heard.frames heard.deadline).2
      rw [advanced, same.played] at ends frames
      refine ⟨heard.reading.pull.frames + count, by rw [ends, Nat.add_assoc], ?_⟩
      rw [List.flatMap_cons, frames, same.played, List.range'_append_1]

variable {frequency : Frequency} {seconds : Float} {asked : Nat}

theorem Reached.move (reached : Reached frequency seconds format asked tone) {next : StreamFormat}
    (same : AtPlace tone other) (ready : ReadyAt rate next other) (rated : format.sampleRate = rate) :
    Reached frequency seconds next asked other where
  swings := same.swings.trans reached.swings
  lasts := same.lasts.trans reached.lasts
  prepared := ready.told
  total := by rw [ready.total, same.lasts, reached.lasts, ready.rated]
  played := by rw [same.played, reached.played, rated, ready.rated]
  phase := by rw [same.phase, reached.phase, rated, ready.rated]

/-- As long as the buffers have the size of the frames, each of them is filled with the frames that come next. -/
theorem Leads.sounds (leads : Leads rate tone heard left) (reached : Reached frequency seconds format asked tone)
    (rated : format.sampleRate = rate) (sized : ∀ read ∈ heard, read.Sized) (index : Nat) (read : Heard Tone)
    (stands : heard[index]? = some read) :
    ∃ format, read.source.format = some format ∧ read.reading.buffer =
      (List.range' (asked + framesHeard (heard.take index)) read.frames).flatMap
        (soundAt frequency seconds format) := by
  induction leads generalizing asked format index with
  | done => simp at stands
  | @read tone left told heard rest same ready _ ih =>
      -- What the tone was told between two reads has the same rate, so that it has come as far as before.
      obtain ⟨filled, onward⟩ := (reached.move same ready rated).read (sized heard List.mem_cons_self told ready.told)
        heard.deadline
      cases index with
      | zero =>
          cases stands
          exact ⟨told, ready.told, filled⟩
      | succ index =>
          have later := ih onward ready.rated (fun read among => sized read (List.mem_cons_of_mem _ among)) index stands
          rw [List.take_succ_cons, framesHeard, ← Nat.add_assoc]
          exact later

/-- The reads of a tone that was just made, with all turns taken together. -/
structure Seamless (frequency : Frequency) (seconds : Float) (heard : List (Heard Tone)) (left : Tone) : Prop where
  begins : ∀ first, heard[0]? = some first → first.source.playedFrames = 0 ∧ first.source.phase = 0.0
  onward : ∀ index earlier later, heard[index]? = some earlier → heard[index + 1]? = some later →
    later.source.playedFrames = earlier.reading.source.playedFrames ∧
      later.source.phase = earlier.reading.source.phase
  frames : heard.flatMap (fun read => List.range' read.source.playedFrames read.reading.pull.frames) =
    List.range left.playedFrames
  sounds : (∀ read ∈ heard, read.Sized) → ∀ index read, heard[index]? = some read →
    ∃ format, read.source.format = some format ∧ read.reading.buffer =
      (List.range' (framesHeard (heard.take index)) read.frames).flatMap (soundAt frequency seconds format)

theorem Leads.seamless (leads : Leads rate { frequency := frequency, seconds := seconds } heard left) :
    Seamless frequency seconds heard left where
  begins first stands := ⟨(leads.begins first stands).played, (leads.begins first stands).phase⟩
  onward index earlier later first second :=
    ⟨(leads.onward index earlier later first second).played, (leads.onward index earlier later first second).phase⟩
  frames := by
    obtain ⟨count, ends, frames⟩ := leads.frames
    rw [frames, List.range_eq_range', ends, Nat.zero_add]
  sounds sized index read stands := by
    cases leads with
    | done => simp at stands
    | @read _ _ told first rest same ready onward =>
        -- The tone counts as told of its first stream from the beginning, for that does not move it.
        have prepared : Leads rate (Tone.ready frequency seconds told) (first :: rest) left :=
          .read ⟨same.swings, same.lasts, same.played, same.phase⟩ ready onward
        have sounds := prepared.sounds (ready_reached frequency seconds told) ready.rated sized index read stands
        simpa only [Nat.zero_add] using sounds

end Tone

namespace Player

/-! ## Turns for one tone -/

variable {δ τ : Type} {rate : Nat} {tone : Tone}

/-- What was read of the source so far begins with what was read of an earlier one, and takes the tone to where it is. -/
structure Follows (rate : Nat) (tone : Tone) (earlier source : HeardSource Tone) : Prop where
  events : earlier.events <+: source.events
  leads : Tone.Leads rate tone source.events source.subject

theorem follows_care (earlier : HeardSource Tone) :
    Care rate (Follows rate tone earlier) fun source =>
      Follows rate tone earlier source ∧ ∃ format, Tone.ReadyAt rate format source.subject where
  prepared format source rated follows :=
    ⟨⟨follows.events, follows.leads.move (Tone.prepare_atPlace format source.subject)⟩, format,
      Tone.prepare_readyAt source.subject rated⟩
  read buffer frames deadline source ready := by
    obtain ⟨follows, format, ready⟩ := ready
    let heard : Heard Tone := ⟨source.subject, buffer, frames, deadline⟩
    have leads : Tone.Leads rate tone (source.events ++ [heard]) heard.reading.source := follows.leads.next ready
    exact ⟨⟨follows.events.trans (List.prefix_append _ _), leads⟩, format, (ready.read buffer frames deadline).1⟩
  returned source ready := ready.1

/-- What an output has of the source of a turn when the turn is over. -/
def Turn.remaining [AudioSource τ] (host : Host δ τ) (options : Options) (request : AudioRequest) (waitable : Bool)
    (turn : Turn δ τ) : τ :=
  ((performance host request waitable).run (Output.create options host.load turn.source turn.scene.device)).2.source

section

variable [AudioSource τ] (host : Host δ τ) (options : Options) (request : AudioRequest) (waitable : Bool)

theorem perform_ended (source : τ) (scene : Scene δ) :
    (turnOf (perform host options request waitable) source scene).ended =
      ((performance host request waitable).run (Output.create options host.load source scene.device)).1 :=
  rfl

omit [AudioSource τ] in
theorem conclude_unfailed (before : Output δ τ) (message : String) :
    Ends (conclude host waitable) before fun ended _ => ended ≠ .failed message := by
  unfold conclude
  split
  · exact Ends.done nofun
  · have played : Ends host.whilePlaying before fun _ _ => True := trivial
    apply played.andThen
    intro _ middle _
    have gives : ∀ (ending : τ → PerformanceEnd τ) (held : Output δ τ), (∀ source, ending source ≠ .failed message) →
        Ends (do let source ← Output.intoSource; return ending source) held fun ended _ => ended ≠ .failed message :=
      fun _ held other => other (Output.intoSource.run held).1
    apply Ends.read
    split
    · exact gives _ middle fun _ => nofun
    · exact gives _ middle fun _ => nofun
    · have noted : Ends (note .warning "Stream did not drain in time") middle fun _ _ => True := trivial
      exact noted.andThen fun _ held _ => gives _ held fun _ => nofun

/-- A turn that fails does so with an error of the output. -/
theorem performance_failed (before : Output δ τ) :
    Ends (performance host request waitable) before fun ended _ =>
      ∀ message, ended = .failed message → ∃ cause : OutputError, message = cause.message := by
  have begun : Ends (begin host request).run before fun _ _ => True := trivial
  apply begun.andThen
  intro result middle _
  cases result with
  | error cause =>
      have down : Ends Output.uninit middle fun _ _ => True := trivial
      apply down.andThen
      intro _ after _
      refine Ends.done ?_
      intro message same
      cases same
      exact ⟨cause, rfl⟩
  | ok =>
      intro message failed
      exact absurd failed (conclude_unfailed host waitable middle message)

end

end Player

theorem head?_toList_append {text rest : String} {first : Char} (begins : text.toList.head? = some first) :
    (text ++ rest).toList.head? = some first := by
  rw [String.toList_append, List.head?_append, begins]
  rfl

theorem OutputError.message_begins (cause : OutputError) :
    ∃ first, cause.message.toList.head? = some first ∧ first ≠ 'g' := by
  cases cause with
  | unknownApiLevel | notOpen | notInitialized | noSource => exact ⟨_, rfl, by decide⟩
  | builderRefused | noChannelMap | unknownChannelCount | openRefused | invalidRequest | unknownOption =>
      exact ⟨_, head?_toList_append rfl, by decide⟩
  | libraryLoad | unsupportedApiLevel | layoutChanged | transport | invalidOption | profile =>
      exact ⟨_, head?_toList_append (head?_toList_append (head?_toList_append rfl)), by decide⟩
  | missingSymbol =>
      exact ⟨_, head?_toList_append (head?_toList_append (head?_toList_append (head?_toList_append rfl))), by decide⟩

/-- No error of the output reads like the message of a player that gives up. -/
theorem OutputError.message_ne_givingUp (cause : OutputError) (most : Nat) :
    cause.message ≠ s!"giving up after {most} reloads" := by
  intro same
  obtain ⟨first, begins, other⟩ := cause.message_begins
  have gives : s!"giving up after {most} reloads".toList.head? = some 'g' :=
    head?_toList_append (head?_toList_append rfl)
  rw [same, gives] at begins
  exact other (Option.some.inj begins).symm

namespace Player

variable {δ : Type} {performOnce : HeardSource Tone → StateM (Scene δ) (PerformanceEnd (HeardSource Tone))}

/-- The player gives up exactly if all turns that it may give end with the wish for another one. -/
theorem Series.givesUp_iff {most : Nat} {source : HeardSource Tone} {scene : Scene δ}
    {turns : List (Turn δ (HeardSource Tone))} {outcome : Ending × Scene δ}
    (series : Series performOnce most most source scene turns outcome)
    (errors : ∀ turn ∈ turns, ∀ message, turn.ended = .failed message → ∃ cause : OutputError, message = cause.message) :
    outcome.1 = .failed s!"giving up after {most} reloads" ↔
      turns.length = most + 1 ∧ ∀ turn ∈ turns, turn.ended.IsReload := by
  obtain ⟨final, last, settled, used⟩ := series.ends
  have among : final ∈ turns := List.mem_of_getLast? last
  constructor
  · intro gaveUp
    have reload : final.ended.IsReload := by
      rw [settled] at gaveUp
      unfold Turn.outcome at gaveUp
      cases ended : final.ended with
      | reload next => trivial
      | failed message =>
          rw [ended] at gaveUp
          obtain ⟨cause, same⟩ := errors final among message ended
          exact cause.message_ne_givingUp most (same.symm.trans (Ending.failed.inj gaveUp))
      | finished | crashed =>
          rw [ended] at gaveUp
          cases gaveUp
    exact ⟨used reload, series.reloads last reload⟩
  · intro all
    have reload := all.2 final among
    rw [settled]
    unfold Turn.outcome
    cases ended : final.ended with
    | reload next => rfl
    | finished | failed | crashed =>
        rw [ended] at reload
        exact reload.elim

section

variable (venue : Venue δ) (options : Options) (request : AudioRequest) (waitable : Bool) {tone : Tone}

/-- The source that a turn gives back is the one that its output had, with nothing but reads on top of what it was. -/
theorem turn_follows (source : HeardSource Tone) (scene : Scene δ)
    (leads : Tone.Leads request.sampleRate tone source.events source.subject) :
    let host := venue.host Watched.subject
    let turn := turnOf (perform host options request waitable) source scene
    let remaining := turn.remaining host options request waitable
    Follows request.sampleRate tone source remaining ∧ ∀ next, turn.ended = .reload next → next = remaining := by
  intro host turn remaining
  have begun : (Output.create options host.load source scene.device).Tended (Follows request.sampleRate tone source)
      fun source' => Follows request.sampleRate tone source source' ∧
        ∃ format, Tone.ReadyAt request.sampleRate format source'.subject :=
    ⟨List.prefix_rfl, leads⟩
  obtain ⟨follows, given⟩ := performance_tended (follows_care source) venue Watched.subject waitable begun
  refine ⟨follows, ?_⟩
  intro next reload
  have back : ((performance host request waitable).run
      (Output.create options host.load source scene.device)).1 = .reload next := reload
  refine given next ?_
  rw [back]
  rfl

theorem Series.follows {most left : Nat} {source : HeardSource Tone} {scene : Scene δ}
    {turns : List (Turn δ (HeardSource Tone))} {outcome : Ending × Scene δ}
    (series : Series (perform (venue.host Watched.subject) options request waitable) most left source scene turns outcome)
    (leads : Tone.Leads request.sampleRate tone source.events source.subject) :
    ∀ turn ∈ turns,
      let remaining := turn.remaining (venue.host Watched.subject) options request waitable
      Follows request.sampleRate tone turn.source remaining ∧
        ∀ next, turn.ended = .reload next → next = remaining := by
  induction series with
  | @last _ source scene =>
      intro turn among
      cases List.mem_singleton.mp among
      exact turn_follows venue options request waitable source scene leads
  | @again _ source scene next _ _ ended _ ih =>
      obtain ⟨follows, given⟩ := turn_follows venue options request waitable source scene leads
      intro turn among
      rcases List.mem_cons.mp among with same | later
      · cases same
        exact ⟨follows, given⟩
      · refine ih ?_ turn later
        rw [given next ended]
        exact follows.leads

end

/-- A player does with a tone what it does with a tone that is heard. -/
theorem play_heard (venue : Venue δ) (options : Options) (arguments : Arguments) (scene : Scene δ)
    (bounded : arguments.patience < longestDuration) :
    (play (venue.host id) options arguments).run scene =
      (performAll (perform (venue.host Watched.subject) options arguments.request
        (decide (arguments.patience < longestWait))) arguments.maxReloads arguments.maxReloads
        (⟨arguments.tone, []⟩ : HeardSource Tone)).run scene := by
  unfold play
  rw [if_pos bounded]
  have mapped := performAll_map (perform_matched Kinship.heard_sources id venue options arguments.request
    (decide (arguments.patience < longestWait))) arguments.maxReloads arguments.maxReloads
    (⟨arguments.tone, []⟩ : HeardSource Tone) scene
  exact mapped

/--
The player gives a tone one turn after another: no more turns than it may reload, and one. Every turn but the last one
ends with the wish for another one, and the last one settles what the player comes to; it gives up exactly if all the
turns that it may give end with that wish. Each turn is given the very source that the output of the turn before had at
its end, and the scene that this turn left, where the reload is noted with its number. So the first read of a turn finds
the tone in the position and at the angle that the last read before it left, each frame is played once over all turns,
and the buffers hold the sound in order if they have the size of the frames.
-/
theorem reloads_seamless (venue : Venue δ) (options : Options) (arguments : Arguments) (scene : Scene δ) :
    let host : Host δ (HeardSource Tone) := venue.host Watched.subject
    let waitable : Bool := decide (arguments.patience < longestWait)
    let most := arguments.maxReloads
    let performOnce := perform host options arguments.request waitable
    let remaining := Turn.remaining host options arguments.request waitable
    let ran := (performAll (recorded performOnce) most most ⟨arguments.tone, []⟩).run ⟨⟨scene.device, []⟩, scene.journal⟩
    let turns := ran.2.device.events
    (turns.length ≤ most + 1 ∧ ∀ turn ∈ turns, turn = turnOf performOnce turn.source turn.scene) ∧
    (∃ final, turns.getLast? = some final ∧ (ran.1, ran.2.unwatched) = final.outcome most ∧
      (final.ended.IsReload → turns.length = most + 1)) ∧
    (ran.1 = .failed s!"giving up after {most} reloads" ↔
      turns.length = most + 1 ∧ ∀ turn ∈ turns, turn.ended.IsReload) ∧
    (∀ first, turns[0]? = some first → first.source = ⟨arguments.tone, []⟩ ∧ first.scene = scene) ∧
    (∀ index earlier later, turns[index]? = some earlier → turns[index + 1]? = some later →
      earlier.ended = .reload later.source ∧ later.source = remaining earlier ∧
        later.scene = earlier.left.noted .warning s!"Reloading audio output ({index + 1}/{most})") ∧
    (∀ turn ∈ turns, turn.source.events <+: (remaining turn).events ∧
      Tone.Seamless arguments.frequency arguments.seconds (remaining turn).events (remaining turn).subject) ∧
    (arguments.patience < longestDuration →
      (play (venue.host id) options arguments).run scene = (ran.1, ran.2.unwatched)) := by
  intro host waitable most performOnce remaining ran turns
  obtain ⟨⟨given, events, series⟩, same⟩ := performAll_series performOnce most most
    (⟨arguments.tone, []⟩ : HeardSource Tone) ⟨⟨scene.device, []⟩, scene.journal⟩
  obtain rfl : turns = given := events
  have follows := series.follows venue options arguments.request waitable (Tone.Leads.done Tone.AtPlace.refl)
  refine ⟨⟨series.begins.2, series.genuine⟩, series.ends, series.givesUp_iff ?_, ?_, ?_, ?_, ?_⟩
  · intro turn among message failed
    rw [series.genuine turn among, perform_ended] at failed
    exact performance_failed host arguments.request waitable _ message failed
  · intro first stands
    have head := series.begins.1
    rw [List.head?_eq_getElem?, stands, Option.some.injEq] at head
    rw [head]
    exact ⟨rfl, rfl⟩
  · intro index earlier later first second
    obtain ⟨reload, onward⟩ := series.onward index earlier later first second
    -- There are no more turns than reloads and one, so that the reloads are counted from one on.
    have among : index + 1 < turns.length := (List.getElem?_eq_some_iff.mp second).1
    have counted : most - (most - (index + 1)) = index + 1 := by
      have few := series.begins.2
      omega
    rw [counted] at onward
    exact ⟨reload, (follows earlier (List.mem_of_getElem? first)).2 _ reload, onward⟩
  · intro turn among
    have through := (follows turn among).1
    exact ⟨through.events, through.leads.seamless⟩
  · intro bounded
    rw [play_heard venue options arguments scene bounded]
    exact same

end Player

end PcmOutput
