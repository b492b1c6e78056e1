import PcmOutput.Output.Lifecycle

/-!
# Matched work

Two pieces of work on two outputs that stand in some relation. They match when they come to the same result, up
to what handles and values are called, and leave the outputs in the relation. What only deals with a device and
writes to the journal matches under every relation that the answers of the two devices and equal lines keep.
-/

set_option autoImplicit false

namespace PcmOutput

/-- Other names for the handles of a device. -/
structure Renaming where
  builder : BuilderHandle → BuilderHandle
  stream : StreamHandle → StreamHandle

namespace Renaming

def same : Renaming where
  builder := id
  stream := id

variable (names : Renaming)

def call : Call → Call
  | .createBuilder => .createBuilder
  | .deleteBuilder builder => .deleteBuilder (names.builder builder)
  | .configure builder setting value => .configure (names.builder builder) setting value
  | .registerData builder => .registerData (names.builder builder)
  | .registerError builder => .registerError (names.builder builder)
  | .openStream builder => .openStream (names.builder builder)
  | .closeStream stream => .closeStream (names.stream stream)
  | .request stream transition => .request (names.stream stream) transition
  | .waitForChange stream state timeout => .waitForChange (names.stream stream) state timeout
  | .query stream property => .query (names.stream stream) property
  | .framesWritten stream => .framesWritten (names.stream stream)
  | .timestamp stream clock => .timestamp (names.stream stream) clock

def answer : (call : Call) → call.Answer → (names.call call).Answer
  | .createBuilder, answer => Except.map names.builder answer
  | .openStream _, answer => Except.map names.stream answer
  | .deleteBuilder _, answer | .configure .., answer | .registerData _, answer | .registerError _, answer
  | .closeStream _, answer | .request .., answer | .waitForChange .., answer | .query .., answer
  | .framesWritten _, answer | .timestamp .., answer => answer

def opened (opened : OpenedStream) : OpenedStream :=
  { opened with stream := names.stream opened.stream }

def playback : Playback → Playback
  | .closed => .closed
  | .opened stream => .opened (names.stream stream)
  | .started stream => .started (names.stream stream)
  | .paused stream => .paused (names.stream stream)

theorem playback_stream? (playback : Playback) :
    (names.playback playback).stream? = playback.stream?.map names.stream := by
  cases playback <;> rfl

theorem playback_state (playback : Playback) : (names.playback playback).state = playback.state := by
  cases playback <;> rfl

end Renaming

def Call.opens : Call → Bool
  | .openStream _ => true
  | _ => false

def Output.noted {δ τ : Type} (lines : List Line) (output : Output δ τ) : Output δ τ :=
  { output with journal := output.journal ++ lines }

variable {δ δ' τ τ' : Type}

/-- Two APIs answer alike for outputs in a relation, and the relation survives. What opens streams may be left out. -/
structure Serves (names : Renaming) (opening : Bool) (api : DeviceApi δ) (api' : DeviceApi δ')
    (related : Output δ τ → Output δ' τ' → Prop) : Prop where
  answered : ∀ {output output'} (call : Call), (call.opens = true → opening = true) → related output output' →
    (api'.respond (names.call call) output'.device).1 = names.answer call (api.respond call output.device).1 ∧
      related { output with device := (api.respond call output.device).2 }
        { output' with device := (api'.respond (names.call call) output'.device).2 }
  resultText : ∀ {output output'} (code : Int), related output output' →
    api'.resultText output'.device code = api.resultText output.device code
  stateText : ∀ {output output'} (code : Int), related output output' →
    api'.stateText output'.device code = api.stateText output.device code
  noted : ∀ {output output'} (lines : List Line), related output output' →
    related (output.noted lines) (output'.noted lines)

variable {first first' second second' : Type}

/-- Begun with related outputs, the second work comes to what `rule` makes of the result of the first. -/
def Matched (related : Output δ τ → Output δ' τ' → Prop) (rule : first → first') (work : Work δ τ first)
    (work' : Work δ' τ' first') : Prop :=
  ∀ output output', related output output' →
    (work'.run output').1 = rule (work.run output).1 ∧ related (work.run output).2 (work'.run output').2

variable {related : Output δ τ → Output δ' τ' → Prop} {rule : first → first'} {rule' : second → second'}

namespace Matched

theorem done {result : first} : Matched related rule (pure result) (pure (rule result)) :=
  fun _ _ kin => ⟨rfl, kin⟩

theorem andThen {work : Work δ τ first} {work' : Work δ' τ' first'} {next : first → Work δ τ second}
    {next' : first' → Work δ' τ' second'} (started : Matched related rule work work')
    (goesOn : ∀ result, Matched related rule' (next result) (next' (rule result))) :
    Matched related rule' (work >>= next) (work' >>= next') := by
  intro output output' kin
  obtain ⟨same, kin'⟩ := started output output' kin
  have onward := goesOn (work.run output).1 _ _ kin'
  rw [← same] at onward
  exact onward

theorem read {next : Output δ τ → Work δ τ second} {next' : Output δ' τ' → Work δ' τ' second'}
    (goesOn : ∀ output output', related output output' → Matched related rule' (next output) (next' output')) :
    Matched related rule' (get >>= next) (get >>= next') :=
  fun output output' kin => goesOn output output' kin output output' kin

theorem readAlways {next : Output δ τ → Attempt δ τ second} {next' : Output δ' τ' → Attempt δ' τ' second'}
    {rule' : Except OutputError second → Except OutputError second'}
    (goesOn : ∀ output output', related output output' → Matched related rule' (next output).run (next' output').run) :
    Matched related rule' (get >>= next : Attempt δ τ second).run (get >>= next' : Attempt δ' τ' second').run :=
  fun output output' kin => goesOn output output' kin output output' kin

theorem change {step : Output δ τ → Output δ τ} {step' : Output δ' τ' → Output δ' τ'}
    (keeps : ∀ output output', related output output' → related (step output) (step' output')) :
    Matched related id (modify step) (modify step') :=
  fun output output' kin => ⟨rfl, keeps output output' kin⟩

theorem failed {cause : OutputError} :
    Matched related (Except.map rule) (throw cause : Attempt δ τ first).run (throw cause : Attempt δ' τ' first').run :=
  fun _ _ kin => ⟨rfl, kin⟩

theorem succeeded {result : first} :
    Matched related (Except.map rule) (pure result : Attempt δ τ first).run
      (pure (rule result) : Attempt δ' τ' first').run :=
  fun _ _ kin => ⟨rfl, kin⟩

theorem orFail {work : Attempt δ τ first} {work' : Attempt δ' τ' first'} {next : first → Attempt δ τ second}
    {next' : first' → Attempt δ' τ' second'} (started : Matched related (Except.map rule) work.run work'.run)
    (goesOn : ∀ result, Matched related (Except.map rule') (next result).run (next' (rule result)).run) :
    Matched related (Except.map rule') (work >>= next).run (work' >>= next').run := by
  rw [ExceptT.run_bind, ExceptT.run_bind]
  apply started.andThen
  intro result
  cases result with
  | error cause => exact failed
  | ok result => exact goesOn result

theorem always {work : Work δ τ first} {work' : Work δ' τ' first'} {next : first → Attempt δ τ second}
    {next' : first' → Attempt δ' τ' second'} {rule' : Except OutputError second → Except OutputError second'}
    (started : Matched related rule work work')
    (goesOn : ∀ result, Matched related rule' (next result).run (next' (rule result)).run) :
    Matched related rule' (PcmOutput.always work >>= next).run (PcmOutput.always work' >>= next').run := by
  have joined : Matched related rule' (work >>= fun result => (next result).run)
      (work' >>= fun result => (next' result).run) := started.andThen goesOn
  exact joined

theorem alwaysDone {work : Work δ τ first} {work' : Work δ' τ' first'} (ended : Matched related rule work work') :
    Matched related (Except.map rule) (PcmOutput.always work).run (PcmOutput.always work').run := by
  intro output output' kin
  obtain ⟨same, kin'⟩ := ended output output' kin
  exact ⟨congrArg Except.ok same, kin'⟩

theorem perhapsAlways {condition : Prop} {decision : Decidable condition} {work : Work δ τ Unit}
    {work' : Work δ' τ' Unit} {next : Unit → Attempt δ τ second} {next' : Unit → Attempt δ' τ' second'}
    {rule' : Except OutputError second → Except OutputError second'} (taken : Matched related id work work')
    (goesOn : Matched related rule' (next ()).run (next' ()).run) :
    Matched related rule' (if condition then PcmOutput.always work >>= next else next ()).run
      (if condition then PcmOutput.always work' >>= next' else next' ()).run := by
  split
  · exact taken.always fun _ => goesOn
  · exact goesOn

end Matched

namespace Serves

variable {names : Renaming} {opening : Bool} {api : DeviceApi δ} {api' : DeviceApi δ'}

theorem note (serves : Serves names opening api api' related) (level : Level) (text : String) :
    Matched related id (PcmOutput.note level text) (PcmOutput.note level text) :=
  fun _ _ kin => ⟨rfl, serves.noted [⟨level, text⟩] kin⟩

theorem call (serves : Serves names opening api api' related) (request : Call)
    (asked : request.opens = true → opening = true) :
    Matched related (names.answer request) (PcmOutput.call api request) (PcmOutput.call api' (names.call request)) :=
  fun _ _ kin => serves.answered request asked kin

theorem callResult (serves : Serves names opening api api' related) (code : Int) :
    Matched related id (PcmOutput.resultText api code) (PcmOutput.resultText api' code) :=
  fun _ _ kin => ⟨serves.resultText code kin, kin⟩

theorem callState (serves : Serves names opening api api' related) (code : Int) :
    Matched related id (PcmOutput.stateText api code) (PcmOutput.stateText api' code) :=
  fun _ _ kin => ⟨serves.stateText code kin, kin⟩

theorem takeOver (serves : Serves names opening api api' related) (work : Noted first) :
    Matched related (Except.map id) (PcmOutput.takeOver work).run (PcmOutput.takeOver work).run := by
  intro output output' kin
  obtain ⟨lines, result⟩ := work
  cases result with
  | error cause => exact ⟨rfl, serves.noted lines kin⟩
  | ok value => exact ⟨rfl, serves.noted lines kin⟩

theorem closeHandle (serves : Serves names opening api api' related) (stream : StreamHandle) :
    Matched related id (PcmOutput.closeHandle api stream) (PcmOutput.closeHandle api' (names.stream stream)) := by
  apply (serves.call (.closeStream stream) nofun).andThen
  intro code
  dsimp only [Renaming.answer]
  split
  · exact (serves.callResult code).andThen fun text => serves.note _ _
  · exact Matched.done

theorem deleteHandle (serves : Serves names opening api api' related) (builder : BuilderHandle) :
    Matched related id (PcmOutput.deleteHandle api builder) (PcmOutput.deleteHandle api' (names.builder builder)) := by
  apply (serves.call (.deleteBuilder builder) nofun).andThen
  intro code
  dsimp only [Renaming.answer]
  split
  · exact (serves.callResult code).andThen fun text => serves.note _ _
  · exact Matched.done

theorem calls (serves : Serves names opening api api' related) (calls : List Call)
    (quiet : ∀ request ∈ calls, request.opens = false) :
    Matched related id (calls.forM fun request => do let _ ← PcmOutput.call api request)
      ((calls.map names.call).forM fun request => do let _ ← PcmOutput.call api' request) := by
  induction calls with
  | nil => exact Matched.done
  | cons request rest ih =>
      have asked : request.opens = true → opening = true := by simp [quiet request List.mem_cons_self]
      have first : Matched related id (do let _ ← PcmOutput.call api request)
          (do let _ ← PcmOutput.call api' (names.call request)) :=
        (serves.call request asked).andThen fun _ => Matched.done
      exact first.andThen fun _ => ih fun request member => quiet request (List.mem_cons_of_mem _ member)

theorem configure (serves : Serves names opening api api' related) (config : StreamConfiguration)
    (builder : BuilderHandle) :
    Matched related id (PcmOutput.configure api config builder)
      (PcmOutput.configure api' config (names.builder builder)) := by
  have renamed : config.calls (names.builder builder) = (config.calls builder).map names.call := by
    simp [StreamConfiguration.calls, Renaming.call, Function.comp_def]
  have quiet : ∀ request ∈ config.calls builder, request.opens = false := by
    simp only [StreamConfiguration.calls, Call.opens, List.cons_append, List.nil_append, List.forall_mem_cons,
      List.forall_mem_map, true_and]
    exact fun _ _ => trivial
  unfold PcmOutput.configure
  rw [renamed]
  obtain ⟨setting, value⟩ := StreamConfiguration.channelSetting config.channels
  apply (serves.call (.configure builder setting value) nofun).andThen
  intro effective
  dsimp only [Renaming.answer]
  split
  · exact (serves.note _ _).andThen fun _ => serves.calls _ quiet
  · exact serves.calls _ quiet

theorem grantedLayout (serves : Serves names opening api api' related) (config : StreamConfiguration)
    (stream : StreamHandle) :
    Matched related (Except.map id) (PcmOutput.grantedLayout api config stream).run
      (PcmOutput.grantedLayout api' config (names.stream stream)).run := by
  unfold PcmOutput.grantedLayout
  cases config.channels with
  | mask layout mask => exact Matched.succeeded
  | count asked =>
      apply (serves.call (.query stream .channelCount) nofun).always
      intro count
      dsimp only [Renaming.answer]
      cases ChannelMap.ofCount? count with
      | some layout => exact Matched.succeeded
      | none => exact Matched.failed

/-- The layout of a stream is found and accepted on both sides, or on neither. -/
theorem acceptable (serves : Serves names opening api api' related) (config : StreamConfiguration)
    (stream : StreamHandle)
    (earlier : Option StreamFormat) :
    Matched related id
      (ExceptT.run do
        let layout ← PcmOutput.grantedLayout api config stream
        ExceptT.mk (pure (requireLayout layout earlier))
        return layout)
      (ExceptT.run do
        let layout ← PcmOutput.grantedLayout api' config (names.stream stream)
        ExceptT.mk (pure (requireLayout layout earlier))
        return layout) := by
  rw [← Except.map_id]
  apply (serves.grantedLayout config stream).orFail
  intro layout
  have checked : Matched related (Except.map id)
      (ExceptT.mk (pure (requireLayout layout earlier)) : Attempt δ τ Unit).run
      (ExceptT.mk (pure (requireLayout layout earlier)) : Attempt δ' τ' Unit).run :=
    fun _ _ kin => ⟨(Except.map_id ▸ rfl), kin⟩
  exact checked.orFail fun _ => Matched.succeeded

theorem openHandle (serves : Serves names true api api' related) (builder : BuilderHandle)
    (config : StreamConfiguration) (earlier : Option StreamFormat) :
    Matched related (Except.map names.opened) (PcmOutput.openHandle api builder config earlier).run
      (PcmOutput.openHandle api' (names.builder builder) config earlier).run := by
  apply (serves.call (.openStream builder) fun _ => rfl).always
  intro answer
  cases answer with
  | error code => exact (serves.callResult code).always fun text => Matched.failed
  | ok stream =>
      apply (serves.acceptable config stream earlier).always
      intro acceptable
      cases acceptable with
      | error cause => exact (serves.closeHandle stream).always fun _ => Matched.failed
      | ok layout =>
          apply (serves.call (.query stream .bufferCapacity) nofun).always
          intro capacity
          apply (serves.call (.query stream .sampleRate) nofun).always
          intro rate
          apply Matched.perhapsAlways (serves.note _ _)
          apply (serves.call (.query stream .format) nofun).always
          intro code
          apply (serves.call (.query stream .framesPerBurst) nofun).always
          intro burst
          exact (serves.note _ _).always fun _ => Matched.succeeded

theorem confirm (serves : Serves names opening api api' related) (stream : StreamHandle) (transition : Transition)
    (timeoutNanos : Int) (waits : Nat) :
    Matched related (Except.map id) (PcmOutput.confirm api stream transition timeoutNanos waits).run
      (PcmOutput.confirm api' (names.stream stream) transition timeoutNanos waits).run := by
  induction waits with
  | zero => exact (serves.callState _).always fun text => Matched.failed
  | succ waits ih =>
      apply (serves.call (.waitForChange stream transition.transient timeoutNanos) nofun).always
      intro answer
      cases answer with
      | error code => exact (serves.callResult code).always fun text => Matched.failed
      | ok state =>
          dsimp only [Renaming.answer]
          split
          · exact (serves.callState state).always fun text => (serves.note _ _).alwaysDone
          · split
            · exact ih
            · exact (serves.callState state).always fun text => Matched.failed

theorem transitMeanwhile (serves : Serves names opening api api' related) (stream : StreamHandle)
    (transition : Transition) (timeoutNanos : Int) {meanwhile : Work δ τ Unit} {meanwhile' : Work δ' τ' Unit}
    (meanwhiles : Matched related id meanwhile meanwhile') :
    Matched related (Except.map id) (PcmOutput.transit api stream transition timeoutNanos meanwhile).run
      (PcmOutput.transit api' (names.stream stream) transition timeoutNanos meanwhile').run := by
  apply (serves.call (.request stream transition) nofun).always
  intro code
  dsimp only [Renaming.answer]
  split
  · exact meanwhiles.always fun _ => serves.confirm _ _ _ _
  · exact (serves.callResult code).always fun text => Matched.failed

theorem transit (serves : Serves names opening api api' related) (stream : StreamHandle) (transition : Transition)
    (timeoutNanos : Int) :
    Matched related (Except.map id) (PcmOutput.transit api stream transition timeoutNanos (pure ())).run
      (PcmOutput.transit api' (names.stream stream) transition timeoutNanos (pure ())).run :=
  serves.transitMeanwhile stream transition timeoutNanos Matched.done

end Serves

end PcmOutput
