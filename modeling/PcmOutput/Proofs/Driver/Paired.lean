import PcmOutput.Driver.Callback
import PcmOutput.Driver.Lifecycle
import PcmOutput.Proofs.Kinship.Operations

/-!
# Drivers beside outputs

A driver is handled and an output is worked on, step by step and side by side. What is done at the desk of the
driver is done on the output as well, and leaves the parts of the one and the phase of the other alone.
-/

set_option autoImplicit false

namespace PcmOutput

variable {δ τ first first' second second' third third' : Type}

/-- The output in a phase, with all else as it is on a desk. -/
def Output.occupied (desk : Desk δ) (phase : Phase δ τ) : Output δ τ where
  options := desk.options
  load := desk.load
  phase := phase
  reloadRequested := desk.reloadRequested
  drained := desk.drained
  mailbox := desk.mailbox
  journal := desk.journal
  device := desk.device

def Seated (phase : Phase δ τ) (output : Output δ τ) (desk : Desk δ) : Prop :=
  output = desk.occupied phase

theorem Renaming.same_respond (api : DeviceApi δ) (call : Call) (device : δ) :
    (api.respond (Renaming.same.call call) device).1 = Renaming.same.answer call (api.respond call device).1 ∧
      (api.respond (Renaming.same.call call) device).2 = (api.respond call device).2 := by
  cases call with
  | createBuilder | openStream => exact ⟨(congrFun Except.map_id _).symm, rfl⟩
  | _ => exact ⟨rfl, rfl⟩

theorem Seated.serves (api : DeviceApi δ) (phase : Phase δ τ) : Serves .same true api api (Seated phase) where
  answered {output desk} call _ seated := by
    obtain ⟨answer, device⟩ := Renaming.same_respond api call desk.device
    cases seated
    exact ⟨answer, by rw [device]; rfl⟩
  resultText _ seated := by cases seated; rfl
  stateText _ seated := by cases seated; rfl
  noted _ seated := by cases seated; rfl

/-- Work that comes to the same at a desk as it does on any output that has the desk. -/
def AtDesk (work : Work δ τ first) (atDesk : Work δ Unit first) : Prop :=
  ∀ phase : Phase δ τ, Matched (Seated phase) id work atDesk

theorem AtDesk.run {work : Work δ τ first} {work' : Work δ Unit first} (same : AtDesk work work') (desk : Desk δ)
    (phase : Phase δ τ) :
    work.run (desk.occupied phase) = ((work'.run desk).1, (work'.run desk).2.occupied phase) := by
  obtain ⟨result, seated⟩ := same phase (desk.occupied phase) desk rfl
  exact Prod.ext result.symm seated

/-- What handling a driver and working on an output come to, taken together. -/
def Paired (handling : Handling δ τ first) (work : Work δ τ first') (driver : Driver δ τ) (output : Output δ τ)
    (holds : first → Driver δ τ → first' → Output δ τ → Prop) : Prop :=
  holds (handling.run driver).1 (handling.run driver).2 (work.run output).1 (work.run output).2

namespace Paired

variable {driver : Driver δ τ} {output : Output δ τ} {start : Desk δ} {phase : Phase δ τ}

theorem weaken {handling : Handling δ τ first} {work : Work δ τ first'}
    {strong weak : first → Driver δ τ → first' → Output δ τ → Prop} (both : Paired handling work driver output strong)
    (implied : ∀ result driver result' output,
      strong result driver result' output → weak result driver result' output) :
    Paired handling work driver output weak :=
  implied _ _ _ _ both

theorem andThen {handling : Handling δ τ first} {work : Work δ τ first'} {next : first → Handling δ τ second}
    {next' : first' → Work δ τ second'} {between : first → Driver δ τ → first' → Output δ τ → Prop}
    {holds : second → Driver δ τ → second' → Output δ τ → Prop} (both : Paired handling work driver output between)
    (goesOn : ∀ result driver result' output, between result driver result' output →
      Paired (next result) (next' result') driver output holds) :
    Paired (handling >>= next) (work >>= next') driver output holds :=
  goesOn _ _ _ _ both

theorem surelyThen {handling : Handling δ τ first} {work : Work δ τ first'} {next : first → Trial δ τ second}
    {next' : first' → Attempt δ τ second'} {between : first → Driver δ τ → first' → Output δ τ → Prop}
    {holds : Except OutputError second → Driver δ τ → Except OutputError second' → Output δ τ → Prop}
    (both : Paired handling work driver output between)
    (goesOn : ∀ result driver result' output, between result driver result' output →
      Paired (next result).run (next' result').run driver output holds) :
    Paired (surely handling >>= next).run (always work >>= next').run driver output holds :=
  goesOn _ _ _ _ both

theorem orFail {handling : Trial δ τ first} {work : Attempt δ τ first'} {next : first → Trial δ τ second}
    {next' : first' → Attempt δ τ second'}
    {between : Except OutputError first → Driver δ τ → Except OutputError first' → Output δ τ → Prop}
    {holds : Except OutputError second → Driver δ τ → Except OutputError second' → Output δ τ → Prop}
    (both : Paired handling.run work.run driver output between)
    (fails : ∀ cause driver result output, between (.error cause) driver result output →
      ∃ cause', result = .error cause' ∧ holds (.error cause) driver (.error cause') output)
    (goesOn : ∀ value driver result output, between (.ok value) driver result output →
      ∃ value', result = .ok value' ∧ Paired (next value).run (next' value').run driver output holds) :
    Paired (handling >>= next).run (work >>= next').run driver output holds := by
  rw [ExceptT.run_bind, ExceptT.run_bind]
  apply both.andThen
  intro result driver result' output reached
  cases result with
  | error cause =>
      obtain ⟨cause', rfl, failed⟩ := fails cause driver result' output reached
      exact failed
  | ok value =>
      obtain ⟨value', rfl, onward⟩ := goesOn value driver result' output reached
      exact onward

/-! ## Steps that concern one side only -/

theorem gets {next : Driver δ τ → Handling δ τ second} {work : Work δ τ second'}
    {holds : second → Driver δ τ → second' → Output δ τ → Prop}
    (goesOn : Paired (next driver) work driver output holds) : Paired (get >>= next) work driver output holds :=
  goesOn

theorem changes {rule : Driver δ τ → Driver δ τ} {next : Unit → Handling δ τ second} {work : Work δ τ second'}
    {holds : second → Driver δ τ → second' → Output δ τ → Prop}
    (goesOn : Paired (next ()) work (rule driver) output holds) :
    Paired (modify rule >>= next) work driver output holds :=
  goesOn

theorem sets {other : Driver δ τ} {next : Unit → Handling δ τ second} {work : Work δ τ second'}
    {holds : second → Driver δ τ → second' → Output δ τ → Prop}
    (goesOn : Paired (next ()) work other output holds) : Paired (set other >>= next) work driver output holds :=
  goesOn

theorem getsTried {next : Driver δ τ → Trial δ τ second} {work : Work δ τ second'}
    {holds : Except OutputError second → Driver δ τ → second' → Output δ τ → Prop}
    (goesOn : Paired (next driver).run work driver output holds) :
    Paired (get >>= next : Trial δ τ second).run work driver output holds :=
  goesOn

theorem changesTried {rule : Driver δ τ → Driver δ τ} {next : Unit → Trial δ τ second} {work : Work δ τ second'}
    {holds : Except OutputError second → Driver δ τ → second' → Output δ τ → Prop}
    (goesOn : Paired (next ()).run work (rule driver) output holds) :
    Paired (modify rule >>= next : Trial δ τ second).run work driver output holds :=
  goesOn

theorem getsInside {next : Driver δ τ → Trial δ τ first} {last : Except OutputError first → Trial δ τ second}
    {work : Work δ τ second'} {holds : Except OutputError second → Driver δ τ → second' → Output δ τ → Prop}
    (goesOn : Paired (surely (next driver).run >>= last).run work driver output holds) :
    Paired (surely (get >>= next : Trial δ τ first).run >>= last).run work driver output holds :=
  goesOn

theorem doneInside {result : first} {last : Except OutputError first → Trial δ τ second} {work : Work δ τ second'}
    {holds : Except OutputError second → Driver δ τ → second' → Output δ τ → Prop}
    (goesOn : Paired (last (.ok result)).run work driver output holds) :
    Paired (surely (pure result : Trial δ τ first).run >>= last).run work driver output holds :=
  goesOn

theorem finds {part : first} {otherwise : OutputError} {next : first → Trial δ τ second} {work : Work δ τ second'}
    {holds : Except OutputError second → Driver δ τ → second' → Output δ τ → Prop}
    (goesOn : Paired (next part).run work driver output holds) :
    Paired (present (some part) otherwise >>= next).run work driver output holds :=
  goesOn

theorem reads {handling : Handling δ τ first} {next : Output δ τ → Work δ τ second}
    {holds : first → Driver δ τ → second → Output δ τ → Prop}
    (goesOn : Paired handling (next output) driver output holds) : Paired handling (get >>= next) driver output holds :=
  goesOn

theorem changesInside {rule : Driver δ τ → Driver δ τ} {next : Unit → Trial δ τ first}
    {last : Except OutputError first → Trial δ τ second} {work : Work δ τ second'}
    {holds : Except OutputError second → Driver δ τ → second' → Output δ τ → Prop}
    (goesOn : Paired (surely (next ()).run >>= last).run work (rule driver) output holds) :
    Paired (surely (modify rule >>= next : Trial δ τ first).run >>= last).run work driver output holds :=
  goesOn

theorem findsInside {part : third} {otherwise : OutputError} {next : third → Trial δ τ first}
    {last : Except OutputError first → Trial δ τ second} {work : Work δ τ second'}
    {holds : Except OutputError second → Driver δ τ → second' → Output δ τ → Prop}
    (goesOn : Paired (surely (next part).run >>= last).run work driver output holds) :
    Paired (surely (present (some part) otherwise >>= next).run >>= last).run work driver output holds :=
  goesOn

theorem changesOutput {handling : Handling δ τ first} {rule : Output δ τ → Output δ τ} {next : Unit → Work δ τ second}
    {holds : first → Driver δ τ → second → Output δ τ → Prop}
    (goesOn : Paired handling (next ()) driver (rule output) holds) :
    Paired handling (modify rule >>= next) driver output holds :=
  goesOn

theorem readsAlways {handling : Handling δ τ first} {next : Output δ τ → Attempt δ τ second}
    {holds : first → Driver δ τ → Except OutputError second → Output δ τ → Prop}
    (goesOn : Paired handling (next output).run driver output holds) :
    Paired handling (get >>= next : Attempt δ τ second).run driver output holds :=
  goesOn

/-- Work on the output that comes to a result at once is left out. -/
theorem atOnce {handling : Handling δ τ first} {work : Work δ τ third} (result : third)
    {next : third → Attempt δ τ second}
    {holds : first → Driver δ τ → Except OutputError second → Output δ τ → Prop}
    (same : work.run output = (result, output)) (goesOn : Paired handling (next result).run driver output holds) :
    Paired handling (always work >>= next).run driver output holds := by
  have joined : Paired handling (work >>= fun result => (next result).run) driver output holds := by
    unfold Paired
    rw [StateT.run_bind, same]
    exact goesOn
  exact joined

/-! ## Steps at the desk -/

theorem desk {work : Work δ τ first} {work' : Work δ Unit first} {next : first → Handling δ τ second}
    {next' : first → Work δ τ second'} {holds : second → Driver δ τ → second' → Output δ τ → Prop}
    (same : AtDesk work work') (seated : driver.desk = start)
    (goesOn : ∀ result desk,
      Paired (next result) (next' result) { driver with desk := desk } (desk.occupied phase) holds) :
    Paired (atDesk work' >>= next) (work >>= next') driver (start.occupied phase) holds := by
  subst seated
  have ran := same.run driver.desk phase
  unfold Paired
  rw [StateT.run_bind, StateT.run_bind, ran]
  exact goesOn _ _

theorem deskDone {work : Work δ τ first} {work' : Work δ Unit first}
    {holds : first → Driver δ τ → first → Output δ τ → Prop}
    (same : AtDesk work work') (seated : driver.desk = start)
    (reached : ∀ result desk, holds result { driver with desk := desk } result (desk.occupied phase)) :
    Paired (atDesk work') work driver (start.occupied phase) holds := by
  rw [← bind_pure (atDesk work'), ← bind_pure work]
  exact desk same seated reached

theorem surelyDesk {work : Work δ τ first} {work' : Work δ Unit first} {next : first → Trial δ τ second}
    {next' : first → Attempt δ τ second'}
    {holds : Except OutputError second → Driver δ τ → Except OutputError second' → Output δ τ → Prop}
    (same : AtDesk work work') (seated : driver.desk = start)
    (goesOn : ∀ result desk,
      Paired (next result).run (next' result).run { driver with desk := desk } (desk.occupied phase) holds) :
    Paired (surely (atDesk work') >>= next).run (always work >>= next').run driver (start.occupied phase) holds := by
  have joined : Paired (atDesk work' >>= fun result => (next result).run) (work >>= fun result => (next' result).run)
      driver (start.occupied phase) holds := desk same seated goesOn
  exact joined

theorem perhapsDesk {condition : Prop} {decision : Decidable condition} {work : Work δ τ Unit}
    {work' : Work δ Unit Unit}
    {next : Unit → Trial δ τ second} {next' : Unit → Attempt δ τ second'}
    {holds : Except OutputError second → Driver δ τ → Except OutputError second' → Output δ τ → Prop}
    (same : AtDesk work work') (seated : driver.desk = start)
    (goesOn : ∀ desk, Paired (next ()).run (next' ()).run { driver with desk := desk } (desk.occupied phase) holds) :
    Paired (if condition then surely (atDesk work') >>= next else next ()).run
      (if condition then always work >>= next' else next' ()).run driver (start.occupied phase) holds := by
  split
  · exact surelyDesk same seated fun _ => goesOn
  · subst seated
    exact goesOn driver.desk

/-- Handling that was given up goes on with the cause, and other handling with its result. -/
theorem lifted_bind {σ : Type} (work : ExceptT OutputError (StateM σ) first)
    (next : first → ExceptT OutputError (StateM σ) second)
    (last : Except OutputError second → ExceptT OutputError (StateM σ) third) :
    (ExceptT.lift (work >>= next).run >>= last).run = work.run >>= fun result => match result with
      | .error cause => (last (.error cause)).run
      | .ok result => (ExceptT.lift (next result).run >>= last).run := by
  simp only [ExceptT.run_bind, ExceptT.run_lift, bind_assoc, map_eq_pure_bind, pure_bind]
  congr 1
  funext result
  cases result with
  | error cause => simp
  | ok result => rfl

/-- Handling and work that were given up at the same point, or have gone on. -/
theorem triedBoth {handling : Trial δ τ first} {work : Attempt δ τ first'} {next : first → Trial δ τ second}
    {next' : Except OutputError first' → Attempt δ τ second'} {last : Except OutputError second → Trial δ τ third}
    {between : Except OutputError first → Driver δ τ → Except OutputError first' → Output δ τ → Prop}
    {holds : Except OutputError third → Driver δ τ → Except OutputError second' → Output δ τ → Prop}
    (both : Paired handling.run work.run driver output between)
    (fails : ∀ cause driver result output, between (.error cause) driver result output →
      Paired (last (.error cause)).run (next' result).run driver output holds)
    (goesOn : ∀ value driver result output, between (.ok value) driver result output →
      Paired (surely (next value).run >>= last).run (next' result).run driver output holds) :
    Paired (surely (handling >>= next).run >>= last).run (always work.run >>= next').run driver output holds := by
  rw [surely, lifted_bind]
  change Paired _ (work.run >>= fun result => (next' result).run) driver output holds
  apply both.andThen
  intro result driver result' output reached
  cases result with
  | error cause => exact fails cause driver result' output reached
  | ok value => exact goesOn value driver result' output reached

/-- An attempt at the desk, and what is made of its failure and of its success. -/
theorem tried {work : Attempt δ τ first} {work' : Attempt δ Unit first} {next : first → Trial δ τ second}
    {next' : Except OutputError first → Attempt δ τ second'} {last : Except OutputError second → Trial δ τ third}
    {holds : Except OutputError third → Driver δ τ → Except OutputError second' → Output δ τ → Prop}
    (same : AtDesk work.run work'.run) (seated : driver.desk = start)
    (fails : ∀ cause desk, Paired (last (.error cause)).run (next' (.error cause)).run { driver with desk := desk }
      (desk.occupied phase) holds)
    (goesOn : ∀ result desk, (work'.run.run start).1 = .ok result → Paired (surely (next result).run >>= last).run
      (next' (.ok result)).run { driver with desk := desk } (desk.occupied phase) holds) :
    Paired (surely (triedAtDesk work' >>= next).run >>= last).run (always work.run >>= next').run driver
      (start.occupied phase) holds := by
  subst seated
  have attempted : Paired (triedAtDesk work').run work.run driver (driver.desk.occupied phase)
      fun result driver' result' output' => result' = result ∧ result = (work'.run.run driver.desk).1 ∧
        ∃ desk, driver' = { driver with desk := desk } ∧ output' = desk.occupied phase := by
    have ran := same.run driver.desk phase
    unfold Paired
    rw [ran]
    exact ⟨rfl, rfl, _, rfl, rfl⟩
  apply attempted.triedBoth
  · rintro cause _ _ _ ⟨rfl, -, desk, rfl, rfl⟩
    exact fails cause desk
  · rintro result _ _ _ ⟨rfl, came, desk, rfl, rfl⟩
    exact goesOn result desk came.symm

theorem deskInside {work : Work δ τ first} {work' : Work δ Unit first} {next : first → Trial δ τ second}
    {next' : first → Attempt δ τ second'} {last : Except OutputError second → Trial δ τ third}
    {holds : Except OutputError third → Driver δ τ → Except OutputError second' → Output δ τ → Prop}
    (same : AtDesk work work') (seated : driver.desk = start)
    (goesOn : ∀ result desk, Paired (surely (next result).run >>= last).run (next' result).run
      { driver with desk := desk } (desk.occupied phase) holds) :
    Paired (surely (surely (atDesk work') >>= next).run >>= last).run (always work >>= next').run driver
      (start.occupied phase) holds := by
  have joined : Paired (atDesk work' >>= fun result => (surely (next result).run >>= last).run)
      (work >>= fun result => (next' result).run) driver (start.occupied phase) holds := desk same seated goesOn
  rw [surely, lifted_bind]
  exact joined

/-- The same, where the output makes more of the success before anything is made of a failure. -/
theorem triedFurther {work : Attempt δ τ first} {work' : Attempt δ Unit first} {next : first → Trial δ τ second}
    {next' : first → Attempt δ τ second'} {last : Except OutputError second → Trial δ τ third}
    {last' : Except OutputError second' → Attempt δ τ third'}
    {holds : Except OutputError third → Driver δ τ → Except OutputError third' → Output δ τ → Prop}
    (same : AtDesk work.run work'.run) (seated : driver.desk = start)
    (fails : ∀ cause desk, Paired (last (.error cause)).run (last' (.error cause)).run { driver with desk := desk }
      (desk.occupied phase) holds)
    (goesOn : ∀ result desk, Paired (surely (next result).run >>= last).run (always (next' result).run >>= last').run
      { driver with desk := desk } (desk.occupied phase) holds) :
    Paired (surely (triedAtDesk work' >>= next).run >>= last).run (always (work >>= next').run >>= last').run driver
      (start.occupied phase) holds := by
  rw [surely, PcmOutput.always, lifted_bind, lifted_bind]
  apply desk same seated
  intro result desk
  cases result with
  | error cause => exact fails cause desk
  | ok result => exact goesOn result desk

end Paired

namespace AtDesk

theorem call (api : DeviceApi δ) (request : Call) :
    AtDesk (PcmOutput.call api request : Work δ τ _) (PcmOutput.call api request) := by
  intro phase output desk seated
  cases seated
  exact ⟨rfl, rfl⟩

theorem note (level : Level) (text : String) :
    AtDesk (PcmOutput.note level text : Work δ τ Unit) (PcmOutput.note level text) := by
  intro phase output desk seated
  cases seated
  exact ⟨rfl, rfl⟩

theorem resultText (api : DeviceApi δ) (code : Int) :
    AtDesk (PcmOutput.resultText api code : Work δ τ String) (PcmOutput.resultText api code) :=
  fun phase => (Seated.serves api phase).callResult code

theorem closeHandle (api : DeviceApi δ) (stream : StreamHandle) :
    AtDesk (PcmOutput.closeHandle api stream : Work δ τ Unit) (PcmOutput.closeHandle api stream) :=
  fun phase => (Seated.serves api phase).closeHandle stream

theorem deleteHandle (api : DeviceApi δ) (builder : BuilderHandle) :
    AtDesk (PcmOutput.deleteHandle api builder : Work δ τ Unit) (PcmOutput.deleteHandle api builder) :=
  fun phase => (Seated.serves api phase).deleteHandle builder

theorem releaseApi (api : DeviceApi δ) :
    AtDesk (PcmOutput.releaseApi api : Work δ τ Unit) (PcmOutput.releaseApi api) := by
  intro phase output desk seated
  cases seated
  exact ⟨rfl, rfl⟩

theorem configure (api : DeviceApi δ) (config : StreamConfiguration) (builder : BuilderHandle) :
    AtDesk (PcmOutput.configure api config builder : Work δ τ Unit) (PcmOutput.configure api config builder) :=
  fun phase => (Seated.serves api phase).configure config builder

theorem grantedLayout (api : DeviceApi δ) (config : StreamConfiguration) (stream : StreamHandle) :
    AtDesk (PcmOutput.grantedLayout api config stream : Attempt δ τ ChannelMap).run
      (PcmOutput.grantedLayout api config stream).run := by
  intro phase
  rw [← Except.map_id]
  exact (Seated.serves api phase).grantedLayout config stream

theorem transit (api : DeviceApi δ) (stream : StreamHandle) (transition : Transition) (timeoutNanos : Int) :
    AtDesk (PcmOutput.transit api stream transition timeoutNanos (pure ()) : Attempt δ τ Unit).run
      (PcmOutput.transit api stream transition timeoutNanos (pure ())).run := by
  intro phase
  rw [← Except.map_id]
  exact (Seated.serves api phase).transit stream transition timeoutNanos

theorem bindApi : AtDesk (Output.bindApi : Attempt δ τ (DeviceApi δ)).run Output.bindApi.run := by
  intro phase output desk seated
  cases seated
  rw [bindApi_run, bindApi_run]
  exact ⟨rfl, rfl⟩

theorem createBuilder (api : DeviceApi δ) (request : AudioRequest) :
    AtDesk (Output.createBuilder api request : Attempt δ τ (StreamConfiguration × BuilderHandle)).run
      (Output.createBuilder api request).run := by
  intro phase
  have serves := Seated.serves api phase
  refine Matched.readAlways fun output desk seated => ?_
  cases seated
  rw [← Except.map_id]
  apply (serves.takeOver _).orFail
  intro config
  apply (serves.call .createBuilder nofun).always
  intro answer
  cases answer with
  | error code => exact (serves.callResult code).always fun text => Matched.failed
  | ok builder => exact Matched.succeeded

theorem post (message : Message) (what : String) :
    AtDesk (PcmOutput.post message what : Work δ τ Unit) (PcmOutput.post message what) := by
  intro phase output desk seated
  cases seated
  rw [post_run, post_run]
  exact ⟨rfl, rfl⟩

theorem andThen {work : Work δ τ first} {work' : Work δ Unit first} {next : first → Work δ τ second}
    {next' : first → Work δ Unit second} (started : AtDesk work work')
    (goesOn : ∀ result, AtDesk (next result) (next' result)) : AtDesk (work >>= next) (work' >>= next') :=
  fun phase => (started phase).andThen fun result => goesOn result phase

theorem requestReload : AtDesk (PcmOutput.requestReload : Work δ τ Unit) PcmOutput.requestReload := by
  intro phase output desk seated
  cases seated
  rw [requestReload_run, requestReload_run]
  exact ⟨rfl, rfl⟩

theorem notifyDrained : AtDesk (PcmOutput.notifyDrained : Work δ τ Unit) PcmOutput.notifyDrained := by
  have raised : AtDesk (modify fun output : Output δ τ => { output with drained := true })
      (modify fun desk : Desk δ => { desk with drained := true }) := by
    intro phase output desk seated
    cases seated
    exact ⟨rfl, rfl⟩
  exact raised.andThen fun _ => post _ _

end AtDesk

end PcmOutput
