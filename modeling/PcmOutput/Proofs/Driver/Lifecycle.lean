import PcmOutput.Proofs.Agreement
import PcmOutput.Proofs.Course.Playback
import PcmOutput.Proofs.Driver.Paired
import PcmOutput.Proofs.Ends

/-!
# A driver lives the life of an output

The parts of a driver always fit: they are those of an idle output, or those of a session. From there every
operation of the owner comes to the same on the driver as on the output, and its parts fit again.
-/

set_option autoImplicit false

namespace PcmOutput

variable {δ τ value : Type}

/-- The context of the callbacks while an output holds the session. -/
def Session.context (session : Session δ τ) : CallbackContext δ τ where
  api := session.api
  sampleRate := session.config.sampleRate
  frameBytes := session.format.frameBytes
  source := some session.source
  timestampMissed := session.timestampMissed

/-- The parts that a driver has while an output is in the phase. -/
def Phase.driver (desk : Desk δ) : Phase δ τ → Driver δ τ
  | .idle source => { desk := desk, source := some source }
  | .ready session => {
      desk := desk
      api := some session.api
      builder := some session.builder
      stream := session.playback.stream?
      context := some session.context
      config := some session.config
      source := none
      format := some session.format
      reached := session.playback.state
      deviceBuffer := session.deviceBuffer }

structure Driver.Holds (driver : Driver δ τ) (session : Session δ τ) : Prop where
  format : driver.format = some session.format
  config : driver.config = some session.config
  context : driver.context = some session.context
  stream : driver.stream = session.playback.stream?

/-- The parts of the driver are those of the output. -/
inductive Fits : Driver δ τ → Output δ τ → Prop
  | intro (desk : Desk δ) (phase : Phase δ τ) : Fits (phase.driver desk) (desk.occupied phase)

namespace Fits

variable {driver : Driver δ τ} {output : Output δ τ}

/-! What the owner of the driver sees is what the owner of the output sees. -/

theorem format (fits : Fits driver output) : driver.format = output.streamFormat? := by
  obtain ⟨desk, phase⟩ := fits
  cases phase <;> rfl

theorem config (fits : Fits driver output) : driver.config = output.session?.map Session.config := by
  obtain ⟨desk, phase⟩ := fits
  cases phase <;> rfl

theorem context (fits : Fits driver output) : driver.context = output.session?.map Session.context := by
  obtain ⟨desk, phase⟩ := fits
  cases phase <;> rfl

theorem stream (fits : Fits driver output) : driver.stream = output.playback.stream? := by
  obtain ⟨desk, phase⟩ := fits
  cases phase <;> rfl

theorem isOpen (fits : Fits driver output) : driver.isOpen = output.isOpen := by
  simp only [Driver.isOpen, Output.isOpen, fits.stream]

theorem state (fits : Fits driver output) : driver.state = output.state := by
  obtain ⟨desk, phase⟩ := fits
  cases phase <;> rfl

theorem deviceBuffer (fits : Fits driver output) : driver.deviceBuffer = output.deviceBuffer := by
  obtain ⟨desk, phase⟩ := fits
  cases phase <;> rfl

theorem apiLevel? (fits : Fits driver output) : driver.apiLevel? = output.apiLevel? := by
  obtain ⟨desk, phase⟩ := fits
  cases phase <;> rfl

theorem device (fits : Fits driver output) : driver.desk.device = output.device := by
  obtain ⟨desk, phase⟩ := fits
  cases phase <;> rfl

theorem mailbox (fits : Fits driver output) : driver.desk.mailbox = output.mailbox := by
  obtain ⟨desk, phase⟩ := fits
  cases phase <;> rfl

theorem reloadRequested (fits : Fits driver output) : driver.desk.reloadRequested = output.reloadRequested := by
  obtain ⟨desk, phase⟩ := fits
  cases phase <;> rfl

theorem holds (fits : Fits driver output) {session : Session δ τ} (ready : output.phase = .ready session) :
    driver.Holds session where
  format := by simp [fits.format, Output.streamFormat?, Output.session?, ready]
  config := by simp [fits.config, Output.session?, ready]
  context := by simp [fits.context, Output.session?, ready]
  stream := by simp [fits.stream, Output.playback, ready]

/-- The source is with the driver, or with the context of its callbacks. -/
theorem custody (fits : Fits driver output) :
    driver.source = some output.source ∧ driver.context = none ∨
      driver.source = none ∧ driver.context.bind CallbackContext.source = some output.source := by
  obtain ⟨desk, phase⟩ := fits
  cases phase with
  | idle source => exact .inl ⟨rfl, rfl⟩
  | ready session => exact .inr ⟨rfl, rfl⟩

end Fits

/-- The same came of handling a driver and of working on an output, and the driver fits the output. -/
structure Agree (result : value) (driver : Driver δ τ) (result' : value) (output : Output δ τ) : Prop where
  result : result = result'
  fits : Fits driver output

/-- Handling a driver comes to what the work on an output comes to, wherever their parts are the same. -/
def Refines (handling : Handling δ τ value) (work : Work δ τ value) : Prop :=
  ∀ driver output, Fits driver output → Paired handling work driver output Agree

namespace Refines

theorem run {handling : Handling δ τ value} {work : Work δ τ value} (refines : Refines handling work)
    {driver : Driver δ τ} {output : Output δ τ} (fits : Fits driver output) :
    (handling.run driver).1 = (work.run output).1 ∧ Fits (handling.run driver).2 (work.run output).2 :=
  ⟨(refines driver output fits).result, (refines driver output fits).fits⟩

theorem andThen {other : Type} {handling : Handling δ τ value} {work : Work δ τ value}
    {next : value → Handling δ τ other} {next' : value → Work δ τ other} (first : Refines handling work)
    (goesOn : ∀ result, Refines (next result) (next' result)) : Refines (handling >>= next) (work >>= next') := by
  intro driver output fits
  apply (first driver output fits).andThen
  intro result driver result' output agree
  obtain ⟨rfl, fits⟩ := agree
  exact goesOn result driver output fits

theorem done {result : value} : Refines (pure result : Handling δ τ value) (pure result) :=
  fun _ _ fits => ⟨rfl, fits⟩

end Refines

namespace Driver

theorem closeStream_closes {driver : Driver δ τ} {start : Desk δ} {phase : Phase δ τ} {api : DeviceApi δ}
    {stream : StreamHandle} (seated : driver.desk = start) (bound : driver.api = some api)
    (playing : driver.stream = some stream) :
    Paired closeStream (closeHandle api stream) driver (start.occupied phase) fun _ driver' _ output' =>
      ∃ desk, driver' = { driver with desk := desk, stream := none, reached := .closed } ∧
        output' = desk.occupied phase := by
  obtain ⟨desk, _, builder, _, context, config, source, format, reached, deviceBuffer⟩ := driver
  cases seated; cases bound; cases playing
  apply Paired.gets
  apply Paired.sets
  rw [← bind_pure (closeHandle api stream)]
  apply Paired.desk (AtDesk.closeHandle api stream) rfl
  intro _ desk
  exact ⟨desk, rfl, rfl⟩

theorem closeStream_agrees {driver : Driver δ τ} {output : Output δ τ} (fits : Fits driver output) :
    Paired closeStream Output.reset driver output fun result driver' result' output' =>
      Agree result driver' result' output' ∧ driver'.stream = none := by
  obtain ⟨desk, phase⟩ := fits
  cases phase with
  | idle source => exact ⟨⟨rfl, .intro desk (.idle source)⟩, rfl⟩
  | ready session =>
      have ended : ∀ desk : Desk δ, Fits _ _ := fun desk => .intro desk (.ready { session with playback := .closed })
      obtain ⟨api, builder, config, format, deviceBuffer, playback, source, missed⟩ := session
      apply Paired.reads
      cases playback with
      | closed => exact ⟨⟨rfl, ended desk⟩, rfl⟩
      | opened stream | started stream | paused stream =>
          rw [← bind_pure closeStream]
          apply (closeStream_closes rfl rfl rfl).andThen
          intro _ driver _ output reached
          obtain ⟨desk, rfl, rfl⟩ := reached
          exact ⟨⟨rfl, ended desk⟩, rfl⟩

theorem closeStream_refines : Refines (closeStream : Handling δ τ Unit) Output.reset :=
  fun _ _ fits => (closeStream_agrees fits).weaken fun _ _ _ _ reached => reached.1

def opening (opened : OpenedStream) (driver : Driver δ τ) : Driver δ τ :=
  { driver.withContext ({ · with frameBytes := opened.format.frameBytes }) with
    stream := some opened.stream
    format := some opened.format
    reached := .opened
    deviceBuffer := opened.deviceBuffer }

/-- A failed opening leaves a driver as it was, but for the desk, and an accepted stream gets into its slots. -/
inductive Opened (driver : Driver δ τ) (phase : Phase δ τ) :
    Except OutputError Unit → Driver δ τ → Except OutputError OpenedStream → Output δ τ → Prop
  | failed (cause : OutputError) (desk : Desk δ) :
      Opened driver phase (.error cause) { driver with desk := desk } (.error cause) (desk.occupied phase)
  | opened (opened : OpenedStream) (desk : Desk δ) :
      Opened driver phase (.ok ()) ({ driver with desk := desk }.opening opened) (.ok opened) (desk.occupied phase)

theorem closeStream_opened {driver : Driver δ τ} {api : DeviceApi δ} {stream : StreamHandle} {desk : Desk δ}
    {phase : Phase δ τ} (cause : OutputError) (seated : driver.desk = desk) (bound : driver.api = some api)
    (playing : driver.stream = some stream) (closed : driver.reached = .closed) (start : Desk δ) :
    Paired
      (do
        surely closeStream
        throw cause : Trial δ τ Unit).run
      (do
        always (closeHandle api stream)
        throw cause : Attempt δ τ OpenedStream).run
      driver (desk.occupied phase) (Opened { driver with desk := start, stream := none } phase) := by
  obtain ⟨_, _, _, _, _, _, _, _, _, _⟩ := driver
  cases closed
  apply (closeStream_closes seated bound playing).surelyThen
  intro _ _ _ _ reached
  obtain ⟨desk, rfl, rfl⟩ := reached
  exact .failed cause desk

theorem openStream_opened (driver : Driver δ τ) {api : DeviceApi δ} {builder : BuilderHandle}
    {config : StreamConfiguration} {start : Desk δ} {phase : Phase δ τ} (seated : driver.desk = start)
    (bound : driver.api = some api) (built : driver.builder = some builder) (agreed : driver.config = some config)
    (streamless : driver.stream = none) (closed : driver.reached = .closed) :
    Paired openStream.run (openHandle api builder config driver.format).run driver (start.occupied phase)
      (Opened driver phase) := by
  obtain ⟨_, _, _, _, _, _, _, earlier, _, _⟩ := driver
  cases bound; cases built; cases agreed; cases streamless; cases closed
  apply Paired.getsTried
  apply Paired.finds
  apply Paired.finds
  apply Paired.surelyDesk (AtDesk.call api (.openStream builder)) seated
  intro answer desk
  cases answer with
  | error code =>
      apply Paired.surelyDesk (AtDesk.resultText api code) rfl
      intro text desk
      exact .failed _ desk
  | ok stream =>
      cases seated
      apply Paired.changesTried
      apply Paired.getsInside
      -- The driver looks for the layout and requires it in two tries, the output in one: so there are two refusals.
      apply Paired.triedFurther (AtDesk.grantedLayout api config stream) rfl
      · intro cause desk
        exact closeStream_opened cause rfl rfl rfl rfl _
      · intro layout desk
        apply Paired.doneInside
        apply Paired.getsTried
        dsimp only
        cases required : requireLayout layout earlier with
        | error cause => exact closeStream_opened cause rfl rfl rfl rfl _
        | ok =>
            apply Paired.changesTried
            refine Paired.atOnce (.ok layout) (by rfl) ?_
            apply Paired.surelyDesk (AtDesk.call api (.query stream .bufferCapacity)) rfl
            intro capacity desk
            apply Paired.changesTried
            apply Paired.surelyDesk (AtDesk.call api (.query stream .sampleRate)) rfl
            intro rate desk
            apply Paired.perhapsDesk (AtDesk.note _ _) rfl
            intro desk
            apply Paired.surelyDesk (AtDesk.call api (.query stream .format)) rfl
            intro code desk
            apply Paired.surelyDesk (AtDesk.call api (.query stream .framesPerBurst)) rfl
            intro burst desk
            apply Paired.surelyDesk (AtDesk.note _ _) rfl
            intro _ desk
            exact .opened ⟨stream, _, capacity⟩ desk

/-- The parts of a driver without a stream go back to where they came from, and leave it idle. -/
def dismantled (driver : Driver δ τ) (desk : Desk δ) : Driver δ τ where
  desk := desk
  source := (driver.context.bind CallbackContext.source).or driver.source

def parting (driver : Driver δ τ) : Work δ τ Unit :=
  match driver.api with
  | none => pure ()
  | some api => do
    match driver.builder with
    | none => pure ()
    | some builder => deleteHandle api builder
    releaseApi api

theorem dismantle_dismantles {driver : Driver δ τ} {start : Desk δ} {phase : Phase δ τ} (seated : driver.desk = start)
    (streamless : driver.stream = none) (closed : driver.reached = .closed) :
    Paired dismantle driver.parting driver (start.occupied phase) fun _ driver' _ output =>
      ∃ desk, driver' = driver.dismantled desk ∧ output = desk.occupied phase := by
  obtain ⟨desk, api, builder, _, context, config, source, format, _, deviceBuffer⟩ := driver
  cases seated; cases streamless; cases closed
  apply Paired.gets
  apply Paired.sets
  cases api with
  | none =>
      cases builder <;> exact ⟨desk, rfl, rfl⟩
  | some api =>
      cases builder with
      | none =>
          apply Paired.changes
          apply Paired.deskDone (AtDesk.releaseApi api) rfl
          intro _ desk
          exact ⟨desk, rfl, rfl⟩
      | some builder =>
          apply Paired.desk (AtDesk.deleteHandle api builder) rfl
          intro _ desk
          apply Paired.changes
          apply Paired.deskDone (AtDesk.releaseApi api) rfl
          intro _ desk
          exact ⟨desk, rfl, rfl⟩

theorem uninit_idles {driver : Driver δ τ} {output : Output δ τ} (fits : Fits driver output) :
    Paired uninit Output.uninit driver output fun _ driver' _ output' =>
      ∃ desk source, driver' = (Phase.idle source).driver desk ∧ output' = desk.occupied (.idle source) := by
  apply (closeStream_agrees fits).andThen
  rintro _ _ _ _ ⟨⟨-, desk, phase⟩, streamless⟩
  apply Paired.reads
  cases phase with
  | idle source => exact ⟨desk, source, rfl, rfl⟩
  | ready session =>
      obtain ⟨api, builder, config, format, deviceBuffer, playback, source, missed⟩ := session
      cases playback with
      | closed =>
          apply Paired.gets
          apply Paired.sets
          apply Paired.desk (AtDesk.deleteHandle api builder) rfl
          intro _ desk
          apply Paired.changes
          apply Paired.changesOutput
          apply Paired.deskDone (AtDesk.releaseApi api) rfl
          intro _ desk
          exact ⟨desk, source, rfl, rfl⟩
      | _ => cases streamless

theorem uninit_refines : Refines (uninit : Handling δ τ Unit) Output.uninit := by
  intro driver output fits
  apply (uninit_idles fits).weaken
  rintro _ _ _ _ ⟨desk, source, rfl, rfl⟩
  exact ⟨rfl, .intro desk (.idle source)⟩

/-- What a failed initialization had put into the slots is taken down as the output takes it down. -/
theorem abandon_agrees {driver : Driver δ τ} {start : Desk δ} {phase : Phase δ τ} (cause : OutputError)
    (seated : driver.desk = start) (streamless : driver.stream = none)
    (left : ∀ desk, Fits (driver.dismantled desk) (desk.occupied phase)) :
    Paired
      (do
        surely (atDesk (note .error s!"AAudio init failed: {cause.message}"))
        surely uninit
        throw cause : Trial δ τ Unit).run
      (Output.abandonInit cause driver.parting : Attempt δ τ Unit).run driver (start.occupied phase) Agree := by
  apply Paired.surelyDesk (AtDesk.note _ _) seated
  intro _ desk
  have down : Paired uninit driver.parting { driver with desk := desk } (desk.occupied phase) fun _ driver' _ output =>
      ∃ desk, driver' = driver.dismantled desk ∧ output = desk.occupied phase := by
    obtain ⟨_, api, builder, _, context, config, source, format, _, deviceBuffer⟩ := driver
    cases streamless
    have dismantled : Paired dismantle
        (Driver.parting ⟨desk, api, builder, none, context, config, source, format, .closed, deviceBuffer⟩)
        ⟨desk, api, builder, none, context, config, source, format, .closed, deviceBuffer⟩ (desk.occupied phase) _ :=
      dismantle_dismantles rfl rfl rfl
    exact dismantled
  apply down.surelyThen
  rintro _ _ _ _ ⟨desk, rfl, rfl⟩
  exact ⟨rfl, left desk⟩

theorem createBuilder_sampleRate {api : DeviceApi δ} {request : AudioRequest} {before : Output δ τ}
    {config : StreamConfiguration} {builder : BuilderHandle}
    (created : ((Output.createBuilder api request).run.run before).1 = .ok (config, builder)) :
    config.sampleRate = request.sampleRate := by
  have kept : Ends (Output.createBuilder api request).run before fun result _ =>
      ∀ made, result = .ok made → made.1.sampleRate = request.sampleRate := by
    apply Ends.readAlways
    have found : Ends (takeOver (negotiate request before.options (DeviceCaps.ofApi api))).run before fun result _ =>
        result = (negotiate request before.options (DeviceCaps.ofApi api)).result :=
      congrArg Prod.fst (takeOver_run _ before)
    refine found.orFail (fun _ _ _ _ => nofun) fun config middle agreed => ?_
    have asked : Ends (call api .createBuilder) middle fun _ _ => True := trivial
    refine Ends.always asked fun answer heard _ => ?_
    cases answer with
    | error code =>
        have told : Ends (resultText api code) heard fun _ _ => True := trivial
        exact Ends.always told fun _ _ _ => Ends.failed fun _ => nofun
    | ok builder =>
        refine Ends.succeeded fun made same => ?_
        cases same
        exact negotiate_sampleRate agreed.symm
  exact kept _ created

theorem init_refines [AudioSource τ] (request : AudioRequest) :
    Refines (init request : Trial δ τ Unit).run (Output.init request).run := by
  intro driver output fits
  apply (uninit_idles fits).surelyThen
  rintro _ _ _ _ ⟨desk, source, rfl, rfl⟩
  apply Paired.getsInside
  apply Paired.findsInside
  have left : ∀ desk : Desk δ, Fits ((Phase.idle source).driver desk) (desk.occupied (.idle source)) :=
    fun desk => .intro desk (.idle source)
  apply Paired.tried AtDesk.bindApi rfl
  · intro cause desk
    exact abandon_agrees cause rfl rfl left
  intro api desk _
  apply Paired.changesInside
  apply Paired.tried (AtDesk.createBuilder api request) rfl
  · intro cause desk
    exact abandon_agrees cause rfl rfl left
  rintro ⟨config, builder⟩ desk created
  rw [← createBuilder_sampleRate created]
  apply Paired.changesInside
  apply Paired.getsInside
  apply Paired.findsInside
  apply Paired.changesInside
  apply Paired.deskInside (AtDesk.configure api config builder) rfl
  intro _ desk
  apply Paired.changesInside
  let context : CallbackContext δ τ := { api := api, sampleRate := config.sampleRate, source := some source }
  let built : Driver δ τ := ⟨desk, some api, some builder, none, some context, some config, none, none, .closed, 0⟩
  apply (openStream_opened built rfl rfl rfl rfl rfl rfl).triedBoth
  · intro cause driver result output opening
    cases opening with
    | failed _ desk => exact abandon_agrees cause rfl rfl left
  · intro _ driver result output opening
    cases opening with
    | opened opened desk =>
        have fits := Fits.intro desk (.ready {
          api := api
          builder := builder
          config := config
          format := opened.format
          deviceBuffer := opened.deviceBuffer
          playback := .opened opened.stream
          source := AudioSource.prepare opened.format source
          timestampMissed := false })
        exact ⟨rfl, fits⟩

theorem settleDrain_refines : Refines (settleDrain : Handling δ τ Unit) Output.settleDrain := by
  rintro _ _ ⟨desk, phase⟩
  have settled : ∀ (desk : Desk δ) (phase : Phase δ τ),
      Agree () (phase.driver { desk with drained := false }) ()
        (Output.occupied { desk with drained := false } phase) :=
    fun desk phase => ⟨rfl, .intro _ phase⟩
  cases phase with
  | idle source => exact settled desk (.idle source)
  | ready session =>
      obtain ⟨api, builder, config, format, deviceBuffer, playback, source, missed⟩ := session
      have resumed := fun playback => settled desk
        (.ready ⟨api, builder, config, format, deviceBuffer, playback, source, missed⟩)
      cases playback with
      | started stream =>
          obtain ⟨options, load, phase, requested, drained, mailbox, journal, device⟩ := desk
          cases drained with
          | false => exact resumed (.started stream)
          | true =>
              exact settled _ (.ready ⟨api, builder, config, format, deviceBuffer, .opened stream, source, missed⟩)
      | closed => exact resumed .closed
      | opened stream => exact resumed (.opened stream)
      | paused stream => exact resumed (.paused stream)

theorem bring_agrees (session : Session δ τ) (driver : Driver δ τ) {stream : StreamHandle} {start : Desk δ}
    {phase : Phase δ τ} (transition : Transition) (seated : driver.desk = start) (bound : driver.api = some session.api)
    (playing : driver.stream = some stream) :
    Paired (bring transition).run (Output.bring session stream transition (pure ())).run driver (start.occupied phase)
      fun result driver' result' output => result = result' ∧ ∃ desk, driver' = { driver with desk := desk } ∧
        output = desk.occupied phase := by
  obtain ⟨desk, _, builder, _, context, config, source, format, reached, deviceBuffer⟩ := driver
  cases seated; cases bound; cases playing
  apply Paired.getsTried
  apply Paired.finds
  apply Paired.finds
  apply Paired.readsAlways
  apply Paired.surelyDesk (AtDesk.transit session.api stream transition _) rfl
  intro result desk
  cases result with
  | error cause =>
      apply Paired.surelyDesk (AtDesk.note _ _) rfl
      intro _ desk
      exact ⟨rfl, desk, rfl, rfl⟩
  | ok => exact ⟨rfl, desk, rfl, rfl⟩

/-- A stream is brought somewhere, and the driver and the output take note of it. -/
theorem bringTo_agrees (session current : Session δ τ) (stream : StreamHandle) (desk : Desk δ)
    (transition : Transition) (playback : Playback) (same : current.api = session.api)
    (playing : current.playback.stream? = some stream) (kept : playback.stream? = some stream) :
    Paired
      (do
        bring transition
        modify fun driver => { driver with reached := playback.state } : Trial δ τ Unit).run
      (do
        Output.bring session stream transition (pure ())
        always (setPlayback playback) : Attempt δ τ Unit).run
      ((Phase.ready current).driver desk) (desk.occupied (.ready current)) Agree := by
  apply (bring_agrees session ((Phase.ready current).driver desk) transition rfl (congrArg some same) playing).orFail
  · rintro cause _ _ _ ⟨rfl, desk, rfl, rfl⟩
    exact ⟨cause, rfl, rfl, .intro desk (.ready current)⟩
  · rintro _ _ _ _ ⟨rfl, desk, rfl, rfl⟩
    have fits := Fits.intro desk (.ready { current with playback := playback })
    refine ⟨(), rfl, rfl, ?_⟩
    simp only [Phase.driver, kept, ← playing] at fits
    exact fits

/-- A session without a stream is left as it was, or has an open stream. -/
inductive Reopened (session : Session δ τ) :
    Except OutputError Unit → Driver δ τ → Except OutputError StreamHandle → Output δ τ → Prop
  | failed (cause : OutputError) (desk : Desk δ) :
      Reopened session (.error cause) ((Phase.ready session).driver desk) (.error cause)
        (desk.occupied (.ready session))
  | opened (opened : OpenedStream) (desk : Desk δ) :
      Reopened session (.ok ()) ((Phase.ready (session.reopened opened)).driver desk) (.ok opened.stream)
        (desk.occupied (.ready (session.reopened opened)))

theorem reopen_agrees (session : Session δ τ) (desk : Desk δ) (closed : session.playback = .closed) :
    Paired reopen.run (Output.reopen session).run ((Phase.ready session).driver desk) (desk.occupied (.ready session))
      (Reopened session) := by
  obtain ⟨api, builder, config, format, deviceBuffer, _, source, missed⟩ := session
  cases closed
  let session : Session δ τ := ⟨api, builder, config, format, deviceBuffer, .closed, source, missed⟩
  apply Paired.getsTried
  apply Paired.finds
  apply (openStream_opened ((Phase.ready session).driver desk) rfl rfl rfl rfl rfl rfl).surelyThen
  intro result driver result' output opening
  cases opening with
  | failed cause desk =>
      apply Paired.surelyDesk (AtDesk.note _ _) rfl
      intro _ desk
      exact .failed cause desk
  | opened opened desk => exact .opened opened desk

theorem start_refines : Refines (start : Trial δ τ Unit).run Output.start.run := by
  intro driver output fits
  apply (settleDrain_refines driver output fits).surelyThen
  rintro _ _ _ _ ⟨-, desk, phase⟩
  apply Paired.getsTried
  apply Paired.readsAlways
  cases phase with
  | idle source => exact ⟨rfl, .intro desk (.idle source)⟩
  | ready session =>
      have unchanged := Fits.intro desk (.ready session)
      have brought := fun stream => bringTo_agrees session session stream desk .start
      have reopened := reopen_agrees session desk
      obtain ⟨api, builder, config, format, deviceBuffer, playback, source, missed⟩ := session
      cases playback with
      | started stream => exact ⟨rfl, unchanged⟩
      | opened stream | paused stream => exact brought stream (.started stream) rfl rfl rfl
      | closed =>
          apply (reopened rfl).orFail
          · intro cause driver result output reached
            cases reached with
            | failed _ desk => exact ⟨cause, rfl, rfl, .intro desk _⟩
          · intro _ driver result output reached
            cases reached with
            | opened opened desk =>
                exact ⟨opened.stream, rfl, bringTo_agrees _ _ _ desk .start (.started opened.stream) rfl rfl rfl⟩

theorem setPause_refines (paused : Bool) :
    Refines (setPause paused : Trial δ τ Unit).run (Output.setPause paused).run := by
  intro driver output fits
  apply (settleDrain_refines driver output fits).surelyThen
  rintro _ _ _ _ ⟨-, desk, phase⟩
  apply Paired.getsTried
  apply Paired.readsAlways
  cases phase with
  | idle source => exact ⟨rfl, .intro desk (.idle source)⟩
  | ready session =>
      have unchanged := Fits.intro desk (.ready session)
      have resumed := start_refines _ _ unchanged
      have brought := fun stream => bringTo_agrees session session stream desk .pause
      obtain ⟨api, builder, config, format, deviceBuffer, playback, source, missed⟩ := session
      cases playback with
      | closed => exact ⟨rfl, unchanged⟩
      | opened stream =>
          cases paused with
          | true =>
              exact ⟨rfl, .intro desk
                (.ready ⟨api, builder, config, format, deviceBuffer, .paused stream, source, missed⟩)⟩
          | false => exact resumed
      | paused stream =>
          cases paused with
          | true => exact ⟨rfl, unchanged⟩
          | false => exact resumed
      | started stream =>
          cases paused with
          | true => exact brought stream (.paused stream) rfl rfl rfl
          | false => exact ⟨rfl, unchanged⟩

theorem xrunCount_refines : Refines (xrunCount : Handling δ τ (Option Int)) Output.xrunCount := by
  rintro _ _ ⟨desk, phase⟩
  apply Paired.gets
  apply Paired.reads
  cases phase with
  | idle source => exact ⟨rfl, .intro desk (.idle source)⟩
  | ready session =>
      have unchanged := fun desk => Fits.intro desk (.ready session)
      obtain ⟨api, builder, config, format, deviceBuffer, playback, source, missed⟩ := session
      cases playback with
      | closed => exact ⟨rfl, unchanged desk⟩
      | opened stream | started stream | paused stream =>
          apply Paired.desk (AtDesk.call api (.query stream .xrunCount)) rfl
          intro count desk
          exact ⟨rfl, unchanged desk⟩

theorem intoSource_refines {driver : Driver δ τ} {output : Output δ τ} (fits : Fits driver output) :
    (intoSource.run driver).1 = some (Output.intoSource.run output).1 := by
  have taken : Paired intoSource Output.intoSource driver output fun result _ result' _ => result = some result' := by
    apply (uninit_idles fits).andThen
    rintro _ _ _ _ ⟨desk, source, rfl, rfl⟩
    rfl
  exact taken

end Driver

end PcmOutput
