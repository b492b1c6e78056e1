import PcmOutput.Output.Callback
import PcmOutput.Output.Confirmation

/-!
# The life of an output

Initialization binds the device API, negotiates, builds and opens a stream; the stream is then started,
paused, closed by a reset and opened again by the next start. Taking the output down closes the stream,
deletes the builder and lets the API go. What fails during initialization is taken down again, and what
fails later leaves the session as it was.
-/

set_option autoImplicit false

namespace PcmOutput

variable {δ τ : Type}

/-- An open stream with what was granted. -/
structure OpenedStream where
  stream : StreamHandle
  format : StreamFormat
  deviceBuffer : Int

def closeHandle (api : DeviceApi δ) (stream : StreamHandle) : Work δ τ Unit := do
  let code : Int ← call api (.closeStream stream)
  if !ResultCode.succeeded code then
    let text ← resultText api code
    note .warning s!"Failed to close stream: {text}"

def deleteHandle (api : DeviceApi δ) (builder : BuilderHandle) : Work δ τ Unit := do
  let code : Int ← call api (.deleteBuilder builder)
  if !ResultCode.succeeded code then
    let text ← resultText api code
    note .warning s!"Failed to delete stream builder: {text}"

def releaseApi (api : DeviceApi δ) : Work δ τ Unit :=
  modify fun output => { output with journal := output.journal ++ api.farewell }

def configure (api : DeviceApi δ) (config : StreamConfiguration) (builder : BuilderHandle) :
    Work δ τ Unit := do
  let (setting, value) := StreamConfiguration.channelSetting config.channels
  let effective : Bool ← call api (.configure builder setting value)
  if setting = .channelMask ∧ effective = false then
    note .warning "Channel mask not bound, stream falls back to the default layout"
  (config.calls builder).forM fun request => do
    let _ ← call api request

/-- The layout an open stream plays: that of the mask, or the one its count of channels stands for. -/
def grantedLayout (api : DeviceApi δ) (config : StreamConfiguration) (stream : StreamHandle) :
    Attempt δ τ ChannelMap := do
  match config.channels with
  | .mask layout _ => return layout
  | .count _ =>
    let count : Int ← always (call api (.query stream .channelCount))
    match ChannelMap.ofCount? count with
    | some layout => return layout
    | none => throw (.unknownChannelCount count)

/-- Refuses a layout other than that of an earlier stream. -/
def requireLayout (layout : ChannelMap) : Option StreamFormat → Except OutputError Unit
  | none => .ok ()
  | some earlier =>
    if earlier.channels = layout then .ok ()
    else .error (.layoutChanged earlier.channels.name layout.name)

/-- Opens a stream of the builder; one whose layout is not acceptable is closed again. -/
def openHandle (api : DeviceApi δ) (builder : BuilderHandle) (config : StreamConfiguration)
    (earlier : Option StreamFormat) : Attempt δ τ OpenedStream := do
  match ← always (call api (.openStream builder)) with
  | Except.error code =>
    let text ← always (resultText api code)
    throw (.openRefused text)
  | Except.ok stream =>
    let acceptable : Attempt δ τ ChannelMap := do
      let layout ← grantedLayout api config stream
      ExceptT.mk (pure (requireLayout layout earlier))
      return layout
    match ← always acceptable.run with
    | .error cause =>
      always (closeHandle api stream)
      throw cause
    | .ok layout =>
      let format : StreamFormat := ⟨config.format.granted, layout, config.sampleRate⟩
      let capacity : Int ← always (call api (.query stream .bufferCapacity))
      let rate : Int ← always (call api (.query stream .sampleRate))
      if rate ≠ format.sampleRate then
        always (note .warning s!"AAudio granted {rate} Hz for a {format.sampleRate} Hz stream")
      let code : Int ← always (call api (.query stream .format))
      let burst : Int ← always (call api (.query stream .framesPerBurst))
      let playing := s!"{format.format.name} {rate} Hz {format.channels.name} ({FormatCode.name code})"
      always (note .debug
        s!"AAudio stream open: {playing}, burst {burst} frames, capacity {capacity} frames")
      return ⟨stream, format, capacity⟩

namespace Output

/-- Closes the stream, if one is open. The next start opens another one. -/
def reset : Work δ τ Unit := do
  match (← get).phase with
  | .idle _ => return
  | .ready session =>
    match session.playback.stream? with
    | some stream => closeHandle session.api stream
    | none => return
    setPlayback .closed

/-- Takes the session down, if there is one: closes the stream, deletes the builder, lets the API go. -/
def uninit : Work δ τ Unit := do
  reset
  match (← get).phase with
  | .idle _ => return
  | .ready session =>
    deleteHandle session.api session.builder
    modify fun output => { output with phase := .idle output.source }
    releaseApi session.api

def bindApi : Attempt δ τ (DeviceApi δ) := do
  let output ← get
  let (loaded, device) := output.load output.options output.device
  set { output with device := device }
  takeOver loaded

def createBuilder (api : DeviceApi δ) (request : AudioRequest) :
    Attempt δ τ (StreamConfiguration × BuilderHandle) := do
  let config ← takeOver (negotiate request (← get).options (DeviceCaps.ofApi api))
  match ← always (call api .createBuilder) with
  | Except.ok builder => return (config, builder)
  | Except.error code =>
    let text ← always (resultText api code)
    throw (.builderRefused text)

/-- Notes that the initialization failed, takes down what it had made, and fails. -/
def abandonInit {value : Type} (cause : OutputError) (takeDown : Work δ τ Unit) : Attempt δ τ value := do
  always (note .error s!"AAudio init failed: {cause.message}")
  always takeDown
  throw cause

/-- Holds a session from now on, and tells the source the format. -/
def adopt [AudioSource τ] (api : DeviceApi δ) (config : StreamConfiguration) (builder : BuilderHandle)
    (opened : OpenedStream) : Work δ τ Unit :=
  modify fun output => { output with
    phase := .ready {
      api := api
      builder := builder
      config := config
      format := opened.format
      deviceBuffer := opened.deviceBuffer
      playback := .opened opened.stream
      source := AudioSource.prepare opened.format output.source
      timestampMissed := false } }

/-- Takes an earlier session down and makes a new one with an open stream. -/
def init [AudioSource τ] (request : AudioRequest) : Attempt δ τ Unit := do
  always uninit
  match ← always bindApi.run with
  | .error cause => abandonInit cause (pure ())
  | .ok api =>
    match ← always (createBuilder api request).run with
    | .error cause => abandonInit cause (releaseApi api)
    | .ok (config, builder) =>
      always (configure api config builder)
      match ← always (openHandle api builder config none).run with
      | .error cause =>
        abandonInit cause do
          deleteHandle api builder
          releaseApi api
      | .ok opened => always (adopt api config builder opened)

/-- Learns of an end of the source that stopped the stream, and forgets any earlier one. -/
def settleDrain : Work δ τ Unit := do
  let output ← get
  match output.playback with
  | .started stream =>
    if output.drained then
      note .debug "Stream stopped at end of stream"
      setPlayback (.opened stream)
  | _ => pure ()
  modify fun output => { output with drained := false }

/-- Opens a stream for a session whose stream was closed. -/
def reopen (session : Session δ τ) : Attempt δ τ StreamHandle := do
  let opening := openHandle session.api session.builder session.config (some session.format)
  match ← always opening.run with
  | .error cause =>
    always (note .error s!"Failed to reopen stream: {cause.message}")
    throw cause
  | .ok opened =>
    always (modifySession fun session => { session with
      format := opened.format
      deviceBuffer := opened.deviceBuffer
      playback := .opened opened.stream })
    return opened.stream

/-- Brings a stream through a transition; a failure is noted. -/
def bring (session : Session δ τ) (stream : StreamHandle) (transition : Transition)
    (meanwhile : Work δ τ Unit) : Attempt δ τ Unit := do
  let timeout := (← get).options.stateTimeoutNanos
  match ← always (transit session.api stream transition timeout meanwhile).run with
  | .error cause =>
    always (note .error cause.message)
    throw cause
  | .ok () => return

/-- Starts the stream, opening one if it was closed; `meanwhile` happens once the request is accepted. -/
def startMeanwhile (meanwhile : Work δ τ Unit) : Attempt δ τ Unit := do
  always settleDrain
  match (← get).phase with
  | .idle _ => throw .notInitialized
  | .ready session =>
    match session.playback with
    | .started _ => return
    | .closed =>
      let stream ← reopen session
      bring session stream .start meanwhile
      always (setPlayback (.started stream))
    | .opened stream | .paused stream =>
      bring session stream .start meanwhile
      always (setPlayback (.started stream))

/-- Starts the stream, opening one if it was closed. -/
def start : Attempt δ τ Unit :=
  startMeanwhile (pure ())

def setPause (paused : Bool) : Attempt δ τ Unit := do
  always settleDrain
  match (← get).phase with
  | .idle _ => throw .notOpen
  | .ready session =>
    match session.playback, paused with
    | .closed, _ => throw .notOpen
    | .paused _, true | .started _, false => return
    | .opened stream, true => always (setPlayback (.paused stream))
    | .started stream, true =>
      bring session stream .pause (pure ())
      always (setPlayback (.paused stream))
    | .opened _, false | .paused _, false => start

/-- The count of times the device ran out of frames, while a stream is open. -/
def xrunCount : Work δ τ (Option Int) := do
  match (← get).phase with
  | .idle _ => return none
  | .ready session =>
    match session.playback.stream? with
    | none => return none
    | some stream =>
      let count : Int ← call session.api (.query stream .xrunCount)
      return some count

def intoSource : Work δ τ τ := do
  uninit
  return (← get).source

end Output

end PcmOutput
