import PcmOutput.Driver.Basic

/-!
# The life of a driver

The operations of the owner, part by part. An initialization puts the parts into their slots as it goes; a
failure leaves them where they are, and taking the driver down removes whatever is there.
-/

set_option autoImplicit false

namespace PcmOutput

variable {δ τ : Type}

namespace Driver

def closeStream : Handling δ τ Unit := do
  let driver ← get
  set { driver with stream := none }
  match driver.stream, driver.api with
  | some stream, some api => atDesk (closeHandle api stream)
  | _, _ => pure ()
  modify fun driver => { driver with reached := .closed }

/-- What an open stream plays, as far as the configuration and the device tell. -/
def grantedFormat (api : DeviceApi δ) (stream : StreamHandle) : Trial δ τ StreamFormat := do
  match (← get).config with
  | none => throw .notInitialized
  | some config =>
    let layout ← triedAtDesk (grantedLayout api config stream)
    return ⟨config.format.granted, layout, config.sampleRate⟩

/-- Takes over what an open stream plays, and tells the journal about the stream. -/
def adoptFormat (api : DeviceApi δ) (stream : StreamHandle) (format : StreamFormat) : Trial δ τ Unit := do
  modify (withContext ({ · with frameBytes := format.frameBytes }))
  let capacity : Int ← surely (atDesk (call api (.query stream .bufferCapacity)))
  modify fun driver => { driver with deviceBuffer := capacity }
  let rate : Int ← surely (atDesk (call api (.query stream .sampleRate)))
  if rate ≠ format.sampleRate then
    surely (atDesk (note .warning s!"AAudio granted {rate} Hz for a {format.sampleRate} Hz stream"))
  let code : Int ← surely (atDesk (call api (.query stream .format)))
  let burst : Int ← surely (atDesk (call api (.query stream .framesPerBurst)))
  let playing := s!"{format.format.name} {rate} Hz {format.channels.name} ({FormatCode.name code})"
  surely (atDesk (note .debug
    s!"AAudio stream open: {playing}, burst {burst} frames, capacity {capacity} frames"))
  modify fun driver => { driver with format := some format, reached := .opened }

/-- Opens a stream; one whose layout is unknown, or not that of the earlier format, is closed again. -/
def openStream : Trial δ τ Unit := do
  let driver ← get
  let api ← present driver.api .notInitialized
  let builder ← present driver.builder .notInitialized
  match ← surely (atDesk (call api (.openStream builder))) with
  | Except.error code =>
    let text ← surely (atDesk (resultText api code))
    throw (.openRefused text)
  | Except.ok stream =>
    modify fun driver => { driver with stream := some stream }
    match ← surely (grantedFormat api stream).run with
    | .error cause =>
      surely closeStream
      throw cause
    | .ok format =>
      match requireLayout format.channels (← get).format with
      | .error cause =>
        surely closeStream
        throw cause
      | .ok () => adoptFormat api stream format

/-- Deletes the builder, takes the source back and lets the API go, as far as they are there. -/
def dismantle : Handling δ τ Unit := do
  let driver ← get
  set { driver with builder := none }
  match driver.builder, driver.api with
  | some builder, some api => atDesk (deleteHandle api builder)
  | _, _ => pure ()
  modify fun driver => { driver with
    context := none
    source := (driver.context.bind CallbackContext.source).or driver.source
    config := none
    format := none
    deviceBuffer := 0
    api := none }
  match driver.api with
  | some api => atDesk (releaseApi api)
  | none => pure ()

def uninit : Handling δ τ Unit := do
  closeStream
  dismantle

def tryInit [AudioSource τ] (request : AudioRequest) : Trial δ τ Unit := do
  let _ ← present (← get).source .noSource
  let api ← triedAtDesk Output.bindApi
  modify fun driver => { driver with api := some api }
  let (config, builder) ← triedAtDesk (Output.createBuilder api request)
  modify fun driver => { driver with builder := some builder }
  let source ← present (← get).source .noSource
  modify fun driver => { driver with source := none }
  surely (atDesk (configure api config builder))
  modify fun driver => { driver with
    context := some { api := api, sampleRate := request.sampleRate, source := some source }
    config := some config }
  openStream
  match (← get).format with
  | some format =>
    modify (withContext fun context => { context with source := context.source.map (AudioSource.prepare format) })
  | none => pure ()

/-- Takes the driver down, puts it together anew and opens a stream; after a failure it is down again. -/
def init [AudioSource τ] (request : AudioRequest) : Trial δ τ Unit := do
  surely uninit
  match ← surely (tryInit request).run with
  | .error cause =>
    surely (atDesk (note .error s!"AAudio init failed: {cause.message}"))
    surely uninit
    throw cause
  | .ok () => return

/-- Learns of an end of the source that stopped the stream, and forgets any earlier one. -/
def settleDrain : Handling δ τ Unit := do
  let driver ← get
  if driver.reached = .started ∧ driver.desk.drained = true then
    atDesk (note .debug "Stream stopped at end of stream")
    modify fun driver => { driver with reached := .opened }
  modify fun driver => { driver with desk := { driver.desk with drained := false } }

def bring (transition : Transition) : Trial δ τ Unit := do
  let driver ← get
  let api ← present driver.api .notInitialized
  let stream ← present driver.stream .notOpen
  match ← surely (atDesk (transit api stream transition driver.desk.options.stateTimeoutNanos (pure ())).run) with
  | .error cause =>
    surely (atDesk (note .error cause.message))
    throw cause
  | .ok () => return

/-- Opens a stream where one was closed; a failure is noted. -/
def reopen : Trial δ τ Unit := do
  let _ ← present (← get).config .notInitialized
  match ← surely openStream.run with
  | .error cause =>
    surely (atDesk (note .error s!"Failed to reopen stream: {cause.message}"))
    throw cause
  | .ok () => return

def start : Trial δ τ Unit := do
  surely settleDrain
  match (← get).reached with
  | .started => return
  | .closed =>
    reopen
    bring .start
    modify fun driver => { driver with reached := .started }
  | .opened | .paused =>
    bring .start
    modify fun driver => { driver with reached := .started }

def setPause (paused : Bool) : Trial δ τ Unit := do
  surely settleDrain
  match (← get).reached, paused with
  | .closed, _ => throw .notOpen
  | .paused, true | .started, false => return
  | .opened, true => modify fun driver => { driver with reached := .paused }
  | .started, true =>
    bring .pause
    modify fun driver => { driver with reached := .paused }
  | .opened, false | .paused, false => start

/-- Closes the stream. The next start opens another one. -/
def reset : Handling δ τ Unit :=
  closeStream

/-- The count of times the device ran out of frames, while there are an API and a stream. -/
def xrunCount : Handling δ τ (Option Int) := do
  let driver ← get
  match driver.api, driver.stream with
  | some api, some stream =>
    let count : Int ← atDesk (call api (.query stream .xrunCount))
    return some count
  | _, _ => return none

def intoSource : Handling δ τ (Option τ) := do
  uninit
  let driver ← get
  set { driver with source := none }
  return driver.source

end Driver

end PcmOutput
