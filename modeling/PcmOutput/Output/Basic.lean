import PcmOutput.Device
import PcmOutput.Mailbox
import PcmOutput.Source

/-!
# Outputs

An output plays a source on a device. It is idle, or it holds a session: the bound device API, a
builder, what was negotiated and granted, the source, and the stream while one is open. A session is
there as a whole or not at all, and the source is always in exactly one place.
-/

set_option autoImplicit false

namespace PcmOutput

/-- What the owner of an output sees of its stream. -/
inductive StreamState
  | closed | opened | started | paused
deriving DecidableEq, Repr

def StreamState.name : StreamState → String
  | .closed => "closed"
  | .opened => "open"
  | .started => "started"
  | .paused => "paused"

/-- The stream of a session, if one is open, and what it was last brought to. -/
inductive Playback
  | closed
  | opened (stream : StreamHandle)
  | started (stream : StreamHandle)
  | paused (stream : StreamHandle)
deriving DecidableEq, Repr

namespace Playback

def stream? : Playback → Option StreamHandle
  | .closed => none
  | .opened stream | .started stream | .paused stream => some stream

/-- The state, without regard to the end of the source. -/
def state : Playback → StreamState
  | .closed => .closed
  | .opened _ => .opened
  | .started _ => .started
  | .paused _ => .paused

end Playback

/-- What an output holds from a successful initialization on. -/
structure Session (δ τ : Type) where
  api : DeviceApi δ
  builder : BuilderHandle
  config : StreamConfiguration
  format : StreamFormat
  deviceBuffer : Int
  playback : Playback
  source : τ
  /-- Whether it was noted that the device gives no presentation times. -/
  timestampMissed : Bool

/-- Whether an output was initialized. -/
inductive Phase (δ τ : Type)
  | idle (source : τ)
  | ready (session : Session δ τ)

/-- An output, with the device, the journal and the mailbox that it works on. -/
structure Output (δ τ : Type) where
  options : Options
  load : Loader δ
  phase : Phase δ τ
  /-- Whether the owner was asked to make the output anew. -/
  reloadRequested : Bool := false
  /-- Whether the source has ended since the flag was last cleared. -/
  drained : Bool := false
  mailbox : Mailbox := {}
  journal : List Line := []
  device : δ

variable {δ τ : Type}

namespace Output

def create (options : Options) (load : Loader δ) (source : τ) (device : δ) : Output δ τ where
  options := options
  load := load
  phase := .idle source
  device := device

/-- The session, if the output is initialized. -/
def session? (output : Output δ τ) : Option (Session δ τ) :=
  match output.phase with
  | .idle _ => none
  | .ready session => some session

/-- The source, wherever it is. -/
def source (output : Output δ τ) : τ :=
  match output.phase with
  | .idle source => source
  | .ready session => session.source

def playback (output : Output δ τ) : Playback :=
  match output.phase with
  | .idle _ => .closed
  | .ready session => session.playback

/-- The state the owner sees; a stream that stopped at the end of the source is open and no longer started. -/
def state (output : Output δ τ) : StreamState :=
  match output.playback.state with
  | .started => if output.drained then .opened else .started
  | state => state

def isOpen (output : Output δ τ) : Bool :=
  output.playback.stream?.isSome

def streamFormat? (output : Output δ τ) : Option StreamFormat :=
  output.session?.map Session.format

def deviceBuffer (output : Output δ τ) : Int :=
  (output.session?.map Session.deviceBuffer).getD 0

def apiLevel? (output : Output δ τ) : Option Int :=
  output.session?.map fun session => session.api.level

end Output

abbrev Work (δ τ : Type) := StateM (Output δ τ)

/-- Work on an output that may fail; what it changed before stays changed. -/
abbrev Attempt (δ τ : Type) := ExceptT OutputError (Work δ τ)

/-- Work that cannot fail, as a part of work that may. -/
def always {value : Type} (work : Work δ τ value) : Attempt δ τ value :=
  ExceptT.lift work

def note (level : Level) (text : String) : Work δ τ Unit :=
  modify fun output => { output with journal := output.journal ++ [⟨level, text⟩] }

def call (api : DeviceApi δ) (request : Call) : Work δ τ request.Answer :=
  modifyGet fun output =>
    let (answer, device) := api.respond request output.device
    (answer, { output with device := device })

def resultText (api : DeviceApi δ) (code : Int) : Work δ τ String := do
  return api.resultText (← get).device code

def stateText (api : DeviceApi δ) (code : Int) : Work δ τ String := do
  return api.stateText (← get).device code

/-- Writes the lines of some work and takes its result over. -/
def takeOver {value : Type} (work : Noted value) : Attempt δ τ value := do
  modify fun output => { output with journal := output.journal ++ work.lines }
  match work.result with
  | .ok found => return found
  | .error cause => throw cause

/-- Changes the session, if there is one. -/
def modifySession (change : Session δ τ → Session δ τ) : Work δ τ Unit :=
  modify fun output =>
    match output.phase with
    | .idle _ => output
    | .ready session => { output with phase := .ready (change session) }

def setPlayback (playback : Playback) : Work δ τ Unit :=
  modifySession fun session => { session with playback := playback }

end PcmOutput
