import PcmOutput.Output.Lifecycle

/-!
# Drivers

An output as it is put together. Every part has a slot of its own, is made at a moment of its own, and may be
there while others are missing; the format of the stream is known in three places. That the parts always fit,
and that a driver does what an output does, is nothing its type promises.
-/

set_option autoImplicit false

namespace PcmOutput

/-- What a driver works on besides its parts: work that has no use for the phase of an output is done at a desk. -/
abbrev Desk (δ : Type) := Output δ Unit

/-- What the callbacks work with. It is made before there is a stream, and stays while streams come and go. -/
structure CallbackContext (δ τ : Type) where
  api : DeviceApi δ
  sampleRate : Nat
  /-- The bytes of a frame, as the last accepted stream has them. -/
  frameBytes : Nat := 0
  source : Option τ
  timestampMissed : Bool := false

structure Driver (δ τ : Type) where
  desk : Desk δ
  api : Option (DeviceApi δ) := none
  builder : Option BuilderHandle := none
  stream : Option StreamHandle := none
  context : Option (CallbackContext δ τ) := none
  config : Option StreamConfiguration := none
  source : Option τ
  format : Option StreamFormat := none
  /-- What the stream was last brought to. -/
  reached : StreamState := .closed
  deviceBuffer : Int := 0

variable {δ τ value : Type}

abbrev Handling (δ τ : Type) := StateM (Driver δ τ)

/-- Handling that may fail; what it changed before stays changed. -/
abbrev Trial (δ τ : Type) := ExceptT OutputError (Handling δ τ)

def atDesk (work : Work δ Unit value) : Handling δ τ value :=
  modifyGet fun driver =>
    let (result, desk) := work.run driver.desk
    (result, { driver with desk := desk })

def triedAtDesk (work : Attempt δ Unit value) : Trial δ τ value :=
  ExceptT.mk (atDesk work.run)

def surely (handling : Handling δ τ value) : Trial δ τ value :=
  ExceptT.lift handling

/-- A part that has to be there. -/
def present (part : Option value) (otherwise : OutputError) : Trial δ τ value :=
  match part with
  | some part => pure part
  | none => throw otherwise

namespace Driver

def create (options : Options) (load : Loader δ) (source : τ) (device : δ) : Driver δ τ where
  desk := Output.create options load () device
  source := some source

/-- The state the owner sees; a stream that stopped at the end of the source is open and no longer started. -/
def state (driver : Driver δ τ) : StreamState :=
  match driver.reached with
  | .started => if driver.desk.drained then .opened else .started
  | state => state

def isOpen (driver : Driver δ τ) : Bool :=
  driver.stream.isSome

def apiLevel? (driver : Driver δ τ) : Option Int :=
  driver.api.map DeviceApi.level

def withContext (change : CallbackContext δ τ → CallbackContext δ τ) (driver : Driver δ τ) : Driver δ τ :=
  { driver with context := driver.context.map change }

end Driver

end PcmOutput
