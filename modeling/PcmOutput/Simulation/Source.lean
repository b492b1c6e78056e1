import PcmOutput.Tone

/-!
# Simulated sources

A source that plays a tone or follows a script, and remembers how it was used.
-/

set_option autoImplicit false

namespace PcmOutput

/-- A source that fills every buffer with one byte, and ends at some of its reads. -/
structure ScriptedSource where
  /-- The reads that report the end, counted from one. -/
  endingReads : List Nat := []
  fill : UInt8 := 0x11
  /-- How many frames fewer than asked for are reported. -/
  shortfall : Int := 0
  reads : Nat := 0
deriving DecidableEq, Repr

def ScriptedSource.read (buffer : List UInt8) (frames : Nat) (source : ScriptedSource) :
    Reading ScriptedSource :=
  let reads := source.reads + 1
  { buffer := List.replicate buffer.length source.fill
    pull := ⟨((frames : Int) - source.shortfall).toNat, source.endingReads.contains reads⟩
    source := { source with reads := reads } }

/-- How a source was used. -/
inductive SourceEvent
  | prepared (format : StreamFormat)
  | read (frames bytes : Nat) (deadline : Int) (pull : Pull)
deriving DecidableEq, Repr

/-- What a simulated source plays. -/
inductive Program
  | tone (tone : Tone)
  | scripted (source : ScriptedSource)

/-- A source that remembers its uses. -/
structure SimulatedSource where
  program : Program
  events : List SourceEvent := []

namespace SimulatedSource

def remember (event : SourceEvent) (source : SimulatedSource) : SimulatedSource :=
  { source with events := source.events ++ [event] }

def forget (source : SimulatedSource) : SimulatedSource :=
  { source with events := [] }

def prepare (format : StreamFormat) (source : SimulatedSource) : SimulatedSource :=
  let program := match source.program with
    | .tone tone => .tone (tone.prepare format)
    | .scripted scripted => .scripted scripted
  { source with program := program }.remember (.prepared format)

def readProgram (buffer : List UInt8) (frames : Nat) (deadline : Int) : Program → Reading Program
  | .tone tone =>
    let reading := tone.read buffer frames deadline
    ⟨reading.buffer, reading.pull, .tone reading.source⟩
  | .scripted scripted =>
    let reading := scripted.read buffer frames
    ⟨reading.buffer, reading.pull, .scripted reading.source⟩

def read (buffer : List UInt8) (frames : Nat) (deadline : Int) (source : SimulatedSource) :
    Reading SimulatedSource :=
  let reading := readProgram buffer frames deadline source.program
  let event := SourceEvent.read frames buffer.length deadline reading.pull
  ⟨reading.buffer, reading.pull, { source with program := reading.source }.remember event⟩

instance : AudioSource SimulatedSource where
  prepare := prepare
  read := read

end SimulatedSource

end PcmOutput
