import PcmOutput.Journal

/-!
# Capabilities of a device API

The device API grows with its level. Every tier lists the entry points that are there from some level
on. A probe binds the entry points of all tiers up to a level, or none at all.
-/

set_option autoImplicit false

namespace PcmOutput

/-- The entry points that are there from a level on. -/
structure Tier where
  level : Int
  symbols : List String
deriving DecidableEq, Repr

namespace Tier

/-- What every device offers: builders, streams and their texts. -/
def core : Tier where
  level := 26
  symbols :=
    ["AAudio_convertResultToText", "AAudio_convertStreamStateToText", "AAudio_createStreamBuilder",
      "AAudioStreamBuilder_setDeviceId", "AAudioStreamBuilder_setSampleRate",
      "AAudioStreamBuilder_setChannelCount", "AAudioStreamBuilder_setFormat",
      "AAudioStreamBuilder_setSharingMode", "AAudioStreamBuilder_setDirection",
      "AAudioStreamBuilder_setBufferCapacityInFrames", "AAudioStreamBuilder_setPerformanceMode",
      "AAudioStreamBuilder_setDataCallback", "AAudioStreamBuilder_setErrorCallback",
      "AAudioStreamBuilder_openStream", "AAudioStreamBuilder_delete", "AAudioStream_close",
      "AAudioStream_requestStart", "AAudioStream_requestPause", "AAudioStream_getState",
      "AAudioStream_waitForStateChange", "AAudioStream_getBufferCapacityInFrames",
      "AAudioStream_getFramesPerBurst", "AAudioStream_getXRunCount", "AAudioStream_getSampleRate",
      "AAudioStream_getChannelCount", "AAudioStream_getFormat", "AAudioStream_getFramesWritten",
      "AAudioStream_getTimestamp"]

/-- Usage, content type and session of a stream. -/
def hints : Tier where
  level := 28
  symbols :=
    ["AAudioStreamBuilder_setUsage", "AAudioStreamBuilder_setContentType",
      "AAudioStreamBuilder_setSessionId", "AAudioStream_getSessionId"]

def masks : Tier where
  level := 32
  symbols :=
    ["AAudioStreamBuilder_setChannelMask", "AAudioStream_getChannelMask"]

/-- The tiers of the device API, by ascending level. -/
def table : List Tier :=
  [core, hints, masks]

end Tier

/-- The address of an entry point, if there is one; the address zero stands for none. -/
abbrev Resolver := String → Option Nat

/-- The address of an entry point that can be called. -/
def Resolver.address? (resolver : Resolver) (symbol : String) : Option Nat :=
  (resolver symbol).filter fun address => address ≠ 0

/-- Entry points with their addresses, each at most once. -/
structure BoundSymbols where
  level : Int
  entries : List (String × Nat)
deriving DecidableEq, Repr

namespace BoundSymbols

def address? (bound : BoundSymbols) (symbol : String) : Option Nat :=
  bound.entries.lookup symbol

/-- Binds an entry point, in place of what it was bound to. -/
def insert (bound : BoundSymbols) (symbol : String) (address : Nat) : BoundSymbols :=
  { bound with entries := (symbol, address) :: bound.entries.filter fun entry => entry.1 != symbol }

def size (bound : BoundSymbols) : Nat :=
  bound.entries.length

/-- Whether every entry point of a tier is bound. -/
def offers (bound : BoundSymbols) (tier : Tier) : Bool :=
  tier.symbols.all fun symbol => (bound.address? symbol).isSome

/-- The entries in the order of their names. -/
def sorted (bound : BoundSymbols) : List (String × Nat) :=
  bound.entries.mergeSort fun left right => left.1 ≤ right.1

end BoundSymbols

/-- Binds entry points in order, up to the first one that is missing. -/
def bindSymbols (resolver : Resolver) : List String → BoundSymbols → Noted BoundSymbols
  | [], bound => pure bound
  | symbol :: rest, bound =>
    match resolver.address? symbol with
    | some address => bindSymbols resolver rest (bound.insert symbol address)
    | none => do
      Noted.note .warning s!"Could not resolve symbol {symbol}"
      Noted.fail (.missingSymbol symbol bound.level)

/-- Binds tiers in order, up to the first one whose level is too high. -/
def bindTiers (resolver : Resolver) : List Tier → BoundSymbols → Noted BoundSymbols
  | [], bound => pure bound
  | tier :: rest, bound =>
    if bound.level < tier.level then pure bound
    else do
      let extended ← bindSymbols resolver tier.symbols bound
      Noted.note .debug s!"Bound AAudio tier {tier.level} ({tier.symbols.length} symbols)"
      bindTiers resolver rest extended

/-- Binds all tiers up to a level; the level must not be below the first tier. -/
def probe (level : Int) (table : List Tier) (resolver : Resolver) : Noted BoundSymbols :=
  match table with
  | [] => Noted.fail (.unsupportedApiLevel level 0)
  | first :: _ =>
    if level < first.level then Noted.fail (.unsupportedApiLevel level first.level)
    else bindTiers resolver table ⟨level, []⟩

end PcmOutput
