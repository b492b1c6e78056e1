import PcmOutput.Capability
import PcmOutput.Device

/-!
# Audio libraries

A device API comes from a library. Loading opens the library, as the system does it, and binds the entry
points that the API level promises; an entry point that the library does not give may be found in the
namespace of the process. What is bound decides which settings take effect.
-/

set_option autoImplicit false

namespace PcmOutput

/-- The path that a name stands for. A zero character ends a path, so it may only stand at the end. -/
def openablePath (name : String) : Except String String :=
  match name.toList.reverse with
  | '\x00' :: before =>
    if before.contains '\x00' then .error "could not create a C string from bytes with trailing null"
    else .ok (String.ofList before.reverse)
  | characters =>
    if characters.contains '\x00' then .error "could not create a C string from bytes" else .ok name

/-- Opens the library at the path of a name, or tells why not. The empty path is that of the process itself. -/
def openedByPath (library : String → Option Resolver) (process : Resolver) (name : String) :
    Except String Resolver := do
  let path ← openablePath name
  if path = "" then return process
  match library path with
  | some library => return library
  | none => throw s!"{path}: cannot open shared object file: No such file or directory"

/-- The libraries of a system and what the process already holds. -/
structure Linkage where
  /-- The entry points of a library, if there is a library at the path. -/
  library : String → Option Resolver
  /-- The entry points that the process holds without any library. -/
  process : Resolver
  /-- What comes of opening a library by its name: its entry points, or why it cannot be opened. How a system goes about
  it is its own affair; to go by paths is only what it does if nothing else is said. -/
  opened : String → Except String Resolver := openedByPath library process

/-- Finds an entry point in a library, or else in the process. -/
def Linkage.resolver (linkage : Linkage) (library : Resolver) : Resolver := fun symbol =>
  (library.address? symbol).or (linkage.process.address? symbol)

/-- A library whose entry points are bound. -/
structure LoadedLibrary where
  symbols : BoundSymbols
deriving DecidableEq, Repr

/-- What the bound entry points do. A text may be missing. -/
structure EntryPoints (δ : Type) where
  resultText : δ → Int → Option String
  stateText : δ → Int → Option String
  respond : (call : Call) → δ → call.Answer × δ

/-- The tier that a setting needs beyond the first one. -/
def BuilderSetting.tier? : BuilderSetting → Option Tier
  | .contentType | .usage | .sessionId => some Tier.hints
  | .channelMask => some Tier.masks
  | _ => none

namespace LoadedLibrary

def level (library : LoadedLibrary) : Int :=
  library.symbols.level

/-- Whether the library is bound up to the tier that has a level. -/
def hasTier (library : LoadedLibrary) (level : Int) : Bool :=
  if level ≤ Tier.core.level then true
  else if level ≤ Tier.hints.level then library.symbols.offers Tier.hints
  else if level ≤ Tier.masks.level then library.symbols.offers Tier.masks
  else false

def accepts (library : LoadedLibrary) (setting : BuilderSetting) : Bool :=
  match setting.tier? with
  | some tier => library.symbols.offers tier
  | none => true

def summary (library : LoadedLibrary) : String :=
  let hints := library.symbols.offers Tier.hints
  let masks := library.symbols.offers Tier.masks
  "AAudioLibrary \x7b " ++ s!"api_level: {library.level}, tier28: {hints}, tier32: {masks}" ++ " \x7d"

/--
Opens the library of the options and binds what the API level promises. A level that the options leave open is unknown:
that Android itself can be asked for it then is left out here.
-/
def load (linkage : Linkage) (options : Options) : Noted LoadedLibrary :=
  match options.apiLevel with
  | none => Noted.fail .unknownApiLevel
  | some level =>
    match linkage.opened options.library with
    | .error reason => Noted.fail (.libraryLoad options.library reason)
    | .ok library => do
      let symbols ← probe level Tier.table (linkage.resolver library)
      if symbols.offers Tier.core then
        Noted.note .debug s!"Loaded {options.library} (API level {level}, {symbols.size} symbols)"
        return ⟨symbols⟩
      else Noted.fail (.unsupportedApiLevel level Tier.core.level)

/-- Answers a call. A setting that is not bound is not passed on and takes no effect; one that is bound
takes effect whatever the entry point makes of it. -/
def respond {δ : Type} (library : LoadedLibrary) (points : EntryPoints δ) :
    (call : Call) → δ → call.Answer × δ
  | .configure builder setting value, device =>
    if library.accepts setting then
      (true, (points.respond (.configure builder setting value) device).2)
    else (false, device)
  | call, device => points.respond call device

/-- The device API of a library. A text that is missing is the name of the code. -/
def api {δ : Type} (library : LoadedLibrary) (points : EntryPoints δ) : DeviceApi δ where
  level := library.level
  hasTier := library.hasTier
  resultText device code := (points.resultText device code).getD (ResultCode.name code)
  stateText device code := (points.stateText device code).getD (StateCode.name code)
  respond := library.respond points
  farewell := [⟨.debug, s!"Releasing AAudio library (API level {library.level})"⟩]

end LoadedLibrary

/-- Comes by a device API through the library of the options; the device does not notice. -/
def libraryLoader {δ : Type} (linkage : Linkage) (points : EntryPoints δ) : Loader δ :=
  fun options device =>
    let work : Noted (DeviceApi δ) := do
      let library ← LoadedLibrary.load linkage options
      return library.api points
    (work, device)

end PcmOutput
