import PcmOutput.Options.Environment
import PcmOutput.Toml.Canonical
import PcmOutput.Toml.Document
import PcmOutput.Toml.Printer

/-!
# Options from a profile

A profile is a file in the TOML format; its table `aaudio` sets options by their keys, which may carry
the mark of the output. Other tables do not matter. The keys are applied in their order as texts, so
that a plain key is applied after the same key with the mark.
-/

set_option autoImplicit false

namespace PcmOutput

/-- The file that a profile is read from, and the text it holds if it could be read. -/
structure ProfileFile where
  path : String
  text : Option String
deriving DecidableEq, Repr

namespace Options

def profileTable : String := "aaudio"

/-- The keys and values under the table of options; nothing if there is no such table but another value. -/
def profileItems? (root : List (String × Toml.Value)) : Option (List (String × Toml.Value)) :=
  match root.find? fun entry => entry.1 == profileTable with
  | none => some []
  | some (_, .table entries) => some entries
  | some (_, .moment moment) => some [(Toml.momentKey, .text moment.render)]
  | some _ => none

/-- A text or a whole number sets an option; any other value is refused as it is written. -/
def readItem (item : String × Toml.Value) : Except OutputError Entry :=
  match item.2 with
  | .text text => .ok ⟨item.1, text⟩
  | .integer number => .ok ⟨item.1, toString number⟩
  | other => .error (.invalidOption item.1 other.renderAlone)

/-- The items of a profile in canonical form, or why it cannot be read. -/
def profileItems (file : ProfileFile) : Except OutputError (List (String × Toml.Value)) :=
  match file.text with
  | none => .error (.profile file.path "the file cannot be read")
  | some text =>
    match Toml.parse? text with
    | none => .error (.profile file.path "the text is not in the TOML format")
    | some root =>
      match profileItems? root with
      | none => .error (.profile file.path "its options are not in a table")
      | some items =>
        match Toml.canonicalEntries? items with
        | none => .error (.profile file.path "one of its tables carries no moment where it should")
        | some entries => .ok entries

def applyProfile (file : ProfileFile) (options : Options) : Applied :=
  match profileItems file with
  | .error cause => ⟨options, .error cause⟩
  | .ok items => applyItems readItem items options

/-- The texts of the files that can be read, by path. -/
abbrev Files := String → Option String

/-- The default options, then those of the profile that the environment names, if it names one, then those
of the environment itself. -/
def load (files : Files) (environment : Environment) : Except OutputError Options :=
  let profiled : Applied := match environment profileVariable with
    | some path => applyProfile ⟨path, files path⟩ {}
    | none => ⟨{}, .ok ()⟩
  match profiled.result with
  | .error cause => .error cause
  | .ok () =>
    let finished := applyEnvironment environment profiled.options
    finished.result.map fun () => finished.options

end Options

end PcmOutput
