import PcmOutput.Options.Setting

/-!
# Options from the environment

Every option has an environment variable. A variable that is not set, or is blank, leaves its option
alone.
-/

set_option autoImplicit false

namespace PcmOutput

/-- The variables of a process, by name. -/
abbrev Environment := String → Option String

def variableMark : String := "AAUDIO_"

def profileVariable : String := "AAUDIO_PROFILE"

/-- The variable of an option: its bare key in ASCII capitals, with low lines for dashes. -/
def variableOf (key : String) : String :=
  variableMark ++ String.ofList ((bareKey key).toList.map fun character =>
    if character = '-' then '_' else character.toUpper)

/-- The trimmed value of an option's variable, unless it is blank. -/
def variableValue? (environment : Environment) (key : String) : Option String :=
  ((environment (variableOf key)).map Text.trim).filter fun value => value ≠ ""

namespace Options

/-- The options that the environment sets, in the order of the keys. -/
def environmentEntries (environment : Environment) : List Entry :=
  OptionKey.all.filterMap fun key =>
    (variableValue? environment key.name).map fun value => ⟨key.name, value⟩

def applyEnvironment (environment : Environment) (options : Options) : Applied :=
  applyItems .ok (environmentEntries environment) options

end Options

end PcmOutput
