/-!
# Errors of the output

Every cause for which an operation of the output fails, with one wording for each. Failures to bind
the device API and failures to agree on a stream keep an output from being initialized; a failed
transition leaves it as it was.
-/

set_option autoImplicit false

namespace PcmOutput

/-- Why an operation of the output, or the reading of its options, failed. -/
inductive OutputError
  /-- The device library could not be opened. -/
  | libraryLoad (library reason : String)
  /-- The first entry point of the bound tiers that is missing. -/
  | missingSymbol (symbol : String) (apiLevel : Int)
  | unsupportedApiLevel (apiLevel required : Int)
  | unknownApiLevel
  /-- The device gave no stream builder. -/
  | builderRefused (text : String)
  /-- No mask stands for exactly the requested layout. -/
  | noChannelMap (layout : String)
  /-- The device granted a count of channels that no layout stands for. -/
  | unknownChannelCount (count : Int)
  /-- A stream that was opened again has another layout than the first one. -/
  | layoutChanged (before after : String)
  /-- The device opened no stream. -/
  | openRefused (text : String)
  | invalidRequest (text : String)
  /-- A change of the stream's state was refused, or did not reach its final state. -/
  | transport (operation text : String)
  /-- There is no open stream. -/
  | notOpen
  /-- There was no successful initialization. -/
  | notInitialized
  /-- There is no source to play. -/
  | noSource
  | unknownOption (key : String)
  /-- The value is not in the language of the option. -/
  | invalidOption (key value : String)
  /-- The options profile could not be read. -/
  | profile (path reason : String)
deriving DecidableEq, Repr

namespace OutputError

def message : OutputError → String
  | .libraryLoad library reason => s!"failed to load {library}: {reason}"
  | .missingSymbol symbol apiLevel => s!"could not resolve symbol {symbol} (API level {apiLevel})"
  | .unsupportedApiLevel apiLevel required =>
    s!"AAudio requires API level {required}, device reports {apiLevel}"
  | .unknownApiLevel => "unable to determine device API level"
  | .builderRefused text => s!"failed to create stream builder: {text}"
  | .noChannelMap layout => s!"failed to find channel map for {layout}"
  | .unknownChannelCount count => s!"unknown layout for channel count: {count}"
  | .layoutChanged before after => s!"channel layout changed on reopen: {before} -> {after}"
  | .openRefused text => s!"failed to open stream: {text}"
  | .invalidRequest text => s!"invalid audio request: {text}"
  | .transport operation text => s!"failed to {operation} stream: {text}"
  | .notOpen => "stream is not open"
  | .notInitialized => "driver is not initialized"
  | .noSource => "no audio source attached to driver"
  | .unknownOption key => s!"unknown option: {key}"
  | .invalidOption key value => s!"invalid value for option {key}: {value}"
  | .profile path reason => s!"failed to read options profile {path}: {reason}"

/-- Whether the device API could not be bound. -/
def isCapability : OutputError → Bool
  | .libraryLoad .. | .missingSymbol .. | .unsupportedApiLevel .. | .unknownApiLevel => true
  | _ => false

/-- Whether no stream could be agreed on or opened. -/
def isNegotiation : OutputError → Bool
  | .builderRefused _ | .noChannelMap _ | .unknownChannelCount _ | .layoutChanged .. | .openRefused _
  | .invalidRequest _ => true
  | _ => false

end OutputError

end PcmOutput
