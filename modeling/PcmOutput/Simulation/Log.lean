import PcmOutput.Device

/-!
# Logged calls

The written form of the calls to a device: the entry point, the numbers it is given, and the handle it
is called for.
-/

set_option autoImplicit false

namespace PcmOutput

def BuilderHandle.text (builder : BuilderHandle) : String :=
  s!"(builder {builder.number})"

def StreamHandle.text (stream : StreamHandle) : String :=
  s!"(stream {stream.number})"

/-- The entry point of a setting, without the name of its owner. -/
def BuilderSetting.entryPoint : BuilderSetting → String
  | .deviceId => "setDeviceId"
  | .direction => "setDirection"
  | .sharingMode => "setSharingMode"
  | .format => "setFormat"
  | .sampleRate => "setSampleRate"
  | .channelCount => "setChannelCount"
  | .bufferCapacity => "setBufferCapacityInFrames"
  | .performanceMode => "setPerformanceMode"
  | .contentType => "setContentType"
  | .usage => "setUsage"
  | .sessionId => "setSessionId"
  | .channelMask => "setChannelMask"

/-- The entry point of a property, without the name of its owner. -/
def StreamProperty.entryPoint : StreamProperty → String
  | .state => "getState"
  | .bufferCapacity => "getBufferCapacityInFrames"
  | .framesPerBurst => "getFramesPerBurst"
  | .xrunCount => "getXRunCount"
  | .sampleRate => "getSampleRate"
  | .channelCount => "getChannelCount"
  | .format => "getFormat"

/-- The entry point of a request, without the name of its owner. -/
def Transition.entryPoint : Transition → String
  | .start => "requestStart"
  | .pause => "requestPause"

def Call.text : Call → String
  | .createBuilder => "createStreamBuilder"
  | .deleteBuilder builder => "delete" ++ builder.text
  | .configure builder setting value => s!"{setting.entryPoint} {value} " ++ builder.text
  | .registerData builder => "setDataCallback" ++ builder.text
  | .registerError builder => "setErrorCallback" ++ builder.text
  | .openStream builder => "openStream" ++ builder.text
  | .closeStream stream => "close" ++ stream.text
  | .request stream transition => transition.entryPoint ++ stream.text
  | .waitForChange stream state timeout => s!"waitForStateChange {state} {timeout}" ++ stream.text
  | .query stream property => property.entryPoint ++ stream.text
  | .framesWritten stream => "getFramesWritten" ++ stream.text
  | .timestamp stream clock => s!"getTimestamp {clock}" ++ stream.text

end PcmOutput
