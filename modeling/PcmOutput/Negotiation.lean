import PcmOutput.ChannelMap.Notation
import PcmOutput.ChannelMap.Selection
import PcmOutput.FormatChoice
import PcmOutput.Journal
import PcmOutput.Options.Basic

/-!
# Negotiation

What a device is asked for, given what is requested, the options and what the device API can do. With
channel masks the layout is asked for exactly, and refused if no mask stands for it; without them only
the count of channels is asked for, and the layout is known when the stream is open.
-/

set_option autoImplicit false

namespace PcmOutput

/-- What is to be played. -/
structure AudioRequest where
  format : SampleFormat
  channels : ChannelMap
  sampleRate : Nat
  /-- Whether the device is to play no other stream. -/
  exclusive : Bool := false
  /-- Whether the content is music and not part of a movie. -/
  music : Bool := false
deriving DecidableEq, Repr

/-- What of the device API changes the negotiation. -/
structure DeviceCaps where
  apiLevel : Int
  contentHints : Bool
  channelMask : Bool
deriving DecidableEq, Repr

/-- How the channels are asked for. -/
inductive ChannelRequest
  /-- By a mask, which the device plays in the order of the layout. -/
  | mask (layout : ChannelMap) (mask : Nat)
  | count (channels : Nat)
deriving DecidableEq, Repr

/-- What a device is told about the content of a stream. -/
structure ContentHints where
  contentType : Int
  usage : Int
  sessionId : Int
deriving DecidableEq, Repr

/-- All that a stream builder is told. -/
structure StreamConfiguration where
  format : FormatChoice
  sampleRate : Nat
  channels : ChannelRequest
  sharingMode : Int
  deviceId : Int
  bufferCapacity : Int
  performanceMode : Int
  hints : Option ContentHints
deriving DecidableEq, Repr

def highestRate : Nat := 2147483647

/--
The channels to ask for. With masks, the closest layout of the table has to be the requested one, up to
the order of the channels; the order becomes that of the table.
-/
def selectChannels (requested : ChannelMap) (caps : DeviceCaps) : Noted ChannelRequest :=
  if caps.channelMask then
    match (ChannelMap.select ChannelMap.masked requested).bind fun index => ChannelMap.masked[index]? with
    | none => Noted.fail (.noChannelMap requested.name)
    | some closest =>
      if closest.sameLayout requested.speakers then
        match Layout.matching? closest with
        | none => Noted.fail (.noChannelMap requested.name)
        | some layout => do
          if layout.map ≠ requested then
            Noted.note .debug s!"Channel order {requested.name} becomes {layout.map.name}"
          return .mask layout.map layout.mask
      else do
        Noted.note .debug
          s!"Closest mask layout to {requested.name} is {closest.name}, not an exact match"
        Noted.fail (.noChannelMap requested.name)
  else pure (.count requested.size)

/-- What is told about the content, where it can be told. -/
def contentHints? (request : AudioRequest) (options : Options) (caps : DeviceCaps) : Option ContentHints :=
  if caps.contentHints then
    some {
      contentType := if request.music then ModeCode.music else ModeCode.movie
      usage := ModeCode.media
      sessionId := options.sessionId }
  else none

def negotiate (request : AudioRequest) (options : Options) (caps : DeviceCaps) :
    Noted StreamConfiguration := do
  if request.sampleRate = 0 ∨ highestRate < request.sampleRate then
    Noted.fail (.invalidRequest s!"sample rate {request.sampleRate}")
  let format := FormatChoice.select request.format caps.apiLevel
  if format.granted ≠ request.format then
    Noted.note .debug s!"Format {request.format.name} coerced to {format.granted.name}"
  let channels ← selectChannels request.channels caps
  return {
    format := format
    sampleRate := request.sampleRate
    channels := channels
    sharingMode := if request.exclusive then ModeCode.exclusive else ModeCode.shared
    deviceId := options.deviceId
    bufferCapacity := options.bufferCapacity
    performanceMode := options.performanceMode.code
    hints := contentHints? request options caps }

end PcmOutput
