import PcmOutput.ChannelMap.Layouts
import PcmOutput.Text.Blank
import PcmOutput.Text.Fields
import PcmOutput.Text.Numeral

/-!
# Channel maps as text

A map is written as the name of its layout, or else as its speakers between dashes. Read are a layout
name, a count of channels, or speakers between dashes, tried in this order: what is a number is never
taken for a list of speakers.
-/

set_option autoImplicit false

namespace PcmOutput.ChannelMap

/-- The written form: a name of the layout table, or the speakers joined by dashes. -/
def name (map : ChannelMap) : String :=
  match Layout.ofMap? map with
  | some layout => layout.name
  | none => "-".intercalate (map.speakers.map Speaker.name)

/-- Why a text stands for no channel map. -/
inductive ParseError
  /-- A count of channels that no layout stands for. -/
  | noDefaultLayout (count : Int)
  /-- The first piece of a list that names no speaker. -/
  | unknownSpeaker (piece : String)
  | invalidLayout (text : String)
deriving DecidableEq, Repr

def ParseError.message : ParseError → String
  | .noDefaultLayout count => s!"no default layout for {count} channels"
  | .unknownSpeaker piece => s!"unknown speaker: {piece}"
  | .invalidLayout text => s!"invalid channel layout: {text}"

/-- The speakers these pieces name, or the first piece that names none. -/
def speakersOf : List String → Except ParseError (List Speaker)
  | [] => .ok []
  | piece :: pieces =>
    match Speaker.ofName? piece with
    | none => .error (.unknownSpeaker piece)
    | some speaker => (speakersOf pieces).map (speaker :: ·)

def pieces (text : String) : List String :=
  (Text.fields '-' text.toList).map String.ofList

def ofSpeakerList (text : String) : Except ParseError ChannelMap :=
  match speakersOf (pieces text) with
  | .error cause => .error cause
  | .ok speakers =>
    match ofSpeakers? speakers with
    | some map => .ok map
    | none => .error (.invalidLayout text)

/-- Reads a layout name, a count or a list of speakers, without regard to blanks around it. -/
def parse (text : String) : Except ParseError ChannelMap :=
  let trimmed := Text.trim text
  match Layout.named? trimmed with
  | some layout => .ok layout.map
  | none =>
    match Text.int32? trimmed with
    | some count =>
      match ofCount? count with
      | some map => .ok map
      | none => .error (.noDefaultLayout count)
    | none => ofSpeakerList trimmed

end PcmOutput.ChannelMap
