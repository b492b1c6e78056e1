/-!
# Sample formats

The formats a source can deliver its samples in: whole numbers of several widths, floating point
numbers, and compressed streams that are carried as 16-bit words.
-/

set_option autoImplicit false

namespace PcmOutput

/-- A compressed stream that a receiver behind a digital link decodes. -/
inductive Codec
  | ac3 | eac3 | dts | dtsHd | trueHd | aac | mpeg
deriving DecidableEq, Repr

/-- The format of one sample of an interleaved frame. -/
inductive SampleFormat
  | u8 | s16 | s24 | s32 | s64 | float | double
  | passthrough (codec : Codec)
deriving DecidableEq, Repr

namespace SampleFormat

def isFloat : SampleFormat → Bool
  | .float | .double => true
  | _ => false

def isInteger : SampleFormat → Bool
  | .u8 | .s16 | .s24 | .s32 | .s64 => true
  | _ => false

def isPassthrough : SampleFormat → Bool
  | .passthrough _ => true
  | _ => false

/-- The bytes of a sample; a compressed stream is carried in words of two bytes. -/
def bytes : SampleFormat → Nat
  | .u8 => 1
  | .s16 | .passthrough _ => 2
  | .s24 => 3
  | .s32 | .float => 4
  | .s64 | .double => 8

def name : SampleFormat → String
  | .u8 => "u8"
  | .s16 => "s16"
  | .s24 => "s24"
  | .s32 => "s32"
  | .s64 => "s64"
  | .float => "float"
  | .double => "double"
  | .passthrough .ac3 => "spdif-ac3"
  | .passthrough .eac3 => "spdif-eac3"
  | .passthrough .dts => "spdif-dts"
  | .passthrough .dtsHd => "spdif-dtshd"
  | .passthrough .trueHd => "spdif-truehd"
  | .passthrough .aac => "spdif-aac"
  | .passthrough .mpeg => "spdif-mp3"

def all : List SampleFormat :=
  [.u8, .s16, .s24, .s32, .s64, .float, .double, .passthrough .ac3, .passthrough .eac3,
    .passthrough .dts, .passthrough .dtsHd, .passthrough .trueHd, .passthrough .aac,
    .passthrough .mpeg]

/-- A text that names no sample format. -/
structure ParseError where
  text : String
deriving DecidableEq, Repr

def ParseError.message (cause : ParseError) : String :=
  "unknown sample format: " ++ cause.text

/-- The format with this name; the name has to match in every character. -/
def parse (text : String) : Except ParseError SampleFormat :=
  match all.find? fun format => format.name == text with
  | some format => .ok format
  | none => .error ⟨text⟩

theorem mem_all (format : SampleFormat) : format ∈ all := by
  cases format with
  | passthrough codec => cases codec <;> decide
  | _ => decide

@[simp] theorem parse_name (format : SampleFormat) : parse format.name = .ok format := by
  cases format with
  | passthrough codec => cases codec <;> rfl
  | _ => rfl

theorem bytes_pos (format : SampleFormat) : 0 < format.bytes := by
  cases format <;> simp [bytes]

end SampleFormat

end PcmOutput
