/-!
# Speakers

The positions a channel can be played at, each with its short name and its bit in a channel mask.
-/

set_option autoImplicit false

namespace PcmOutput

/-- A speaker position. -/
inductive Speaker
  | frontLeft | frontRight | frontCenter | lowFrequency
  | backLeft | backRight | frontLeftOfCenter | frontRightOfCenter
  | backCenter | sideLeft | sideRight | topCenter
  | topFrontLeft | topFrontCenter | topFrontRight | topBackLeft
  | topBackCenter | topBackRight | topSideLeft | topSideRight
  | wideLeft | wideRight
deriving DecidableEq, Repr

namespace Speaker

/-- Every position, in the order of the mask bits. -/
def all : List Speaker :=
  [.frontLeft, .frontRight, .frontCenter, .lowFrequency, .backLeft, .backRight,
    .frontLeftOfCenter, .frontRightOfCenter, .backCenter, .sideLeft, .sideRight, .topCenter,
    .topFrontLeft, .topFrontCenter, .topFrontRight, .topBackLeft, .topBackCenter,
    .topBackRight, .topSideLeft, .topSideRight, .wideLeft, .wideRight]

/-- The short name, as speaker lists use it. -/
def name : Speaker → String
  | .frontLeft => "fl"
  | .frontRight => "fr"
  | .frontCenter => "fc"
  | .lowFrequency => "lfe"
  | .backLeft => "bl"
  | .backRight => "br"
  | .frontLeftOfCenter => "flc"
  | .frontRightOfCenter => "frc"
  | .backCenter => "bc"
  | .sideLeft => "sl"
  | .sideRight => "sr"
  | .topCenter => "tc"
  | .topFrontLeft => "tfl"
  | .topFrontCenter => "tfc"
  | .topFrontRight => "tfr"
  | .topBackLeft => "tbl"
  | .topBackCenter => "tbc"
  | .topBackRight => "tbr"
  | .topSideLeft => "tsl"
  | .topSideRight => "tsr"
  | .wideLeft => "wl"
  | .wideRight => "wr"

def place : Speaker → Nat
  | .frontLeft => 0
  | .frontRight => 1
  | .frontCenter => 2
  | .lowFrequency => 3
  | .backLeft => 4
  | .backRight => 5
  | .frontLeftOfCenter => 6
  | .frontRightOfCenter => 7
  | .backCenter => 8
  | .sideLeft => 9
  | .sideRight => 10
  | .topCenter => 11
  | .topFrontLeft => 12
  | .topFrontCenter => 13
  | .topFrontRight => 14
  | .topBackLeft => 15
  | .topBackCenter => 16
  | .topBackRight => 17
  | .topSideLeft => 18
  | .topSideRight => 19
  | .wideLeft => 24
  | .wideRight => 25

def maskBit (speaker : Speaker) : Nat :=
  Nat.pow 2 speaker.place

/-- The position with this short name, if there is one. -/
def ofName? (name : String) : Option Speaker :=
  all.find? fun speaker => speaker.name == name

theorem mem_all (speaker : Speaker) : speaker ∈ all := by
  cases speaker <;> decide

@[simp] theorem ofName?_name (speaker : Speaker) : ofName? speaker.name = some speaker := by
  cases speaker <;> decide

theorem name_of_ofName? {name : String} {speaker : Speaker} (found : ofName? name = some speaker) :
    speaker.name = name := by
  simpa using List.find?_some found

end Speaker

end PcmOutput
