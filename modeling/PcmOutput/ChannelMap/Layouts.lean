import PcmOutput.ChannelMap.Basic

/-!
# Known layouts

The layouts that can be asked for by a channel mask, each with its name, and the layouts that a bare
count of channels stands for. A device plays the channels of a mask in the order of the mask bits,
which is the order in which the table lists the speakers.
-/

set_option autoImplicit false

namespace PcmOutput

/-- A layout with a name and a channel mask. -/
structure Layout where
  name : String
  map : ChannelMap
  mask : Nat
deriving DecidableEq, Repr

namespace Layout

/--
The layouts with a mask. Every mask is made of its speakers' bits, but for mono, which is played at
the center and asked for by the bit of the front left position.
-/
def table : List Layout :=
  [⟨"mono", .mono, 0x1⟩,
   ⟨"stereo", .stereo, 0x3⟩,
   ⟨"2.1", { speakers := [.frontLeft, .frontRight, .lowFrequency] }, 0xb⟩,
   ⟨"3.0", { speakers := [.frontLeft, .frontRight, .frontCenter] }, 0x7⟩,
   ⟨"3.0(back)", { speakers := [.frontLeft, .frontRight, .backCenter] }, 0x103⟩,
   ⟨"3.1", { speakers := [.frontLeft, .frontRight, .frontCenter, .lowFrequency] }, 0xf⟩,
   ⟨"2.0.2", { speakers := [.frontLeft, .frontRight, .topSideLeft, .topSideRight] }, 0xc0003⟩,
   ⟨"2.1.2", { speakers := [.frontLeft, .frontRight, .lowFrequency, .topSideLeft,
        .topSideRight] }, 0xc000b⟩,
   ⟨"3.0.2", { speakers := [.frontLeft, .frontRight, .frontCenter, .topSideLeft,
        .topSideRight] }, 0xc0007⟩,
   ⟨"3.1.2", { speakers := [.frontLeft, .frontRight, .frontCenter, .lowFrequency, .topSideLeft,
        .topSideRight] }, 0xc000f⟩,
   ⟨"quad", { speakers := [.frontLeft, .frontRight, .backLeft, .backRight] }, 0x33⟩,
   ⟨"quad(side)", { speakers := [.frontLeft, .frontRight, .sideLeft, .sideRight] }, 0x603⟩,
   ⟨"4.0", { speakers := [.frontLeft, .frontRight, .frontCenter, .backCenter] }, 0x107⟩,
   ⟨"5.0", { speakers := [.frontLeft, .frontRight, .frontCenter, .backLeft, .backRight] }, 0x37⟩,
   ⟨"5.1", { speakers := [.frontLeft, .frontRight, .frontCenter, .lowFrequency, .backLeft,
        .backRight] }, 0x3f⟩,
   ⟨"5.1(side)", { speakers := [.frontLeft, .frontRight, .frontCenter, .lowFrequency, .sideLeft,
        .sideRight] }, 0x60f⟩,
   ⟨"6.1", { speakers := [.frontLeft, .frontRight, .frontCenter, .lowFrequency, .backLeft,
        .backRight, .backCenter] }, 0x13f⟩,
   ⟨"7.1", { speakers := [.frontLeft, .frontRight, .frontCenter, .lowFrequency, .backLeft,
        .backRight, .sideLeft, .sideRight] }, 0x63f⟩,
   ⟨"5.1.2", { speakers := [.frontLeft, .frontRight, .frontCenter, .lowFrequency, .backLeft,
        .backRight, .topSideLeft, .topSideRight] }, 0xc003f⟩,
   ⟨"5.1.4", { speakers := [.frontLeft, .frontRight, .frontCenter, .lowFrequency, .backLeft,
        .backRight, .topFrontLeft, .topFrontRight, .topBackLeft, .topBackRight] }, 0x2d03f⟩,
   ⟨"7.1.2", { speakers := [.frontLeft, .frontRight, .frontCenter, .lowFrequency, .backLeft,
        .backRight, .sideLeft, .sideRight, .topSideLeft, .topSideRight] }, 0xc063f⟩,
   ⟨"7.1.4", { speakers := [.frontLeft, .frontRight, .frontCenter, .lowFrequency, .backLeft,
        .backRight, .sideLeft, .sideRight, .topFrontLeft, .topFrontRight, .topBackLeft,
        .topBackRight] }, 0x2d63f⟩,
   ⟨"9.1.4", { speakers := [.frontLeft, .frontRight, .frontCenter, .lowFrequency, .backLeft,
        .backRight, .sideLeft, .sideRight, .topFrontLeft, .topFrontRight, .topBackLeft,
        .topBackRight, .wideLeft, .wideRight] }, 0x302d63f⟩,
   ⟨"9.1.6", { speakers := [.frontLeft, .frontRight, .frontCenter, .lowFrequency, .backLeft,
        .backRight, .sideLeft, .sideRight, .topFrontLeft, .topFrontRight, .topBackLeft,
        .topBackRight, .topSideLeft, .topSideRight, .wideLeft, .wideRight] }, 0x30ed63f⟩]

/-- The layout with this name, if the table has one. -/
def named? (name : String) : Option Layout :=
  table.find? fun layout => layout.name == name

/-- The layout of the table with the same channels in the same order. -/
def ofMap? (map : ChannelMap) : Option Layout :=
  table.find? fun layout => layout.map.speakers == map.speakers

/-- The layout of the table with the same speakers, in whatever order. -/
def matching? (map : ChannelMap) : Option Layout :=
  table.find? fun layout => map.sameLayout layout.map.speakers

end Layout

namespace ChannelMap

/-- The layouts that stand for a bare count, by the count: from none to sixteen channels. -/
def byCount : List (Option ChannelMap) :=
  [none,
   some .mono,
   some .stereo,
   some { speakers := [.frontLeft, .frontRight, .frontCenter] },
   some { speakers := [.frontLeft, .frontRight, .backLeft, .backRight] },
   some { speakers := [.frontLeft, .frontRight, .frontCenter, .backLeft, .backRight] },
   some { speakers := [.frontLeft, .frontRight, .frontCenter, .lowFrequency, .backLeft,
        .backRight] },
   some { speakers := [.frontLeft, .frontRight, .frontCenter, .lowFrequency, .backLeft, .backRight,
        .backCenter] },
   some { speakers := [.frontLeft, .frontRight, .frontCenter, .lowFrequency, .backLeft, .backRight,
        .sideLeft, .sideRight] },
   none,
   some { speakers := [.frontLeft, .frontRight, .frontCenter, .lowFrequency, .backLeft, .backRight,
        .sideLeft, .sideRight, .topSideLeft, .topSideRight] },
   none,
   some { speakers := [.frontLeft, .frontRight, .frontCenter, .lowFrequency, .backLeft, .backRight,
        .sideLeft, .sideRight, .topFrontLeft, .topFrontRight, .topBackLeft, .topBackRight] },
   none,
   some { speakers := [.frontLeft, .frontRight, .frontCenter, .lowFrequency, .backLeft, .backRight,
        .sideLeft, .sideRight, .topFrontLeft, .topFrontRight, .topBackLeft, .topBackRight,
        .wideLeft, .wideRight] },
   none,
   some { speakers := [.frontLeft, .frontRight, .frontCenter, .lowFrequency, .backLeft, .backRight,
        .sideLeft, .sideRight, .topFrontLeft, .topFrontRight, .topBackLeft, .topBackRight,
        .topSideLeft, .topSideRight, .wideLeft, .wideRight] }]

/-- The layout a device plays when it is asked for nothing but a count of channels. -/
def ofCount? (count : Int) : Option ChannelMap :=
  match count with
  | .ofNat index => (byCount[index]?).join
  | .negSucc _ => none

/-- The maps of the layouts with a mask, in table order. -/
def masked : List ChannelMap :=
  Layout.table.map Layout.map

end ChannelMap

end PcmOutput
