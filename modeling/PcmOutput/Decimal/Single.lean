/-!
# Singles

Numbers of 32 bits, as patterns of bits.
-/

set_option autoImplicit false

namespace PcmOutput.Decimal

/--
The pattern of the single that is nearest to a double, and of the one with the even pattern if two are as near. What is
too large for a single becomes an infinity.
-/
def singleBits (value : Float) : Nat :=
  let nearest := match value.toModel.unpack with
    | .finite sign significand exponent _ => .round .binary32 sign significand exponent
    | other => other
  (Float32.Model.pack nearest).toBits.toNat

end PcmOutput.Decimal
