/-!
A double-precision number taken apart: its sign and the exact value it stands for.
-/

namespace MeshTelemetry.Decimal

/-- What the bits of a double stand for. A `finite` one is `mantissa * 2 ^ exponent`, negated if
`negative`; `evenGap` tells that the next smaller magnitude is as far away as the next larger. -/
inductive Binary
  | nan
  | infinite (negative : Bool)
  | finite (negative : Bool) (mantissa : Nat) (exponent : Int) (evenGap : Bool)
deriving Repr, DecidableEq

/-- The bit of a mantissa that the format leaves out, 2 to the power of 52. -/
def hiddenBit : Nat := 0x10000000000000

/-- The fields of the 64-bit interchange format: a sign bit, eleven bits of exponent biased by
1075 against the last bit of the mantissa, and fifty-two stored bits of mantissa. -/
def Binary.ofBits (bits : UInt64) : Binary :=
  let negative := bits.toNat / 0x8000000000000000 = 1
  let biased : Nat := bits.toNat / hiddenBit % 2048
  let stored : Nat := bits.toNat % hiddenBit
  if biased = 2047 then
    if stored = 0 then .infinite negative else .nan
  else if biased = 0 then .finite negative stored (-1074) true
  else .finite negative (stored + hiddenBit) ((biased : Int) - 1075) (stored ≠ 0 || biased = 1)

/-- The parts of a double. -/
def Binary.ofFloat (x : Float) : Binary :=
  .ofBits x.toBits

end MeshTelemetry.Decimal
