/-
Module: Uplink.Float.Binary
Purpose: Binary floating-point words and the interval of reals that rounds to each of them.
Main exports: Double, Double.rounding?, singleRounding?, RoundingInterval
-/

namespace Uplink

/-- A double-precision number, held as its 64-bit word so that equality is equality of words. -/
structure Double where
  bits : UInt64
deriving DecidableEq, Repr, Inhabited

namespace Double

/-- The word of a machine number. -/
def ofFloat (value : Float) : Double :=
  ⟨value.toBits⟩

/-- The machine number of a word. -/
def toFloat (number : Double) : Float :=
  Float.ofBits number.bits

/-- Whether the sign bit is set. -/
def isNegative (number : Double) : Bool :=
  decide (0x8000000000000000 ≤ number.bits.toNat)

/-- The eleven exponent bits. -/
def exponentField (number : Double) : Nat :=
  number.bits.toNat / 0x10000000000000 % 0x800

/-- The fifty-two fraction bits. -/
def fractionField (number : Double) : Nat :=
  number.bits.toNat % 0x10000000000000

/-- Neither an infinity nor a NaN. -/
def isFinite (number : Double) : Bool :=
  number.exponentField != 0x7FF

/-- Zero of either sign. -/
def isZero (number : Double) : Bool :=
  number.exponentField == 0 && number.fractionField == 0

end Double

/-- A positive number `significand * 2 ^ exponent` of a binary format with the reals that round to it:
they reach half a gap upwards, and downwards half a gap, or a quarter where the gap below is the smaller
one.  The ends belong to the interval when the significand is even. -/
structure RoundingInterval where
  significand : Nat
  exponent : Int
  narrowBelow : Bool
deriving DecidableEq, Repr, Inhabited

/-- The rounding interval of a finite non-zero word with `fractionBits` fraction bits and the given
fields, for the format whose least exponent is `leastExponent`. -/
def RoundingInterval.ofFields (fractionBits : Nat) (leastExponent : Int)
    (exponentField fractionField : Nat) : RoundingInterval :=
  if exponentField = 0 then
    { significand := fractionField, exponent := leastExponent, narrowBelow := false }
  else
    { significand := Nat.pow 2 fractionBits + fractionField
      exponent := leastExponent + (exponentField - 1 : Nat)
      narrowBelow := decide (fractionField = 0) && decide (1 < exponentField) }

/-- The rounding interval of a double's magnitude. -/
def Double.rounding (number : Double) : RoundingInterval :=
  .ofFields 52 (-1074) number.exponentField number.fractionField

/-- A single-precision number, held as its 32-bit word. -/
structure Single where
  bits : UInt32
deriving DecidableEq, Repr, Inhabited

namespace Single

/-- The eight exponent bits. -/
def exponentField (number : Single) : Nat :=
  number.bits.toNat / 0x800000 % 0x100

/-- The twenty-three fraction bits. -/
def fractionField (number : Single) : Nat :=
  number.bits.toNat % 0x800000

/-- Whether the sign bit is set. -/
def isNegative (number : Single) : Bool :=
  decide (0x80000000 ≤ number.bits.toNat)

/-- Neither an infinity nor a NaN. -/
def isFinite (number : Single) : Bool :=
  number.exponentField != 0xFF

/-- Zero of either sign. -/
def isZero (number : Single) : Bool :=
  number.exponentField == 0 && number.fractionField == 0

/-- The double with the same value. -/
def toDouble (number : Single) : Double :=
  Double.ofFloat (Float32.ofBits number.bits).toFloat

/-- The rounding interval of a single's magnitude. -/
def rounding (number : Single) : RoundingInterval :=
  .ofFields 23 (-149) number.exponentField number.fractionField

end Single

end Uplink
