/-
Module: Uplink.Json.Number
Purpose: The numbers of the JSON model and the rule that turns a written literal into one of them.
Main exports: WireInteger, Number, Literal, Literal.number?, Number.text
-/
import Uplink.Float.Shortest

namespace Uplink

open Text

/-- An integer that fits 64 bits, signed below zero and unsigned from zero on. -/
structure WireInteger where
  value : Int
  least_le : -0x8000000000000000 ≤ value
  lt_limit : value < 0x10000000000000000
deriving DecidableEq, Repr

instance : Inhabited WireInteger :=
  ⟨{ value := 0, least_le := by decide, lt_limit := by decide }⟩

namespace WireInteger

/-- The integer with a value, if it is in range. -/
def ofInt? (value : Int) : Option WireInteger :=
  if inRange : -0x8000000000000000 ≤ value ∧ value < 0x10000000000000000 then
    some { value, least_le := inRange.1, lt_limit := inRange.2 }
  else
    none

/-- Every 64-bit word is in range. -/
def ofWord (word : UInt64) : WireInteger :=
  { value := word.toNat
    least_le := by omega
    lt_limit := by have := word.toNat_lt; omega }

end WireInteger

/-- A number of the JSON model. -/
inductive Number where
  | integer (value : WireInteger)
  | real (value : Double)
deriving DecidableEq, Repr, Inhabited

/-- A number as it is written: a sign, whole digits, fraction digits (none when there is no point) and
a signed exponent. -/
structure Literal where
  negative : Bool
  whole : List Nat
  fraction : List Nat
  exponent : Option (Bool × List Nat)
deriving DecidableEq, Repr, Inhabited

/-!
A literal without point and exponent is an integer if it fits, and `-0` is the real `-0.0`.  Every other
literal is a real, computed from a 64-bit significand: digits are gathered while they fit, further whole
digits raise the power of ten, further fraction digits are dropped, and the significand is then multiplied
or divided by a power of ten in double arithmetic.
-/

/-- The greatest significand. -/
def Literal.greatestSignificand : Nat := 0xFFFFFFFFFFFFFFFF

/-- Append digits to a significand while the result fits 64 bits; the digits that did not fit remain. -/
def Literal.gather (significand : Nat) : List Nat → Nat × List Nat
  | [] => (significand, [])
  | digit :: rest =>
      if significand * 10 + digit ≤ greatestSignificand then
        gather (significand * 10 + digit) rest
      else
        (significand, digit :: rest)

/-- `10 ^ power` as a double. -/
def powerOfTen (power : Nat) : Float :=
  OfScientific.ofScientific 1 false power

/-- Divide by `10 ^ power`, in steps of `10 ^ 308`, as long as something is left to divide. -/
def dividedByPower (value : Float) (power : Nat) : Float :=
  if power ≤ 308 then value / powerOfTen power
  else if value == 0 then value
  else dividedByPower (value / powerOfTen 308) (power - 308)
termination_by power

/-- The double `significand * 10 ^ power`, rounded after each step; none when it is infinite. -/
def scaledByPower? (significand : Nat) (power : Int) : Option Float :=
  let start := (UInt64.ofNat significand).toFloat
  if power < 0 then
    some (dividedByPower start power.natAbs)
  else if power ≤ 308 then
    let product := start * powerOfTen power.toNat
    if product.isInf then none else some product
  else if start == 0 then some start
  else none

/-- The greatest exponent that is still computed with. -/
def Literal.greatestExponent : Nat := 0x7FFFFFFF

/-- The real with a sign, a significand, a power of ten and a written exponent.  A positive exponent past
`greatestExponent` overflows unless the significand is zero, a negative one gives zero. -/
def Literal.real? (negative : Bool) (significand : Nat) (power : Int)
    (exponent : Option (Bool × List Nat)) : Option Double :=
  let signed := fun (value : Float) => Double.ofFloat (if negative then -value else value)
  match exponent with
  | none => (scaledByPower? significand power).map signed
  | some (negativeExponent, exponentDigits) =>
      let written := ofDigits 10 exponentDigits
      if greatestExponent < written then
        if significand ≠ 0 ∧ !negativeExponent then none else some (signed 0)
      else
        let total := if negativeExponent then power - written else power + written
        let clamped := max (-0x80000000) (min total 0x7FFFFFFF)
        (scaledByPower? significand clamped).map signed

/-- The number of a literal, or none when it is too large for a double. -/
def Literal.number? (literal : Literal) : Option Number :=
  let (significand, excess) := gather 0 literal.whole
  if excess.isEmpty ∧ literal.fraction.isEmpty ∧ literal.exponent.isNone then
    if literal.negative then
      if significand = 0 then
        some (.real (Double.ofFloat (-0.0)))
      else
        match WireInteger.ofInt? (-(significand : Int)) with
        | some value => some (.integer value)
        | none => some (.real (Double.ofFloat (-(UInt64.ofNat significand).toFloat)))
    else
      (WireInteger.ofInt? (significand : Int)).map .integer
  else
    let (fullSignificand, unread) := gather significand literal.fraction
    let consumed := literal.fraction.length - unread.length
    (real? literal.negative fullSignificand ((excess.length : Int) - (consumed : Int))
      literal.exponent).map .real

/-- The text of a number. -/
def Number.text : Number → String
  | .integer value => signedDecimal value.value
  | .real value => value.text

end Uplink
