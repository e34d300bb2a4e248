/-
Module: Uplink.Float.Shortest
Purpose: The fewest decimal digits that read back as a given binary number, and their layout.
Main exports: Scientific, RoundingInterval.shortest, FloatStyle, FloatStyle.layout, Double.text,
  Single.text
-/
import Uplink.Float.Binary
import Uplink.Text.Numeral

namespace Uplink

open Text

/-- A positive decimal `d₀.d₁d₂… × 10 ^ exponent` whose last digit is not zero. -/
structure Scientific where
  digits : List Nat
  exponent : Int
deriving DecidableEq, Repr, Inhabited

/-!
Everything is exact.  A number `x * 2 ^ p / 10 ^ g` is kept as a quotient of two naturals, the interval's
three marks are multiplied by four so that halves and quarters are whole, and decimal grids of one, two,
three and more digits are tried until one has a point inside the interval.
-/

namespace RoundingInterval

/-- The quotient `mark * 2 ^ (exponent - 2) / 10 ^ grid` as a numerator and a denominator. -/
def quotient (interval : RoundingInterval) (grid : Int) (mark : Nat) : Nat × Nat :=
  let power := interval.exponent - 2
  (mark * Nat.pow 2 power.toNat * Nat.pow 10 (-grid).toNat,
    Nat.pow 2 (-power).toNat * Nat.pow 10 grid.toNat)

/-- Four times the significand. -/
def centre (interval : RoundingInterval) : Nat :=
  4 * interval.significand

/-- Four times the upper end. -/
def upper (interval : RoundingInterval) : Nat :=
  4 * interval.significand + 2

/-- Four times the lower end. -/
def lower (interval : RoundingInterval) : Nat :=
  4 * interval.significand - (if interval.narrowBelow then 1 else 2)

/-- Whether the grid point `point * 10 ^ grid` rounds to the number. -/
def contains (interval : RoundingInterval) (grid : Int) (point : Nat) : Bool :=
  let low := interval.quotient grid interval.lower
  let high := interval.quotient grid interval.upper
  if interval.significand % 2 = 0 then
    decide (low.1 ≤ point * low.2) && decide (point * high.2 ≤ high.1)
  else
    decide (low.1 < point * low.2) && decide (point * high.2 < high.1)

/-- The exponent `e` with `10 ^ e ≤ value < 10 ^ (e + 1)`. -/
def decimalExponent (interval : RoundingInterval) : Int :=
  let value := interval.quotient 0 interval.centre
  if value.2 ≤ value.1 then
    ((digits 10 (value.1 / value.2)).length : Int) - 1
  else
    let places := (digits 10 (value.2 / value.1)).length
    if value.2 ≤ value.1 * Nat.pow 10 (places - 1) then -((places : Int) - 1) else -(places : Int)

/-- The point of a grid nearest to the number among its two neighbours inside the interval.  Of two
equally near ones the even one is taken. -/
def nearestOn? (interval : RoundingInterval) (grid : Int) : Option Nat :=
  let value := interval.quotient grid interval.centre
  let below := value.1 / value.2
  let excess := value.1 % value.2
  let belowFits := interval.contains grid below && decide (0 < below)
  let aboveFits := interval.contains grid (below + 1)
  if belowFits && aboveFits then
    if 2 * excess < value.2 || (2 * excess == value.2 && below % 2 == 0) then some below
    else some (below + 1)
  else if belowFits then some below
  else if aboveFits then some (below + 1)
  else none

/-- Drop the trailing zeros of a grid point. -/
def normalize (grid : Int) (point : Nat) : Scientific :=
  let shown := digits 10 point
  { digits := (shown.reverse.dropWhile (· == 0)).reverse
    exponent := grid + (shown.length : Int) - 1 }

/-- Try grids of `count`, `count + 1`, … digits, at most `more` of them after the first. -/
def shortestFrom (interval : RoundingInterval) (leading : Int) : Nat → Nat → Scientific
  | count, 0 =>
      let grid := leading - (count : Int) + 1
      let value := interval.quotient grid interval.centre
      normalize grid (value.1 / value.2)
  | count, more + 1 =>
      let grid := leading - (count : Int) + 1
      match interval.nearestOn? grid with
      | some point => normalize grid point
      | none => shortestFrom interval leading (count + 1) more

/-- The shortest decimal inside the interval, nearest to the number.  Seventeen digits always suffice. -/
def shortest (interval : RoundingInterval) : Scientific :=
  interval.shortestFrom interval.decimalExponent 1 17

end RoundingInterval

/-- The exponents that are written in plain notation. -/
structure FloatStyle where
  leastPlain : Int
  greatestPlain : Int
deriving DecidableEq, Repr

namespace FloatStyle

/-- Doubles are written plainly for exponents from -5 to 15. -/
def double : FloatStyle := { leastPlain := -5, greatestPlain := 15 }

/-- Singles are written plainly for exponents from -6 to 12. -/
def single : FloatStyle := { leastPlain := -6, greatestPlain := 12 }

/-- The text of a decimal: plain with at least one fraction digit, or one digit, the other digits as a
fraction, and a signed exponent. -/
def layout (style : FloatStyle) (number : Scientific) : String :=
  let shown := number.digits.map digitChar
  if style.leastPlain ≤ number.exponent ∧ number.exponent ≤ style.greatestPlain then
    if 0 ≤ number.exponent then
      let whole := number.exponent.toNat + 1
      let integral := shown.take whole ++ List.replicate (whole - shown.length) '0'
      let fraction := shown.drop whole
      String.ofList integral ++ "." ++ (if fraction.isEmpty then "0" else String.ofList fraction)
    else
      "0." ++ String.ofList (List.replicate ((-number.exponent).toNat - 1) '0' ++ shown)
  else
    let fraction := shown.drop 1
    String.ofList (shown.take 1) ++ (if fraction.isEmpty then "" else "." ++ String.ofList fraction)
      ++ "e" ++ (if number.exponent < 0 then "-" else "+") ++ decimal number.exponent.natAbs

end FloatStyle

/-- The text of a finite double: the fewest digits that read back. -/
def Double.text (number : Double) : String :=
  (if number.isNegative then "-" else "")
    ++ (if number.isZero then "0.0" else FloatStyle.double.layout number.rounding.shortest)

/-- The text of a finite single: the fewest digits that read back. -/
def Single.text (number : Single) : String :=
  (if number.isNegative then "-" else "")
    ++ (if number.isZero then "0.0" else FloatStyle.single.layout number.rounding.shortest)

end Uplink
