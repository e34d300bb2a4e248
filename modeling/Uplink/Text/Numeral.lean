/-
Module: Uplink.Text.Numeral
Purpose: Positional numerals: the digits of a natural number and the number a digit list denotes.
Main exports: digits, ofDigits, decimal, hexadecimal, ofDigits_digits
-/

namespace Uplink.Text

/-- The digits of `number`, most significant first.  Zero has the single digit zero, and a base below
two leaves the number as its own digit. -/
def digits (base number : Nat) : List Nat :=
  if base < 2 ∨ number < base then [number] else digits base (number / base) ++ [number % base]
termination_by number
decreasing_by exact Nat.div_lt_self (by omega) (by omega)

/-- The number that a digit list denotes, most significant digit first. -/
def ofDigits (base : Nat) (digitList : List Nat) : Nat :=
  digitList.foldl (fun total digit => total * base + digit) 0

theorem ofDigits_append_singleton (base : Nat) (digitList : List Nat) (digit : Nat) :
    ofDigits base (digitList ++ [digit]) = ofDigits base digitList * base + digit := by
  simp [ofDigits]

/-- Reading the digits of a number gives the number back. -/
theorem ofDigits_digits (base number : Nat) : ofDigits base (digits base number) = number := by
  fun_induction digits base number with
  | case1 number small => simp [ofDigits]
  | case2 number large ih =>
      rw [ofDigits_append_singleton, ih]
      exact Nat.div_add_mod' number base

/-- The character of a digit below thirty-six, with lower-case letters from ten on. -/
def digitChar (digit : Nat) : Char :=
  if digit < 10 then Char.ofNat (48 + digit) else Char.ofNat (87 + digit)

/-- Decimal text without leading zeros. -/
def decimal (number : Nat) : String :=
  String.ofList ((digits 10 number).map digitChar)

/-- Decimal text of an integer, with a minus sign below zero. -/
def signedDecimal : Int → String
  | .ofNat number => decimal number
  | .negSucc number => "-" ++ decimal (number + 1)

/-- Lower-case hexadecimal text, filled with zeros on the left up to `width` digits. -/
def hexadecimal (width number : Nat) : String :=
  let shown := (digits 16 number).map digitChar
  String.ofList (List.replicate (width - shown.length) '0' ++ shown)

/-- Whether a character is one of the ten ASCII digits. -/
def isDecimalDigit (character : Char) : Bool :=
  decide (48 ≤ character.toNat) && decide (character.toNat ≤ 57)

/-- The number written by a non-empty list of ASCII digits. -/
def decimal? (characters : List Char) : Option Nat :=
  if !characters.isEmpty && characters.all isDecimalDigit then
    some (ofDigits 10 (characters.map fun character => character.toNat - 48))
  else
    none

/-- The value of a hexadecimal digit in either case. -/
def hexadecimalDigit? (code : Nat) : Option Nat :=
  if 48 ≤ code ∧ code ≤ 57 then some (code - 48)
  else if 97 ≤ code ∧ code ≤ 102 then some (code - 87)
  else if 65 ≤ code ∧ code ≤ 70 then some (code - 55)
  else none

end Uplink.Text
