/-
Module: Uplink.Proofs.Json.Number
Purpose: The decimal text of a 64-bit integer is scanned as one number and read as that integer again.
Main exports: Token.Ends, WireInteger.literal, Token.unsignedNumber?_numeral, WireInteger.number?_literal
-/
import Mathlib.Data.List.Basic
import Uplink.Json.Token
import Uplink.Proofs.Text.Numeral
import Uplink.Proofs.Text.Utf8

namespace Uplink

open Text

namespace Text

/-- The bytes of a decimal numeral: one for each digit. -/
theorem bytesOfText_decimal (number : Nat) :
    bytesOfText (decimal number) = (digits 10 number).map fun digit => UInt8.ofNat (48 + digit) := by
  have single : ∀ digit < 10, utf8Char (digitChar digit) = [UInt8.ofNat (48 + digit)] := by decide
  simp only [bytesOfText, decimal, String.toList_ofList, utf8Encode, List.flatMap_map]
  rw [List.map_eq_flatMap]
  apply List.flatMap_congr
  intro digit isDigit
  exact single digit (digits_lt (by decide) number digit isDigit)

end Text

namespace Token

/-! ### Scanning -/

/-- Bytes at which a number ends: there are none, or the first of them belongs to no number. -/
def Ends : List UInt8 → Prop
  | [] => True
  | byte :: _ => isDigit byte = false ∧ byte ≠ 0x2E ∧ byte ≠ 0x65 ∧ byte ≠ 0x45

/-- The bytes of a list of digits. -/
def numeral (digitList : List Nat) : List UInt8 :=
  digitList.map fun digit => UInt8.ofNat (48 + digit)

theorem isDigit_ofNat {digit : Nat} (small : digit < 10) : isDigit (UInt8.ofNat (48 + digit)) = true := by
  have value : (UInt8.ofNat (48 + digit)).toNat = 48 + digit :=
    UInt8.toNat_ofNat_of_lt' (by simp only [UInt8.size]; omega)
  simp only [isDigit, value, Bool.and_eq_true, decide_eq_true_eq]
  omega

theorem takeWhile_of_ends {rest : List UInt8} (ends : Ends rest) : rest.takeWhile isDigit = [] := by
  cases rest with
  | nil => rfl
  | cons byte others => rw [List.takeWhile_cons_of_neg (by rw [ends.1]; exact Bool.false_ne_true)]

theorem dropWhile_of_ends {rest : List UInt8} (ends : Ends rest) : rest.dropWhile isDigit = rest := by
  cases rest with
  | nil => rfl
  | cons byte others => rw [List.dropWhile_cons_of_neg (by rw [ends.1]; exact Bool.false_ne_true)]

variable {digitList : List Nat} {rest : List UInt8}

theorem isDigit_of_numeral (small : ∀ digit ∈ digitList, digit < 10) :
    ∀ byte ∈ numeral digitList, isDigit byte = true := by
  intro byte isByte
  obtain ⟨digit, isMember, same⟩ := List.mem_map.1 isByte
  rw [← same]
  exact isDigit_ofNat (small digit isMember)

/-- The digits of a numeral are read, up to where it ends. -/
theorem leadingDigits_numeral (small : ∀ digit ∈ digitList, digit < 10) (ends : Ends rest) :
    leadingDigits (numeral digitList ++ rest) = digitList := by
  simp only [leadingDigits]
  rw [List.takeWhile_append_of_pos (isDigit_of_numeral small), takeWhile_of_ends ends, List.append_nil,
    numeral, List.map_map]
  apply (List.map_congr_left ?_).trans (List.map_id digitList)
  intro digit isMember
  have bound := small digit isMember
  simp only [Function.comp, UInt8.toNat_ofNat', id]
  omega

/-- What follows a numeral is left. -/
theorem afterDigits_numeral (small : ∀ digit ∈ digitList, digit < 10) (ends : Ends rest) :
    afterDigits (numeral digitList ++ rest) = rest := by
  rw [afterDigits, List.dropWhile_append_of_pos (isDigit_of_numeral small), dropWhile_of_ends ends]

/-- No fraction and no exponent follow where a number ends. -/
theorem fractionPart_of_ends (ends : Ends rest) : fractionPart rest = some ([], rest) := by
  unfold fractionPart
  split
  · exact absurd rfl ends.2.1
  · rfl

theorem exponentPart_of_ends (ends : Ends rest) : exponentPart rest = some (none, rest) := by
  unfold exponentPart
  split
  · rename_i byte others
    rw [if_neg (not_or.2 ends.2.2)]
  · rfl

/-- The numeral of a number is scanned as its digits, without fraction and exponent. -/
theorem unsignedNumber?_numeral (negative : Bool) (number : Nat) (ends : Ends rest) :
    unsignedNumber? negative (numeral (digits 10 number) ++ rest)
      = some ({ negative, whole := digits 10 number, fraction := [], exponent := none }, rest) := by
  have small : ∀ digit ∈ digits 10 number, digit < 10 := digits_lt (by decide) number
  have wellFormed : ¬ ((digits 10 number).isEmpty = true ∨
      (digits 10 number).head? = some 0 ∧ 1 < (digits 10 number).length) := by
    rintro (isEmpty | ⟨leading, isLonger⟩)
    · exact digits_ne_nil 10 number (List.isEmpty_iff.1 isEmpty)
    · have single := length_digits_of_head leading
      omega
  simp only [unsignedNumber?, leadingDigits_numeral small ends, afterDigits_numeral small ends]
  rw [if_neg wellFormed, fractionPart_of_ends ends]
  simp only [Option.bind_eq_bind, Option.bind_some, exponentPart_of_ends ends]

end Token

/-! ### Reading the number -/

/-- The literal that an integer is written as. -/
def WireInteger.literal (number : WireInteger) : Literal :=
  { negative := decide (number.value < 0)
    whole := digits 10 number.value.natAbs
    fraction := []
    exponent := none }

namespace Literal

/-- Digits behind a number make no smaller number of it. -/
theorem le_foldl_digits (start : Nat) (digitList : List Nat) :
    start ≤ digitList.foldl (fun total digit => total * 10 + digit) start := by
  induction digitList generalizing start with
  | nil => exact Nat.le_refl start
  | cons digit rest ih =>
      calc
        start ≤ start * 10 + digit := by omega
        _ ≤ _ := ih (start * 10 + digit)

/-- All digits are gathered if the number that they make fits. -/
theorem gather_of_fits {start : Nat} {digitList : List Nat}
    (fits : digitList.foldl (fun total digit => total * 10 + digit) start ≤ greatestSignificand) :
    gather start digitList = (digitList.foldl (fun total digit => total * 10 + digit) start, []) := by
  induction digitList generalizing start with
  | nil => rfl
  | cons digit rest ih =>
      rw [List.foldl_cons] at fits ⊢
      rw [gather, if_pos (Nat.le_trans (le_foldl_digits _ rest) fits)]
      exact ih fits

/-- All digits of a number that fits are gathered. -/
theorem gather_digits {number : Nat} (fits : number ≤ greatestSignificand) :
    gather 0 (digits 10 number) = (number, []) := by
  have value := ofDigits_digits 10 number
  rw [ofDigits] at value
  rw [gather_of_fits (value.symm ▸ fits), value]

end Literal

theorem WireInteger.ofInt?_value (number : WireInteger) : ofInt? number.value = some number := by
  rw [ofInt?, dif_pos ⟨number.least_le, number.lt_limit⟩]

/-- The literal of an integer is read as that integer. -/
theorem WireInteger.number?_literal (number : WireInteger) :
    number.literal.number? = some (.integer number) := by
  have least := number.least_le
  have limit := number.lt_limit
  have gathered : Literal.gather 0 (digits 10 number.value.natAbs) = (number.value.natAbs, []) :=
    Literal.gather_digits (by simp only [Literal.greatestSignificand]; omega)
  simp only [Literal.number?, WireInteger.literal, gathered, List.isEmpty_nil, Option.isNone_none,
    and_self, if_true]
  by_cases negative : number.value < 0
  · have value : -(number.value.natAbs : Int) = number.value := by omega
    have notZero : number.value.natAbs ≠ 0 := by omega
    rw [if_pos (decide_eq_true negative), if_neg notZero, value, WireInteger.ofInt?_value]
  · have value : (number.value.natAbs : Int) = number.value := by omega
    rw [if_neg (by rw [decide_eq_true_eq]; exact negative), value, WireInteger.ofInt?_value]
    rfl

end Uplink
