/-
Module: Uplink.Proofs.Text.Numeral
Purpose: The digits of a number: there is one, each is below the base, none leads in vain, and their text
  reads back.  The texts that are read as a number are its numerals.
Main exports: Text.digits_lt, Text.length_digits_of_head, Text.toList_decimal, Text.decimal?_decimal,
  Text.Numeral, Text.decimal?_eq_some_iff
-/
import Mathlib.Data.List.Basic
import Mathlib.Data.List.Induction
import Uplink.Text.Numeral

namespace Uplink.Text

theorem digits_ne_nil (base number : Nat) : digits base number ≠ [] := by
  rw [digits]
  split <;> simp

theorem digits_lt {base : Nat} (enough : 2 ≤ base) (number : Nat) :
    ∀ digit ∈ digits base number, digit < base := by
  fun_induction digits base number with
  | case1 number small =>
      intro digit isDigit
      rw [List.mem_singleton.1 isDigit]
      omega
  | case2 number large ih =>
      intro digit isDigit
      rcases List.mem_append.1 isDigit with inFront | isLast
      · exact ih digit inFront
      · rw [List.mem_singleton.1 isLast]
        exact Nat.mod_lt number (by omega)

/-- Only the digit zero itself starts with a zero. -/
theorem length_digits_of_head {base number : Nat} (leading : (digits base number).head? = some 0) :
    (digits base number).length = 1 := by
  -- A leading zero of a longer numeral would be the leading zero of a number that is not zero.
  have positive : ∀ number, (digits base number).head? = some 0 → number = 0 := by
    intro number
    fun_induction digits base number with
    | case1 number small =>
        intro isZero
        exact Option.some.inj isZero
    | case2 number large ih =>
        intro isZero
        have quotient : number / base = 0 := by
          rw [List.head?_append, Option.or_eq_some_iff] at isZero
          rcases isZero with inFront | ⟨nothing, -⟩
          · exact ih inFront
          · exact absurd (List.head?_eq_none_iff.1 nothing) (digits_ne_nil base _)
        have atLeast : 1 ≤ number / base := by
          rw [Nat.one_le_div_iff (by omega)]
          omega
        omega
  have isZero := positive number leading
  rw [isZero, digits, if_pos (by omega), List.length_singleton]

/-- The characters of a decimal numeral are ASCII digits, each with its value. -/
theorem isDecimalDigit_digitChar :
    ∀ digit < 10, isDecimalDigit (digitChar digit) = true ∧ (digitChar digit).toNat - 48 = digit := by
  decide

theorem toList_decimal (number : Nat) : (decimal number).toList = (digits 10 number).map digitChar := by
  rw [decimal, String.toList_ofList]

theorem isDecimalDigit_of_mem_decimal {number : Nat} {character : Char}
    (isThere : character ∈ (decimal number).toList) : isDecimalDigit character = true := by
  rw [toList_decimal] at isThere
  obtain ⟨digit, isDigit, same⟩ := List.mem_map.1 isThere
  rw [← same]
  exact (isDecimalDigit_digitChar digit (digits_lt (by decide) number digit isDigit)).1

/-- The decimal text of a number is read as that number. -/
theorem decimal?_decimal (number : Nat) : decimal? (decimal number).toList = some number := by
  have notEmpty : (decimal number).toList ≠ [] := by
    rw [toList_decimal, ne_eq, List.map_eq_nil_iff]
    exact digits_ne_nil 10 number
  have allDigits : (decimal number).toList.all isDecimalDigit = true :=
    List.all_eq_true.2 fun _ isThere => isDecimalDigit_of_mem_decimal isThere
  have values : (decimal number).toList.map (fun character => character.toNat - 48)
      = digits 10 number := by
    rw [toList_decimal, List.map_map]
    apply (List.map_congr_left _).trans (List.map_id _)
    intro digit isDigit
    exact (isDecimalDigit_digitChar digit (digits_lt (by decide) number digit isDigit)).2
  rw [decimal?, if_pos, values, ofDigits_digits]
  rw [allDigits, Bool.and_true, Bool.not_eq_true', List.isEmpty_eq_false_iff]
  exact notEmpty

/-! ### Numerals -/

/-- One or more ASCII digits, the most significant first, and the number that they denote.  Zeros may
lead. -/
inductive Numeral : List Char → Nat → Prop where
  | single {digit : Nat} (isDigit : digit < 10) : Numeral [digitChar digit] digit
  | further {characters : List Char} {number digit : Nat} (numeral : Numeral characters number)
      (isDigit : digit < 10) : Numeral (characters ++ [digitChar digit]) (number * 10 + digit)

/-- Every ASCII digit is the character of a digit. -/
theorem exists_digitChar {character : Char} (isDigit : isDecimalDigit character = true) :
    ∃ digit < 10, character = digitChar digit := by
  simp only [isDecimalDigit, Bool.and_eq_true, decide_eq_true_eq] at isDigit
  have value : 48 + (character.toNat - 48) = character.toNat := by omega
  refine ⟨character.toNat - 48, by omega, ?_⟩
  rw [digitChar, if_pos (by omega), value, Char.ofNat_toNat]

theorem decimal?_digitChar {digit : Nat} (isDigit : digit < 10) :
    decimal? [digitChar digit] = some digit := by
  obtain ⟨isDecimal, value⟩ := isDecimalDigit_digitChar digit isDigit
  simp only [decimal?, List.all_cons, List.all_nil, isDecimal, List.map_cons, List.map_nil, value]
  exact congrArg some (Nat.zero_add digit)

/-- A digit behind other digits counts them ten times. -/
theorem decimal?_append_digitChar {characters : List Char} {number digit : Nat}
    (front : decimal? characters = some number) (isDigit : digit < 10) :
    decimal? (characters ++ [digitChar digit]) = some (number * 10 + digit) := by
  obtain ⟨isDecimal, value⟩ := isDecimalDigit_digitChar digit isDigit
  rw [decimal?, Option.ite_none_right_eq_some, Bool.and_eq_true] at front
  obtain ⟨⟨-, allDigits⟩, isNumber⟩ := front
  have notEmpty : (characters ++ [digitChar digit]).isEmpty = false :=
    List.isEmpty_eq_false_iff.2 (List.append_ne_nil_of_right_ne_nil _ (List.cons_ne_nil _ _))
  rw [decimal?, if_pos, List.map_append, List.map_singleton, ofDigits_append_singleton,
    Option.some.inj isNumber, value]
  rw [notEmpty, List.all_append, allDigits, List.all_cons, isDecimal]
  rfl

/-- The numerals of a number are the texts that are read as that number. -/
theorem decimal?_eq_some_iff {characters : List Char} {number : Nat} :
    decimal? characters = some number ↔ Numeral characters number := by
  constructor
  · intro isRead
    induction characters using List.reverseRecOn generalizing number with
    | nil => cases isRead
    | append_singleton front last ih =>
        have whole := isRead
        rw [decimal?, Option.ite_none_right_eq_some, Bool.and_eq_true, List.all_append, Bool.and_eq_true,
          List.all_cons, List.all_nil, Bool.and_true] at isRead
        obtain ⟨⟨-, frontDigits, lastDigit⟩, -⟩ := isRead
        obtain ⟨digit, isDigit, rfl⟩ := exists_digitChar lastDigit
        by_cases isEmpty : front = []
        · subst isEmpty
          rw [List.nil_append, decimal?_digitChar isDigit] at whole
          exact Option.some.inj whole ▸ .single isDigit
        · have isFront : decimal? front
              = some (ofDigits 10 (front.map fun character => character.toNat - 48)) := by
            rw [decimal?, if_pos]
            rw [frontDigits, Bool.and_true, Bool.not_eq_true', List.isEmpty_eq_false_iff]
            exact isEmpty
          rw [decimal?_append_digitChar isFront isDigit] at whole
          exact Option.some.inj whole ▸ .further (ih isFront) isDigit
  · intro numeral
    induction numeral with
    | single isDigit => exact decimal?_digitChar isDigit
    | further _ isDigit ih => exact decimal?_append_digitChar ih isDigit

/-- A numeral has nothing but digits. -/
theorem Numeral.isDecimalDigit {characters : List Char} {number : Nat}
    (numeral : Numeral characters number) :
    ∀ character ∈ characters, isDecimalDigit character = true := by
  induction numeral with
  | single isDigit =>
      intro character isThere
      rw [List.mem_singleton.1 isThere]
      exact (isDecimalDigit_digitChar _ isDigit).1
  | further _ isDigit ih =>
      intro character isThere
      rcases List.mem_append.1 isThere with inFront | isLast
      · exact ih character inFront
      · rw [List.mem_singleton.1 isLast]
        exact (isDecimalDigit_digitChar _ isDigit).1

end Uplink.Text
