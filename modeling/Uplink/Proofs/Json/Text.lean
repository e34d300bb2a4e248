/-
Module: Uplink.Proofs.Json.Text
Purpose: A quoted text is scanned up to its closing quote and decodes to the text that was quoted.
Main exports: RawText.ofText, Token.textBody_quoted, RawText.decode?_ofText
-/
import Mathlib.Data.List.Basic
import Uplink.Json.Printer
import Uplink.Json.Token
import Uplink.Proofs.Text.Utf8

namespace Uplink

open Text

namespace RawText

/-! ### The raw form of a text -/

/-- The pieces that a character is scanned as: a control character without a short escape is a code unit,
and every other character the bytes of its encoding. -/
def ofChar (character : Char) : RawText :=
  if character.toNat < 0x20 ∧ character.toNat ∉ [0x08, 0x09, 0x0A, 0x0C, 0x0D] then
    [.unit character.toNat]
  else
    (utf8Char character).map .byte

/-- The pieces that a text is scanned as. -/
def ofText (text : String) : RawText :=
  text.toList.flatMap ofChar

/-- A character of one byte that is written with that byte or a short escape. -/
theorem ofChar_of_lt {character : Char} (one : character.toNat < 0x80)
    (isShort : character.toNat < 0x20 → character.toNat ∈ [0x08, 0x09, 0x0A, 0x0C, 0x0D]) :
    ofChar character = [.byte (UInt8.ofNat character.toNat)] := by
  simp only [ofChar]
  rw [if_neg (fun control => control.2 (isShort control.1)), utf8Char, if_pos one]
  rfl

theorem bytesOnto_byte (done bytes : List UInt8) (raw : RawText) :
    bytesOnto done (bytes.map .byte ++ raw) = bytesOnto (bytes.reverse ++ done) raw := by
  induction bytes generalizing done with
  | nil => rfl
  | cons byte rest ih =>
      rw [List.reverse_cons, List.append_assoc]
      exact ih (byte :: done)

/-- The pieces of a character give the bytes of its encoding. -/
theorem bytesOnto_ofChar (done : List UInt8) (character : Char) (raw : RawText) :
    bytesOnto done (ofChar character ++ raw) = bytesOnto ((utf8Char character).reverse ++ done) raw := by
  simp only [ofChar]
  split
  · rename_i control
    simp only [List.cons_append, List.nil_append]
    rw [bytesOnto.eq_def]
    dsimp only
    rw [if_pos (by omega), Char.ofNat_toNat]
  · exact bytesOnto_byte done (utf8Char character) raw

theorem bytesOnto_flatMap (done : List UInt8) (characters : List Char) :
    bytesOnto done (characters.flatMap ofChar) = some (done.reverse ++ utf8Encode characters) := by
  induction characters generalizing done with
  | nil =>
      simp only [List.flatMap_nil, utf8Encode, List.append_nil]
      rfl
  | cons character rest ih =>
      simp only [List.flatMap_cons, bytesOnto_ofChar, ih, List.reverse_append, List.reverse_reverse,
        List.append_assoc, utf8Encode]

/-- The raw form of a text decodes to the text. -/
theorem decode?_ofText (text : String) : (ofText text).decode? = some text := by
  simp only [decode?, ofText, bytesOnto_flatMap, List.reverse_nil, List.nil_append, Option.bind_eq_bind,
    Option.bind_some]
  exact textOfBytes?_bytesOfText text

end RawText

namespace Token

/-! ### Scanning -/

/-- A byte that stands for itself inside a quoted text. -/
def Plain (byte : UInt8) : Prop :=
  0x20 ≤ byte.toNat ∧ byte.toNat ≠ 0x22 ∧ byte.toNat ≠ 0x5C

variable {byte letter : UInt8}

theorem textBody_plain (plain : Plain byte) (done : RawText) (rest : List UInt8) :
    textBody done (byte :: rest) = textBody (.byte byte :: done) rest := by
  obtain ⟨notControl, notQuote, notEscape⟩ := plain
  rw [textBody.eq_def]
  split
  · rename_i same
    cases same
  · rename_i same
    cases same
    exact absurd rfl notQuote
  · rename_i same
    cases same
    exact absurd rfl notEscape
  · rename_i same
    cases same
    exact absurd rfl notEscape
  · rename_i same
    cases same
    have noEscape : byte ≠ 0x5C := fun isEscape => notEscape (congrArg UInt8.toNat isEscape)
    rw [if_neg (not_or.2 ⟨Nat.not_lt_of_le notControl, noEscape⟩)]

theorem textBody_plains {bytes : List UInt8} (plain : ∀ byte ∈ bytes, Plain byte) (done : RawText)
    (rest : List UInt8) :
    textBody done (bytes ++ rest) = textBody ((bytes.map .byte).reverse ++ done) rest := by
  induction bytes generalizing done with
  | nil => rfl
  | cons byte others ih =>
      obtain ⟨first, remaining⟩ := List.forall_mem_cons.1 plain
      simp only [List.cons_append, textBody_plain first, ih remaining, List.map_cons, List.reverse_cons,
        List.append_assoc, List.nil_append]

/-- A short escape stands for its byte. -/
theorem textBody_short (short : shortEscape? letter = some byte) (done : RawText) (rest : List UInt8) :
    textBody done (0x5C :: letter :: rest) = textBody (.byte byte :: done) rest := by
  rw [textBody.eq_def]
  split
  · rename_i same
    cases same
  · rename_i same
    cases same
  · rename_i same
    cases same
    cases short
  · rename_i same
    cases same
    rw [short]
  · rename_i isEscape same
    cases same
    exact absurd rfl (isEscape letter rest rfl)

/-- A hexadecimal escape stands for its code unit. -/
theorem textBody_unit {first second third fourth : UInt8} {code : Nat}
    (isUnit : codeUnit? first second third fourth = some code) (done : RawText) (rest : List UInt8) :
    textBody done (0x5C :: 0x75 :: first :: second :: third :: fourth :: rest)
      = textBody (.unit code :: done) rest := by
  simp only [textBody, isUnit]

/-- Every byte of a character that needs no escape stands for itself. -/
theorem plain_utf8Char {character : Char} (notControl : 0x20 ≤ character.toNat)
    (notQuote : character.toNat ≠ 0x22) (notEscape : character.toNat ≠ 0x5C) :
    ∀ byte ∈ utf8Char character, Plain byte := by
  have valid : character.toNat < 0xD800 ∨ 0xDFFF < character.toNat ∧ character.toNat < 0x110000 :=
    character.valid
  have high : ∀ {code : Nat}, 0x80 ≤ code → code < 256 → Plain (UInt8.ofNat code) := by
    intro code atLeast small
    have value : (UInt8.ofNat code).toNat = code := UInt8.toNat_ofNat_of_lt' small
    simp only [Plain, value]
    omega
  simp only [utf8Char]
  split
  · rename_i one
    have value : (UInt8.ofNat character.toNat).toNat = character.toNat :=
      UInt8.toNat_ofNat_of_lt' (Nat.lt_trans one (by decide))
    simp only [List.forall_mem_singleton, Plain, value]
    exact ⟨notControl, notQuote, notEscape⟩
  · split
    · simp only [List.forall_mem_cons, List.not_mem_nil, false_imp_iff, implies_true, and_true]
      exact ⟨high (by omega) (by omega), high (by omega) (by omega)⟩
    · split
      · simp only [List.forall_mem_cons, List.not_mem_nil, false_imp_iff, implies_true, and_true]
        exact ⟨high (by omega) (by omega), high (by omega) (by omega), high (by omega) (by omega)⟩
      · simp only [List.forall_mem_cons, List.not_mem_nil, false_imp_iff, implies_true, and_true]
        exact ⟨high (by omega) (by omega), high (by omega) (by omega), high (by omega) (by omega),
          high (by omega) (by omega)⟩

/-- A number of at most two hexadecimal digits, written with two digits. -/
theorem hexadecimal_two {number : Nat} (small : number < 256) :
    hexadecimal 2 number = String.ofList [digitChar (number / 16), digitChar (number % 16)] := by
  simp only [hexadecimal]
  by_cases single : number < 16
  · rw [digits, if_pos (Or.inr single), Nat.div_eq_of_lt single, Nat.mod_eq_of_lt single]
    rfl
  · rw [digits, if_neg (by omega), digits, if_pos (by omega)]
    rfl

/-- What is written for a character inside quotes is scanned as the character's pieces. -/
theorem textBody_escapedChar (done : RawText) (character : Char) (rest : List UInt8) :
    textBody done (Json.escapedChar character ++ rest)
      = textBody ((RawText.ofChar character).reverse ++ done) rest := by
  have unitOf : ∀ code < 0x20, codeUnit? 0x30 0x30 (UInt8.ofNat (digitChar (code / 16)).toNat)
      (UInt8.ofNat (digitChar (code % 16)).toNat) = some code := by decide
  have single : ∀ digit < 16, utf8Char (digitChar digit)
      = [UInt8.ofNat (digitChar digit).toNat] := by decide
  unfold Json.escapedChar
  split
  case h_8 notQuote notEscape notBackspace notTab notLine notForm notReturn =>
    split
    · rename_i control
      have noShort : character.toNat ∉ [0x08, 0x09, 0x0A, 0x0C, 0x0D] := by
        simp only [List.mem_cons, List.not_mem_nil, or_false, not_or]
        exact ⟨notBackspace, notTab, notLine, notForm, notReturn⟩
      rw [hexadecimal_two (Nat.lt_trans control (by decide)), RawText.ofChar, if_pos ⟨control, noShort⟩,
        bytesOfText, String.toList_ofList, utf8Encode, List.flatMap_cons, List.flatMap_cons,
        single _ (by omega), single _ (by omega)]
      exact textBody_unit (unitOf _ control) done rest
    · rename_i notControl
      rw [textBody_plains (plain_utf8Char (Nat.le_of_not_lt notControl) notQuote notEscape),
        RawText.ofChar, if_neg (fun control => notControl control.1)]
  -- The seven characters with a short escape.
  all_goals
    rename_i isCode
    rw [RawText.ofChar_of_lt (by rw [isCode]; decide) (by rw [isCode]; decide), isCode]
    exact textBody_short rfl done rest

/-- A quoted text is scanned as its raw form, up to the closing quote. -/
theorem textBody_quoted (text : String) (rest : List UInt8) :
    textBody [] (text.toList.flatMap Json.escapedChar ++ 0x22 :: rest)
      = some (RawText.ofText text, rest) := by
  have scans : ∀ (characters : List Char) (done : RawText),
      textBody done (characters.flatMap Json.escapedChar ++ 0x22 :: rest)
        = some (done.reverse ++ characters.flatMap RawText.ofChar, rest) := by
    intro characters
    induction characters with
    | nil =>
        intro done
        rw [List.flatMap_nil, List.nil_append, List.flatMap_nil, List.append_nil]
        rfl
    | cons character others ih =>
        intro done
        simp only [List.flatMap_cons, List.append_assoc, textBody_escapedChar, ih, List.reverse_append,
          List.reverse_reverse]
  exact scans text.toList []

end Token

end Uplink
