/-
Module: Uplink.Json.Token
Purpose: The lexical units of JSON text and the scanner that splits bytes into them.
Main exports: RawText, RawText.decode?, Token, Token.scan
-/
import Uplink.Json.Value
import Uplink.Text.Utf8

namespace Uplink

open Text

/-!
A quoted text is scanned for its shape only: control characters, unknown escapes and short hexadecimal
escapes are refused here, while surrogates and UTF-8 are checked when the text is decoded.  Text that
nobody decodes may therefore hold lone surrogates.
-/

/-- A unit inside a quoted text: a byte that stands for itself or comes from a short escape, or a
sixteen-bit code unit from a hexadecimal escape. -/
inductive TextPiece where
  | byte (value : UInt8)
  | unit (code : Nat)
deriving DecidableEq, Repr, Inhabited

/-- The inside of a quoted text. -/
abbrev RawText := List TextPiece

namespace RawText

/-- The bytes of a raw text, in front of the bytes already gathered, which are kept in reverse.  A high
surrogate must be followed by a low one, and a low one may not stand alone. -/
def bytesOnto (done : List UInt8) : RawText → Option (List UInt8)
  | [] => some done.reverse
  | .byte value :: rest => bytesOnto (value :: done) rest
  | .unit code :: rest =>
      if code < 0xD800 ∨ 0xDFFF < code then
        bytesOnto ((utf8Char (Char.ofNat code)).reverse ++ done) rest
      else if 0xDBFF < code then
        none
      else
        match rest with
        | .unit low :: rest =>
            if 0xDC00 ≤ low ∧ low ≤ 0xDFFF then
              let character := Char.ofNat (0x10000 + (code - 0xD800) * 0x400 + (low - 0xDC00))
              bytesOnto ((utf8Char character).reverse ++ done) rest
            else
              none
        | _ => none

/-- The text that a raw text denotes. -/
def decode? (raw : RawText) : Option String := do
  let bytes ← bytesOnto [] raw
  textOfBytes? bytes

end RawText

/-- A lexical unit. -/
inductive Token where
  | openArray
  | closeArray
  | openObject
  | closeObject
  | comma
  | colon
  | null
  | boolean (value : Bool)
  | number (literal : Literal)
  | text (raw : RawText)
deriving DecidableEq, Repr, Inhabited

namespace Token

/-- Space, tab, line feed and carriage return. -/
def isBlank (byte : UInt8) : Bool :=
  byte == 0x20 || byte == 0x09 || byte == 0x0A || byte == 0x0D

/-- The six punctuation marks. -/
def punctuation? (byte : UInt8) : Option Token :=
  if byte = 0x5B then some .openArray
  else if byte = 0x5D then some .closeArray
  else if byte = 0x7B then some .openObject
  else if byte = 0x7D then some .closeObject
  else if byte = 0x2C then some .comma
  else if byte = 0x3A then some .colon
  else none

/-- The byte that a one-letter escape stands for. -/
def shortEscape? (letter : UInt8) : Option UInt8 :=
  if letter = 0x22 then some 0x22
  else if letter = 0x5C then some 0x5C
  else if letter = 0x2F then some 0x2F
  else if letter = 0x62 then some 0x08
  else if letter = 0x66 then some 0x0C
  else if letter = 0x6E then some 0x0A
  else if letter = 0x72 then some 0x0D
  else if letter = 0x74 then some 0x09
  else none

/-- The code unit of four hexadecimal digits. -/
def codeUnit? (first second third fourth : UInt8) : Option Nat := do
  let a ← hexadecimalDigit? first.toNat
  let b ← hexadecimalDigit? second.toNat
  let c ← hexadecimalDigit? third.toNat
  let d ← hexadecimalDigit? fourth.toNat
  some (((a * 16 + b) * 16 + c) * 16 + d)

/-- Scan the inside of a quoted text up to its closing quote. -/
def textBody (done : RawText) : List UInt8 → Option (RawText × List UInt8)
  | [] => none
  | 0x22 :: rest => some (done.reverse, rest)
  | 0x5C :: 0x75 :: first :: second :: third :: fourth :: rest =>
      match codeUnit? first second third fourth with
      | some code => textBody (.unit code :: done) rest
      | none => none
  | 0x5C :: letter :: rest =>
      match shortEscape? letter with
      | some byte => textBody (.byte byte :: done) rest
      | none => none
  | byte :: rest =>
      if byte.toNat < 0x20 ∨ byte = 0x5C then none else textBody (.byte byte :: done) rest

/-- Whether a byte is an ASCII digit. -/
def isDigit (byte : UInt8) : Bool :=
  decide (0x30 ≤ byte.toNat) && decide (byte.toNat ≤ 0x39)

/-- The leading digits of some bytes. -/
def leadingDigits (bytes : List UInt8) : List Nat :=
  (bytes.takeWhile isDigit).map fun byte => byte.toNat - 0x30

/-- What follows the leading digits. -/
def afterDigits (bytes : List UInt8) : List UInt8 :=
  bytes.dropWhile isDigit

/-- A fraction, if a point starts one; a point must be followed by a digit. -/
def fractionPart : List UInt8 → Option (List Nat × List UInt8)
  | 0x2E :: rest =>
      let fraction := leadingDigits rest
      if fraction.isEmpty then none else some (fraction, afterDigits rest)
  | bytes => some ([], bytes)

/-- The sign of an exponent. -/
def exponentSign : List UInt8 → Bool × List UInt8
  | 0x2B :: rest => (false, rest)
  | 0x2D :: rest => (true, rest)
  | bytes => (false, bytes)

/-- An exponent, if a letter `e` starts one; it must hold a digit. -/
def exponentPart : List UInt8 → Option (Option (Bool × List Nat) × List UInt8)
  | byte :: rest =>
      if byte = 0x65 ∨ byte = 0x45 then
        let (negative, unsigned) := exponentSign rest
        let exponent := leadingDigits unsigned
        if exponent.isEmpty then none
        else some (some (negative, exponent), afterDigits unsigned)
      else
        some (none, byte :: rest)
  | [] => some (none, [])

/-- A number without its sign.  A leading zero stands alone. -/
def unsignedNumber? (negative : Bool) (bytes : List UInt8) : Option (Literal × List UInt8) :=
  let whole := leadingDigits bytes
  if whole.isEmpty ∨ (whole.head? = some 0 ∧ 1 < whole.length) then none
  else do
    let (fraction, afterFraction) ← fractionPart (afterDigits bytes)
    let (exponent, rest) ← exponentPart afterFraction
    some ({ negative, whole, fraction, exponent }, rest)

/-- Drop an expected word. -/
def afterWord? (word bytes : List UInt8) : Option (List UInt8) :=
  if word.isPrefixOf bytes then some (bytes.drop word.length) else none

/-- The word that starts with a letter, less that letter, and its meaning. -/
def word? (letter : UInt8) : Option (List UInt8 × Token) :=
  if letter = 0x6E then some ([0x75, 0x6C, 0x6C], .null)
  else if letter = 0x74 then some ([0x72, 0x75, 0x65], .boolean true)
  else if letter = 0x66 then some ([0x61, 0x6C, 0x73, 0x65], .boolean false)
  else none

/-- A quoted text, a number or one of the words `null`, `true`, `false`. -/
def lexeme? : List UInt8 → Option (Token × List UInt8)
  | [] => none
  | byte :: rest =>
      if byte = 0x22 then
        (textBody [] rest).map fun (raw, remaining) => (.text raw, remaining)
      else if byte = 0x2D then
        (unsignedNumber? true rest).map fun (literal, remaining) => (.number literal, remaining)
      else if isDigit byte then
        (unsignedNumber? false (byte :: rest)).map fun (literal, remaining) =>
          (.number literal, remaining)
      else
        match word? byte with
        | some (word, token) => (afterWord? word rest).map fun remaining => (token, remaining)
        | none => none

/-! Every lexeme takes at least one byte, which is why the scanner ends. -/

theorem length_dropWhile_le {α : Type} (keep : α → Bool) (items : List α) :
    (items.dropWhile keep).length ≤ items.length := by
  induction items with
  | nil => simp
  | cons item rest ih =>
      simp only [List.dropWhile_cons]
      split
      · simp only [List.length_cons]; omega
      · simp

theorem textBody_length {done raw : RawText} {bytes rest : List UInt8}
    (scanned : textBody done bytes = some (raw, rest)) : rest.length < bytes.length := by
  fun_induction textBody done bytes with
  | case1 => simp at scanned
  | case2 => simp at scanned; simp [scanned.2]
  | case3 done first second third fourth tail code found ih =>
      have := ih scanned; simp only [List.length_cons]; omega
  | case4 => simp at scanned
  | case5 done letter tail _ byte found ih =>
      have := ih scanned; simp only [List.length_cons]; omega
  | case6 => simp at scanned
  | case7 => simp at scanned
  | case8 done byte tail _ _ _ _ ih =>
      have := ih scanned; simp only [List.length_cons]; omega

theorem fractionPart_length {bytes rest : List UInt8} {fraction : List Nat}
    (scanned : fractionPart bytes = some (fraction, rest)) : rest.length ≤ bytes.length := by
  unfold fractionPart at scanned
  split at scanned
  · rename_i tail
    dsimp only at scanned
    split at scanned
    · simp at scanned
    · simp at scanned
      have := length_dropWhile_le isDigit tail
      simp only [← scanned.2, afterDigits, List.length_cons]; omega
  · simp at scanned; simp [scanned.2]

theorem exponentSign_length (bytes : List UInt8) :
    (exponentSign bytes).2.length ≤ bytes.length := by
  unfold exponentSign; split <;> simp

theorem exponentPart_length {bytes rest : List UInt8} {exponent : Option (Bool × List Nat)}
    (scanned : exponentPart bytes = some (exponent, rest)) : rest.length ≤ bytes.length := by
  unfold exponentPart at scanned
  split at scanned
  · rename_i byte tail
    split at scanned
    · dsimp only at scanned
      split at scanned
      · simp at scanned
      · simp at scanned
        have first := length_dropWhile_le isDigit (exponentSign tail).2
        have second := exponentSign_length tail
        simp only [← scanned.2, afterDigits, List.length_cons]; omega
    · simp at scanned; simp [← scanned.2]
  · simp at scanned; simp [scanned.2]

theorem afterDigits_length {bytes : List UInt8} (present : (leadingDigits bytes).isEmpty = false) :
    (afterDigits bytes).length < bytes.length := by
  cases bytes with
  | nil => simp [leadingDigits] at present
  | cons byte rest =>
      by_cases digit : isDigit byte = true
      · have := length_dropWhile_le isDigit rest
        simp only [afterDigits, List.dropWhile_cons, digit, if_true, List.length_cons]; omega
      · simp [leadingDigits, digit] at present

theorem unsignedNumber?_length {negative : Bool} {bytes rest : List UInt8} {literal : Literal}
    (scanned : unsignedNumber? negative bytes = some (literal, rest)) :
    rest.length < bytes.length := by
  unfold unsignedNumber? at scanned
  dsimp only at scanned
  split at scanned
  · simp at scanned
  · rename_i wellFormed
    simp only [Option.bind_eq_bind, Option.bind_eq_some_iff, Prod.exists] at scanned
    obtain ⟨fraction, afterFraction, fractionRead, exponent, remaining, exponentRead, result⟩ := scanned
    have whole := @afterDigits_length bytes (by
      simp only [not_or] at wellFormed
      simpa using wellFormed.1)
    have second := fractionPart_length fractionRead
    have third := exponentPart_length exponentRead
    simp at result
    rw [← result.2]; omega

theorem afterWord?_length {word bytes rest : List UInt8}
    (scanned : afterWord? word bytes = some rest) : rest.length ≤ bytes.length := by
  unfold afterWord? at scanned
  split at scanned
  · simp at scanned; simp [← scanned]
  · simp at scanned

theorem lexeme?_length {bytes rest : List UInt8} {token : Token}
    (scanned : lexeme? bytes = some (token, rest)) : rest.length < bytes.length := by
  unfold lexeme? at scanned
  split at scanned
  · simp at scanned
  · rename_i byte tail
    simp only [List.length_cons]
    split at scanned
    · simp only [Option.map_eq_some_iff, Prod.exists, Prod.mk.injEq] at scanned
      obtain ⟨raw, remaining, found, -, rfl⟩ := scanned
      have := textBody_length found; omega
    · split at scanned
      · simp only [Option.map_eq_some_iff, Prod.exists, Prod.mk.injEq] at scanned
        obtain ⟨literal, remaining, found, -, rfl⟩ := scanned
        have := unsignedNumber?_length found; omega
      · split at scanned
        · simp only [Option.map_eq_some_iff, Prod.exists, Prod.mk.injEq] at scanned
          obtain ⟨literal, remaining, found, -, rfl⟩ := scanned
          have := unsignedNumber?_length found
          simp only [List.length_cons] at this; omega
        · split at scanned
          · simp only [Option.map_eq_some_iff, Prod.mk.injEq] at scanned
            obtain ⟨remaining, found, -, rfl⟩ := scanned
            have := afterWord?_length found; omega
          · simp at scanned

/-- Scan all bytes, in front of the units already found, which are kept in reverse. -/
def scanOnto (done : List Token) (bytes : List UInt8) : Option (List Token) :=
  match bytes with
  | [] => some done.reverse
  | byte :: rest =>
      if isBlank byte then scanOnto done rest
      else
        match punctuation? byte with
        | some token => scanOnto (token :: done) rest
        | none =>
            match _found : lexeme? (byte :: rest) with
            | some (token, remaining) => scanOnto (token :: done) remaining
            | none => none
termination_by bytes.length
decreasing_by
  · simp
  · simp
  · exact lexeme?_length _found

/-- The lexical units of some bytes, if they can be split into such. -/
def scan (bytes : List UInt8) : Option (List Token) :=
  scanOnto [] bytes

end Token

end Uplink
