/-
Module: Uplink.Text.Utf8
Purpose: The UTF-8 encoding of text as byte lists, and the strict decoder beside it.
Main exports: utf8Char, utf8Encode, utf8Decode, bytesOfText, textOfBytes?
-/

namespace Uplink.Text

/-!
The decoder accepts only shortest forms of scalar values: it refuses overlong sequences, the surrogate
range, values above U+10FFFF, stray continuation bytes and truncated sequences.
-/

/-- The one to four bytes of a scalar value. -/
def utf8Char (character : Char) : List UInt8 :=
  let code := character.toNat
  if code < 0x80 then
    [UInt8.ofNat code]
  else if code < 0x800 then
    [UInt8.ofNat (0xC0 + code / 64), UInt8.ofNat (0x80 + code % 64)]
  else if code < 0x10000 then
    [UInt8.ofNat (0xE0 + code / 4096), UInt8.ofNat (0x80 + code / 64 % 64),
      UInt8.ofNat (0x80 + code % 64)]
  else
    [UInt8.ofNat (0xF0 + code / 262144), UInt8.ofNat (0x80 + code / 4096 % 64),
      UInt8.ofNat (0x80 + code / 64 % 64), UInt8.ofNat (0x80 + code % 64)]

/-- The bytes of a list of scalar values. -/
def utf8Encode (characters : List Char) : List UInt8 :=
  characters.flatMap utf8Char

/-- The payload of a continuation byte. -/
def continuation? (byte : UInt8) : Option Nat :=
  if 0x80 ≤ byte.toNat ∧ byte.toNat < 0xC0 then some (byte.toNat - 0x80) else none

/-- The scalar value with a code, unless the code lies below `least`, in the surrogate range or past
the last scalar value. -/
def scalar? (least code : Nat) : Option Char :=
  if least ≤ code ∧ (code < 0xD800 ∨ (0xDFFF < code ∧ code < 0x110000)) then
    some (Char.ofNat code)
  else
    none

/-- Read scalar values in front of the ones already read, which are kept in reverse. -/
def utf8DecodeOnto (done : List Char) : List UInt8 → Option (List Char)
  | [] => some done.reverse
  | first :: rest =>
      if first.toNat < 0x80 then
        utf8DecodeOnto (Char.ofNat first.toNat :: done) rest
      else if first.toNat < 0xC0 then
        none
      else if first.toNat < 0xE0 then
        match rest with
        | second :: rest => do
            let low ← continuation? second
            let character ← scalar? 0x80 ((first.toNat - 0xC0) * 64 + low)
            utf8DecodeOnto (character :: done) rest
        | _ => none
      else if first.toNat < 0xF0 then
        match rest with
        | second :: third :: rest => do
            let middle ← continuation? second
            let low ← continuation? third
            let character ← scalar? 0x800 ((first.toNat - 0xE0) * 4096 + middle * 64 + low)
            utf8DecodeOnto (character :: done) rest
        | _ => none
      else if first.toNat < 0xF8 then
        match rest with
        | second :: third :: fourth :: rest => do
            let high ← continuation? second
            let middle ← continuation? third
            let low ← continuation? fourth
            let character ← scalar? 0x10000
              ((first.toNat - 0xF0) * 262144 + high * 4096 + middle * 64 + low)
            utf8DecodeOnto (character :: done) rest
        | _ => none
      else
        none

/-- The scalar values that a byte list encodes, if it is valid UTF-8. -/
def utf8Decode (bytes : List UInt8) : Option (List Char) :=
  utf8DecodeOnto [] bytes

/-- The UTF-8 bytes of a text. -/
def bytesOfText (text : String) : List UInt8 :=
  utf8Encode text.toList

/-- The text that a byte list encodes, if it is valid UTF-8. -/
def textOfBytes? (bytes : List UInt8) : Option String :=
  (utf8Decode bytes).map String.ofList

end Uplink.Text
