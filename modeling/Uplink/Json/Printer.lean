/-
Module: Uplink.Json.Printer
Purpose: The compact text of a JSON value as UTF-8 bytes.
Main exports: Json.escapedChar, Json.quoted, Json.bytes, Json.render
-/
import Uplink.Json.Value
import Uplink.Text.Utf8

namespace Uplink.Json

open Text

/-- The bytes of a character inside a quoted text.  Quotes, backslashes and control characters are
escaped, the five common controls by a letter; every other character stands for itself. -/
def escapedChar (character : Char) : List UInt8 :=
  match character.toNat with
  | 0x22 => [0x5C, 0x22]
  | 0x5C => [0x5C, 0x5C]
  | 0x08 => [0x5C, 0x62]
  | 0x09 => [0x5C, 0x74]
  | 0x0A => [0x5C, 0x6E]
  | 0x0C => [0x5C, 0x66]
  | 0x0D => [0x5C, 0x72]
  | code =>
      if code < 0x20 then
        [0x5C, 0x75, 0x30, 0x30] ++ bytesOfText (hexadecimal 2 code)
      else
        utf8Char character

/-- A text in double quotes. -/
def quoted (text : String) : List UInt8 :=
  0x22 :: (text.toList.flatMap escapedChar ++ [0x22])

mutual

/-- The compact text of a value: no blanks, members in the object's order. -/
def bytes : Json → List UInt8
  | .null => [0x6E, 0x75, 0x6C, 0x6C]
  | .boolean true => [0x74, 0x72, 0x75, 0x65]
  | .boolean false => [0x66, 0x61, 0x6C, 0x73, 0x65]
  | .number value => bytesOfText value.text
  | .text value => quoted value
  | .array [] => [0x5B, 0x5D]
  | .array (item :: rest) => 0x5B :: (bytes item ++ bytesOfItems rest)
  | .object [] => [0x7B, 0x7D]
  | .object ((key, value) :: rest) =>
      0x7B :: (quoted key ++ 0x3A :: (bytes value ++ bytesOfMembers rest))

/-- The items after the first one, each behind a comma, and the closing bracket. -/
def bytesOfItems : List Json → List UInt8
  | [] => [0x5D]
  | item :: rest => 0x2C :: (bytes item ++ bytesOfItems rest)

/-- The members after the first one, each behind a comma, and the closing brace. -/
def bytesOfMembers : List (String × Json) → List UInt8
  | [] => [0x7D]
  | (key, value) :: rest =>
      0x2C :: (quoted key ++ 0x3A :: (bytes value ++ bytesOfMembers rest))

end

/-- The compact text of a value. -/
def render (value : Json) : String :=
  (textOfBytes? (bytes value)).getD ""

end Uplink.Json
