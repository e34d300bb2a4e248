/-
Module: Uplink.Payload.Format
Purpose: Payload formats: how a JSON value becomes the body of a frame and comes back.
Main exports: PayloadError, Format, Format.json, Format.masked, Format.refusing
-/
import Uplink.Json.Printer
import Uplink.Json.Reader

namespace Uplink

open Text

/-- What can go wrong between a value and a body; each error names the body type it belongs to. -/
inductive PayloadError where
  | unknownType (tag : UInt8)
  | encode (tag : UInt8)
  | decode (tag : UInt8)
deriving DecidableEq, Repr, Inhabited

namespace PayloadError

/-- The body type an error belongs to. -/
def tag : PayloadError → UInt8
  | unknownType tag | encode tag | decode tag => tag

/-- The error's text, up to the detail that a format may add behind it. -/
def message : PayloadError → String
  | unknownType tag => "no marshal registered for body type " ++ decimal tag.toNat
  | encode tag => "marshal with body type " ++ decimal tag.toNat ++ " failed: "
  | decode tag => "unmarshal with body type " ++ decimal tag.toNat ++ " failed: "

/-- The error's stable code. -/
def code : PayloadError → String
  | unknownType _ => "spark.codecs.marshal.unknown_type"
  | encode _ => "spark.codecs.marshal.encode_failed"
  | decode _ => "spark.codecs.marshal.decode_failed"

end PayloadError

/-- A payload format: the body type it is registered under, and both directions. -/
structure Format where
  tag : UInt8
  encode : Json → Except PayloadError (List UInt8)
  decode : List UInt8 → Except PayloadError Json

namespace Format

/-!
The JSON format writes texts as they are, without quotes, and null as an empty body.  Reading takes an
empty body for null, then tries the JSON grammar, and takes every other body that is UTF-8 for a text.
-/

/-- The body type of the JSON format. -/
def jsonTag : UInt8 := 1

/-- The body of a JSON value. -/
def jsonEncode : Json → List UInt8
  | .null => []
  | .text value => bytesOfText value
  | value => value.bytes

/-- The value of a body; only a body that is not UTF-8 has none. -/
def jsonDecode (body : List UInt8) : Except PayloadError Json :=
  if body.isEmpty then .ok .null
  else
    match Json.parse body with
    | some value => .ok value
    | none =>
        match textOfBytes? body with
        | some text => .ok (.text text)
        | none => .error (.decode jsonTag)

/-- The JSON format. -/
def json : Format :=
  { tag := jsonTag
    encode := fun value => .ok (jsonEncode value)
    decode := jsonDecode }

/-- Every byte combined with a key by exclusive or; doing it twice changes nothing. -/
def mask (key : UInt8) (bytes : List UInt8) : List UInt8 :=
  bytes.map fun byte => byte ^^^ key

/-- The JSON format behind a mask. -/
def masked (tag key : UInt8) : Format :=
  { tag
    encode := fun value => .ok (mask key (jsonEncode value))
    decode := fun body => jsonDecode (mask key body) }

/-- A format that refuses everything, with body types of its own in its errors. -/
def refusing (tag : UInt8) : Format :=
  { tag
    encode := fun _ => .error (.unknownType 254)
    decode := fun _ => .error (.unknownType 253) }

end Format

end Uplink
