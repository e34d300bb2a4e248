/-
Module: Uplink.Payload.Draft
Purpose: Values on their way into a payload, before they are JSON values.
Main exports: Draft, Draft.keyText?, Draft.toJson?
-/
import Uplink.Json.Value

namespace Uplink

open Text

/-!
A draft is richer than JSON: it has single-precision numbers, characters, byte strings, wide integers and
mappings whose keys are not texts.  Not every draft becomes a JSON value.
-/

/-- A value to be sent. -/
inductive Draft where
  | null
  | boolean (value : Bool)
  | integer (value : Int)
  | double (value : Double)
  | single (value : Single)
  | character (value : Char)
  | text (value : String)
  | bytes (value : List UInt8)
  | present (value : Draft)
  | refusing
  | sequence (items : List Draft)
  | mapping (entries : List (Draft × Draft))
deriving Repr, Inhabited

namespace Draft

/-- A double as a JSON value; infinities and NaNs become null. -/
def ofDouble (value : Double) : Json :=
  if value.isFinite then .number (.real value) else .null

/-- The text that stands for a key.  Texts, characters, truth values, integers and finite numbers have
one, everything else has none. -/
def keyText? : Draft → Option String
  | text value => some value
  | character value => some (String.ofList [value])
  | boolean value => some (if value then "true" else "false")
  | integer value => some (signedDecimal value)
  | double value => if value.isFinite then some value.text else none
  | single value => if value.isFinite then some value.text else none
  | _ => none

mutual

/-- The JSON value of a draft.  Integers must fit 64 bits and every key must have a text; of several
entries with one key the last one counts. -/
def toJson? : Draft → Option Json
  | .null => some .null
  | .boolean value => some (.boolean value)
  | .integer value => (WireInteger.ofInt? value).map fun fitting => .number (.integer fitting)
  | .double value => some (ofDouble value)
  | .single value => some (ofDouble value.toDouble)
  | .character value => some (.text (String.ofList [value]))
  | .text value => some (.text value)
  | .bytes value => some (.array (value.map fun byte => Json.ofWord (UInt64.ofNat byte.toNat)))
  | .present value => toJson? value
  | .refusing => none
  | .sequence items => (itemsToJson? items).map .array
  | .mapping entries => (entriesToJson? entries).map Json.objectOf

/-- The JSON values of some items. -/
def itemsToJson? : List Draft → Option (List Json)
  | [] => some []
  | item :: rest => do
      let value ← toJson? item
      let values ← itemsToJson? rest
      some (value :: values)

/-- The keys and JSON values of some entries. -/
def entriesToJson? : List (Draft × Draft) → Option (List (String × Json))
  | [] => some []
  | (key, item) :: rest => do
      let name ← keyText? key
      let value ← toJson? item
      let members ← entriesToJson? rest
      some ((name, value) :: members)

end

end Draft

end Uplink
