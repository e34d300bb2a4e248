/-
Module: Uplink.Payload.Target
Purpose: The types a payload can be read as, and the JSON values that fit them.
Main exports: Target, Target.read?
-/
import Uplink.Json.Value

namespace Uplink

/-- A type that a receiver asks for. -/
inductive Target where
  | value
  | text
  | character
  | boolean
  | integer (least greatest : Int)
  | double
  | unit
  | optionalText
  | words
  | texts
  | wordTable
  | ping
  | mode
deriving DecidableEq, Repr, Inhabited

namespace Target

/-- Integers of eight bits without sign. -/
def octet : Target := integer 0 0xFF

/-- Integers of 32 bits without sign. -/
def word : Target := integer 0 0xFFFFFFFF

/-- Integers of 64 bits with sign. -/
def signedLong : Target := integer (-0x8000000000000000) 0x7FFFFFFFFFFFFFFF

/-- Integers of 64 bits without sign. -/
def long : Target := integer 0 0xFFFFFFFFFFFFFFFF

/-- An integer within bounds; reals never fit. -/
def integer? (least greatest : Int) : Json → Option Json
  | .number (.integer found) =>
      if least ≤ found.value ∧ found.value ≤ greatest then some (.number (.integer found)) else none
  | _ => none

/-- A text. -/
def text? : Json → Option Json
  | .text found => some (.text found)
  | _ => none

/-- The double nearest to an integer of 64 bits. -/
def nearestDouble (number : WireInteger) : Double :=
  if number.value < 0 then
    Double.ofFloat (-(UInt64.ofNat number.value.natAbs).toFloat)
  else
    Double.ofFloat (UInt64.ofNat number.value.toNat).toFloat

/-- Any number, as a double. -/
def double? : Json → Option Json
  | .number (.integer found) => some (.number (.real (nearestDouble found)))
  | .number (.real found) => some (.number (.real found))
  | _ => none

/-- The ping record of a node's name and a sequence number. -/
def pingOf (node sequence : Json) : Option Json := do
  let name ← text? node
  let number ← integer? 0 0xFFFFFFFF sequence
  some (.object [("node", name), ("seq", number)])

/-- A ping is an object with both members, whatever else it holds, or an array of exactly the two. -/
def ping? : Json → Option Json
  | .array [node, sequence] => pingOf node sequence
  | .object members => do
      let node ← members.lookup "node"
      let sequence ← members.lookup "seq"
      pingOf node sequence
  | _ => none

/-- A mode is one of two words, or an object whose only member has such a word as key and null as
value. -/
def mode? : Json → Option Json
  | .text word => if word = "fast" ∨ word = "slow" then some (.text word) else none
  | .object [(word, .null)] => if word = "fast" ∨ word = "slow" then some (.text word) else none
  | _ => none

/-- Read a value as a type.  The result is the value that the type would be written as. -/
def read? : Target → Json → Option Json
  | value, found => some found
  | text, found => text? found
  | character, .text found => if found.length = 1 then some (.text found) else none
  | boolean, .boolean found => some (.boolean found)
  | integer least greatest, found => integer? least greatest found
  | double, found => double? found
  | unit, .null => some .null
  | optionalText, .null => some .null
  | optionalText, found => text? found
  | words, .array items => (items.mapM (integer? 0 0xFFFFFFFF)).map .array
  | texts, .array items => (items.mapM text?).map .array
  | wordTable, .object members =>
      (members.mapM fun member =>
        (integer? 0 0xFFFFFFFFFFFFFFFF member.2).map fun found => (member.1, found)).map .object
  | ping, found => ping? found
  | mode, found => mode? found
  | _, _ => none

end Target

end Uplink
