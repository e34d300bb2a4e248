/-
Module: Uplink.Json.Reader
Purpose: Reading a JSON value from bytes, within a limit on nesting.
Main exports: Json.depthLimit, JsonTree.value?, Json.parseWithin, Json.parse
-/
import Uplink.Json.Tree

namespace Uplink

namespace JsonTree

mutual

/-- The value of a tree that nests at most `limit` containers.  Every text must decode and every number
must fit a double; of several members with one key the last one counts. -/
def value? (limit : Nat) : JsonTree → Option Json
  | .null => some .null
  | .boolean value => some (.boolean value)
  | .number literal => literal.number?.map .number
  | .text raw => raw.decode?.map .text
  | .array items =>
      match limit with
      | 0 => none
      | inner + 1 => (values? inner items).map .array
  | .object members =>
      match limit with
      | 0 => none
      | inner + 1 => (members? inner members).map Json.objectOf

/-- The values of some trees. -/
def values? (limit : Nat) : List JsonTree → Option (List Json)
  | [] => some []
  | item :: rest => do
      let value ← value? limit item
      let values ← values? limit rest
      some (value :: values)

/-- The keys and values of some members. -/
def members? (limit : Nat) : List (RawText × JsonTree) → Option (List (String × Json))
  | [] => some []
  | (rawKey, item) :: rest => do
      let key ← rawKey.decode?
      let value ← value? limit item
      let members ← members? limit rest
      some ((key, value) :: members)

end

end JsonTree

namespace Json

/-- How many containers may be nested in one another. -/
def depthLimit : Nat := 127

/-- The value of a JSON text that nests at most `limit` containers. -/
def parseWithin (limit : Nat) (bytes : List UInt8) : Option Json := do
  let tree ← JsonTree.read? bytes
  tree.value? limit

/-- The value of a JSON text. -/
def parse (bytes : List UInt8) : Option Json :=
  parseWithin depthLimit bytes

end Json

end Uplink
