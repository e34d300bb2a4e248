/-
Module: Uplink.Config.Remote
Purpose: Remote addresses as records of a JSON document.
Main exports: Address.ofJsonText?, Address.toJson
-/
import Uplink.Config.Setting
import Uplink.Json.Printer
import Uplink.Transport.Address

namespace Uplink.Address

/-- An address that is being read. -/
structure Unfinished where
  host : Option String
  port : Option UInt16

/-- The fields of an address, in the order of a list that stands for it. -/
def fields : List (Setting.Field Unfinished) :=
  [.of "host" Setting.text? fun found value => { found with host := some value },
   .of "port" Setting.half? fun found value => { found with port := some value }]

/-- The address that a JSON text describes; it must name both host and port. -/
def ofJsonText? (bytes : List UInt8) : Option Address := do
  let tree ← JsonTree.read? bytes
  let found ← (Setting.ofTree tree).record? true fields { host := none, port := none }
  let host ← found.host
  let port ← found.port
  some { host, port }

/-- An address as a JSON object. -/
def toJson (address : Address) : Json :=
  .object [("host", .text address.host), ("port", .ofWord address.port.toUInt64)]

end Uplink.Address
