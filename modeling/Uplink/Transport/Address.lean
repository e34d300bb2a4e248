/-
Module: Uplink.Transport.Address
Purpose: Remote addresses, a host and a port, and their text.
Main exports: Address, Address.text, Address.parse, Address.before
-/
import Uplink.Transport.Error

namespace Uplink

open Text

/-- A remote address that has not been resolved: a host name or an IP literal, and a port. -/
structure Address where
  host : String
  port : UInt16
deriving DecidableEq, Repr, Inhabited

namespace Address

/-- `host:port`, with brackets around a host that holds a colon. -/
def text (address : Address) : String :=
  if address.host.toList.contains ':' then
    "[" ++ address.host ++ "]:" ++ decimal address.port.toNat
  else
    address.host ++ ":" ++ decimal address.port.toNat

/-- The parts before and after the last separator. -/
def splitLast? (separator : Char) (characters : List Char) : Option (List Char × List Char) :=
  let backwards := characters.reverse
  match backwards.dropWhile (· != separator) with
  | [] => none
  | _ :: before => some (before.reverse, (backwards.takeWhile (· != separator)).reverse)

/-- The host written by some characters: what stands between brackets, or characters that neither begin
with a bracket nor hold a colon.  A host is not empty. -/
def host? : List Char → Option (List Char)
  | '[' :: rest =>
      if rest.getLast? = some ']' ∧ rest.dropLast ≠ [] then some rest.dropLast else none
  | host => if host ≠ [] ∧ ':' ∉ host then some host else none

/-- The port written by some characters: an optional plus sign and decimal digits, at most 65535. -/
def port? (characters : List Char) : Option UInt16 :=
  let unsigned :=
    match characters with
    | '+' :: rest => rest
    | _ => characters
  match decimal? unsigned with
  | some number => if number < 0x10000 then some (UInt16.ofNat number) else none
  | none => none

/-- The address written by a text, if it is one. -/
def ofText? (text : String) : Option Address := do
  let (written, portText) ← splitLast? ':' text.toList
  let host ← host? written
  let port ← port? portText
  some { host := String.ofList host, port }

/-- The address written by a text; every other text is reported unchanged. -/
def parse (text : String) : Except TransportError Address :=
  match ofText? text with
  | some address => .ok address
  | none => .error (.invalidAddress text)

/-- Addresses are ordered by host, then by port. -/
def before (first second : Address) : Bool :=
  decide (first.host < second.host)
    || (first.host == second.host && decide (first.port < second.port))

/-- Addresses in order. -/
def sort (addresses : List Address) : List Address :=
  addresses.mergeSort fun first second => !second.before first

end Address

end Uplink
