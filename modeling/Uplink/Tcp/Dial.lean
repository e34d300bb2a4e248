/-
Module: Uplink.Tcp.Dial
Purpose: Reaching a host: looking up its name, and what the network says to an attempt to connect.
Main exports: Network, Network.lookUp, Network.dial, Network.detached
-/
import Uplink.Tcp.Fault
import Uplink.Transport.SocketAddress

namespace Uplink

open Text

/-- What the network says to an attempt to connect. -/
inductive Reach where
  | connected
  | failed (fault : SystemFault)
  | silent
deriving DecidableEq, Repr, Inhabited

/-- A network: the names it knows, and what it says to an attempt to connect to an internet address. -/
structure Network where
  names : List (String × InternetAddress)
  reach : SocketAddress → Reach

namespace Network

/-- The internet address of a host: the one that its text writes, or the one that the name stands for. -/
def lookUp (network : Network) (host : String) : Option InternetAddress :=
  match InternetAddress.parse? host with
  | some address => some address
  | none => network.names.lookup host

/-- Try to connect to an address.  A host that cannot be looked up makes the address invalid. -/
def dial (network : Network) (address : Address) (timeout : Span) : Except TransportError Unit :=
  match network.lookUp address.host with
  | none => .error (.invalidAddress address.text)
  | some target =>
      match network.reach { address := target, port := address.port } with
      | .connected => .ok ()
      | .failed fault => .error (.connectFailed address.text fault)
      | .silent => .error (.connectTimeout address.text timeout)

/-- The fault of a network that no route leads into. -/
def unreachableFault : SystemFault :=
  { kind := .other, text := "Network is unreachable (os error 101)" }

/-- The fault of an address that this machine cannot send from. -/
def unassignedFault : SystemFault :=
  { kind := .addressNotAvailable, text := "Cannot assign requested address (os error 99)" }

/-- Whether eight groups embed a version 4 address. -/
def embedsVersion4 : List Nat → Bool
  | [0, 0, 0, 0, 0, 0xFFFF, _, _] => true
  | _ => false

/-- The network of a machine without any link: no version 4 address has a route, and there is no version 6
address to send from. -/
def detached : Network :=
  { names := [("localhost", .version4 [127, 0, 0, 1])]
    reach := fun target =>
      match target.address with
      | .version4 _ => .failed unreachableFault
      | .version6 groups =>
          if embedsVersion4 groups then .failed unreachableFault else .failed unassignedFault }

end Network

end Uplink
