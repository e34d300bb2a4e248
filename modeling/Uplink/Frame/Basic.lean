/-
Module: Uplink.Frame.Basic
Purpose: Protocol frames: a header of seven fields and a body.
Main exports: Header, Frame, Frame.make, Frame.heartbeat, Frame.encodedLength
-/

namespace Uplink

/-- The number of bytes in front of a frame's body. -/
def headerLength : Nat := 16

/-- The header of a frame. -/
structure Header where
  command : UInt32
  sequence : UInt32
  bodyLength : UInt32
  commandType : UInt8
  bodyType : UInt8
  code : UInt8
  hops : UInt8
deriving DecidableEq, Repr, Inhabited

/-- The header whose fields are all zero. -/
def Header.zero : Header :=
  { command := 0, sequence := 0, bodyLength := 0, commandType := 0, bodyType := 0, code := 0, hops := 0 }

/-- A frame. -/
structure Frame where
  header : Header
  body : List UInt8
deriving DecidableEq, Repr, Inhabited

namespace Frame

/-- The length that a header declares for a body: its number of bytes, or the greatest 32-bit number
when it does not fit. -/
def declaredLength (body : List UInt8) : UInt32 :=
  UInt32.ofNat (min body.length 0xFFFFFFFF)

/-- The frame with a body, whose header declares that body's length whatever it held before. -/
def make (header : Header) (body : List UInt8) : Frame :=
  { header := { header with bodyLength := declaredLength body }, body }

/-- The frame that only keeps a link alive: a zero header and no body. -/
def heartbeat : Frame :=
  { header := .zero, body := [] }

/-- Whether a frame is the heartbeat. -/
def isHeartbeat (frame : Frame) : Bool :=
  decide (frame = heartbeat)

/-- The number of bytes a frame takes on the wire. -/
def encodedLength (frame : Frame) : Nat :=
  headerLength + frame.body.length

end Frame

end Uplink
