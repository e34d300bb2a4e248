/-
Module: Uplink.Payload.Registry
Purpose: Payload formats by body type, and frames built and read through them.
Main exports: PayloadRegistry, register, encodeAs, decodeAs, toFrame, fromFrame
-/
import Uplink.Frame.Basic
import Uplink.Log
import Uplink.Payload.Draft
import Uplink.Payload.Format
import Uplink.Payload.Target

namespace Uplink

open Text

/-- The formats in use, at most one for a body type. -/
structure PayloadRegistry where
  formats : List Format

namespace PayloadRegistry

/-- No formats. -/
def empty : PayloadRegistry := { formats := [] }

/-- The format of a body type. -/
def find? (registry : PayloadRegistry) (tag : UInt8) : Option Format :=
  registry.formats.find? fun format => format.tag == tag

/-- What registering a format gives: the new registry, the body type of the format that was replaced if
there was one, and the log lines. -/
structure Registered where
  registry : PayloadRegistry
  replaced : Option UInt8
  logs : List LogLine

/-- Register a format.  A format that was there under the same body type is replaced, with a warning. -/
def register (registry : PayloadRegistry) (format : Format) : Registered :=
  let others := registry.formats.filter fun held => held.tag != format.tag
  let replaced := (registry.find? format.tag).map Format.tag
  { registry := { formats := others ++ [format] }
    replaced
    logs :=
      match replaced with
      | some tag =>
          [{ level := .warn, target := "spark.codecs.marshal",
             message := "marshal for body type replaced",
             fields := [("body_type", decimal tag.toNat)] }]
      | none => [] }

/-- The registry that knows the JSON format. -/
def standard : PayloadRegistry := (empty.register .json).registry

/-- Whether a body type is known. -/
def contains (registry : PayloadRegistry) (tag : UInt8) : Bool :=
  (registry.find? tag).isSome

/-- The format of a body type. -/
def get (registry : PayloadRegistry) (tag : UInt8) : Except PayloadError Format :=
  match registry.find? tag with
  | some format => .ok format
  | none => .error (.unknownType tag)

/-- The body of a draft. -/
def encodeAs (registry : PayloadRegistry) (tag : UInt8) (draft : Draft) :
    Except PayloadError (List UInt8) := do
  let format ← registry.get tag
  match draft.toJson? with
  | some value => format.encode value
  | none => .error (.encode tag)

/-- The value of a body, read as a type.  Where the decoded value does not fit, a body that is UTF-8 is
read as a text once more, so that text which looks like another value still reaches a receiver of
texts. -/
def decodeAs (registry : PayloadRegistry) (tag : UInt8) (target : Target) (body : List UInt8) :
    Except PayloadError Json := do
  let format ← registry.get tag
  let value ← format.decode body
  match target.read? value with
  | some found => .ok found
  | none =>
      match (textOfBytes? body).bind fun text => target.read? (.text text) with
      | some found => .ok found
      | none => .error (.decode tag)

/-- The frame that carries a draft; the header's body type becomes the format's. -/
def toFrame (registry : PayloadRegistry) (header : Header) (tag : UInt8) (draft : Draft) :
    Except PayloadError Frame := do
  let body ← registry.encodeAs tag draft
  .ok (Frame.make { header with bodyType := tag } body)

/-- The value that a frame carries, read as a type. -/
def fromFrame (registry : PayloadRegistry) (target : Target) (frame : Frame) :
    Except PayloadError Json :=
  registry.decodeAs frame.header.bodyType target frame.body

/-- The registry's body types in ascending order. -/
def description (registry : PayloadRegistry) : String :=
  let tags := (registry.formats.map fun format => format.tag).mergeSort
  "MarshalRegistry \x7b types: [" ++ ", ".intercalate (tags.map fun tag => decimal tag.toNat)
    ++ "] \x7d"

end PayloadRegistry

end Uplink
