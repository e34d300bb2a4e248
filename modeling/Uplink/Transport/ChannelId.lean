/-
Module: Uplink.Transport.ChannelId
Purpose: The identity of a channel and its text.
Main exports: ChannelId, ChannelId.text, ChannelId.next
-/
import Uplink.Text.Numeral

namespace Uplink

open Text

/-- The identity of a channel.  Identities are handed out in ascending order. -/
structure ChannelId where
  value : UInt64
deriving DecidableEq, Repr, Inhabited

namespace ChannelId

/-- The identity handed out after this one. -/
def next (id : ChannelId) : ChannelId :=
  { value := id.value + 1 }

/-- At least eight hexadecimal digits behind `0x`. -/
def text (id : ChannelId) : String :=
  "0x" ++ hexadecimal 8 id.value.toNat

/-- The text with the type's name around it. -/
def description (id : ChannelId) : String :=
  "ChannelId(" ++ id.text ++ ")"

/-- Identities in ascending order. -/
def sort (ids : List ChannelId) : List ChannelId :=
  ids.mergeSort fun first second => decide (first.value ≤ second.value)

end ChannelId

end Uplink
