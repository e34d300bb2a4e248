/-
Module: Uplink.Frame.Codec
Purpose: Cutting frames out of a byte buffer and writing them to one, within a length limit.
Main exports: FrameCodec, FrameTooLarge, Header.bytes, FrameCodec.decode, FrameCodec.encode,
  FrameCodec.put
-/
import Uplink.Frame.Basic
import Uplink.Text.Numeral

namespace Uplink

open Text

/-- A frame, or the length a header declares, is longer than the codec accepts. -/
structure FrameTooLarge where
  length : Nat
  limit : Nat
deriving DecidableEq, Repr, Inhabited

namespace FrameTooLarge

/-- The error's text. -/
def message (error : FrameTooLarge) : String :=
  "frame length " ++ decimal error.length ++ " exceeds limit " ++ decimal error.limit

/-- The error's stable code. -/
def code : String := "spark.codec.frame.too_large"

end FrameTooLarge

/-- The bytes of a 32-bit word, most significant first. -/
def bigEndian (word : UInt32) : List UInt8 :=
  let number := word.toNat
  [UInt8.ofNat (number / 0x1000000), UInt8.ofNat (number / 0x10000), UInt8.ofNat (number / 0x100),
    UInt8.ofNat number]

/-- The word of four bytes, most significant first. -/
def ofBigEndian (first second third fourth : UInt8) : UInt32 :=
  UInt32.ofNat (((first.toNat * 256 + second.toNat) * 256 + third.toNat) * 256 + fourth.toNat)

/-- The sixteen bytes of a header. -/
def Header.bytes (header : Header) : List UInt8 :=
  bigEndian header.command ++ bigEndian header.sequence ++ bigEndian header.bodyLength
    ++ [header.commandType, header.bodyType, header.code, header.hops]

/-- A header at the front of a buffer, with the bytes behind it; none if sixteen bytes have not arrived. -/
def Header.read? : List UInt8 → Option (Header × List UInt8)
  | c0 :: c1 :: c2 :: c3 :: s0 :: s1 :: s2 :: s3 :: l0 :: l1 :: l2 :: l3 ::
      commandType :: bodyType :: code :: hops :: rest =>
      some
        ({ command := ofBigEndian c0 c1 c2 c3
           sequence := ofBigEndian s0 s1 s2 s3
           bodyLength := ofBigEndian l0 l1 l2 l3
           commandType, bodyType, code, hops }, rest)
  | _ => none

/-- The bytes of a frame. -/
def Frame.bytes (frame : Frame) : List UInt8 :=
  frame.header.bytes ++ frame.body

/-- A codec: the greatest frame length it accepts, header included. -/
structure FrameCodec where
  limit : Nat
deriving DecidableEq, Repr, Inhabited

/-- What one attempt to cut a frame out of a buffer gives. -/
inductive Decoded where
  | frame (frame : Frame) (rest : List UInt8)
  | waiting
  | refused (error : FrameTooLarge)
deriving DecidableEq, Repr, Inhabited

namespace FrameCodec

/-- The limit of a codec that is not given one. -/
def defaultLimit : Nat := 65535

/-- The codec with the default limit. -/
def default : FrameCodec := { limit := defaultLimit }

/-- The codec with a limit; a limit that does not cover a header is raised to cover it. -/
def withLimit (limit : Nat) : FrameCodec :=
  { limit := max limit headerLength }

/-- Cut one frame off the front of a buffer.  The declared length is checked as soon as the header is
there, so an oversized frame is refused before its body arrives. -/
def decode (codec : FrameCodec) (buffer : List UInt8) : Decoded :=
  match Header.read? buffer with
  | none => .waiting
  | some (header, rest) =>
      let total := headerLength + header.bodyLength.toNat
      if codec.limit < total then
        .refused { length := total, limit := codec.limit }
      else if buffer.length < total then
        .waiting
      else
        .frame { header, body := rest.take header.bodyLength.toNat }
          (rest.drop header.bodyLength.toNat)

/-- Append a frame to a buffer; a frame longer than the limit is refused. -/
def encode (codec : FrameCodec) (frame : Frame) (buffer : List UInt8) :
    Except FrameTooLarge (List UInt8) :=
  if codec.limit < frame.encodedLength then
    .error { length := frame.encodedLength, limit := codec.limit }
  else
    .ok (buffer ++ frame.bytes)

/-- Offer a frame to a buffer: what the buffer holds afterwards, and whether the frame was accepted.  Nothing
is written before the length has been checked. -/
def put (codec : FrameCodec) (buffer : List UInt8) (frame : Frame) :
    List UInt8 × Except FrameTooLarge Unit :=
  match codec.encode frame buffer with
  | .ok written => (written, .ok ())
  | .error error => (buffer, .error error)

end FrameCodec

/-- A header is cut off only from a buffer that is sixteen bytes longer than what it leaves. -/
theorem Header.length_of_read? {buffer rest : List UInt8} {header : Header}
    (read : Header.read? buffer = some (header, rest)) :
    buffer.length = rest.length + headerLength := by
  unfold Header.read? at read
  split at read
  · simp at read; simp [← read.2, headerLength]
  · simp at read

/-- A decoded frame leaves a shorter buffer. -/
theorem FrameCodec.length_of_decode {codec : FrameCodec} {buffer rest : List UInt8} {frame : Frame}
    (decoded : codec.decode buffer = .frame frame rest) : rest.length < buffer.length := by
  unfold FrameCodec.decode at decoded
  split at decoded
  · simp at decoded
  · rename_i header tail read
    have total := Header.length_of_read? read
    dsimp only at decoded
    split at decoded
    · simp at decoded
    · split at decoded
      · simp at decoded
      · simp at decoded
        rw [← decoded.2]
        simp only [List.length_drop, total, headerLength]
        omega

end Uplink
