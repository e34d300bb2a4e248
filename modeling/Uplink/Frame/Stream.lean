/-
Module: Uplink.Frame.Stream
Purpose: Decoding a buffer to its end, and decoding a stream that arrives in chunks.
Main exports: Drained, FrameCodec.drain, FrameCodec.receive, FrameCodec.receiveAll
-/
import Uplink.Frame.Codec

namespace Uplink

/-- What decoding a buffer to its end gives: the frames in order, the error it ended with if it did not
end by waiting for more bytes, and the bytes that are left. -/
structure Drained where
  frames : List Frame
  error : Option FrameTooLarge
  rest : List UInt8
deriving DecidableEq, Repr, Inhabited

namespace FrameCodec

/-- Decode in front of the frames already cut off, which are kept in reverse. -/
def drainOnto (codec : FrameCodec) (done : List Frame) (buffer : List UInt8) : Drained :=
  match _decoded : codec.decode buffer with
  | .frame frame rest => codec.drainOnto (frame :: done) rest
  | .waiting => { frames := done.reverse, error := none, rest := buffer }
  | .refused error => { frames := done.reverse, error := some error, rest := buffer }
termination_by buffer.length
decreasing_by exact length_of_decode _decoded

/-- Decode a buffer until it waits for more bytes or is refused. -/
def drain (codec : FrameCodec) (buffer : List UInt8) : Drained :=
  codec.drainOnto [] buffer

/-- Append a chunk to what was left before and decode again. -/
def receive (codec : FrameCodec) (before : Drained) (chunk : List UInt8) : Drained :=
  let after := codec.drain (before.rest ++ chunk)
  { after with frames := before.frames ++ after.frames }

/-- A whole stream, chunk by chunk. -/
def receiveAll (codec : FrameCodec) (chunks : List (List UInt8)) : Drained :=
  chunks.foldl codec.receive { frames := [], error := none, rest := [] }

/-- Append frames to a buffer one after another, as long as the codec accepts them. -/
def encodeAll (codec : FrameCodec) : List Frame → List UInt8 → Except FrameTooLarge (List UInt8)
  | [], buffer => .ok buffer
  | frame :: rest, buffer =>
      match codec.encode frame buffer with
      | .ok written => codec.encodeAll rest written
      | .error error => .error error

end FrameCodec

end Uplink
