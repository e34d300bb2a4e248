/-
Module: Uplink.Frame.Runs
Purpose: Bytes noted by runs, so that a frame can be offered to a buffer without writing its body out.
Main exports: ByteRun, ByteRun.bytes, ByteRun.length, FrameCodec.putRuns, FrameCodec.putRuns_eq
-/
import Uplink.Frame.Codec

namespace Uplink

/-- A byte and how often it comes. -/
structure ByteRun where
  byte : UInt8
  count : Nat
deriving DecidableEq, Repr, Inhabited

namespace ByteRun

/-- The bytes of some runs, one behind the other. -/
def bytes (runs : List ByteRun) : List UInt8 :=
  runs.flatMap fun run => List.replicate run.count run.byte

/-- The number of bytes in some runs. -/
def length : List ByteRun → Nat
  | [] => 0
  | run :: rest => run.count + length rest

/-- Every byte a run of its own. -/
def ofBytes (bytes : List UInt8) : List ByteRun :=
  bytes.map fun byte => { byte, count := 1 }

theorem length_bytes (runs : List ByteRun) : (bytes runs).length = length runs := by
  induction runs with
  | nil => rfl
  | cons run rest ih =>
      rw [bytes, List.flatMap_cons, List.length_append, List.length_replicate]
      exact congrArg (run.count + ·) ih

theorem bytes_append (first second : List ByteRun) :
    bytes (first ++ second) = bytes first ++ bytes second :=
  List.flatMap_append

theorem bytes_ofBytes (written : List UInt8) : bytes (ofBytes written) = written := by
  induction written with
  | nil => rfl
  | cons byte rest ih => exact congrArg (byte :: ·) ih

end ByteRun

/-- Offer the frame of a header and a body to a buffer, all of them noted by runs. -/
def FrameCodec.putRuns (codec : FrameCodec) (buffer : List ByteRun) (header : Header)
    (body : List ByteRun) : List ByteRun × Except FrameTooLarge Unit :=
  let total := headerLength + ByteRun.length body
  if codec.limit < total then
    (buffer, .error { length := total, limit := codec.limit })
  else
    let declared := UInt32.ofNat (min (ByteRun.length body) 0xFFFFFFFF)
    (buffer ++ ByteRun.ofBytes { header with bodyLength := declared }.bytes ++ body, .ok ())

/-- Offering a frame by runs is offering it byte by byte. -/
theorem FrameCodec.putRuns_eq (codec : FrameCodec) (buffer : List ByteRun) (header : Header)
    (body : List ByteRun) :
    (ByteRun.bytes (codec.putRuns buffer header body).1, (codec.putRuns buffer header body).2)
      = codec.put (ByteRun.bytes buffer) (Frame.make header (ByteRun.bytes body)) := by
  have total : (Frame.make header (ByteRun.bytes body)).encodedLength
      = headerLength + ByteRun.length body := by
    rw [Frame.encodedLength, Frame.make, ByteRun.length_bytes]
  simp only [putRuns, put, encode, total]
  split
  · rfl
  · simp only [ByteRun.bytes_append, ByteRun.bytes_ofBytes, Frame.bytes, Frame.make,
      Frame.declaredLength, ByteRun.length_bytes, List.append_assoc]

end Uplink
