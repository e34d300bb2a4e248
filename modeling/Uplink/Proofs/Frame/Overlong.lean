/-
Module: Uplink.Proofs.Frame.Overlong
Purpose: Frames with more body than a header can declare.  A codec with a high limit accepts them, and a
  reader of the stream then takes the end of the body for the start of the next frame.
Main exports: FrameCodec.put_eq, FrameCodec.decode_bytes_make, FrameCodec.put_in_step_iff
-/
import Uplink.Proofs.Frame.RoundTrip

namespace Uplink

namespace Frame

variable (header : Header) (body : List UInt8)

/-- A header declares the length of its body, up to the greatest 32-bit number. -/
theorem bodyLength_make : (make header body).header.bodyLength.toNat = min body.length 0xFFFFFFFF := by
  simp only [make, declaredLength, UInt32.toNat_ofNat']
  omega

theorem declared_make_iff : (make header body).Declared ↔ body.length < 0x100000000 := by
  rw [Declared, bodyLength_make]
  simp only [make]
  omega

end Frame

namespace FrameCodec

/-- A frame within the limit is appended, and every other frame leaves the buffer as it is. -/
theorem put_eq (codec : FrameCodec) (buffer : List UInt8) (frame : Frame) :
    codec.put buffer frame
      = if frame.encodedLength ≤ codec.limit then (buffer ++ frame.bytes, .ok ())
        else (buffer, .error { length := frame.encodedLength, limit := codec.limit }) := by
  simp only [put, encode]
  by_cases within : frame.encodedLength ≤ codec.limit
  · simp only [if_pos within, if_neg (Nat.not_lt_of_le within)]
  · simp only [if_neg within, if_pos (Nat.lt_of_not_le within)]

variable {codec : FrameCodec} {header : Header} {body : List UInt8}

/-- Of the bytes of a frame that was accepted, as many are read as its body as its header declares; the rest
stays in the buffer. -/
theorem decode_bytes_make (within : (Frame.make header body).encodedLength ≤ codec.limit) :
    codec.decode (Frame.make header body).bytes
      = .frame { header := (Frame.make header body).header, body := body.take 0xFFFFFFFF }
          (body.drop 0xFFFFFFFF) := by
  have isRead : Header.read? (Frame.make header body).bytes
      = some ((Frame.make header body).header, body) :=
    Header.read?_bytes (Frame.make header body).header body
  have total := Header.length_of_read? isRead
  have declared := Frame.bodyLength_make header body
  have takes : body.take (min body.length 0xFFFFFFFF) = body.take 0xFFFFFFFF := by
    rw [Nat.min_comm, ← List.take_take, List.take_length]
  have drops : body.drop (min body.length 0xFFFFFFFF) = body.drop 0xFFFFFFFF := by
    rcases Nat.le_total body.length 0xFFFFFFFF with short | long
    · rw [Nat.min_eq_left short, List.drop_length, List.drop_eq_nil_of_le short]
    · rw [Nat.min_eq_right long]
  simp only [Frame.encodedLength] at within
  have bodyLength : (Frame.make header body).body.length = body.length := rfl
  simp only [decode, isRead, declared]
  rw [if_neg (by omega), if_neg (by omega), takes, drops]

/-- The bytes of a frame that was accepted give the frame back exactly if its header declares its body. -/
theorem decode_bytes_make_iff (within : (Frame.make header body).encodedLength ≤ codec.limit) :
    codec.decode (Frame.make header body).bytes = .frame (Frame.make header body) [] ↔
      body.length < 0x100000000 := by
  rw [decode_bytes_make within, Decoded.frame.injEq, List.drop_eq_nil_iff]
  constructor
  · intro ⟨_, short⟩
    omega
  · intro short
    rw [List.take_of_length_le (by omega)]
    exact ⟨rfl, by omega⟩

/-- For every limit and every frame that is built from a header and a body: a frame beyond the limit is
refused and the buffer stays as it is; any other is appended, its header declares as many bytes as follow it
exactly if its body is shorter than 2^32 bytes, and exactly then a reader gets the frame back and nothing is
left.  Of a longer body the reader gets the first 2^32 - 1 bytes, and takes the rest for the next frame.  The
limits at which this cannot happen are those up to 2^32 + 15. -/
theorem put_in_step_iff (limit : UInt64) :
    (∀ header body buffer,
      let codec := withLimit limit.toNat
      let frame := Frame.make header body
      if codec.limit < frame.encodedLength then
        codec.put buffer frame
          = (buffer, .error { length := frame.encodedLength, limit := codec.limit })
      else
        codec.put buffer frame = (buffer ++ frame.bytes, .ok ())
          ∧ codec.decode frame.bytes
            = .frame { frame with body := body.take 0xFFFFFFFF } (body.drop 0xFFFFFFFF)
          ∧ (frame.header.bodyLength.toNat = body.length ↔ body.length < 0x100000000)
          ∧ (codec.decode frame.bytes = .frame frame [] ↔ body.length < 0x100000000))
      ∧ ((∀ header body,
            (Frame.make header body).encodedLength ≤ (withLimit limit.toNat).limit →
              (withLimit limit.toNat).decode (Frame.make header body).bytes
                = .frame (Frame.make header body) []) ↔
          limit.toNat ≤ 0x100000000 + 15) := by
  constructor
  · intro header body buffer codec frame
    rw [put_eq]
    split
    · rename_i beyond
      rw [if_neg (Nat.not_le_of_lt beyond)]
    · rename_i within
      rw [if_pos (Nat.le_of_not_lt within)]
      exact ⟨rfl, decode_bytes_make (Nat.le_of_not_lt within), Frame.declared_make_iff header body,
        decode_bytes_make_iff (Nat.le_of_not_lt within)⟩
  · constructor
    · intro inStep
      refine Nat.le_of_not_lt fun beyond => ?_
      obtain ⟨body, isLong⟩ : ∃ body : List UInt8, body.length = 0x100000000 :=
        ⟨List.replicate 0x100000000 0, List.length_replicate⟩
      have within : (Frame.make Header.zero body).encodedLength ≤ (withLimit limit.toNat).limit := by
        simp only [Frame.encodedLength, Frame.make, isLong, withLimit, headerLength]
        omega
      have short := (decode_bytes_make_iff within).1 (inStep Header.zero body within)
      omega
    · intro bounded header body within
      rw [decode_bytes_make_iff within]
      simp only [Frame.encodedLength, Frame.make, withLimit, headerLength] at within
      omega

/-- A body of 2^32 bytes is accepted under the lowest limit that covers its frame, and a reader does not get
the frame back. -/
theorem put_out_of_step :
    ∃ body : List UInt8, body.length = 0x100000000
      ∧ (withLimit 0x100000010).put [] (Frame.make Header.zero body)
        = ((Frame.make Header.zero body).bytes, .ok ())
      ∧ (withLimit 0x100000010).decode (Frame.make Header.zero body).bytes
        ≠ .frame (Frame.make Header.zero body) [] := by
  obtain ⟨body, isLong⟩ : ∃ body : List UInt8, body.length = 0x100000000 :=
    ⟨List.replicate 0x100000000 0, List.length_replicate⟩
  have atLimit : (Frame.make Header.zero body).encodedLength = (withLimit 0x100000010).limit := by
    simp only [Frame.encodedLength, Frame.make, isLong]
    rfl
  have outcome := (put_in_step_iff 0x100000010).1 Header.zero body []
  change if (withLimit 0x100000010).limit < _ then _ else _ at outcome
  rw [if_neg (by omega)] at outcome
  refine ⟨body, isLong, outcome.1, ?_⟩
  intro inStep
  have short := outcome.2.2.2.1 inStep
  omega

end FrameCodec

end Uplink
