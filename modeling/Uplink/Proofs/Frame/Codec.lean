/-
Module: Uplink.Proofs.Frame.Codec
Purpose: What one attempt to cut a frame off a buffer depends on.  Once a header is complete the verdict
  on it stands whatever bytes follow, and a frame that is cut off has the bytes it was cut from.
Main exports: Header.read?_append, FrameCodec.decode_append_of_frame,
  FrameCodec.decode_append_of_refused, FrameCodec.bytes_of_decode
-/
import Uplink.Frame.Codec

namespace Uplink

/-! ### Words and headers -/

/-- Four bytes come back from the word they were read as. -/
theorem bigEndian_ofBigEndian (first second third fourth : UInt8) :
    bigEndian (ofBigEndian first second third fourth) = [first, second, third, fourth] := by
  have firstBound := first.toNat_lt
  have secondBound := second.toNat_lt
  have thirdBound := third.toNat_lt
  have fourthBound := fourth.toNat_lt
  have value : (ofBigEndian first second third fourth).toNat
      = ((first.toNat * 256 + second.toNat) * 256 + third.toNat) * 256 + fourth.toNat := by
    simp only [ofBigEndian]
    simp only [UInt32.toNat_ofNat']
    omega
  simp only [bigEndian]
  simp only [value, List.cons.injEq, and_true, ← UInt8.toNat_inj, UInt8.toNat_ofNat']
  refine ⟨?_, ?_, ?_, ?_⟩ <;> omega

namespace Header

/-- A complete header is read the same whatever bytes follow. -/
theorem read?_append {buffer rest : List UInt8} {header : Header}
    (read : Header.read? buffer = some (header, rest)) (more : List UInt8) :
    Header.read? (buffer ++ more) = some (header, rest ++ more) := by
  simp only [Header.read?] at read
  split at read
  · injection read with read
    injection read with headerEq restEq
    subst headerEq restEq
    rfl
  · cases read

/-- The bytes of a header that was read stand at the front of the buffer. -/
theorem bytes_of_read? {buffer rest : List UInt8} {header : Header}
    (read : Header.read? buffer = some (header, rest)) : buffer = header.bytes ++ rest := by
  simp only [Header.read?] at read
  split at read
  · injection read with read
    injection read with headerEq restEq
    subst headerEq restEq
    simp only [Header.bytes, bigEndian_ofBigEndian, List.cons_append, List.nil_append]
  · cases read

end Header

namespace FrameCodec

variable {codec : FrameCodec} {buffer rest : List UInt8} {frame : Frame} {error : FrameTooLarge}

/-! ### Inversions of one attempt -/

/-- A frame is cut off only behind a complete header whose declared length is within the limit and has
arrived. -/
theorem decode_frame_inv (decoded : codec.decode buffer = .frame frame rest) :
    ∃ tail, Header.read? buffer = some (frame.header, tail) ∧
      headerLength + frame.header.bodyLength.toNat ≤ codec.limit ∧
      headerLength + frame.header.bodyLength.toNat ≤ buffer.length ∧
      frame.body = tail.take frame.header.bodyLength.toNat ∧
      rest = tail.drop frame.header.bodyLength.toNat := by
  unfold FrameCodec.decode at decoded
  split at decoded
  · cases decoded
  · rename_i header tail read
    dsimp only at decoded
    split at decoded
    · cases decoded
    · rename_i within
      split at decoded
      · cases decoded
      · rename_i arrived
        injection decoded with frameEq restEq
        subst frameEq
        exact ⟨tail, read, Nat.le_of_not_lt within, Nat.le_of_not_lt arrived, rfl, restEq.symm⟩

/-- A buffer is refused only behind a complete header that declares more than the limit. -/
theorem decode_refused_inv (decoded : codec.decode buffer = .refused error) :
    ∃ header tail, Header.read? buffer = some (header, tail) ∧
      codec.limit < headerLength + header.bodyLength.toNat ∧
      error = { length := headerLength + header.bodyLength.toNat, limit := codec.limit } := by
  unfold FrameCodec.decode at decoded
  split at decoded
  · cases decoded
  · rename_i header tail read
    dsimp only at decoded
    split at decoded
    · rename_i beyond
      injection decoded with errorEq
      exact ⟨header, tail, read, beyond, errorEq.symm⟩
    · split at decoded <;> cases decoded

/-! ### Bytes that follow -/

/-- Bytes that follow a frame stay behind what it leaves. -/
theorem decode_append_of_frame (decoded : codec.decode buffer = .frame frame rest)
    (more : List UInt8) : codec.decode (buffer ++ more) = .frame frame (rest ++ more) := by
  obtain ⟨tail, read, within, arrived, bodyEq, restEq⟩ := decode_frame_inv decoded
  have tailLength := Header.length_of_read? read
  have covered : frame.header.bodyLength.toNat ≤ tail.length := by omega
  simp only [FrameCodec.decode]
  rw [Header.read?_append read more]
  dsimp only
  rw [if_neg (by omega), if_neg (by rw [List.length_append]; omega),
    List.take_append_of_le_length covered, List.drop_append_of_le_length covered, ← bodyEq, ← restEq]

/-- A refusal stands whatever bytes follow. -/
theorem decode_append_of_refused (decoded : codec.decode buffer = .refused error)
    (more : List UInt8) : codec.decode (buffer ++ more) = .refused error := by
  obtain ⟨header, tail, read, beyond, errorEq⟩ := decode_refused_inv decoded
  simp only [FrameCodec.decode]
  rw [Header.read?_append read more]
  dsimp only
  simp only [if_pos beyond, errorEq]

/-- The bytes of a frame that is cut off, and what it leaves, are the buffer. -/
theorem bytes_of_decode (decoded : codec.decode buffer = .frame frame rest) :
    buffer = frame.bytes ++ rest := by
  obtain ⟨tail, read, -, -, bodyEq, restEq⟩ := decode_frame_inv decoded
  rw [Header.bytes_of_read? read, Frame.bytes, bodyEq, restEq, List.append_assoc,
    List.take_append_drop]

end FrameCodec

end Uplink
