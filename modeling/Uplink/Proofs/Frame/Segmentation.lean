/-
Module: Uplink.Proofs.Frame.Segmentation
Purpose: Any bytes at all, written by an encoder or not, are cut into frames and a remainder in exactly one
  way, and no byte is lost or changed.
Main exports: Header.short_or_read, FrameCodec.Incomplete, FrameCodec.Oversized, FrameCodec.Cuts,
  FrameCodec.Segments, FrameCodec.drain_eq_iff, FrameCodec.drain_lossless
-/
import Uplink.Proofs.Frame.RoundTrip

namespace Uplink

namespace Header

theorem length_bytes (header : Header) : header.bytes.length = headerLength := rfl

/-- A header is read as soon as its bytes have arrived. -/
theorem exists_read? {buffer : List UInt8} (arrived : headerLength ≤ buffer.length) :
    ∃ header rest, Header.read? buffer = some (header, rest) := by
  rcases buffer with _ | ⟨c0, _ | ⟨c1, _ | ⟨c2, _ | ⟨c3, _ | ⟨s0, _ | ⟨s1, _ | ⟨s2, _ | ⟨s3,
    _ | ⟨l0, _ | ⟨l1, _ | ⟨l2, _ | ⟨l3, _ | ⟨commandType, _ | ⟨bodyType, _ | ⟨code,
    _ | ⟨hops, rest⟩⟩⟩⟩⟩⟩⟩⟩⟩⟩⟩⟩⟩⟩⟩⟩
  all_goals simp [headerLength] at arrived
  exact ⟨_, _, rfl⟩

/-- A buffer is too short for a header, or begins with the bytes of one. -/
theorem short_or_read (buffer : List UInt8) :
    (buffer.length < headerLength ∧ Header.read? buffer = none)
      ∨ ∃ (header : Header) (rest : List UInt8), buffer = header.bytes ++ rest := by
  cases isRead : Header.read? buffer with
  | some read => exact .inr ⟨read.1, read.2, bytes_of_read? isRead⟩
  | none =>
      refine .inl ⟨Nat.lt_of_not_le fun arrived => ?_, rfl⟩
      obtain ⟨header, rest, wasRead⟩ := exists_read? arrived
      rw [isRead] at wasRead
      cases wasRead

end Header

namespace FrameCodec

variable {codec : FrameCodec} {buffer rest : List UInt8} {frame : Frame} {error : FrameTooLarge}

/-! ### Why decoding ends -/

/-- A buffer in which a header has not arrived, or the body that the header declares. -/
def Incomplete (codec : FrameCodec) (buffer : List UInt8) : Prop :=
  buffer.length < headerLength
    ∨ ∃ (header : Header) (behind : List UInt8), buffer = header.bytes ++ behind
        ∧ headerLength + header.bodyLength.toNat ≤ codec.limit
        ∧ buffer.length < headerLength + header.bodyLength.toNat

/-- A buffer that begins with a header that declares more than the limit. -/
def Oversized (codec : FrameCodec) (buffer : List UInt8) (error : FrameTooLarge) : Prop :=
  ∃ (header : Header) (behind : List UInt8), buffer = header.bytes ++ behind
    ∧ codec.limit < headerLength + header.bodyLength.toNat
    ∧ error = { length := headerLength + header.bodyLength.toNat, limit := codec.limit }

/-- What is made of a buffer that begins with a header. -/
theorem decode_header (codec : FrameCodec) (header : Header) (behind : List UInt8) :
    codec.decode (header.bytes ++ behind)
      = if codec.limit < headerLength + header.bodyLength.toNat then
          .refused { length := headerLength + header.bodyLength.toNat, limit := codec.limit }
        else if (header.bytes ++ behind).length < headerLength + header.bodyLength.toNat then .waiting
        else
          .frame { header, body := behind.take header.bodyLength.toNat }
            (behind.drop header.bodyLength.toNat) := by
  rw [decode, Header.read?_bytes]

theorem decode_eq_waiting_iff : codec.decode buffer = .waiting ↔ codec.Incomplete buffer := by
  constructor
  · intro waits
    rcases Header.short_or_read buffer with ⟨short, -⟩ | ⟨header, behind, rfl⟩
    · exact .inl short
    · rw [decode_header] at waits
      split at waits
      · cases waits
      · rename_i within
        split at waits
        · rename_i notArrived
          exact .inr ⟨header, behind, rfl, Nat.le_of_not_lt within, notArrived⟩
        · cases waits
  · rintro (short | ⟨header, behind, rfl, within, notArrived⟩)
    · rcases Header.short_or_read buffer with ⟨-, isNone⟩ | ⟨header, behind, rfl⟩
      · rw [decode, isNone]
      · rw [List.length_append, Header.length_bytes] at short
        exact absurd short (Nat.not_lt_of_le (Nat.le_add_right _ _))
    · rw [decode_header, if_neg (Nat.not_lt_of_le within), if_pos notArrived]

theorem decode_eq_refused_iff :
    codec.decode buffer = .refused error ↔ codec.Oversized buffer error := by
  constructor
  · intro refused
    obtain ⟨header, behind, isRead, beyond, isError⟩ := decode_refused_inv refused
    exact ⟨header, behind, Header.bytes_of_read? isRead, beyond, isError⟩
  · rintro ⟨header, behind, rfl, beyond, rfl⟩
    rw [decode_header, if_pos beyond]

/-- A frame that is cut off declares the body it has. -/
theorem declared_of_decode (decoded : codec.decode buffer = .frame frame rest) : frame.Declared := by
  obtain ⟨tail, isRead, -, arrived, isBody, -⟩ := decode_frame_inv decoded
  have total := Header.length_of_read? isRead
  rw [Frame.Declared, isBody, List.length_take]
  omega

/-- A frame that is cut off is within the limit. -/
theorem within_of_decode (decoded : codec.decode buffer = .frame frame rest) :
    frame.encodedLength ≤ codec.limit := by
  obtain ⟨-, -, within, -⟩ := decode_frame_inv decoded
  rw [Frame.encodedLength, ← declared_of_decode decoded]
  exact within

/-! ### Rounds of decoding -/

/-- Some rounds of decoding: each cuts a frame off, and the next one goes on with what that frame leaves. -/
inductive Cuts (codec : FrameCodec) : List UInt8 → List Frame → List UInt8 → Prop where
  | stop (buffer : List UInt8) : Cuts codec buffer [] buffer
  | round {buffer rest left : List UInt8} {frame : Frame} {frames : List Frame}
      (decoded : codec.decode buffer = .frame frame rest) (others : Cuts codec rest frames left) :
      Cuts codec buffer (frame :: frames) left

/-- Decoding to the end makes rounds until one cuts nothing off. -/
theorem cuts_drain (codec : FrameCodec) (buffer : List UInt8) :
    codec.Cuts buffer (codec.drain buffer).frames (codec.drain buffer).rest := by
  induction buffer using drain_induction codec with
  | waits buffer decoded =>
      rw [drain_of_waiting decoded]
      exact .stop buffer
  | refuses buffer error decoded =>
      rw [drain_of_refused decoded]
      exact .stop buffer
  | cuts buffer frame rest decoded ih =>
      rw [drain_of_frame decoded]
      exact .round decoded ih

/-- The last round gives the verdict. -/
theorem decode_rest_drain (codec : FrameCodec) (buffer : List UInt8) :
    codec.decode (codec.drain buffer).rest
      = match (codec.drain buffer).error with
        | none => .waiting
        | some error => .refused error := by
  induction buffer using drain_induction codec with
  | waits buffer decoded => rw [drain_of_waiting decoded, decoded]
  | refuses buffer error decoded => rw [drain_of_refused decoded, decoded]
  | cuts buffer frame rest decoded ih =>
      rw [drain_of_frame decoded]
      exact ih

namespace Cuts

variable {frames : List Frame} {left : List UInt8}

/-- However many rounds are made, they are the first ones of decoding to the end. -/
theorem drain_eq (cuts : codec.Cuts buffer frames left) :
    codec.drain buffer
      = { codec.drain left with frames := frames ++ (codec.drain left).frames } := by
  induction cuts with
  | stop buffer => rfl
  | round decoded _ ih =>
      rw [drain_of_frame decoded, ih]
      rfl

/-- Every frame that is cut off declares its body and is within the limit. -/
theorem forall_frames (cuts : codec.Cuts buffer frames left) :
    ∀ frame ∈ frames, frame.Declared ∧ frame.encodedLength ≤ codec.limit := by
  induction cuts with
  | stop buffer => exact fun _ isFrame => absurd isFrame List.not_mem_nil
  | round decoded _ ih =>
      exact List.forall_mem_cons.2 ⟨⟨declared_of_decode decoded, within_of_decode decoded⟩, ih⟩

/-- Each round takes a header at least. -/
theorem length_le (cuts : codec.Cuts buffer frames left) :
    headerLength * frames.length + left.length ≤ buffer.length := by
  induction cuts with
  | stop buffer => exact Nat.le_of_eq (Nat.zero_add _)
  | round decoded _ ih =>
      rw [bytes_of_decode decoded, List.length_append, Frame.bytes, List.length_append,
        Header.length_bytes, List.length_cons, Nat.mul_succ]
      omega

end Cuts

/-! ### Segmentations -/

/-- A buffer is cut into frames that a codec accepts, each with the body it declares, and a remainder that
holds no further frame. -/
structure Segments (codec : FrameCodec) (buffer : List UInt8) (drained : Drained) : Prop where
  declared : ∀ frame ∈ drained.frames, frame.Declared
  within : ∀ frame ∈ drained.frames, frame.encodedLength ≤ codec.limit
  bytes : drained.frames.flatMap Frame.bytes ++ drained.rest = buffer
  ends : match drained.error with
    | none => codec.Incomplete drained.rest
    | some error => codec.Oversized drained.rest error

theorem segments_drain (codec : FrameCodec) (buffer : List UInt8) :
    codec.Segments buffer (codec.drain buffer) := by
  have accepted := (cuts_drain codec buffer).forall_frames
  refine ⟨fun frame isFrame => (accepted frame isFrame).1, fun frame isFrame => (accepted frame isFrame).2,
    bytes_drain codec buffer, ?_⟩
  have verdict := decode_rest_drain codec buffer
  split <;> rename_i isError <;> rw [isError] at verdict
  · exact decode_eq_waiting_iff.1 verdict
  · exact decode_eq_refused_iff.1 verdict

/-- A remainder without a further frame is left as it is. -/
theorem Segments.drain_rest {drained : Drained} (segments : codec.Segments buffer drained) :
    codec.drain drained.rest = { drained with frames := [] } := by
  have ends := segments.ends
  split at ends <;> rename_i isError <;> rw [isError]
  · exact drain_of_waiting (decode_eq_waiting_iff.2 ends)
  · exact drain_of_refused (decode_eq_refused_iff.2 ends)

/-- There is one way to cut a buffer into frames and a remainder, and decoding to the end finds it. -/
theorem drain_eq_iff {drained : Drained} :
    codec.drain buffer = drained ↔ codec.Segments buffer drained := by
  constructor
  · rintro rfl
    exact segments_drain codec buffer
  · intro segments
    have whole := drain_bytes segments.declared segments.within drained.rest
    rw [segments.bytes, segments.drain_rest, List.append_nil] at whole
    exact whole

/-- Decoding any bytes to the end takes at most as many rounds as headers fit into them.  Every frame
declares the body it has, is within the limit and is accepted again; written one after another, the frames
and the bytes left are the bytes that were decoded.  What is left begins with an oversized header if decoding
ended with an error; otherwise it is shorter than a header, or than what its header declares.  No other
frames and bytes left are like that. -/
theorem drain_lossless (codec : FrameCodec) (buffer : List UInt8) :
    let drained := codec.drain buffer
    (codec.Cuts buffer drained.frames drained.rest
        ∧ codec.decode drained.rest = (match drained.error with
          | none => .waiting
          | some error => .refused error)
        ∧ ∀ frames left, codec.Cuts buffer frames left →
          frames <+: drained.frames ∧ headerLength * frames.length + left.length ≤ buffer.length)
      ∧ (∀ frame ∈ drained.frames, frame.header.bodyLength.toNat = frame.body.length
        ∧ frame.encodedLength ≤ codec.limit
        ∧ ∀ before, codec.encode frame before = .ok (before ++ frame.bytes))
      ∧ (∃ written, codec.encodeAll drained.frames [] = .ok written ∧ written ++ drained.rest = buffer)
      ∧ (match drained.error with
        | some error => ∃ (header : Header) (behind : List UInt8), drained.rest = header.bytes ++ behind
            ∧ codec.limit < headerLength + header.bodyLength.toNat
            ∧ error = { length := headerLength + header.bodyLength.toNat, limit := codec.limit }
        | none => drained.rest.length < headerLength
            ∨ ∃ (header : Header) (behind : List UInt8), drained.rest = header.bytes ++ behind
                ∧ headerLength + header.bodyLength.toNat ≤ codec.limit
                ∧ drained.rest.length < headerLength + header.bodyLength.toNat)
      ∧ ∀ other, codec.Segments buffer other → other = drained := by
  intro drained
  have segments : codec.Segments buffer drained := segments_drain codec buffer
  refine ⟨⟨cuts_drain codec buffer, decode_rest_drain codec buffer, ?_⟩, ?_, ?_, ?_, ?_⟩
  · intro frames left cuts
    refine ⟨⟨(codec.drain left).frames, ?_⟩, cuts.length_le⟩
    exact (congrArg Drained.frames cuts.drain_eq).symm
  · intro frame isFrame
    have within := segments.within frame isFrame
    exact ⟨segments.declared frame isFrame, within, fun before => encode_eq_ok_iff.2 ⟨within, rfl⟩⟩
  · exact ⟨_, encodeAll_eq_ok_iff.2 ⟨segments.within, rfl⟩, segments.bytes⟩
  · have ends := segments.ends
    split <;> rename_i isError <;> rw [isError] at ends <;> exact ends
  · intro other isOther
    exact (drain_eq_iff.2 isOther).symm

/-- A heartbeat behind a frame, and then a header that declares one byte more than has arrived. -/
example : (withLimit 18).drain [0, 0, 0, 1, 0, 0, 0, 2, 0, 0, 0, 1, 3, 4, 5, 6, 7,
      0, 0, 0, 0, 0, 0, 0, 0, 0, 0, 0, 0, 0, 0, 0, 0,
      0, 0, 0, 9, 0, 0, 0, 9, 0, 0, 0, 2, 0, 0, 0, 0, 8]
    = { frames := [Frame.make { Header.zero with
          command := 1, sequence := 2, commandType := 3, bodyType := 4, code := 5, hops := 6 } [7],
          Frame.heartbeat]
        error := none
        rest := [0, 0, 0, 9, 0, 0, 0, 9, 0, 0, 0, 2, 0, 0, 0, 0, 8] } := by
  cbv

end FrameCodec

end Uplink
