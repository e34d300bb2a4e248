/-
Module: Uplink.Proofs.Frame.RoundTrip
Purpose: Frames that were written one after another are cut off again in order, and what stands behind them
  is decoded as if they had never been there.
Main exports: ofBigEndian_bigEndian, Header.read?_bytes, Frame.Declared, FrameCodec.decode_bytes,
  FrameCodec.encodeAll_eq_ok_iff, FrameCodec.drain_encodeAll
-/
import Uplink.Proofs.Frame.Stream

namespace Uplink

/-- The four bytes of a word give the word back. -/
theorem ofBigEndian_bigEndian (word : UInt32) :
    ofBigEndian (UInt8.ofNat (word.toNat / 0x1000000)) (UInt8.ofNat (word.toNat / 0x10000))
      (UInt8.ofNat (word.toNat / 0x100)) (UInt8.ofNat word.toNat) = word := by
  have bound := word.toNat_lt
  simp only [ofBigEndian, UInt8.toNat_ofNat']
  apply UInt32.toNat_inj.1
  rw [UInt32.toNat_ofNat']
  omega

/-- The bytes of a header are read as that header, and what stands behind them is left. -/
theorem Header.read?_bytes (header : Header) (rest : List UInt8) :
    Header.read? (header.bytes ++ rest) = some (header, rest) := by
  simp only [Header.bytes, bigEndian, List.cons_append, List.nil_append, Header.read?,
    ofBigEndian_bigEndian]

namespace Frame

/-- The header declares the length that the body has. -/
def Declared (frame : Frame) : Prop :=
  frame.header.bodyLength.toNat = frame.body.length

/-- A header can declare every length that fits 32 bits. -/
theorem declared_make (header : Header) {body : List UInt8} (fits : body.length < 0x100000000) :
    (make header body).Declared := by
  simp only [Declared, make, declaredLength, UInt32.toNat_ofNat']
  omega

theorem declared_heartbeat : heartbeat.Declared := rfl

end Frame

namespace FrameCodec

variable {codec : FrameCodec} {buffer written : List UInt8} {frame : Frame} {frames : List Frame}

/-! ### Writing -/

/-- A frame is accepted if it is within the limit, and then its bytes are appended. -/
theorem encode_eq_ok_iff :
    codec.encode frame buffer = .ok written ↔
      frame.encodedLength ≤ codec.limit ∧ written = buffer ++ frame.bytes := by
  simp only [encode]
  split
  · rename_i beyond
    constructor
    · intro accepted
      cases accepted
    · intro ⟨within, _⟩
      exact absurd within (Nat.not_le_of_lt beyond)
  · rename_i within
    constructor
    · intro accepted
      cases accepted
      exact ⟨Nat.le_of_not_lt within, rfl⟩
    · intro ⟨_, same⟩
      rw [same]

/-- Frames are accepted if each of them is within the limit, and then their bytes are appended in order. -/
theorem encodeAll_eq_ok_iff :
    codec.encodeAll frames buffer = .ok written ↔
      (∀ frame ∈ frames, frame.encodedLength ≤ codec.limit) ∧
        written = buffer ++ frames.flatMap Frame.bytes := by
  induction frames generalizing buffer with
  | nil =>
      simp only [encodeAll, Except.ok.injEq, List.flatMap_nil, List.append_nil, List.not_mem_nil,
        false_imp_iff, implies_true, true_and]
      exact eq_comm
  | cons frame rest ih =>
      simp only [encodeAll, List.forall_mem_cons, List.flatMap_cons]
      cases accepted : codec.encode frame buffer with
      | error error =>
          refine iff_of_false (fun isOk => nomatch isOk) ?_
          intro ⟨⟨within, _⟩, _⟩
          have isOk : codec.encode frame buffer = .ok (buffer ++ frame.bytes) :=
            encode_eq_ok_iff.2 ⟨within, rfl⟩
          rw [accepted] at isOk
          cases isOk
      | ok longer =>
          obtain ⟨within, isLonger⟩ := encode_eq_ok_iff.1 accepted
          dsimp only
          rw [ih, isLonger, List.append_assoc]
          exact ⟨fun ⟨others, same⟩ => ⟨⟨within, others⟩, same⟩,
            fun ⟨⟨_, others⟩, same⟩ => ⟨others, same⟩⟩

/-! ### Reading back -/

/-- The bytes of a frame within the limit are cut off as that frame, whatever stands behind them. -/
theorem decode_bytes (declared : frame.Declared) (within : frame.encodedLength ≤ codec.limit)
    (rest : List UInt8) : codec.decode (frame.bytes ++ rest) = .frame frame rest := by
  have isRead : Header.read? (frame.bytes ++ rest) = some (frame.header, frame.body ++ rest) := by
    rw [Frame.bytes, List.append_assoc, Header.read?_bytes]
  have total := Header.length_of_read? isRead
  simp only [Frame.encodedLength] at within
  simp only [decode, isRead]
  rw [declared, if_neg (Nat.not_lt_of_le within), if_neg, List.take_left, List.drop_left]
  rw [total, List.length_append]
  omega

/-- Frames within the limit are all cut off, and what stands behind them is decoded on its own. -/
theorem drain_bytes (declared : ∀ frame ∈ frames, frame.Declared)
    (within : ∀ frame ∈ frames, frame.encodedLength ≤ codec.limit) (rest : List UInt8) :
    codec.drain (frames.flatMap Frame.bytes ++ rest)
      = { codec.drain rest with frames := frames ++ (codec.drain rest).frames } := by
  induction frames with
  | nil => rfl
  | cons frame others ih =>
      obtain ⟨thisDeclared, othersDeclared⟩ := List.forall_mem_cons.1 declared
      obtain ⟨thisWithin, othersWithin⟩ := List.forall_mem_cons.1 within
      have cut := decode_bytes thisDeclared thisWithin (others.flatMap Frame.bytes ++ rest)
      rw [List.flatMap_cons, List.append_assoc, drain_of_frame cut, ih othersDeclared othersWithin]
      rfl

/-- A frame within a limit that no header can pass declares its length. -/
theorem declared_of_within (built : frame = .heartbeat ∨ ∃ header body, frame = .make header body)
    (within : frame.encodedLength ≤ 0x100000000 + 15) : frame.Declared := by
  rcases built with rfl | ⟨header, body, rfl⟩
  · exact Frame.declared_heartbeat
  · apply Frame.declared_make
    simp only [Frame.encodedLength, Frame.make, headerLength] at within
    omega

/-- Frames are accepted exactly if each of them is within the limit.  Written one after another, with any
bytes behind them, they are cut off again in order and unchanged, and then come the frames, the verdict and
the bytes left that the bytes behind them give on their own. -/
theorem drain_encodeAll (codec : FrameCodec) (bounded : codec.limit ≤ 0x100000000 + 15)
    (frames : List Frame)
    (built : ∀ frame ∈ frames, frame = .heartbeat ∨ ∃ header body, frame = .make header body) :
    ((∃ written, codec.encodeAll frames [] = .ok written) ↔
        ∀ frame ∈ frames, frame.encodedLength ≤ codec.limit) ∧
      ∀ written trailing, codec.encodeAll frames [] = .ok written →
        codec.drain (written ++ trailing)
          = { frames := frames ++ (codec.drain trailing).frames
              error := (codec.drain trailing).error
              rest := (codec.drain trailing).rest } := by
  constructor
  · constructor
    · intro ⟨written, accepted⟩
      exact (encodeAll_eq_ok_iff.1 accepted).1
    · intro within
      exact ⟨_, encodeAll_eq_ok_iff.2 ⟨within, rfl⟩⟩
  · intro written trailing accepted
    obtain ⟨within, isWritten⟩ := encodeAll_eq_ok_iff.1 accepted
    have declared : ∀ frame ∈ frames, frame.Declared := by
      intro frame isFrame
      exact declared_of_within (built frame isFrame) (Nat.le_trans (within frame isFrame) bounded)
    rw [isWritten, List.nil_append]
    exact drain_bytes declared within trailing

/-- A frame at the limit, a heartbeat, and behind them a header that declares one byte more than the
limit. -/
theorem drain_encodeAll_at_limit :
    (withLimit 18).drain ([1, 2, 3, 4, 0, 0, 0, 0, 0, 0, 0, 2, 0, 0, 5, 0, 8, 9,
          0, 0, 0, 0, 0, 0, 0, 0, 0, 0, 0, 0, 0, 0, 0, 0]
            ++ [0, 0, 0, 9, 0, 0, 0, 9, 0, 0, 0, 3, 0, 0, 0, 0])
      = { frames := [Frame.make { Header.zero with command := 0x01020304, code := 5 } [8, 9],
            Frame.heartbeat]
          error := some { length := 19, limit := 18 }
          rest := [0, 0, 0, 9, 0, 0, 0, 9, 0, 0, 0, 3, 0, 0, 0, 0] } := by
  have built : ∀ frame ∈ [Frame.make { Header.zero with command := 0x01020304, code := 5 } [8, 9],
      Frame.heartbeat], frame = .heartbeat ∨ ∃ header body, frame = .make header body := by
    intro frame isFrame
    simp only [List.mem_cons, List.not_mem_nil, or_false] at isFrame
    rcases isFrame with isMade | isHeartbeat
    · exact Or.inr ⟨_, _, isMade⟩
    · exact Or.inl isHeartbeat
  have accepted : (withLimit 18).encodeAll
      [Frame.make { Header.zero with command := 0x01020304, code := 5 } [8, 9], Frame.heartbeat] []
        = .ok [1, 2, 3, 4, 0, 0, 0, 0, 0, 0, 0, 2, 0, 0, 5, 0, 8, 9,
            0, 0, 0, 0, 0, 0, 0, 0, 0, 0, 0, 0, 0, 0, 0, 0] := by
    rfl
  have refused : (withLimit 18).drain [0, 0, 0, 9, 0, 0, 0, 9, 0, 0, 0, 3, 0, 0, 0, 0]
      = { frames := []
          error := some { length := 19, limit := 18 }
          rest := [0, 0, 0, 9, 0, 0, 0, 9, 0, 0, 0, 3, 0, 0, 0, 0] } :=
    drain_of_refused (by decide)
  rw [(drain_encodeAll (withLimit 18) (by decide) _ built).2 _ _ accepted, refused]
  rfl

end FrameCodec

end Uplink
