/-
Module: Uplink.Proofs.Frame.Stream
Purpose: Decoding a stream does not depend on the chunks in which it arrives.
Main exports: FrameCodec.drain_induction, FrameCodec.bytes_drain, FrameCodec.receive_drain,
  FrameCodec.receiveAll_chunk_invariant
-/
import Uplink.Frame.Stream
import Uplink.Proofs.Frame.Codec

namespace Uplink.FrameCodec

variable {codec : FrameCodec} {buffer rest : List UInt8} {frame : Frame} {error : FrameTooLarge}

/-! ### One attempt at a time -/

/-- One attempt, and what follows from its outcome. -/
theorem drainOnto_unfold (codec : FrameCodec) (done : List Frame) (buffer : List UInt8) :
    codec.drainOnto done buffer =
      match codec.decode buffer with
      | .frame frame rest => codec.drainOnto (frame :: done) rest
      | .waiting => { frames := done.reverse, error := none, rest := buffer }
      | .refused error => { frames := done.reverse, error := some error, rest := buffer } := by
  rw [drainOnto]
  split <;> rename_i decoded <;> rw [decoded]

theorem drainOnto_of_frame (decoded : codec.decode buffer = .frame frame rest) (done : List Frame) :
    codec.drainOnto done buffer = codec.drainOnto (frame :: done) rest := by
  rw [drainOnto_unfold, decoded]

theorem drainOnto_of_waiting (decoded : codec.decode buffer = .waiting) (done : List Frame) :
    codec.drainOnto done buffer = { frames := done.reverse, error := none, rest := buffer } := by
  simp only [drainOnto_unfold, decoded]

theorem drainOnto_of_refused (decoded : codec.decode buffer = .refused error) (done : List Frame) :
    codec.drainOnto done buffer
      = { frames := done.reverse, error := some error, rest := buffer } := by
  simp only [drainOnto_unfold, decoded]

/-- An induction over the frames of a buffer: it waits, it is refused, or a frame is cut off and the
statement holds of what the frame leaves. -/
theorem drain_induction {motive : List UInt8 → Prop} (codec : FrameCodec)
    (waits : ∀ buffer, codec.decode buffer = .waiting → motive buffer)
    (refuses : ∀ buffer error, codec.decode buffer = .refused error → motive buffer)
    (cuts : ∀ buffer frame rest, codec.decode buffer = .frame frame rest → motive rest →
      motive buffer)
    (buffer : List UInt8) : motive buffer := by
  induction measured : buffer.length using Nat.strongRecOn generalizing buffer with
  | _ length ih =>
      cases decoded : codec.decode buffer with
      | waiting => exact waits buffer decoded
      | refused error => exact refuses buffer error decoded
      | frame frame rest =>
          exact cuts buffer frame rest decoded
            (ih rest.length (measured ▸ length_of_decode decoded) rest rfl)

/-- Frames cut off before stand in front of those that follow, and change nothing else. -/
theorem drainOnto_eq (codec : FrameCodec) (done : List Frame) (buffer : List UInt8) :
    codec.drainOnto done buffer
      = { codec.drain buffer with frames := done.reverse ++ (codec.drain buffer).frames } := by
  simp only [drain]
  -- The statement is used twice for what a frame leaves: behind all frames, and behind this one alone.
  induction buffer using drain_induction codec generalizing done with
  | waits buffer decoded =>
      rw [drainOnto_of_waiting decoded, drainOnto_of_waiting decoded]
      simp
  | refuses buffer error decoded =>
      rw [drainOnto_of_refused decoded, drainOnto_of_refused decoded]
      simp
  | cuts buffer frame rest decoded ih =>
      rw [drainOnto_of_frame decoded, drainOnto_of_frame decoded, ih (frame :: done), ih [frame]]
      simp

/-- Decoding to the end cuts one frame off and decodes what it leaves. -/
theorem drain_of_frame (decoded : codec.decode buffer = .frame frame rest) :
    codec.drain buffer
      = { codec.drain rest with frames := frame :: (codec.drain rest).frames } := by
  rw [drain, drainOnto_of_frame decoded, drainOnto_eq]
  rfl

/-- A buffer that waits for more bytes is left as it is. -/
theorem drain_of_waiting (decoded : codec.decode buffer = .waiting) :
    codec.drain buffer = { frames := [], error := none, rest := buffer } :=
  drainOnto_of_waiting decoded []

/-- A buffer that is refused is left as it is. -/
theorem drain_of_refused (decoded : codec.decode buffer = .refused error) :
    codec.drain buffer = { frames := [], error := some error, rest := buffer } :=
  drainOnto_of_refused decoded []

/-! ### Streams in chunks -/

/-- The bytes of the frames that are cut off, and what is left, are the buffer. -/
theorem bytes_drain (codec : FrameCodec) (buffer : List UInt8) :
    (codec.drain buffer).frames.flatMap Frame.bytes ++ (codec.drain buffer).rest = buffer := by
  induction buffer using drain_induction codec with
  | waits buffer decoded => rw [drain_of_waiting decoded]; rfl
  | refuses buffer error decoded => rw [drain_of_refused decoded]; rfl
  | cuts buffer frame rest decoded ih =>
      rw [drain_of_frame decoded]
      dsimp only
      simp only [List.flatMap_cons, List.append_assoc, ih]
      exact (bytes_of_decode decoded).symm

/-- Decoding what was left, with more bytes behind it, goes on where decoding stopped. -/
theorem receive_drain (codec : FrameCodec) (buffer chunk : List UInt8) :
    codec.receive (codec.drain buffer) chunk = codec.drain (buffer ++ chunk) := by
  induction buffer using drain_induction codec with
  | waits buffer decoded =>
      simp only [drain_of_waiting decoded]
      rfl
  | refuses buffer error decoded =>
      simp only [drain_of_refused decoded]
      rfl
  | cuts buffer frame rest decoded ih =>
      rw [drain_of_frame decoded, drain_of_frame (decode_append_of_frame decoded chunk), ← ih]
      rfl

/-- Chunks that follow a stream are decoded like one longer stream. -/
theorem foldl_receive_drain (codec : FrameCodec) (chunks : List (List UInt8)) (buffer : List UInt8) :
    chunks.foldl codec.receive (codec.drain buffer) = codec.drain (buffer ++ chunks.flatten) := by
  induction chunks generalizing buffer with
  | nil => rw [List.foldl_nil, List.flatten_nil, List.append_nil]
  | cons chunk rest ih =>
      simp only [List.foldl_cons, receive_drain, ih, List.flatten_cons, List.append_assoc]

/-- An empty buffer waits for a header. -/
theorem drain_nil (codec : FrameCodec) :
    codec.drain [] = { frames := [], error := none, rest := [] } :=
  drain_of_waiting rfl

/-- A refused stream stays refused with the same length, and whatever follows is only left behind it. -/
theorem drain_append_of_error (refused : (codec.drain buffer).error = some error)
    (more : List UInt8) :
    codec.drain (buffer ++ more)
      = { codec.drain buffer with rest := (codec.drain buffer).rest ++ more } := by
  induction buffer using drain_induction codec with
  | waits buffer decoded =>
      simp only [drain_of_waiting decoded] at refused
      cases refused
  | refuses buffer error decoded =>
      rw [drain_of_refused decoded, drain_of_refused (decode_append_of_refused decoded more)]
  | cuts buffer frame rest decoded ih =>
      simp only [drain_of_frame decoded] at refused ⊢
      rw [drain_of_frame (decode_append_of_frame decoded more), ih refused]

/-- The chunks of a stream do not matter: the frames, the verdict and the bytes left are those of the
whole stream, and the bytes of the frames with the bytes left are the stream.  An attempt that cuts no
frame off leaves the buffer as it is, and a refusal is given again whatever follows. -/
theorem receiveAll_chunk_invariant (codec : FrameCodec) (chunks : List (List UInt8)) :
    codec.receiveAll chunks = codec.drain chunks.flatten ∧
      (codec.receiveAll chunks).frames.flatMap Frame.bytes ++ (codec.receiveAll chunks).rest
        = chunks.flatten ∧
      (∀ buffer, codec.decode buffer = .waiting →
        codec.drain buffer = { frames := [], error := none, rest := buffer }) ∧
      (∀ buffer error, codec.decode buffer = .refused error →
        codec.drain buffer = { frames := [], error := some error, rest := buffer } ∧
          ∀ more, codec.decode (buffer ++ more) = .refused error) ∧
      ∀ error, (codec.receiveAll chunks).error = some error → ∀ more : List (List UInt8),
        codec.receiveAll (chunks ++ more)
          = { codec.receiveAll chunks with
              rest := (codec.receiveAll chunks).rest ++ more.flatten } := by
  have whole : ∀ stream : List (List UInt8),
      codec.receiveAll stream = codec.drain stream.flatten := by
    intro stream
    have started := foldl_receive_drain codec stream []
    simp only [drain_nil, List.nil_append] at started
    exact started
  refine ⟨whole chunks, ?_, fun buffer => drain_of_waiting, ?_, ?_⟩
  · simp only [whole]
    exact bytes_drain codec chunks.flatten
  · intro buffer error decoded
    exact ⟨drain_of_refused decoded, decode_append_of_refused decoded⟩
  · intro error refused more
    rw [whole] at refused ⊢
    simp only [whole, List.flatten_append]
    exact drain_append_of_error refused more.flatten

/-- A frame arrives in three chunks and an empty one, with a header behind it that declares one byte more
than the limit: the frame is cut off, and the refusal stands behind two more chunks. -/
theorem receiveAll_frame_then_refused :
    (withLimit 17).receiveAll
        ([[0, 0, 0, 1, 0, 0, 0, 2, 0, 0, 0, 1, 3, 4, 5], [], [6],
            [7, 0, 0, 0, 9, 0, 0, 0, 9, 0, 0, 0, 2, 0, 0, 0, 0]] ++ [[8, 8], [8]])
      = { frames := [Frame.make { Header.zero with
            command := 1, sequence := 2, commandType := 3, bodyType := 4, code := 5, hops := 6 } [7]]
          error := some { length := 18, limit := 17 }
          rest := [0, 0, 0, 9, 0, 0, 0, 9, 0, 0, 0, 2, 0, 0, 0, 0, 8, 8, 8] } := by
  obtain ⟨whole, -, -, refusal, again⟩ := receiveAll_chunk_invariant (withLimit 17)
    [[0, 0, 0, 1, 0, 0, 0, 2, 0, 0, 0, 1, 3, 4, 5], [], [6],
      [7, 0, 0, 0, 9, 0, 0, 0, 9, 0, 0, 0, 2, 0, 0, 0, 0]]
  have refused := (refusal [0, 0, 0, 9, 0, 0, 0, 9, 0, 0, 0, 2, 0, 0, 0, 0] { length := 18, limit := 17 }
    (by decide)).1
  have cut : (withLimit 17).decode
      [0, 0, 0, 1, 0, 0, 0, 2, 0, 0, 0, 1, 3, 4, 5, 6, 7, 0, 0, 0, 9, 0, 0, 0, 9, 0, 0, 0, 2, 0, 0, 0, 0]
        = .frame
          (Frame.make { Header.zero with
            command := 1, sequence := 2, commandType := 3, bodyType := 4, code := 5, hops := 6 } [7])
          [0, 0, 0, 9, 0, 0, 0, 9, 0, 0, 0, 2, 0, 0, 0, 0] := by
    decide
  have stopped := whole.trans (drain_of_frame cut)
  simp only [refused] at stopped
  rw [again { length := 18, limit := 17 } (by rw [stopped]), stopped]
  rfl

end Uplink.FrameCodec
