/-
Module: Uplink.Proofs.Tcp.Backlog
Purpose: The backlog of a channel: what is pending is what is queued, and the channel turns unwritable above its
  high water mark and writable again at its low one, each time with a log line.
Main exports: Backlog, Backlog.Sound, TcpChannel.accepted, TcpChannel.flushed, TcpChannel.back_pressure
-/
import Mathlib.Algebra.Order.BigOperators.Group.List
import Mathlib.Algebra.Order.Ring.Nat
import Uplink.Proofs.Tcp.Grammar

namespace Uplink

/-- What decides about a channel's back-pressure, and the messages of the log lines that tell of it. -/
structure Backlog where
  codec : FrameCodec
  lowWaterMark : Nat
  highWaterMark : Nat
  queue : List Frame
  pendingBytes : Nat
  isWritable : Bool
  crossings : List String

namespace TcpChannel

/-- Whether a message tells that a water mark was crossed. -/
def isCrossing (message : String) : Bool :=
  message == unwritableMessage || message == writableMessage

/-- The messages among a channel's log lines that tell of water marks that were crossed. -/
def crossings (channel : TcpChannel) : List String :=
  (channel.logs.map LogLine.message).filter isCrossing

/-- The backlog of a channel. -/
def backlog (channel : TcpChannel) : Backlog :=
  { codec := channel.codec
    lowWaterMark := channel.lowWaterMark
    highWaterMark := channel.highWaterMark
    queue := channel.queue
    pendingBytes := channel.pendingBytes
    isWritable := channel.isWritable
    crossings := channel.crossings }

/-- The messages of the first crossings of a channel that starts out writable. -/
def alternation (count : Nat) : List String :=
  (List.range count).map fun place => if place % 2 = 0 then unwritableMessage else writableMessage

/-- The frame that a step adds to the queue. -/
def acceptedBy (channel : TcpChannel) : TcpStep → List Frame
  | .write frame =>
      match (channel.write frame).2 with
      | .ok () => [frame]
      | .error _ => []
  | _ => []

/-- The frame that the driver writes next, if it runs: the oldest one in the queue. -/
def nextFrame (channel : TcpChannel) : List Frame :=
  if channel.phase = .running then channel.queue.take 1 else []

/-- The frame that a step takes off the queue, whether writing it succeeds or fails. -/
def flushedBy (channel : TcpChannel) : TcpStep → List Frame
  | .flush | .failFlush _ => channel.nextFrame
  | _ => []

/-- The frames that a channel accepts in the course of some steps. -/
def accepted (channel : TcpChannel) : List TcpStep → List Frame
  | [] => []
  | step :: rest => channel.acceptedBy step ++ (channel.step step).accepted rest

/-- The frames that leave a channel's queue in the course of some steps. -/
def flushed (channel : TcpChannel) : List TcpStep → List Frame
  | [] => []
  | step :: rest => channel.flushedBy step ++ (channel.step step).flushed rest

variable {channel changed : TcpChannel}

/-! ### Steps that leave the backlog alone -/

theorem crossings_append (channel : TcpChannel) (line : LogLine) :
    ({ channel with logs := channel.logs ++ [line] } : TcpChannel).crossings
      = channel.crossings ++ if isCrossing line.message then [line.message] else [] := by
  simp only [crossings, List.map_append, List.map_cons, List.map_nil, List.filter_append,
    List.filter_cons, List.filter_nil]

/-- A log line about a water mark. -/
theorem crossings_log (channel : TcpChannel) (level : LogLevel) {message : String}
    (crosses : isCrossing message = true) (fields : List (String × String)) :
    (channel.log level message fields).crossings = channel.crossings ++ [message] := by
  rw [log, crossings_append, if_pos crosses]

/-- A log line about anything but the water marks. -/
theorem backlog_append (channel : TcpChannel) {line : LogLine} (other : isCrossing line.message = false) :
    ({ channel with logs := channel.logs ++ [line] } : TcpChannel).backlog = channel.backlog := by
  simp only [backlog, crossings_append, other, Bool.false_eq_true, if_false, List.append_nil]

theorem backlog_log (channel : TcpChannel) (level : LogLevel) {message : String}
    (other : isCrossing message = false) (fields : List (String × String)) :
    (channel.log level message fields).backlog = channel.backlog :=
  channel.backlog_append other

theorem backlog_logFault (channel : TcpChannel) (operation : TcpOperation) (fault : SystemFault) :
    (channel.logFault operation fault).backlog = channel.backlog := by
  have other : isCrossing "io error" = false := by decide
  exact channel.backlog_append other

theorem backlog_stop (channel : TcpChannel) (error : Option TransportError) :
    (channel.stop error).backlog = channel.backlog := by
  cases error with
  | none => rfl
  | some error =>
      simp only [stop]
      split
      · exact backlog_log { channel with phase := .ending } .debug (by decide) _
      · exact backlog_log { channel with phase := .ending } .warn (by decide) _

theorem backlog_finish (channel : TcpChannel) : channel.finish.backlog = channel.backlog := by
  by_cases ending : channel.phase = .ending
  · rw [finish_of_ending ending]
    have other : isCrossing "channel closed" = false := by decide
    change channel.shut.backlog = channel.backlog
    exact backlog_log _ .debug other _
  · rw [finish_of_idle ending]

theorem backlog_deliver (channel : TcpChannel) (frame : Frame) :
    (channel.deliver frame).backlog = channel.backlog := by
  simp only [deliver]
  split
  · exact channel.backlog_log .trace (by decide) []
  · rfl

theorem backlog_foldl_deliver (channel : TcpChannel) (frames : List Frame) :
    (frames.foldl deliver channel).backlog = channel.backlog := by
  induction frames generalizing channel with
  | nil => rfl
  | cons frame rest ih => exact (ih _).trans (channel.backlog_deliver frame)

theorem backlog_receive (channel : TcpChannel) (chunk : List UInt8) :
    (channel.receive chunk).backlog = channel.backlog := by
  simp only [receive]
  split
  · have delivered := channel.backlog_foldl_deliver (channel.codec.drain (channel.incoming ++ chunk)).frames
    split
    · exact delivered
    · exact (backlog_stop _ _).trans delivered
  · rfl

theorem backlog_receiveEnd (channel : TcpChannel) : channel.receiveEnd.backlog = channel.backlog := by
  simp only [receiveEnd]
  split
  · split
    · rfl
    · exact channel.backlog_stop none
  · rfl

theorem backlog_failReceive (channel : TcpChannel) (fault : SystemFault) :
    (channel.failReceive fault).backlog = channel.backlog := by
  simp only [failReceive]
  split
  · exact (backlog_stop _ _).trans (channel.backlog_logFault .read fault)
  · rfl

theorem backlog_requestClose (channel : TcpChannel) : channel.requestClose.backlog = channel.backlog := by
  simp only [requestClose]
  split <;> rfl

theorem backlog_noticeClose (channel : TcpChannel) : channel.noticeClose.backlog = channel.backlog := by
  simp only [noticeClose]
  split
  · exact channel.backlog_stop none
  · rfl

/-! ### Writing and flushing -/

/-- A channel refuses a frame because it is closed or because the frame is too long, or it counts the frame's
bytes and queues it. -/
theorem write_cases (channel : TcpChannel) (frame : Frame) :
    channel.isActive = false ∧ channel.write frame = (channel, .error (.channelClosed channel.id))
      ∨ channel.isActive = true ∧ channel.codec.limit < frame.encodedLength
        ∧ channel.write frame
          = (channel, .error (.frame { length := frame.encodedLength, limit := channel.codec.limit }))
      ∨ channel.isActive = true ∧ frame.encodedLength ≤ channel.codec.limit
        ∧ channel.write frame
          = ({ channel.reserve frame.encodedLength with queue := channel.queue ++ [frame] }, .ok ()) := by
  simp only [write]
  cases channel.isActive with
  | false => exact .inl ⟨rfl, rfl⟩
  | true =>
      by_cases tooLong : channel.codec.limit < frame.encodedLength
      · exact .inr (.inl ⟨rfl, tooLong, if_pos tooLong⟩)
      · exact .inr (.inr ⟨rfl, Nat.le_of_not_lt tooLong, if_neg tooLong⟩)

/-- A driver that runs takes the oldest frame, and otherwise it flushes nothing. -/
theorem flush_cases (channel : TcpChannel) :
    ¬ (channel.phase = .running ∧ channel.queue ≠ [])
      ∨ ∃ frame rest, channel.phase = .running ∧ channel.queue = frame :: rest := by
  by_cases writes : channel.phase = .running ∧ channel.queue ≠ []
  · obtain ⟨running, isWaiting⟩ := writes
    obtain ⟨frame, rest, isQueue⟩ := List.exists_cons_of_ne_nil isWaiting
    exact .inr ⟨frame, rest, running, isQueue⟩
  · exact .inl writes

/-- Only writes and flushes change the backlog. -/
theorem step_cases (channel : TcpChannel) (step : TcpStep) :
    (∃ frame, step = .write frame) ∨ (∃ frame, step = .writeTooLate frame) ∨ step = .flush
      ∨ (∃ fault, step = .failFlush fault)
      ∨ (channel.step step).backlog = channel.backlog ∧ channel.acceptedBy step = []
        ∧ channel.flushedBy step = [] := by
  cases step with
  | write frame => exact .inl ⟨frame, rfl⟩
  | writeTooLate frame => exact .inr (.inl ⟨frame, rfl⟩)
  | flush => exact .inr (.inr (.inl rfl))
  | failFlush fault => exact .inr (.inr (.inr (.inl ⟨fault, rfl⟩)))
  | receive chunk => exact .inr (.inr (.inr (.inr ⟨channel.backlog_receive chunk, rfl, rfl⟩)))
  | receiveEnd => exact .inr (.inr (.inr (.inr ⟨channel.backlog_receiveEnd, rfl, rfl⟩)))
  | failReceive fault => exact .inr (.inr (.inr (.inr ⟨channel.backlog_failReceive fault, rfl, rfl⟩)))
  | requestClose => exact .inr (.inr (.inr (.inr ⟨channel.backlog_requestClose, rfl, rfl⟩)))
  | noticeClose => exact .inr (.inr (.inr (.inr ⟨channel.backlog_noticeClose, rfl, rfl⟩)))
  | listen hook => exact .inr (.inr (.inr (.inr ⟨rfl, rfl, rfl⟩)))
  | finish => exact .inr (.inr (.inr (.inr ⟨channel.backlog_finish, rfl, rfl⟩)))

end TcpChannel

/-! ### What is pending, and whether a channel is writable -/

open TcpChannel (alternation unwritableMessage writableMessage)

theorem TcpChannel.alternation_succ (count : Nat) :
    alternation (count + 1)
      = alternation count ++ [if count % 2 = 0 then unwritableMessage else writableMessage] := by
  rw [alternation, List.range_succ, List.map_append]
  rfl

/-- The crossings of a channel take turns, the first of them made it unwritable, and the channel is as the
last of them says. -/
def TakesTurns (isWritable : Bool) (crossings : List String) : Prop :=
  crossings = alternation crossings.length ∧ isWritable = decide (crossings.length % 2 = 0)

theorem TakesTurns.turn {isWritable : Bool} {crossings : List String}
    (takesTurns : TakesTurns isWritable crossings) :
    TakesTurns (!isWritable)
      (crossings ++ [if isWritable then unwritableMessage else writableMessage]) := by
  obtain ⟨alternates, isTold⟩ := takesTurns
  constructor
  · rw [List.length_append, List.length_singleton, TcpChannel.alternation_succ, ← alternates, isTold]
    simp only [decide_eq_true_eq]
  · rw [List.length_append, List.length_singleton, isTold]
    by_cases even : crossings.length % 2 = 0
    · have odd : ¬ (crossings.length + 1) % 2 = 0 := by omega
      simp only [even, odd, decide_true, decide_false, Bool.not_true]
    · have even' : (crossings.length + 1) % 2 = 0 := by omega
      simp only [even, even', decide_true, decide_false, Bool.not_false]

/-- A backlog is sound: what is pending is what is queued and what is `owed` for frames that are not in the
queue yet or any more, the codec can write every frame that is queued, and the channel is writable as the
water marks and the crossings say. -/
structure Backlog.Sound (codec : FrameCodec) (low high owed : Nat) (backlog : Backlog) : Prop where
  sameCodec : backlog.codec = codec
  isLow : backlog.lowWaterMark = low
  isHigh : backlog.highWaterMark = high
  counted : backlog.pendingBytes = (backlog.queue.map Frame.encodedLength).sum + owed
  fits : ∀ frame ∈ backlog.queue, frame.encodedLength ≤ codec.limit
  full : backlog.isWritable = false → low < backlog.pendingBytes
  free : backlog.isWritable = true → backlog.pendingBytes ≤ high
  takesTurns : TakesTurns backlog.isWritable backlog.crossings

namespace Backlog.Sound

variable {codec : FrameCodec} {low high owed : Nat} {channel : TcpChannel} {frame : Frame}

theorem reserve (sound : channel.backlog.Sound codec low high owed) (ordered : low ≤ high) (length : Nat) :
    (channel.reserve length).backlog.Sound codec low high (owed + length) := by
  have counted : channel.pendingBytes + length
      = (channel.queue.map Frame.encodedLength).sum + (owed + length) := by
    rw [← Nat.add_assoc]
    exact congrArg (· + length) sound.counted
  have isHigh : channel.highWaterMark = high := sound.isHigh
  simp only [TcpChannel.reserve]
  split
  · rename_i crosses
    obtain ⟨beyond, wasWritable⟩ := crosses
    refine { sound with counted := counted, full := ?_, free := ?_, takesTurns := ?_ }
    · intro _
      rw [isHigh] at beyond
      exact Nat.lt_of_le_of_lt ordered beyond
    · exact fun isWritable => absurd isWritable Bool.false_ne_true
    · have turned := sound.takesTurns.turn
      rw [show channel.backlog.isWritable = true from wasWritable] at turned
      change TakesTurns false (TcpChannel.crossings _)
      rw [TcpChannel.crossings_log _ _ (by decide)]
      exact turned
  · rename_i stays
    refine { sound with counted := counted, full := ?_, free := ?_ }
    · intro isFull
      exact Nat.lt_add_right length (sound.full isFull)
    · intro isWritable
      change channel.pendingBytes + length ≤ high
      rw [← isHigh]
      exact Nat.le_of_not_lt fun beyond => stays ⟨beyond, isWritable⟩

theorem discharge {length : Nat} (sound : channel.backlog.Sound codec low high (owed + length))
    (ordered : low ≤ high) : (channel.discharge length).backlog.Sound codec low high owed := by
  have before : channel.pendingBytes = (channel.queue.map Frame.encodedLength).sum + (owed + length) :=
    sound.counted
  have counted : channel.pendingBytes - length = (channel.queue.map Frame.encodedLength).sum + owed := by
    rw [before, ← Nat.add_assoc, Nat.add_sub_cancel]
  have isLow : channel.lowWaterMark = low := sound.isLow
  simp only [TcpChannel.discharge]
  split
  · rename_i crosses
    obtain ⟨within, wasFull⟩ := crosses
    refine { sound with counted := counted, full := ?_, free := ?_, takesTurns := ?_ }
    · exact fun isFull => absurd isFull.symm Bool.false_ne_true
    · intro _
      rw [isLow] at within
      exact Nat.le_trans within ordered
    · have turned := sound.takesTurns.turn
      have wasFull : channel.isWritable = false := by simpa using wasFull
      rw [show channel.backlog.isWritable = false from wasFull] at turned
      change TakesTurns true (TcpChannel.crossings _)
      rw [TcpChannel.crossings_log _ _ (by decide)]
      exact turned
  · rename_i stays
    refine { sound with counted := counted, full := ?_, free := ?_ }
    · intro isFull
      change low < channel.pendingBytes - length
      rw [← isLow]
      have wasFull : channel.isWritable = false := isFull
      exact Nat.lt_of_not_le fun within => stays ⟨within, by rw [wasFull]; rfl⟩
    · intro isWritable
      exact Nat.le_trans (Nat.sub_le _ _) (sound.free isWritable)

theorem of_same {changed : TcpChannel} (sound : channel.backlog.Sound codec low high owed)
    (same : changed.backlog = channel.backlog) : changed.backlog.Sound codec low high owed := by
  rw [same]
  exact sound

/-- A frame whose bytes are counted comes into the queue. -/
theorem enqueue (sound : channel.backlog.Sound codec low high (owed + frame.encodedLength))
    (fits : frame.encodedLength ≤ codec.limit) :
    ({ channel with queue := channel.queue ++ [frame] } : TcpChannel).backlog.Sound codec low high owed := by
  refine { sound with counted := ?_, fits := ?_ }
  · have counted : channel.pendingBytes
        = (channel.queue.map Frame.encodedLength).sum + (owed + frame.encodedLength) := sound.counted
    change channel.pendingBytes = ((channel.queue ++ [frame]).map Frame.encodedLength).sum + owed
    rw [List.map_append, List.sum_append, List.map_singleton, List.sum_singleton]
    omega
  · intro queued isQueued
    rcases List.mem_append.1 isQueued with wasQueued | isNew
    · exact sound.fits queued wasQueued
    · rw [List.mem_singleton.1 isNew]
      exact fits

/-- The oldest frame leaves the queue while its bytes are still counted. -/
theorem dequeue (sound : channel.backlog.Sound codec low high owed) {rest : List Frame}
    (isQueue : channel.queue = frame :: rest) :
    ({ channel with queue := rest } : TcpChannel).backlog.Sound codec low high
      (owed + frame.encodedLength) := by
  refine { sound with counted := ?_, fits := ?_ }
  · have counted : channel.pendingBytes = (channel.queue.map Frame.encodedLength).sum + owed :=
      sound.counted
    rw [isQueue, List.map_cons, List.sum_cons] at counted
    change channel.pendingBytes = (rest.map Frame.encodedLength).sum + (owed + frame.encodedLength)
    omega
  · intro queued isQueued
    have wasQueued : queued ∈ channel.queue := by
      rw [isQueue]
      exact List.mem_cons_of_mem frame isQueued
    exact sound.fits queued wasQueued

theorem fits_head (sound : channel.backlog.Sound codec low high owed) {rest : List Frame}
    (isQueue : channel.queue = frame :: rest) : frame.encodedLength ≤ channel.codec.limit := by
  have sameCodec : channel.codec = codec := sound.sameCodec
  have isHead : frame ∈ channel.queue := by
    rw [isQueue]
    exact List.mem_cons_self
  rw [sameCodec]
  exact sound.fits frame isHead

/-! ### One step -/

theorem write (sound : channel.backlog.Sound codec low high 0) (ordered : low ≤ high) (frame : Frame) :
    (channel.write frame).1.backlog.Sound codec low high 0 := by
  obtain ⟨-, refused⟩ | ⟨-, -, refused⟩ | ⟨-, within, queued⟩ := channel.write_cases frame
  · rw [refused]
    exact sound
  · rw [refused]
    exact sound
  · have sameCodec : channel.codec = codec := sound.sameCodec
    rw [sameCodec] at within
    obtain ⟨_, _, _, reserved⟩ := channel.unnoticed_reserve frame.encodedLength
    have sameQueue : (channel.reserve frame.encodedLength).queue = channel.queue := by rw [reserved]
    rw [queued, ← sameQueue]
    exact (sound.reserve ordered frame.encodedLength).enqueue within

theorem writeTooLate (sound : channel.backlog.Sound codec low high 0) (ordered : low ≤ high)
    (frame : Frame) : (channel.writeTooLate frame).1.backlog.Sound codec low high 0 :=
  (sound.reserve ordered frame.encodedLength).discharge ordered

theorem flush (sound : channel.backlog.Sound codec low high 0) (ordered : low ≤ high) :
    channel.flush.backlog.Sound codec low high 0 := by
  obtain idle | ⟨frame, rest, running, isQueue⟩ := channel.flush_cases
  · rw [TcpChannel.flush_of_idle idle]
    exact sound
  · rw [TcpChannel.flush_of_queued running isQueue (sound.fits_head isQueue)]
    exact (sound.dequeue isQueue).discharge ordered

theorem failFlush (sound : channel.backlog.Sound codec low high 0) (ordered : low ≤ high)
    (fault : SystemFault) : (channel.failFlush fault).backlog.Sound codec low high 0 := by
  obtain idle | ⟨frame, rest, running, isQueue⟩ := channel.flush_cases
  · rw [TcpChannel.failFlush_of_idle idle]
    exact sound
  · rw [TcpChannel.failFlush_of_queued running isQueue (sound.fits_head isQueue)]
    have logged := (sound.dequeue isQueue).of_same (TcpChannel.backlog_logFault _ .write fault)
    exact (logged.discharge ordered).of_same (TcpChannel.backlog_stop _ _)

theorem step (sound : channel.backlog.Sound codec low high 0) (ordered : low ≤ high) (step : TcpStep) :
    (channel.step step).backlog.Sound codec low high 0 := by
  obtain ⟨frame, rfl⟩ | ⟨frame, rfl⟩ | rfl | ⟨fault, rfl⟩ | ⟨same, -, -⟩ := channel.step_cases step
  · exact sound.write ordered frame
  · exact sound.writeTooLate ordered frame
  · exact sound.flush ordered
  · exact sound.failFlush ordered fault
  · exact sound.of_same same

theorem run (sound : channel.backlog.Sound codec low high 0) (ordered : low ≤ high)
    (steps : List TcpStep) : (channel.run steps).backlog.Sound codec low high 0 := by
  induction steps generalizing channel with
  | nil => exact sound
  | cons step rest ih => exact ih (sound.step ordered step)

end Backlog.Sound

namespace TcpChannel

variable {codec : FrameCodec} {low high : Nat} {channel : TcpChannel}

theorem sound_establish (id : ChannelId) (address : Address) (options : SocketOptions) (codec : FrameCodec) :
    (establish id address options codec).backlog.Sound codec options.lowWaterMark.toNat
      options.highWaterMark.toNat 0 := by
  constructor
  case fits => exact fun frame isQueued => absurd isQueued List.not_mem_nil
  case full => exact fun isFull => absurd isFull.symm Bool.false_ne_true
  case free => exact fun _ => Nat.zero_le _
  case takesTurns => exact ⟨rfl, rfl⟩
  all_goals rfl

/-! ### Frames that come and go -/

theorem queue_write (channel : TcpChannel) (frame : Frame) :
    (channel.write frame).1.queue = channel.queue ++ channel.acceptedBy (.write frame) := by
  simp only [acceptedBy]
  obtain ⟨-, refused⟩ | ⟨-, -, refused⟩ | ⟨-, -, queued⟩ := channel.write_cases frame
  · rw [refused, List.append_nil]
  · rw [refused, List.append_nil]
  · rw [queued]

theorem queue_discharge (channel : TcpChannel) (length : Nat) :
    (channel.discharge length).queue = channel.queue := by
  obtain ⟨_, _, _, discharged⟩ := channel.unnoticed_discharge length
  rw [discharged]

theorem queue_writeTooLate (channel : TcpChannel) (frame : Frame) :
    (channel.writeTooLate frame).1.queue = channel.queue := by
  obtain ⟨_, _, _, reserved⟩ := channel.unnoticed_reserve frame.encodedLength
  rw [writeTooLate, queue_discharge, reserved]

theorem queue_stop (channel : TcpChannel) (error : Option TransportError) :
    (channel.stop error).queue = channel.queue :=
  congrArg Backlog.queue (channel.backlog_stop error)

theorem nextFrame_of_idle (idle : ¬ (channel.phase = .running ∧ channel.queue ≠ [])) :
    channel.nextFrame = [] := by
  by_cases running : channel.phase = .running
  · have nothing : channel.queue = [] := by_contra fun isWaiting => idle ⟨running, isWaiting⟩
    rw [nextFrame, if_pos running, nothing, List.take_nil]
  · rw [nextFrame, if_neg running]

/-- A flush takes the next frame off the front of the queue. -/
theorem queue_flush (sound : channel.backlog.Sound codec low high 0) :
    channel.nextFrame ++ channel.flush.queue = channel.queue := by
  obtain idle | ⟨frame, rest, running, isQueue⟩ := channel.flush_cases
  · rw [flush_of_idle idle, nextFrame_of_idle idle, List.nil_append]
  · rw [flush_of_queued running isQueue (sound.fits_head isQueue), queue_discharge, nextFrame,
      if_pos running, isQueue]
    rfl

theorem queue_failFlush (sound : channel.backlog.Sound codec low high 0) (fault : SystemFault) :
    channel.nextFrame ++ (channel.failFlush fault).queue = channel.queue := by
  obtain idle | ⟨frame, rest, running, isQueue⟩ := channel.flush_cases
  · rw [failFlush_of_idle idle, nextFrame_of_idle idle, List.nil_append]
  · rw [failFlush_of_queued running isQueue (sound.fits_head isQueue), queue_stop, queue_discharge,
      nextFrame, if_pos running, isQueue]
    rfl

/-- What a step accepts goes behind the queue, and what it flushes was in front. -/
theorem queue_step (sound : channel.backlog.Sound codec low high 0) (step : TcpStep) :
    channel.flushedBy step ++ (channel.step step).queue = channel.queue ++ channel.acceptedBy step := by
  obtain ⟨frame, rfl⟩ | ⟨frame, rfl⟩ | rfl | ⟨fault, rfl⟩ | ⟨same, nothing, none⟩ :=
    channel.step_cases step
  · exact channel.queue_write frame
  · exact (channel.queue_writeTooLate frame).trans (List.append_nil _).symm
  · exact (queue_flush sound).trans (List.append_nil _).symm
  · exact (queue_failFlush sound fault).trans (List.append_nil _).symm
  · rw [nothing, none, List.append_nil, List.nil_append]
    exact congrArg Backlog.queue same

/-- The frames that were accepted are those that left the queue and those that are still in it, in this
order. -/
theorem queue_run (sound : channel.backlog.Sound codec low high 0) (ordered : low ≤ high)
    (steps : List TcpStep) :
    channel.flushed steps ++ (channel.run steps).queue = channel.queue ++ channel.accepted steps := by
  induction steps generalizing channel with
  | nil => exact (List.append_nil _).symm
  | cons step rest ih =>
      calc channel.flushed (step :: rest) ++ (channel.run (step :: rest)).queue
          = channel.flushedBy step
              ++ ((channel.step step).flushed rest ++ ((channel.step step).run rest).queue) :=
            List.append_assoc _ _ _
        _ = channel.flushedBy step ++ ((channel.step step).queue ++ (channel.step step).accepted rest) := by
            rw [ih (sound.step ordered step)]
        _ = channel.queue ++ channel.acceptedBy step ++ (channel.step step).accepted rest := by
            rw [← List.append_assoc, queue_step sound step]
        _ = channel.queue ++ channel.accepted (step :: rest) := List.append_assoc _ _ _

theorem fits_of_acceptedBy {step : TcpStep} {frame : Frame} (isAccepted : frame ∈ channel.acceptedBy step) :
    frame.encodedLength ≤ channel.codec.limit := by
  obtain ⟨written, rfl⟩ | ⟨_, rfl⟩ | rfl | ⟨_, rfl⟩ | ⟨-, nothing, -⟩ := channel.step_cases step
  · simp only [acceptedBy] at isAccepted
    obtain ⟨-, refused⟩ | ⟨-, -, refused⟩ | ⟨-, within, queued⟩ := channel.write_cases written
    · rw [refused] at isAccepted
      exact absurd isAccepted List.not_mem_nil
    · rw [refused] at isAccepted
      exact absurd isAccepted List.not_mem_nil
    · rw [queued] at isAccepted
      rw [List.mem_singleton.1 isAccepted]
      exact within
  · exact absurd isAccepted List.not_mem_nil
  · exact absurd isAccepted List.not_mem_nil
  · exact absurd isAccepted List.not_mem_nil
  · rw [nothing] at isAccepted
    exact absurd isAccepted List.not_mem_nil

/-- Every frame that is ever accepted can be written. -/
theorem fits_of_accepted (sound : channel.backlog.Sound codec low high 0) (ordered : low ≤ high)
    {steps : List TcpStep} {frame : Frame} (isAccepted : frame ∈ channel.accepted steps) :
    frame.encodedLength ≤ codec.limit := by
  induction steps generalizing channel with
  | nil => exact absurd isAccepted List.not_mem_nil
  | cons step rest ih =>
      rcases List.mem_append.1 isAccepted with now | later
      · have sameCodec : channel.codec = codec := sound.sameCodec
        rw [← sameCodec]
        exact fits_of_acceptedBy now
      · exact ih (sound.step ordered step) later

/-- Back-pressure of a channel whose low water mark is not above its high one, whatever is written to it and
flushed from it and however it ends.  The frames that were accepted are those that left the queue, oldest
first, and those that wait in it; what is pending is the length of those that wait.  A channel that is not
writable has more pending than its low mark and one that is has no more than its high mark; the log lines
about it take turns, beginning with one that the channel is unwritable.  A frame that is too long changes
nothing, and no frame was ever queued that the codec refuses to encode. -/
theorem back_pressure (id : ChannelId) (address : Address) (options : SocketOptions) (codec : FrameCodec)
    (ordered : options.lowWaterMark ≤ options.highWaterMark) (steps : List TcpStep) :
    let start := establish id address options codec
    let channel := start.run steps
    start.accepted steps = start.flushed steps ++ channel.queue
      ∧ channel.pendingBytes = (channel.queue.map Frame.encodedLength).sum
      ∧ (∀ frame ∈ channel.queue, frame.encodedLength ≤ channel.pendingBytes)
      ∧ (channel.isWritable = false → options.lowWaterMark.toNat < channel.pendingBytes)
      ∧ (channel.isWritable = true → channel.pendingBytes ≤ options.highWaterMark.toNat)
      ∧ channel.crossings = alternation channel.crossings.length
      ∧ channel.isWritable = decide (channel.crossings.length % 2 = 0)
      ∧ (∀ frame, codec.limit < frame.encodedLength →
          (channel.write frame).1 = channel
          ∧ (channel.write frame).2 = .error (if channel.isActive then
              .frame { length := frame.encodedLength, limit := codec.limit } else .channelClosed channel.id))
      ∧ ∀ frame ∈ start.accepted steps, ∀ buffer,
          codec.encode frame buffer = .ok (buffer ++ frame.bytes) := by
  intro start channel
  have opening := sound_establish id address options codec
  have sound : channel.backlog.Sound codec options.lowWaterMark.toNat options.highWaterMark.toNat 0 :=
    opening.run ordered steps
  have sameCodec : channel.codec = codec := sound.sameCodec
  have counted : channel.pendingBytes = (channel.queue.map Frame.encodedLength).sum := sound.counted
  refine ⟨(queue_run opening ordered steps).symm, counted, ?_, sound.full, sound.free, sound.takesTurns.1,
    sound.takesTurns.2, ?_, ?_⟩
  · intro frame isQueued
    rw [counted]
    exact List.le_sum_of_mem (List.mem_map_of_mem isQueued)
  · intro frame tooLong
    obtain ⟨isClosed, refused⟩ | ⟨isOpen, -, refused⟩ | ⟨-, within, -⟩ := channel.write_cases frame
    · rw [refused, isClosed]
      exact ⟨rfl, rfl⟩
    · rw [refused, isOpen, sameCodec]
      exact ⟨rfl, rfl⟩
    · rw [sameCodec] at within
      exact absurd within (Nat.not_le_of_lt tooLong)
  · intro frame isAccepted buffer
    exact FrameCodec.encode_eq_ok_iff.2 ⟨fits_of_accepted opening ordered isAccepted, rfl⟩

/-- With water marks of 16 and 32 bytes a frame of 80 bytes makes a channel unwritable, and it is writable
again when no more than a heartbeat waits. -/
theorem back_pressure_of_a_long_frame :
    let options := SocketOptions.standard.setWaterMarks 16 32
    let long := Frame.make .zero (List.replicate 64 0)
    let channel := (establish ⟨1⟩ default options .default).run [.write long, .write .heartbeat, .flush]
    options.lowWaterMark ≤ options.highWaterMark ∧ channel.queue = [.heartbeat]
      ∧ channel.crossings = [unwritableMessage, writableMessage]
      ∧ channel.pendingBytes = 16 ∧ channel.isWritable = true := by
  intro options long channel
  have ordered : options.lowWaterMark ≤ options.highWaterMark := by decide
  have isQueue : channel.queue = [.heartbeat] := by rfl
  have crossed : channel.crossings = [unwritableMessage, writableMessage] := by rfl
  obtain ⟨-, counted, -, -, -, -, isTold, -, -⟩ := back_pressure ⟨1⟩ default options .default ordered
    [.write long, .write .heartbeat, .flush]
  have isPending : channel.pendingBytes = (channel.queue.map Frame.encodedLength).sum := counted
  have isWritable : channel.isWritable = decide (channel.crossings.length % 2 = 0) := isTold
  rw [isQueue] at isPending
  rw [crossed] at isWritable
  exact ⟨ordered, isQueue, crossed, isPending, isWritable⟩

end TcpChannel

end Uplink
