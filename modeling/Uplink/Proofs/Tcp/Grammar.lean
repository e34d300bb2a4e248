/-
Module: Uplink.Proofs.Tcp.Grammar
Purpose: What a channel's handler hears, in which order, as the steps of the channel's life tell it.
Main exports: DriverFate, TcpAccount, TcpAccount.note, TcpAccount.told, TcpAccount.Tells,
  TcpChannel.handler_hears_the_account
-/
import Uplink.Proofs.Frame.RoundTrip
import Uplink.Tcp.Channel

namespace Uplink

namespace TcpChannel

/-! ### What the steps of a channel change -/

variable {channel : TcpChannel}

/-- A change of what is pending, of what is writable and of the log. -/
def Unnoticed (before after : TcpChannel) : Prop :=
  ∃ pendingBytes isWritable logs, after = { before with pendingBytes, isWritable, logs }

theorem Unnoticed.refl (channel : TcpChannel) : Unnoticed channel channel :=
  ⟨_, _, _, rfl⟩

theorem Unnoticed.trans {first second third : TcpChannel} (before : Unnoticed first second)
    (after : Unnoticed second third) : Unnoticed first third := by
  obtain ⟨_, _, _, rfl⟩ := before
  obtain ⟨_, _, _, rfl⟩ := after
  exact ⟨_, _, _, rfl⟩

theorem unnoticed_reserve (channel : TcpChannel) (length : Nat) :
    Unnoticed channel (channel.reserve length) := by
  simp only [reserve]
  split
  · exact ⟨_, _, _, rfl⟩
  · exact ⟨_, _, _, rfl⟩

theorem unnoticed_discharge (channel : TcpChannel) (length : Nat) :
    Unnoticed channel (channel.discharge length) := by
  simp only [discharge]
  split
  · exact ⟨_, _, _, rfl⟩
  · exact ⟨_, _, _, rfl⟩

theorem unnoticed_logFault (channel : TcpChannel) (operation : TcpOperation) (fault : SystemFault) :
    Unnoticed channel (channel.logFault operation fault) :=
  ⟨_, _, _, rfl⟩

theorem flush_of_queued {frame : Frame} {rest : List Frame} (running : channel.phase = .running)
    (isQueue : channel.queue = frame :: rest) (fits : frame.encodedLength ≤ channel.codec.limit) :
    channel.flush = ({ channel with queue := rest }).discharge frame.encodedLength := by
  simp only [flush, running, isQueue, FrameCodec.encode_eq_ok_iff.2 ⟨fits, rfl⟩]

theorem failFlush_of_queued {frame : Frame} {rest : List Frame} (running : channel.phase = .running)
    (isQueue : channel.queue = frame :: rest) (fits : frame.encodedLength ≤ channel.codec.limit)
    (fault : SystemFault) :
    channel.failFlush fault
      = ((({ channel with queue := rest }).logFault .write fault).discharge frame.encodedLength).stop
          (some (TcpOperation.write.error fault)) := by
  simp only [failFlush, running, isQueue, FrameCodec.encode_eq_ok_iff.2 ⟨fits, rfl⟩]

theorem flush_of_idle (idle : ¬ (channel.phase = .running ∧ channel.queue ≠ [])) :
    channel.flush = channel := by
  rw [flush]
  split
  · rename_i running isQueue
    exact absurd ⟨running, by rw [isQueue]; exact List.cons_ne_nil _ _⟩ idle
  · rfl

theorem failFlush_of_idle (idle : ¬ (channel.phase = .running ∧ channel.queue ≠ []))
    (fault : SystemFault) : channel.failFlush fault = channel := by
  rw [failFlush]
  split
  · rename_i running isQueue
    exact absurd ⟨running, by rw [isQueue]; exact List.cons_ne_nil _ _⟩ idle
  · rfl

theorem stop_eq (channel : TcpChannel) (error : Option TransportError) :
    ∃ logs, channel.stop error
      = { channel with
          phase := .ending, logs, events := channel.events ++ error.toList.map .exception } := by
  simp only [stop]
  cases error with
  | none => exact ⟨channel.logs, by simp only [Option.toList_none, List.map_nil, List.append_nil]⟩
  | some error =>
      dsimp only
      split
      · exact ⟨_, rfl⟩
      · exact ⟨_, rfl⟩

/-- The channel as it is when its handler hears that it is inactive. -/
def shut (channel : TcpChannel) : TcpChannel :=
  ({ channel with
      isActive := false
      phase := .finished
      closing := .done
      ranHooks := channel.ranHooks ++ channel.closing.hooks }).log .debug "channel closed"
    [("address", channel.address.text)]

theorem finish_of_ending (ending : channel.phase = .ending) :
    channel.finish = channel.shut.tell (.inactive false true) := by
  simp only [finish, ending, shut]
  cases channel.closing with
  | waiting hooks => rfl
  | done => rfl

theorem finish_of_idle (idle : channel.phase ≠ .ending) : channel.finish = channel := by
  rw [finish]
  split
  · rename_i ending
    exact absurd ending idle
  · rfl

/-- The handler hears of every frame that was cut off, in order. -/
theorem foldl_deliver_eq (channel : TcpChannel) (frames : List Frame) :
    ∃ logs, frames.foldl deliver channel
      = { channel with events := channel.events ++ frames.map .read, logs } := by
  induction frames generalizing channel with
  | nil => exact ⟨channel.logs, by simp only [List.foldl_nil, List.map_nil, List.append_nil]⟩
  | cons frame rest ih =>
      obtain ⟨first, delivered⟩ : ∃ logs, channel.deliver frame
          = { channel with events := channel.events ++ [.read frame], logs } := by
        simp only [deliver]
        split
        · exact ⟨_, rfl⟩
        · exact ⟨_, rfl⟩
      obtain ⟨logs, others⟩ := ih (channel.deliver frame)
      refine ⟨logs, others.trans ?_⟩
      rw [delivered]
      simp only [List.map_cons, List.append_assoc, List.singleton_append]

end TcpChannel

/-- What has become of the driver of a channel. -/
inductive DriverFate where
  | running
  | done
  | failed (error : TransportError)
deriving DecidableEq

/-- The error with which a driver ended. -/
def DriverFate.error? : DriverFate → Option TransportError
  | failed error => some error
  | _ => none

/-- The oversized header because of which a driver ended. -/
def DriverFate.refusal? : DriverFate → Option FrameTooLarge
  | failed (.frame error) => some error
  | _ => none

/-- What somebody knows of a channel who sees its steps, but not the channel.  `bytes` are those that were
read so far, `parked` says that the peer will send no more although the channel stays open, `waiting` is the
number of frames that were accepted and not yet written, and `hooks` are all close hooks that were
registered. -/
structure TcpAccount where
  codec : FrameCodec
  allowHalfClosure : Bool
  bytes : List UInt8
  parked : Bool
  waiting : Nat
  closeRequested : Bool
  fate : DriverFate
  hooks : List Nat
  finished : Bool

namespace TcpAccount

/-- The account of a channel that was just established. -/
def opening (options : SocketOptions) (codec : FrameCodec) : TcpAccount :=
  { codec
    allowHalfClosure := options.allowHalfClosure
    bytes := []
    parked := false
    waiting := 0
    closeRequested := false
    fate := .running
    hooks := []
    finished := false }

/-- Whether the driver waits for bytes. -/
def Reads (account : TcpAccount) : Prop :=
  account.fate = .running ∧ account.parked = false

instance (account : TcpAccount) : Decidable account.Reads :=
  inferInstanceAs (Decidable (_ ∧ _))

/-- Whether the driver has a frame to write. -/
def Writes (account : TcpAccount) : Prop :=
  account.fate = .running ∧ account.waiting ≠ 0

instance (account : TcpAccount) : Decidable account.Writes :=
  inferInstanceAs (Decidable (_ ∧ _))

/-- Bytes are read.  The driver fails if decoding all bytes read so far comes upon an oversized header. -/
def take (account : TcpAccount) (chunk : List UInt8) : TcpAccount :=
  let bytes := account.bytes ++ chunk
  match (account.codec.drain bytes).error with
  | none => { account with bytes }
  | some error => { account with bytes, fate := .failed (.frame error) }

/-- A step goes into the account. -/
def note (account : TcpAccount) : TcpStep → TcpAccount
  | .write frame =>
      if account.finished ∨ account.codec.limit < frame.encodedLength then account
      else { account with waiting := account.waiting + 1 }
  | .writeTooLate _ => account
  | .flush => if account.Writes then { account with waiting := account.waiting - 1 } else account
  | .failFlush fault =>
      if account.Writes then
        { account with
          waiting := account.waiting - 1
          fate := .failed (TcpOperation.write.error fault) }
      else account
  | .receive chunk => if account.Reads then account.take chunk else account
  | .receiveEnd =>
      if account.Reads then
        if account.allowHalfClosure then { account with parked := true }
        else { account with fate := .done }
      else account
  | .failReceive fault =>
      if account.Reads then { account with fate := .failed (TcpOperation.read.error fault) } else account
  | .requestClose => if account.finished then account else { account with closeRequested := true }
  | .noticeClose =>
      if account.fate = .running ∧ account.closeRequested then { account with fate := .done } else account
  | .listen hook => { account with hooks := account.hooks ++ [hook] }
  | .finish => if account.fate = .running then account else { account with finished := true }

/-- Some steps go into the account. -/
def follow (account : TcpAccount) (steps : List TcpStep) : TcpAccount :=
  steps.foldl note account

/-- What the handler has heard, going by the account: that the channel is active, the frames of the bytes
that were read, the error if the driver failed, and at last that the channel is inactive. -/
def told (account : TcpAccount) : List TcpEvent :=
  .active :: (account.codec.drain account.bytes).frames.map .read
    ++ account.fate.error?.toList.map .exception
    ++ if account.finished then [.inactive false true] else []

/-- The phase of a channel, going by the account. -/
def phase (account : TcpAccount) : TcpPhase :=
  if account.finished then .finished
  else if account.fate = .running then .running
  else .ending

/-- An account does not contradict itself: the driver has come upon an oversized header exactly if decoding
the bytes read so far does, and only a channel whose driver has ended is over. -/
structure Coherent (account : TcpAccount) : Prop where
  refused : (account.codec.drain account.bytes).error = account.fate.refusal?
  ended : account.finished = true → account.fate ≠ .running

/-- An account tells about a channel as it is. -/
structure Tells (account : TcpAccount) (channel : TcpChannel) : Prop where
  codec : channel.codec = account.codec
  allowHalfClosure : channel.allowHalfClosure = account.allowHalfClosure
  parked : channel.parked = account.parked
  closeRequested : channel.closeRequested = account.closeRequested
  waiting : channel.queue.length = account.waiting
  fits : ∀ frame ∈ channel.queue, frame.encodedLength ≤ account.codec.limit
  incoming : channel.incoming = (account.codec.drain account.bytes).rest
  phase : channel.phase = account.phase
  isActive : channel.isActive = !account.finished
  closing : channel.closing = if account.finished then .done else .waiting account.hooks
  ranHooks : channel.ranHooks = if account.finished then account.hooks else []
  events : channel.events = account.told

variable {account : TcpAccount} {channel changed : TcpChannel}

/-! ### The account by itself -/

theorem coherent_opening (options : SocketOptions) (codec : FrameCodec) :
    (opening options codec).Coherent := by
  constructor
  case refused => exact congrArg Drained.error (FrameCodec.drain_nil codec)
  case ended => exact fun isFinished => absurd isFinished Bool.false_ne_true

theorem Coherent.finished_eq_false (coherent : account.Coherent) (running : account.fate = .running) :
    account.finished = false :=
  Bool.eq_false_iff.2 fun isFinished => coherent.ended isFinished running

/-- A driver may end for any reason but a header that it was not refused. -/
theorem Coherent.ends (coherent : account.Coherent) (running : account.fate = .running)
    (fate : DriverFate) (ended : fate ≠ .running) (unrefused : fate.refusal? = none) :
    ({ account with fate } : TcpAccount).Coherent := by
  have noError := coherent.refused
  rw [running] at noError
  exact ⟨noError.trans unrefused.symm, fun _ => ended⟩

theorem Coherent.take (coherent : account.Coherent) (running : account.fate = .running)
    (chunk : List UInt8) : (account.take chunk).Coherent := by
  simp only [TcpAccount.take]
  split
  · rename_i noError
    refine ⟨?_, coherent.ended⟩
    rw [running]
    exact noError
  · rename_i error isError
    exact ⟨isError, fun _ => DriverFate.noConfusion⟩

theorem Coherent.note (coherent : account.Coherent) (step : TcpStep) : (account.note step).Coherent := by
  cases step with
  | write frame =>
      simp only [TcpAccount.note]
      split
      · exact coherent
      · exact ⟨coherent.refused, coherent.ended⟩
  | writeTooLate frame => exact coherent
  | flush =>
      simp only [TcpAccount.note]
      split
      · exact ⟨coherent.refused, coherent.ended⟩
      · exact coherent
  | failFlush fault =>
      simp only [TcpAccount.note]
      split
      · rename_i writes
        have ends := coherent.ends writes.1 (.failed (TcpOperation.write.error fault))
          DriverFate.noConfusion rfl
        exact ⟨ends.refused, ends.ended⟩
      · exact coherent
  | receive chunk =>
      simp only [TcpAccount.note]
      split
      · rename_i reads
        exact coherent.take reads.1 chunk
      · exact coherent
  | receiveEnd =>
      simp only [TcpAccount.note]
      split
      · rename_i reads
        split
        · exact ⟨coherent.refused, coherent.ended⟩
        · exact coherent.ends reads.1 _ DriverFate.noConfusion rfl
      · exact coherent
  | failReceive fault =>
      simp only [TcpAccount.note]
      split
      · rename_i reads
        exact coherent.ends reads.1 _ DriverFate.noConfusion rfl
      · exact coherent
  | requestClose =>
      simp only [TcpAccount.note]
      split
      · exact coherent
      · exact ⟨coherent.refused, coherent.ended⟩
  | noticeClose =>
      simp only [TcpAccount.note]
      split
      · rename_i notices
        exact coherent.ends notices.1 _ DriverFate.noConfusion rfl
      · exact coherent
  | listen hook => exact ⟨coherent.refused, coherent.ended⟩
  | finish =>
      simp only [TcpAccount.note]
      split
      · exact coherent
      · rename_i ended
        exact ⟨coherent.refused, fun _ => ended⟩

/-! ### What an account tells -/

theorem told_of_running (running : account.fate = .running) (isOpen : account.finished = false) :
    account.told = .active :: (account.codec.drain account.bytes).frames.map .read := by
  rw [told, running, isOpen]
  exact (List.append_nil _).trans (List.append_nil _)

theorem phase_of_running (running : account.fate = .running) (coherent : account.Coherent) :
    account.phase = .running := by
  rw [phase, coherent.finished_eq_false running, if_pos running]
  rfl

theorem phase_ne_ending (settled : account.fate = .running ∨ account.finished = true) :
    account.phase ≠ .ending := by
  rw [phase]
  split
  · exact TcpPhase.noConfusion
  · rename_i isOpen
    rw [if_pos (settled.resolve_right isOpen)]
    exact TcpPhase.noConfusion

theorem fate_of_phase (isRunning : account.phase = .running) : account.fate = .running := by
  rw [phase] at isRunning
  split at isRunning
  · cases isRunning
  · split at isRunning
    · assumption
    · cases isRunning

namespace Tells

theorem opening (id : ChannelId) (address : Address) (options : SocketOptions) (codec : FrameCodec) :
    (TcpAccount.opening options codec).Tells (.establish id address options codec) := by
  have nothing : (TcpAccount.opening options codec).codec.drain (TcpAccount.opening options codec).bytes
      = { frames := [], error := none, rest := [] } := FrameCodec.drain_nil codec
  constructor
  case incoming => rw [nothing]; rfl
  case events => rw [told_of_running rfl rfl, nothing]; rfl
  case fits => exact fun frame isQueued => absurd isQueued List.not_mem_nil
  all_goals rfl

/-- A change that the driver does not notice. -/
theorem of_unnoticed (tells : account.Tells channel) (unnoticed : channel.Unnoticed changed) :
    account.Tells changed := by
  obtain ⟨_, _, _, rfl⟩ := unnoticed
  exact { tells with }

theorem phase_eq_running_iff (tells : account.Tells channel) (coherent : account.Coherent) :
    channel.phase = .running ↔ account.fate = .running := by
  rw [tells.phase]
  exact ⟨fate_of_phase, fun running => phase_of_running running coherent⟩

theorem isReading_iff (tells : account.Tells channel) (coherent : account.Coherent) :
    channel.isReading = true ↔ account.Reads := by
  rw [TcpChannel.isReading, Bool.and_eq_true, beq_iff_eq, Bool.not_eq_true', tells.parked,
    tells.phase_eq_running_iff coherent]
  rfl

/-- The driver ends, and the handler hears of the error if there was one. -/
theorem stop (tells : account.Tells channel) (running : account.fate = .running)
    (isOpen : account.finished = false) (fate : DriverFate) (ended : fate ≠ .running) :
    ({ account with fate } : TcpAccount).Tells (channel.stop fate.error?) := by
  obtain ⟨logs, stopped⟩ := channel.stop_eq fate.error?
  rw [stopped]
  refine { tells with phase := ?_, events := ?_ }
  · rw [TcpAccount.phase, isOpen, if_neg ended]
    rfl
  · have heard := tells.events
    rw [told_of_running running isOpen] at heard
    rw [told, isOpen, heard]
    exact (List.append_nil _).symm

/-! ### Writing -/

theorem write (tells : account.Tells channel) (frame : Frame) :
    (account.note (.write frame)).Tells (channel.write frame).1 := by
  simp only [TcpAccount.note, TcpChannel.write, tells.isActive, tells.codec, Bool.not_not]
  by_cases isFinished : account.finished = true
  · rw [if_pos (.inl isFinished), if_pos isFinished]
    exact tells
  · rw [if_neg isFinished]
    by_cases tooLong : account.codec.limit < frame.encodedLength
    · rw [if_pos (.inr tooLong), if_pos tooLong]
      exact tells
    · rw [if_neg (not_or.2 ⟨isFinished, tooLong⟩), if_neg tooLong]
      obtain ⟨_, _, _, reserved⟩ := channel.unnoticed_reserve frame.encodedLength
      rw [reserved]
      refine { tells with waiting := ?_, fits := ?_ }
      · exact List.length_append.trans (congrArg (· + 1) tells.waiting)
      · intro queued isQueued
        rcases List.mem_append.1 isQueued with wasQueued | isNew
        · exact tells.fits queued wasQueued
        · rw [List.mem_singleton.1 isNew]
          exact Nat.le_of_not_lt tooLong

theorem writeTooLate (tells : account.Tells channel) (frame : Frame) :
    account.Tells (channel.writeTooLate frame).1 :=
  tells.of_unnoticed ((channel.unnoticed_reserve _).trans (TcpChannel.unnoticed_discharge _ _))

theorem writes_iff (tells : account.Tells channel) (coherent : account.Coherent) :
    channel.phase = .running ∧ channel.queue ≠ [] ↔ account.Writes := by
  rw [tells.phase_eq_running_iff coherent, Writes, ← tells.waiting, ne_eq, ne_eq, List.length_eq_zero_iff]

/-- The oldest frame that waits leaves the queue. -/
theorem dequeue (tells : account.Tells channel) {frame : Frame} {rest : List Frame}
    (isQueue : channel.queue = frame :: rest) :
    ({ account with waiting := account.waiting - 1 } : TcpAccount).Tells { channel with queue := rest } := by
  have counted := tells.waiting
  have fits := tells.fits
  rw [isQueue] at counted fits
  refine { tells with waiting := ?_, fits := ?_ }
  · exact congrArg Nat.pred counted
  · exact fun queued isQueued => fits queued (List.mem_cons_of_mem frame isQueued)

theorem fits_head (tells : account.Tells channel) {frame : Frame} {rest : List Frame}
    (isQueue : channel.queue = frame :: rest) : frame.encodedLength ≤ channel.codec.limit := by
  rw [tells.codec]
  apply tells.fits
  rw [isQueue]
  exact List.mem_cons_self

theorem flush (tells : account.Tells channel) (coherent : account.Coherent) :
    (account.note .flush).Tells channel.flush := by
  have writes := tells.writes_iff coherent
  simp only [TcpAccount.note]
  split
  · rename_i isWriting
    obtain ⟨running, isWaiting⟩ := writes.2 isWriting
    obtain ⟨frame, rest, isQueue⟩ := List.exists_cons_of_ne_nil isWaiting
    rw [TcpChannel.flush_of_queued running isQueue (tells.fits_head isQueue)]
    exact (tells.dequeue isQueue).of_unnoticed (TcpChannel.unnoticed_discharge _ _)
  · rename_i isIdle
    rw [TcpChannel.flush_of_idle (mt writes.1 isIdle)]
    exact tells

theorem failFlush (tells : account.Tells channel) (coherent : account.Coherent) (fault : SystemFault) :
    (account.note (.failFlush fault)).Tells (channel.failFlush fault) := by
  have writes := tells.writes_iff coherent
  simp only [TcpAccount.note]
  split
  · rename_i isWriting
    obtain ⟨running, isWaiting⟩ := writes.2 isWriting
    obtain ⟨frame, rest, isQueue⟩ := List.exists_cons_of_ne_nil isWaiting
    rw [TcpChannel.failFlush_of_queued running isQueue (tells.fits_head isQueue)]
    have logged := (tells.dequeue isQueue).of_unnoticed (TcpChannel.unnoticed_logFault _ .write fault)
    have left := logged.of_unnoticed (TcpChannel.unnoticed_discharge _ frame.encodedLength)
    exact left.stop isWriting.1 (coherent.finished_eq_false isWriting.1)
      (.failed (TcpOperation.write.error fault)) DriverFate.noConfusion
  · rename_i isIdle
    rw [TcpChannel.failFlush_of_idle (mt writes.1 isIdle)]
    exact tells

/-! ### Reading -/

/-- Bytes are decoded together with those that no frame was cut from, as if all had come at once. -/
theorem drain_take (tells : account.Tells channel) (chunk : List UInt8) :
    account.codec.drain (account.bytes ++ chunk)
      = { channel.codec.drain (channel.incoming ++ chunk) with
          frames := (account.codec.drain account.bytes).frames
            ++ (channel.codec.drain (channel.incoming ++ chunk)).frames } := by
  rw [← FrameCodec.receive_drain, FrameCodec.receive, tells.codec, tells.incoming]

theorem take (tells : account.Tells channel) (reads : channel.isReading = true)
    (running : account.fate = .running) (isOpen : account.finished = false) (chunk : List UInt8) :
    (account.take chunk).Tells (channel.receive chunk) := by
  have together := tells.drain_take chunk
  simp only [TcpChannel.receive]
  rw [if_pos reads]
  obtain ⟨logs, delivered⟩ := channel.foldl_deliver_eq (channel.codec.drain (channel.incoming ++ chunk)).frames
  rw [delivered]
  let left : TcpChannel :=
    { channel with
      events := channel.events ++ (channel.codec.drain (channel.incoming ++ chunk)).frames.map .read
      logs
      incoming := (channel.codec.drain (channel.incoming ++ chunk)).rest }
  have taken : ({ account with bytes := account.bytes ++ chunk } : TcpAccount).Tells left := by
    refine { tells with incoming := ?_, events := ?_ }
    · exact (congrArg Drained.rest together).symm
    · have heard := tells.events
      rw [told_of_running running isOpen] at heard
      have hears : ({ account with bytes := account.bytes ++ chunk } : TcpAccount).told
          = .active :: (account.codec.drain (account.bytes ++ chunk)).frames.map .read :=
        told_of_running running isOpen
      rw [hears, together, List.map_append]
      exact congrArg (· ++ _) heard
  have verdict := congrArg Drained.error together
  simp only [TcpAccount.take, verdict]
  cases (channel.codec.drain (channel.incoming ++ chunk)).error with
  | none => exact taken
  | some error => exact taken.stop running isOpen (.failed (.frame error)) DriverFate.noConfusion

theorem receive (tells : account.Tells channel) (coherent : account.Coherent) (chunk : List UInt8) :
    (account.note (.receive chunk)).Tells (channel.receive chunk) := by
  have isReading := tells.isReading_iff coherent
  simp only [TcpAccount.note]
  split
  · rename_i reads
    exact tells.take (isReading.2 reads) reads.1 (coherent.finished_eq_false reads.1) chunk
  · rename_i idle
    rw [TcpChannel.receive, if_neg (mt isReading.1 idle)]
    exact tells

theorem receiveEnd (tells : account.Tells channel) (coherent : account.Coherent) :
    (account.note .receiveEnd).Tells channel.receiveEnd := by
  have isReading := tells.isReading_iff coherent
  simp only [TcpAccount.note, TcpChannel.receiveEnd]
  split
  · rename_i reads
    rw [if_pos (isReading.2 reads)]
    split
    · rename_i halfOpen
      rw [if_pos (tells.allowHalfClosure.trans halfOpen)]
      exact { tells with parked := rfl }
    · rename_i notHalfOpen
      rw [if_neg (by rw [tells.allowHalfClosure]; exact notHalfOpen)]
      exact tells.stop reads.1 (coherent.finished_eq_false reads.1) .done DriverFate.noConfusion
  · rename_i idle
    rw [if_neg (mt isReading.1 idle)]
    exact tells

theorem failReceive (tells : account.Tells channel) (coherent : account.Coherent) (fault : SystemFault) :
    (account.note (.failReceive fault)).Tells (channel.failReceive fault) := by
  have isReading := tells.isReading_iff coherent
  simp only [TcpAccount.note, TcpChannel.failReceive]
  split
  · rename_i reads
    rw [if_pos (isReading.2 reads)]
    have logged := tells.of_unnoticed (channel.unnoticed_logFault .read fault)
    exact logged.stop reads.1 (coherent.finished_eq_false reads.1) (.failed (TcpOperation.read.error fault))
      DriverFate.noConfusion
  · rename_i idle
    rw [if_neg (mt isReading.1 idle)]
    exact tells

/-! ### Closing -/

theorem requestClose (tells : account.Tells channel) :
    (account.note .requestClose).Tells channel.requestClose := by
  simp only [TcpAccount.note, TcpChannel.requestClose]
  split
  · rename_i isFinished
    rw [if_neg (by rw [tells.isActive, isFinished]; exact Bool.false_ne_true)]
    exact tells
  · rename_i isOpen
    rw [if_pos (by rw [tells.isActive, Bool.eq_false_iff.2 isOpen]; rfl)]
    exact { tells with closeRequested := rfl }

theorem noticeClose (tells : account.Tells channel) (coherent : account.Coherent) :
    (account.note .noticeClose).Tells channel.noticeClose := by
  simp only [TcpAccount.note, TcpChannel.noticeClose, tells.phase_eq_running_iff coherent,
    tells.closeRequested]
  split
  · rename_i notices
    exact tells.stop notices.1 (coherent.finished_eq_false notices.1) .done DriverFate.noConfusion
  · exact tells

theorem listen (tells : account.Tells channel) (hook : Nat) :
    (account.note (.listen hook)).Tells (channel.listen hook) := by
  refine { tells with closing := ?_, ranHooks := ?_ }
  · change (channel.closing.listen hook).1
      = if account.finished then .done else .waiting (account.hooks ++ [hook])
    rw [tells.closing]
    split <;> rfl
  · change channel.ranHooks ++ (channel.closing.listen hook).2
      = if account.finished then account.hooks ++ [hook] else []
    rw [tells.closing, tells.ranHooks]
    split <;> rfl

theorem phase_eq_ending (tells : account.Tells channel) (ended : account.fate ≠ .running)
    (isOpen : account.finished = false) : channel.phase = .ending := by
  rw [tells.phase, TcpAccount.phase, isOpen, if_neg ended]
  rfl

/-- All close hooks have run when the handler hears that the channel is inactive. -/
theorem ranHooks_shut (tells : account.Tells channel) (isOpen : account.finished = false) :
    channel.shut.ranHooks = account.hooks := by
  change channel.ranHooks ++ channel.closing.hooks = account.hooks
  rw [tells.ranHooks, tells.closing, isOpen]
  rfl

theorem finish (tells : account.Tells channel) : (account.note .finish).Tells channel.finish := by
  simp only [TcpAccount.note]
  by_cases running : account.fate = .running
  · rw [if_pos running, TcpChannel.finish_of_idle (by rw [tells.phase]; exact phase_ne_ending (.inl running))]
    exact tells
  · rw [if_neg running]
    cases isFinished : account.finished with
    | true =>
        have same : ({ account with finished := true } : TcpAccount) = account := by rw [← isFinished]
        rw [same, TcpChannel.finish_of_idle (by rw [tells.phase]; exact phase_ne_ending (.inr isFinished))]
        exact tells
    | false =>
        rw [TcpChannel.finish_of_ending (tells.phase_eq_ending running isFinished)]
        refine { tells with phase := rfl, isActive := rfl, closing := rfl, ranHooks := ?_, events := ?_ }
        · exact tells.ranHooks_shut isFinished
        · have heard := tells.events
          rw [told, isFinished, if_neg Bool.false_ne_true, List.append_nil] at heard
          exact congrArg (· ++ [TcpEvent.inactive false true]) heard

/-! ### Whole lives -/

theorem step (tells : account.Tells channel) (coherent : account.Coherent) (step : TcpStep) :
    (account.note step).Tells (channel.step step) := by
  cases step with
  | write frame => exact tells.write frame
  | writeTooLate frame => exact tells.writeTooLate frame
  | flush => exact tells.flush coherent
  | failFlush fault => exact tells.failFlush coherent fault
  | receive chunk => exact tells.receive coherent chunk
  | receiveEnd => exact tells.receiveEnd coherent
  | failReceive fault => exact tells.failReceive coherent fault
  | requestClose => exact tells.requestClose
  | noticeClose => exact tells.noticeClose coherent
  | listen hook => exact tells.listen hook
  | finish => exact tells.finish

theorem run (tells : account.Tells channel) (coherent : account.Coherent) (steps : List TcpStep) :
    (account.follow steps).Tells (channel.run steps) ∧ (account.follow steps).Coherent := by
  induction steps generalizing account channel with
  | nil => exact ⟨tells, coherent⟩
  | cons step rest ih => exact ih (tells.step coherent step) (coherent.note step)

end Tells

theorem codec_note (account : TcpAccount) (step : TcpStep) : (account.note step).codec = account.codec := by
  cases step <;> simp only [note, take] <;> repeat' split
  all_goals rfl

theorem codec_follow (account : TcpAccount) (steps : List TcpStep) :
    (account.follow steps).codec = account.codec := by
  induction steps generalizing account with
  | nil => rfl
  | cons step rest ih => exact (ih _).trans (account.codec_note step)

end TcpAccount

/-- A channel's handler hears that the channel is active, then the frames of all bytes that were read, in
order, then the error if the driver has failed, and then, once the driver has ended and the channel is over,
that it is inactive; and nothing else.  An oversized header is the reason why the driver has failed exactly
if decoding the bytes comes upon one.  When the handler hears that the channel is inactive, it is, its
closing is completed, and all close hooks have run that were registered; and so it stays. -/
theorem TcpChannel.handler_hears_the_account (id : ChannelId) (address : Address) (options : SocketOptions)
    (codec : FrameCodec) (steps : List TcpStep) :
    let channel := (establish id address options codec).run steps
    let account := (TcpAccount.opening options codec).follow steps
    channel.events
        = .active :: (codec.drain account.bytes).frames.map .read
          ++ account.fate.error?.toList.map .exception
          ++ (if account.finished then [.inactive false true] else [])
      ∧ (codec.drain account.bytes).error = account.fate.refusal?
      ∧ (account.fate ≠ .running → account.finished = false →
          ∃ shut : TcpChannel, channel.finish = shut.tell (.inactive false true)
            ∧ shut.isActive = false ∧ shut.closing.isDone = true ∧ shut.ranHooks = account.hooks)
      ∧ (account.finished = true →
          channel.isActive = false ∧ channel.closing.isDone = true ∧ channel.ranHooks = account.hooks) := by
  intro channel account
  obtain ⟨tells, coherent⟩ := (TcpAccount.Tells.opening id address options codec).run
    (TcpAccount.coherent_opening options codec) steps
  have sameCodec : account.codec = codec := TcpAccount.codec_follow _ steps
  refine ⟨?_, ?_, ?_, ?_⟩
  · rw [← sameCodec]
    exact tells.events
  · rw [← sameCodec]
    exact coherent.refused
  · intro ended isOpen
    exact ⟨channel.shut, finish_of_ending (tells.phase_eq_ending ended isOpen), rfl, rfl,
      tells.ranHooks_shut isOpen⟩
  · intro isFinished
    have closing := tells.closing
    have ranHooks := tells.ranHooks
    rw [if_pos isFinished] at closing ranHooks
    refine ⟨?_, ?_, ranHooks⟩
    · rw [tells.isActive, isFinished]
      rfl
    · rw [closing]
      rfl

end Uplink
