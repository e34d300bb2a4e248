/-
Module: Uplink.Report.Value
Purpose: Reports: values as JSON for people and tools that look on from outside.
Main exports: Json.ofNat, Span.report, Report.bytes, Frame.report, SocketOptions.report,
  ConnectorConfig.report, Pool.report, Json.tagged
-/
import Uplink.Config.Connector
import Uplink.Frame.Basic
import Uplink.Pool.Basic
import Uplink.Text.Numeral

namespace Uplink

open Text

namespace Json

/-- A number that fits 64 bits. -/
def ofNat (value : Nat) : Json := .ofWord (UInt64.ofNat value)

/-- A value, or null where there is none. -/
def orNull {α : Type} (write : α → Json) : Option α → Json
  | some value => write value
  | none => .null

/-- A list of numbers. -/
def ofNats (values : List Nat) : Json := .array (values.map ofNat)

mutual

/-- A value with a mark around everything whose kind its text would not tell: integers as decimal text,
floats as the hexadecimal text of their bits, objects as lists of their members. -/
def tagged : Json → Json
  | .number (.integer found) => .object [("$int", .text (signedDecimal found.value))]
  | .number (.real found) => .object [("$float", .text (hexadecimal 16 found.bits.toNat))]
  | .array items => .array (taggedItems items)
  | .object members => .object [("$obj", .array (taggedMembers members))]
  | .null => .null
  | .boolean value => .boolean value
  | .text value => .text value

/-- The items of an array, each tagged. -/
def taggedItems : List Json → List Json
  | [] => []
  | item :: rest => tagged item :: taggedItems rest

/-- The members of an object, each a pair of its key and its tagged value. -/
def taggedMembers : List (String × Json) → List Json
  | [] => []
  | (key, item) :: rest => .array [.text key, tagged item] :: taggedMembers rest

end

end Json

/-- A span as a pair of seconds and nanoseconds. -/
def Span.report (span : Span) : Json := .ofNats [span.seconds, span.nanos]

namespace Report

/-- Bytes as hexadecimal digits. -/
def hexText (bytes : List UInt8) : String :=
  String.ofList (bytes.flatMap fun byte =>
    [digitChar (byte.toNat / 16), digitChar (byte.toNat % 16)])

/-- A fingerprint of bytes in 64 bits: each byte is mixed in, then the word is multiplied by a prime. -/
def fingerprint (bytes : List UInt8) : UInt64 :=
  bytes.foldl (fun hash byte => (hash ^^^ byte.toUInt64) * 0x100000001b3) 0xcbf29ce484222325

/-- Up to 600 bytes in full, more of them by length and fingerprint. -/
def bytes (content : List UInt8) : Json :=
  if content.length ≤ 600 then .text (hexText content)
  else
    .object
      [("len", .ofNat content.length),
       ("fnv1a64", .text (hexadecimal 16 (fingerprint content).toNat))]

/-- A point in time as the span since the start. -/
def point (nanos : Nat) : Json := (Span.ofNanos nanos).report

end Report

/-- A frame: its header field by field, its body, and what follows from them. -/
def Frame.report (frame : Frame) : Json :=
  .object
    [("cmd_id", .ofNat frame.header.command.toNat), ("seq_id", .ofNat frame.header.sequence.toNat),
     ("body_len", .ofNat frame.header.bodyLength.toNat),
     ("cmd_type", .ofNat frame.header.commandType.toNat),
     ("body_type", .ofNat frame.header.bodyType.toNat), ("code", .ofNat frame.header.code.toNat),
     ("ttl", .ofNat frame.header.hops.toNat), ("body", Report.bytes frame.body),
     ("heartbeat", .boolean frame.isHeartbeat), ("encoded_len", .ofNat frame.encodedLength)]

/-- Socket options, with times as spans. -/
def SocketOptions.report (options : SocketOptions) : Json :=
  let word := Json.orNull fun (value : UInt32) => .ofNat value.toNat
  .object
    [("tcp_nodelay", .boolean options.noDelay), ("keep_alive", .boolean options.keepAlive),
     ("reuse_address", .boolean options.reuseAddress),
     ("allow_half_closure", .boolean options.allowHalfClosure),
     ("send_buffer_size", word options.sendBufferSize),
     ("recv_buffer_size", word options.receiveBufferSize),
     ("linger", .orNull Span.report options.linger), ("ip_tos", word options.typeOfService),
     ("low", .ofNat options.lowWaterMark.toNat), ("high", .ofNat options.highWaterMark.toNat),
     ("connect_timeout", options.connectTimeout.report)]

/-- A section on pools, with times as spans. -/
def PoolConfig.report (config : PoolConfig) : Json :=
  .object
    [("capacity", .ofNat config.bound.toNat), ("warm_up", config.warmUp.report),
     ("loss_interval", config.lossInterval.report), ("poll_window", config.pollWindow.report),
     ("acquire_timeout", .orNull Span.report config.acquireTimeout)]

/-- A section on watchdogs, with the shortest and the longest delay. -/
def WatchdogConfig.report (config : WatchdogConfig) : Json :=
  let backoff := config.backoff
  .object
    [("step", backoff.step.report), ("max_steps", .ofNat backoff.mostSteps.toNat),
     ("delay_1", (backoff.delayFor 1).report),
     ("delay_max", (backoff.delayFor (UInt32.ofNat 0xFFFFFFFF)).report),
     ("notify_queue_capacity", .ofNat config.notifyQueueCapacity.toNat)]

/-- A section on frames, with the limit of the codec that it describes. -/
def FrameConfig.report (config : FrameConfig) : Json :=
  .object
    [("max_frame_length", .ofNat config.maxFrameLength.toNat),
     ("codec_limit", .ofNat config.codec.limit)]

/-- A configuration, section by section, and whether it is the standard one. -/
def ConnectorConfig.report (config : ConnectorConfig) : Json :=
  .object
    [("pool", config.pool.report), ("watchdog", config.watchdog.report),
     ("socket", config.socket.report), ("frame", config.frame.report),
     ("is_default", .boolean (decide (config = ConnectorConfig.standard)))]

/-- A pool as it is at a time. -/
def Pool.report (pool : Pool) (now : Nat) : Json :=
  .object
    [("members", .ofNats pool.members), ("size", .ofNat pool.size),
     ("available", .boolean pool.isAvailable), ("capacity", .ofNat pool.capacity.toNat),
     ("cursor", .ofNat pool.cursor.toNat), ("warm_up", pool.warmUp.report),
     ("warm", .boolean (pool.isWarm now)), ("last_change", Report.point pool.lastChange),
     ("loss_deadline", .orNull Report.point pool.lossDeadline)]

end Uplink
