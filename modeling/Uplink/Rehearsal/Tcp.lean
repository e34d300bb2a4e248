/-
Module: Uplink.Rehearsal.Tcp
Purpose: Steps on a TCP bootstrap in a network that no route leads into.
Main exports: TcpCue, DetachedBootstrap, DetachedBootstrap.rehearse
-/
import Uplink.Report.Error
import Uplink.Rehearsal.Turn
import Uplink.Tcp.Dial

namespace Uplink

/-- A bootstrap that makes channels with some options and a codec, where no attempt gets through. -/
structure DetachedBootstrap where
  options : SocketOptions
  codec : FrameCodec
deriving Repr

/-- What to do with the bootstrap: connect to the listener or to a host, connect on a runtime that was shut
down, look for a runtime outside and inside of one, change the listener, or use a channel. -/
inductive TcpCue where
  | connect
  | connectTo (host : String)
  | connectOnStoppedRuntime
  | lookForRuntime
  | changeListener
  | useChannel
deriving DecidableEq, Repr, Inhabited

namespace DetachedBootstrap

/-- The address of the listener.  Its port has no meaning, so its text in errors is a placeholder. -/
def listener : Address := { host := "127.0.0.1", port := 7001 }

/-- An error about the listener, with a placeholder for the listener's address. -/
def masked : TransportError → TransportError
  | .connectFailed _ cause => .connectFailed "<address>" cause
  | .connectTimeout _ timeout => .connectTimeout "<address>" timeout
  | error => error

/-- The text before the first colon. -/
def beforeColon (text : String) : String :=
  String.ofList (text.toList.takeWhile (· != ':'))

/-- Options and frame limit. -/
def report (bootstrap : DetachedBootstrap) : Json :=
  .object [("options", bootstrap.options.report), ("limit", .ofNat bootstrap.codec.limit)]

/-- The reply to an attempt. -/
def dialReply (bootstrap : DetachedBootstrap) (address : Address)
    (shown : TransportError → TransportError) : Reply :=
  match Network.detached.dial address bootstrap.options.connectTimeout with
  | .ok () => .nothing
  | .error error => .failed (shown error)

/-- A fault that only the runtime can explain. -/
def runtimeFault : SystemFault := .ofKind .other

/-- The error of a connect whose task is never run. -/
def spawnError : TransportError := TcpOperation.spawn.error runtimeFault

/-- The error of looking for a runtime where there is none. -/
def noRuntimeError : TransportError := .io .runtimeLookup runtimeFault

/-- The reply to a cue, and what it logs. -/
def answer (bootstrap : DetachedBootstrap) : TcpCue → Reply × List LogLine
  | .connect => (bootstrap.dialReply listener masked, [])
  | .connectTo host => (bootstrap.dialReply { host, port := 80 } id, [])
  | .connectOnStoppedRuntime =>
      (.json
          (.object
            [("code", .text spawnError.code), ("prefix", .text (beforeColon spawnError.message))]),
        [TcpOperation.spawn.faultLine runtimeFault])
  | .lookForRuntime =>
      (.json
          (.array
            [.array
              [.text noRuntimeError.code, .text (beforeColon noRuntimeError.message)],
             .array [SocketOptions.standard.report, .ofNat FrameCodec.default.limit]]),
        [])
  | .changeListener => (.nothing, [])
  | .useChannel => (.missing "no channel", [])

/-- Take a cue.  Who waits for events waits in vain. -/
def rehearse (bootstrap : DetachedBootstrap) (cue : Nat × TcpCue) : DetachedBootstrap × Turn :=
  let answered := bootstrap.answer cue.2
  (bootstrap,
    { reply := answered.1
      events := if 0 < cue.1 then ["missing events"] else []
      logs := answered.2 })

end DetachedBootstrap

end Uplink
