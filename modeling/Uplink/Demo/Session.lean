/-
Module: Uplink.Demo.Session
Purpose: The demonstration: connect, send one frame through the pool, and describe the pool.
Main exports: DemoSurroundings, DemoResult, Demo.run
-/
import Uplink.Connector.Basic
import Uplink.Demo.Command
import Uplink.Tcp.Channel
import Uplink.Tcp.Dial

namespace Uplink

/-- What the demonstration runs in: files, a network, and the address of a peer that echoes. -/
structure DemoSurroundings where
  file : String → FileContent
  network : Network
  echo : Address

/-- What the demonstration leaves: an exit status, and what it wrote. -/
structure DemoResult where
  status : Nat
  output : String
  errors : String
deriving DecidableEq, Repr, Inhabited

namespace Demo

/-- The configuration that the arguments ask for. -/
def configuration (surroundings : DemoSurroundings) (arguments : DemoArguments) :
    Except DemoError ConnectorConfig :=
  match arguments.configuration with
  | none => .ok ConnectorConfig.standard
  | some path =>
      match FileContent.text (surroundings.file path) with
      | .error reason => .error (.unreadableFile path reason)
      | .ok text => (ConnectorConfig.ofTomlText text).mapError .configuration

/-- The address that the arguments ask for, or the peer's. -/
def address (surroundings : DemoSurroundings) (arguments : DemoArguments) :
    Except DemoError Address :=
  match arguments.address with
  | none => .ok surroundings.echo
  | some text => (Address.parse text).mapError .transport

/-- Connect and wait for the channel, as the network allows. -/
def connect (network : Network) (connector : Connector) (address : Address) :
    Connector × Except ConnectorError Nat :=
  match connector.beginConnect address with
  | (begun, .error error) => (begun, .error error)
  | (begun, .ok _) =>
      let outcome :=
        match network.dial address connector.config.socket.connectTimeout with
        | .ok () => Outcome.established
        | .error error => .failed error
      match begun.settle (begun.fabric.underWay.length - 1) outcome with
      | (settled, some result) => (settled, result)
      | (settled, none) => (settled, .error .shutDown)

/-- The first greeting. -/
def greeting : Draft :=
  .mapping [(.text "from", .text "connector_demo"), (.text "seq", .integer 1)]

/-- The frame that carries the greeting. -/
def greetingFrame : Except DemoError Frame :=
  (PayloadRegistry.standard.toFrame { Header.zero with command := 1, sequence := 1 } Format.json.tag
    greeting).mapError .payload

/-- The line that describes a pool. -/
def poolLine (pool : Pool) (now : Nat) : String :=
  "pool " ++ pool.address.text ++ ": size=" ++ Text.decimal pool.size ++ " available="
    ++ flagText pool.isAvailable ++ " warm_up_complete=" ++ flagText (pool.isWarm now) ++ "\n"

/-- Send the greeting over the channel whose turn it is, and describe the pool. -/
def converse (connector : Connector) (address : Address) : Except DemoError String := do
  let grouped := connector.group address
  let roster := grouped.1.fabric.roster
  match roster.takeTurns grouped.2 1, roster.pools[grouped.2]? with
  | (_, [some channel]), some pool =>
      let frame ← greetingFrame
      let link := TcpChannel.establish (Roster.channelId channel) address connector.config.socket
        connector.config.frame.codec
      match (link.write frame).2 with
      | .error error => .error (.transport error)
      | .ok () => .ok (poolLine pool roster.now.totalNanos)
  | _, _ => .error .emptyPool

/-- The demonstration up to its end, or up to the first thing that goes wrong. -/
def attempt (surroundings : DemoSurroundings) (arguments : List String) :
    Except DemoError String := do
  let arguments ← DemoArguments.parse arguments
  let config ← configuration surroundings arguments
  let address ← address surroundings arguments
  match connect surroundings.network (Connector.make config none) address with
  | (_, .error error) => .error (.connector error)
  | (connector, .ok _) => converse connector address

/-- Run the demonstration.  What goes wrong is written as one line. -/
def run (surroundings : DemoSurroundings) (arguments : List String) : DemoResult :=
  match attempt surroundings arguments with
  | .ok output => { status := 0, output, errors := "" }
  | .error error =>
      { status := 1, output := "", errors := "连接器示例失败: " ++ error.message ++ "\n" }

end Demo

end Uplink
