/-
Module: Uplink.Demo.Command
Purpose: The command line of the demonstration: its arguments, its files and what can go wrong.
Main exports: DemoArguments, DemoArguments.parse, DemoError, DemoError.message
-/
import Uplink.Config.Document
import Uplink.Connector.Error
import Uplink.Payload.Registry
import Uplink.Text.Utf8

namespace Uplink

/-- The arguments: where the configuration is, and which address to connect to. -/
structure DemoArguments where
  configuration : Option String
  address : Option String
deriving DecidableEq, Repr, Inhabited

/-- What can go wrong. -/
inductive DemoError where
  | unknownArgument (argument : String)
  | pathMissing
  | addressMissing
  | unreadableFile (path reason : String)
  | configuration (error : ConfigError)
  | transport (error : TransportError)
  | connector (error : ConnectorError)
  | payload (error : PayloadError)
  | emptyPool
deriving Repr, Inhabited

namespace DemoError

/-- The error's text. -/
def message : DemoError → String
  | unknownArgument argument =>
      "未知参数 `" ++ argument
        ++ "`；用法: connector_demo [--config <path>] [--address <host:port>]"
  | pathMissing => "--config 之后必须提供文件路径"
  | addressMissing => "--address 之后必须提供 host:port"
  | unreadableFile path reason => "读取 " ++ path ++ " 失败: " ++ reason
  | configuration error => "[" ++ error.code ++ "] " ++ error.message
  | transport error => error.message
  | connector error => "[" ++ error.code ++ "] " ++ error.message
  | payload error => error.message
  | emptyPool => "连接池为空"

end DemoError

namespace DemoArguments

/-- Read arguments behind the ones already read.  Of an option that comes twice the later one counts. -/
def parseOnto (parsed : DemoArguments) : List String → Except DemoError DemoArguments
  | [] => .ok parsed
  | "--config" :: path :: rest => parseOnto { parsed with configuration := some path } rest
  | ["--config"] => .error .pathMissing
  | "--address" :: address :: rest => parseOnto { parsed with address := some address } rest
  | ["--address"] => .error .addressMissing
  | argument :: _ => .error (.unknownArgument argument)

/-- Read the arguments. -/
def parse (arguments : List String) : Except DemoError DemoArguments :=
  parseOnto { configuration := none, address := none } arguments

end DemoArguments

/-- What reading a file gives: its bytes, or why it cannot be read. -/
abbrev FileContent : Type := Except String (List UInt8)

/-- The reason why a file that is not there cannot be read. -/
def noSuchFile : String := "No such file or directory (os error 2)"

/-- The reason why a directory cannot be read. -/
def isDirectory : String := "Is a directory (os error 21)"

/-- The text of a file. -/
def FileContent.text (content : FileContent) : Except String String :=
  match content with
  | .error reason => .error reason
  | .ok bytes =>
      match Text.textOfBytes? bytes with
      | some text => .ok text
      | none => .error "stream did not contain valid UTF-8"

end Uplink
