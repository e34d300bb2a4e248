/-
Module: Uplink.Config.Socket
Purpose: Socket options as a section of a configuration document.
Main exports: SocketOptions.fields, SocketOptions.ofSetting?, SocketOptions.toJson
-/
import Uplink.Config.Setting
import Uplink.Json.Printer
import Uplink.Transport.SocketOptions

namespace Uplink

/-- An optional value as JSON. -/
def Json.ofOptional (value : Option UInt64) : Json :=
  match value with
  | some word => .ofWord word
  | none => .null

namespace SocketOptions

/-- The fields of the section, in the order of a list that stands for it. -/
def fields : List (Setting.Field SocketOptions) :=
  [.of "tcp_nodelay" Setting.flag? fun options value => { options with noDelay := value },
   .of "keep_alive" Setting.flag? fun options value => { options with keepAlive := value },
   .of "reuse_address" Setting.flag? fun options value => { options with reuseAddress := value },
   .of "allow_half_closure" Setting.flag? fun options value =>
     { options with allowHalfClosure := value },
   .of "send_buffer_size" (Setting.optional? Setting.word?) fun options value =>
     { options with sendBufferSize := value },
   .of "recv_buffer_size" (Setting.optional? Setting.word?) fun options value =>
     { options with receiveBufferSize := value },
   .of "linger_ms" (Setting.optional? Setting.long?) fun options value =>
     { options with lingerMillis := value },
   .of "ip_tos" (Setting.optional? Setting.word?) fun options value =>
     { options with typeOfService := value },
   .of "write_buffer_low_water_mark" Setting.long? fun options value =>
     { options with lowWaterMark := value },
   .of "write_buffer_high_water_mark" Setting.long? fun options value =>
     { options with highWaterMark := value },
   .of "connect_timeout_ms" Setting.long? fun options value =>
     { options with connectTimeoutMillis := value }]

/-- The options that a document's section describes. -/
def ofSetting? (counted : Bool) (setting : Setting) : Option SocketOptions :=
  setting.record? counted fields standard

/-- The options that a JSON text describes. -/
def ofJsonText? (bytes : List UInt8) : Option SocketOptions := do
  let tree ← JsonTree.read? bytes
  ofSetting? true (Setting.ofTree tree)

/-- The options as a JSON object, in the order of the fields. -/
def toJson (options : SocketOptions) : Json :=
  .object
    [("tcp_nodelay", .boolean options.noDelay),
     ("keep_alive", .boolean options.keepAlive),
     ("reuse_address", .boolean options.reuseAddress),
     ("allow_half_closure", .boolean options.allowHalfClosure),
     ("send_buffer_size", .ofOptional (options.sendBufferSize.map UInt32.toUInt64)),
     ("recv_buffer_size", .ofOptional (options.receiveBufferSize.map UInt32.toUInt64)),
     ("linger_ms", .ofOptional options.lingerMillis),
     ("ip_tos", .ofOptional (options.typeOfService.map UInt32.toUInt64)),
     ("write_buffer_low_water_mark", .ofWord options.lowWaterMark),
     ("write_buffer_high_water_mark", .ofWord options.highWaterMark),
     ("connect_timeout_ms", .ofWord options.connectTimeoutMillis)]

end SocketOptions

end Uplink
