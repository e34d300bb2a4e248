/-
Module: Uplink.Config.Connector
Purpose: The configuration of a connector: its sections, their defaults and their limits.
Main exports: PoolConfig, WatchdogConfig, ConnectorConfig, ConnectorConfig.validate,
  ConnectorConfig.ofSetting?, ConnectorConfig.toJson, ConfigError
-/
import Uplink.Config.Socket
import Uplink.Frame.Codec
import Uplink.Watchdog.Backoff

namespace Uplink

/-- How a pool behaves.  Without a capacity it has no bound; without an acquire timeout a caller waits
as long as it takes. -/
structure PoolConfig where
  capacity : Option UInt64
  warmUpMillis : UInt64
  lossIntervalMillis : UInt64
  pollWindowMillis : UInt64
  acquireTimeoutMillis : Option UInt64
deriving DecidableEq, Repr

namespace PoolConfig

/-- Ten minutes of warm-up, five minutes until a lost pool counts as gone, polls of one second. -/
def standard : PoolConfig :=
  { capacity := none
    warmUpMillis := 600000
    lossIntervalMillis := 300000
    pollWindowMillis := 1000
    acquireTimeoutMillis := none }

instance : Inhabited PoolConfig := ⟨standard⟩

/-- The capacity, the greatest number where there is no bound. -/
def bound (config : PoolConfig) : UInt64 :=
  config.capacity.getD (UInt64.ofNat 0xFFFFFFFFFFFFFFFF)

/-- The warm-up time. -/
def warmUp (config : PoolConfig) : Span := Span.ofMillis config.warmUpMillis

/-- The time from the loss of the last channel to the loss deadline. -/
def lossInterval (config : PoolConfig) : Span := Span.ofMillis config.lossIntervalMillis

/-- How long one wait lasts before members are looked at again. -/
def pollWindow (config : PoolConfig) : Span := Span.ofMillis config.pollWindowMillis

/-- How long a caller waits in all. -/
def acquireTimeout (config : PoolConfig) : Option Span :=
  config.acquireTimeoutMillis.map Span.ofMillis

/-- The fields of the section, in the order of a list that stands for it. -/
def fields : List (Setting.Field PoolConfig) :=
  [.of "capacity" (Setting.optional? Setting.long?) fun config value =>
     { config with capacity := value },
   .of "warm_up_ms" Setting.long? fun config value => { config with warmUpMillis := value },
   .of "loss_interval_ms" Setting.long? fun config value => { config with lossIntervalMillis := value },
   .of "poll_window_ms" Setting.long? fun config value => { config with pollWindowMillis := value },
   .of "acquire_timeout_ms" (Setting.optional? Setting.long?) fun config value =>
     { config with acquireTimeoutMillis := value }]

/-- The section that a document describes. -/
def ofSetting? (counted : Bool) (setting : Setting) : Option PoolConfig :=
  setting.record? counted fields standard

/-- The section as a JSON object. -/
def toJson (config : PoolConfig) : Json :=
  .object
    [("capacity", .ofOptional config.capacity),
     ("warm_up_ms", .ofWord config.warmUpMillis),
     ("loss_interval_ms", .ofWord config.lossIntervalMillis),
     ("poll_window_ms", .ofWord config.pollWindowMillis),
     ("acquire_timeout_ms", .ofOptional config.acquireTimeoutMillis)]

end PoolConfig

/-- How a watchdog behaves. -/
structure WatchdogConfig where
  backoffStepMillis : UInt64
  backoffMostSteps : UInt32
  notifyQueueCapacity : UInt64
deriving DecidableEq, Repr

namespace WatchdogConfig

/-- The standard backoff, and room for 1024 notifications. -/
def standard : WatchdogConfig :=
  { backoffStepMillis := 200, backoffMostSteps := 12, notifyQueueCapacity := 1024 }

instance : Inhabited WatchdogConfig := ⟨standard⟩

/-- The backoff that the section describes. -/
def backoff (config : WatchdogConfig) : Backoff :=
  Backoff.make (Span.ofMillis config.backoffStepMillis) config.backoffMostSteps

/-- The fields of the section, in the order of a list that stands for it. -/
def fields : List (Setting.Field WatchdogConfig) :=
  [.of "backoff_step_ms" Setting.long? fun config value => { config with backoffStepMillis := value },
   .of "backoff_max_steps" Setting.word? fun config value => { config with backoffMostSteps := value },
   .of "notify_queue_capacity" Setting.long? fun config value =>
     { config with notifyQueueCapacity := value }]

/-- The section that a document describes. -/
def ofSetting? (counted : Bool) (setting : Setting) : Option WatchdogConfig :=
  setting.record? counted fields standard

/-- The section as a JSON object. -/
def toJson (config : WatchdogConfig) : Json :=
  .object
    [("backoff_step_ms", .ofWord config.backoffStepMillis),
     ("backoff_max_steps", .ofWord config.backoffMostSteps.toUInt64),
     ("notify_queue_capacity", .ofWord config.notifyQueueCapacity)]

end WatchdogConfig

/-- How frames are cut. -/
structure FrameConfig where
  maxFrameLength : UInt64
deriving DecidableEq, Repr

namespace FrameConfig

/-- The codec's default limit. -/
def standard : FrameConfig := { maxFrameLength := UInt64.ofNat FrameCodec.defaultLimit }

instance : Inhabited FrameConfig := ⟨standard⟩

/-- The codec that the section describes. -/
def codec (config : FrameConfig) : FrameCodec :=
  FrameCodec.withLimit config.maxFrameLength.toNat

/-- The only field of the section. -/
def fields : List (Setting.Field FrameConfig) :=
  [.of "max_frame_length" Setting.long? fun _ value => { maxFrameLength := value }]

/-- The section that a document describes. -/
def ofSetting? (counted : Bool) (setting : Setting) : Option FrameConfig :=
  setting.record? counted fields standard

/-- The section as a JSON object. -/
def toJson (config : FrameConfig) : Json :=
  .object [("max_frame_length", .ofWord config.maxFrameLength)]

end FrameConfig

/-- What is wrong with a configuration. -/
inductive ConfigError where
  | unreadable
  | invalid (field reason : String)
deriving DecidableEq, Repr, Inhabited

namespace ConfigError

/-- The error's text, up to the detail that a reader of documents may add behind it. -/
def message : ConfigError → String
  | unreadable => "invalid connector config: "
  | invalid field reason => "invalid value for `" ++ field ++ "`: " ++ reason

/-- The error's stable code. -/
def code : ConfigError → String
  | unreadable => "spark.connector.config.parse_failed"
  | invalid .. => "spark.connector.config.invalid_value"

end ConfigError

/-- The configuration of a connector. -/
structure ConnectorConfig where
  pool : PoolConfig
  watchdog : WatchdogConfig
  socket : SocketOptions
  frame : FrameConfig
deriving DecidableEq, Repr

namespace ConnectorConfig

/-- Every section as it is where nothing is said. -/
def standard : ConnectorConfig :=
  { pool := .standard, watchdog := .standard, socket := .standard, frame := .standard }

instance : Inhabited ConnectorConfig := ⟨standard⟩

/-- The sections, in the order of a list that stands for the configuration. -/
def fields (counted : Bool) : List (Setting.Field ConnectorConfig) :=
  [.of "pool" (PoolConfig.ofSetting? counted) fun config value => { config with pool := value },
   .of "watchdog" (WatchdogConfig.ofSetting? counted) fun config value =>
     { config with watchdog := value },
   .of "socket" (SocketOptions.ofSetting? counted) fun config value => { config with socket := value },
   .of "frame" (FrameConfig.ofSetting? counted) fun config value => { config with frame := value }]

/-- The configuration that a document describes.  A notation either counts the items of a list that
stands for a section, or passes over those that are too many. -/
def ofSetting? (counted : Bool) (setting : Setting) : Option ConnectorConfig :=
  setting.record? counted (fields counted) standard

/-- The configuration that a JSON text describes. -/
def ofJsonText? (bytes : List UInt8) : Option ConnectorConfig := do
  let tree ← JsonTree.read? bytes
  ofSetting? true (Setting.ofTree tree)

/-- The configuration as a JSON object. -/
def toJson (config : ConnectorConfig) : Json :=
  .object
    [("pool", config.pool.toJson), ("watchdog", config.watchdog.toJson),
     ("socket", config.socket.toJson), ("frame", config.frame.toJson)]

/-- The reason given for a value that must not be zero. -/
def mustNotBeZero : String := "must be greater than zero"

/-- Check the limits of every field, in a fixed order; the first violation is reported. -/
def validate (config : ConnectorConfig) : Except ConfigError Unit :=
  if config.pool.pollWindowMillis = 0 then
    .error (.invalid "pool.poll_window_ms" mustNotBeZero)
  else if config.pool.capacity = some 0 then
    .error (.invalid "pool.capacity" mustNotBeZero)
  else if config.watchdog.backoffMostSteps = 0 then
    .error (.invalid "watchdog.backoff_max_steps" mustNotBeZero)
  else if config.watchdog.notifyQueueCapacity = 0 then
    .error (.invalid "watchdog.notify_queue_capacity" mustNotBeZero)
  else if config.frame.maxFrameLength.toNat < headerLength then
    .error (.invalid "frame.max_frame_length" "must cover the frame header")
  else
    .ok ()

end ConnectorConfig

end Uplink
