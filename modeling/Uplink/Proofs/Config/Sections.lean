/-
Module: Uplink.Proofs.Config.Sections
Purpose: How each section of a connector's configuration is laid out in JSON, and what follows: a text with any
  of the fields gives the standard configuration with exactly those replaced, and the text of a configuration
  gives that configuration.
Main exports: PoolConfig.layout, WatchdogConfig.layout, SocketOptions.layout, FrameConfig.layout,
  ConnectorConfig.layout, ConnectorConfig.ofJsonText?_overrides
-/
import Uplink.Config.Connector
import Uplink.Proofs.Config.Overrides

namespace Uplink

open Text Setting

/-! ### The pool -/

namespace PoolConfig

/-- A field of the section with a value for it. -/
inductive Override where
  | capacity (value : Option UInt64)
  | warmUpMillis (value : UInt64)
  | lossIntervalMillis (value : UInt64)
  | pollWindowMillis (value : UInt64)
  | acquireTimeoutMillis (value : Option UInt64)

/-- The layout of the section. -/
def layout : Layout PoolConfig Override where
  name
    | .capacity _ => "capacity"
    | .warmUpMillis _ => "warm_up_ms"
    | .lossIntervalMillis _ => "loss_interval_ms"
    | .pollWindowMillis _ => "poll_window_ms"
    | .acquireTimeoutMillis _ => "acquire_timeout_ms"
  Written
    | .capacity value, tree => tree.IsOptional (value.map UInt64.toNat)
    | .warmUpMillis value, tree => tree.IsNatural value.toNat
    | .lossIntervalMillis value, tree => tree.IsNatural value.toNat
    | .pollWindowMillis value, tree => tree.IsNatural value.toNat
    | .acquireTimeoutMillis value, tree => tree.IsOptional (value.map UInt64.toNat)
  replace config
    | .capacity value => { config with capacity := value }
    | .warmUpMillis value => { config with warmUpMillis := value }
    | .lossIntervalMillis value => { config with lossIntervalMillis := value }
    | .pollWindowMillis value => { config with pollWindowMillis := value }
    | .acquireTimeoutMillis value => { config with acquireTimeoutMillis := value }

/-- The overrides that make any section the given one. -/
def overrides (config : PoolConfig) : List Override :=
  [.capacity config.capacity, .warmUpMillis config.warmUpMillis,
   .lossIntervalMillis config.lossIntervalMillis, .pollWindowMillis config.pollWindowMillis,
   .acquireTimeoutMillis config.acquireTimeoutMillis]

theorem foldl_overrides (start config : PoolConfig) :
    config.overrides.foldl layout.replace start = config := rfl

theorem names_of_overrides (config : PoolConfig) :
    config.overrides.map layout.name = fields.map Field.name := rfl

theorem layout_servedBy : layout.ServedBy fields where
  named := Layout.named_of_names (names_of_overrides standard)
  served {override _} written := by
    cases override with
    | capacity =>
        exact ⟨_, rfl, Field.assign_of (JsonTree.IsOptional.long? written)⟩
    | warmUpMillis => exact ⟨_, rfl, Field.assign_of (JsonTree.IsNatural.long? written)⟩
    | lossIntervalMillis => exact ⟨_, rfl, Field.assign_of (JsonTree.IsNatural.long? written)⟩
    | pollWindowMillis => exact ⟨_, rfl, Field.assign_of (JsonTree.IsNatural.long? written)⟩
    | acquireTimeoutMillis =>
        exact ⟨_, rfl, Field.assign_of (JsonTree.IsOptional.long? written)⟩

/-- The JSON object of a section overrides every field by the section's value. -/
theorem isObject_toJson (config : PoolConfig) : layout.IsObject config.overrides config.toJson.tree := by
  apply Layout.isObject_of_forall₂
  · rw [names_of_overrides]
    decide
  · simp only [overrides, List.forall₂_cons]
    exact ⟨⟨rfl, JsonTree.isOptional_ofOptional _⟩, ⟨rfl, JsonTree.isNatural_ofWord _⟩,
      ⟨rfl, JsonTree.isNatural_ofWord _⟩, ⟨rfl, JsonTree.isNatural_ofWord _⟩,
      ⟨rfl, JsonTree.isOptional_ofOptional _⟩, .nil⟩

theorem integral_toJson (config : PoolConfig) : config.toJson.Integral :=
  ⟨trivial, Json.integral_ofOptional _, Json.integral_ofWord _, Json.integral_ofWord _,
    Json.integral_ofWord _, Json.integral_ofOptional _, trivial⟩

end PoolConfig

/-! ### The watchdogs -/

namespace WatchdogConfig

/-- A field of the section with a value for it. -/
inductive Override where
  | backoffStepMillis (value : UInt64)
  | backoffMostSteps (value : UInt32)
  | notifyQueueCapacity (value : UInt64)

/-- The layout of the section. -/
def layout : Layout WatchdogConfig Override where
  name
    | .backoffStepMillis _ => "backoff_step_ms"
    | .backoffMostSteps _ => "backoff_max_steps"
    | .notifyQueueCapacity _ => "notify_queue_capacity"
  Written
    | .backoffStepMillis value, tree => tree.IsNatural value.toNat
    | .backoffMostSteps value, tree => tree.IsNatural value.toNat
    | .notifyQueueCapacity value, tree => tree.IsNatural value.toNat
  replace config
    | .backoffStepMillis value => { config with backoffStepMillis := value }
    | .backoffMostSteps value => { config with backoffMostSteps := value }
    | .notifyQueueCapacity value => { config with notifyQueueCapacity := value }

/-- The overrides that make any section the given one. -/
def overrides (config : WatchdogConfig) : List Override :=
  [.backoffStepMillis config.backoffStepMillis, .backoffMostSteps config.backoffMostSteps,
   .notifyQueueCapacity config.notifyQueueCapacity]

theorem foldl_overrides (start config : WatchdogConfig) :
    config.overrides.foldl layout.replace start = config := rfl

theorem names_of_overrides (config : WatchdogConfig) :
    config.overrides.map layout.name = fields.map Field.name := rfl

theorem layout_servedBy : layout.ServedBy fields where
  named := Layout.named_of_names (names_of_overrides standard)
  served {override _} written := by
    cases override with
    | backoffStepMillis => exact ⟨_, rfl, Field.assign_of (JsonTree.IsNatural.long? written)⟩
    | backoffMostSteps => exact ⟨_, rfl, Field.assign_of (JsonTree.IsNatural.word? written)⟩
    | notifyQueueCapacity => exact ⟨_, rfl, Field.assign_of (JsonTree.IsNatural.long? written)⟩

/-- The JSON object of a section overrides every field by the section's value. -/
theorem isObject_toJson (config : WatchdogConfig) : layout.IsObject config.overrides config.toJson.tree := by
  apply Layout.isObject_of_forall₂
  · rw [names_of_overrides]
    decide
  · simp only [overrides, List.forall₂_cons]
    exact ⟨⟨rfl, JsonTree.isNatural_ofWord _⟩, ⟨rfl, JsonTree.isNatural_toUInt64 _⟩,
      ⟨rfl, JsonTree.isNatural_ofWord _⟩, .nil⟩

theorem integral_toJson (config : WatchdogConfig) : config.toJson.Integral :=
  ⟨trivial, Json.integral_ofWord _, Json.integral_ofWord _, Json.integral_ofWord _, trivial⟩

end WatchdogConfig

/-! ### The sockets -/

namespace SocketOptions

/-- A field of the section with a value for it. -/
inductive Override where
  | noDelay (value : Bool)
  | keepAlive (value : Bool)
  | reuseAddress (value : Bool)
  | allowHalfClosure (value : Bool)
  | sendBufferSize (value : Option UInt32)
  | receiveBufferSize (value : Option UInt32)
  | lingerMillis (value : Option UInt64)
  | typeOfService (value : Option UInt32)
  | lowWaterMark (value : UInt64)
  | highWaterMark (value : UInt64)
  | connectTimeoutMillis (value : UInt64)

/-- The layout of the section. -/
def layout : Layout SocketOptions Override where
  name
    | .noDelay _ => "tcp_nodelay"
    | .keepAlive _ => "keep_alive"
    | .reuseAddress _ => "reuse_address"
    | .allowHalfClosure _ => "allow_half_closure"
    | .sendBufferSize _ => "send_buffer_size"
    | .receiveBufferSize _ => "recv_buffer_size"
    | .lingerMillis _ => "linger_ms"
    | .typeOfService _ => "ip_tos"
    | .lowWaterMark _ => "write_buffer_low_water_mark"
    | .highWaterMark _ => "write_buffer_high_water_mark"
    | .connectTimeoutMillis _ => "connect_timeout_ms"
  Written
    | .noDelay value, tree => tree.IsFlag value
    | .keepAlive value, tree => tree.IsFlag value
    | .reuseAddress value, tree => tree.IsFlag value
    | .allowHalfClosure value, tree => tree.IsFlag value
    | .sendBufferSize value, tree => tree.IsOptional (value.map UInt32.toNat)
    | .receiveBufferSize value, tree => tree.IsOptional (value.map UInt32.toNat)
    | .lingerMillis value, tree => tree.IsOptional (value.map UInt64.toNat)
    | .typeOfService value, tree => tree.IsOptional (value.map UInt32.toNat)
    | .lowWaterMark value, tree => tree.IsNatural value.toNat
    | .highWaterMark value, tree => tree.IsNatural value.toNat
    | .connectTimeoutMillis value, tree => tree.IsNatural value.toNat
  replace options
    | .noDelay value => { options with noDelay := value }
    | .keepAlive value => { options with keepAlive := value }
    | .reuseAddress value => { options with reuseAddress := value }
    | .allowHalfClosure value => { options with allowHalfClosure := value }
    | .sendBufferSize value => { options with sendBufferSize := value }
    | .receiveBufferSize value => { options with receiveBufferSize := value }
    | .lingerMillis value => { options with lingerMillis := value }
    | .typeOfService value => { options with typeOfService := value }
    | .lowWaterMark value => { options with lowWaterMark := value }
    | .highWaterMark value => { options with highWaterMark := value }
    | .connectTimeoutMillis value => { options with connectTimeoutMillis := value }

/-- The overrides that make any section the given one. -/
def overrides (options : SocketOptions) : List Override :=
  [.noDelay options.noDelay, .keepAlive options.keepAlive, .reuseAddress options.reuseAddress,
   .allowHalfClosure options.allowHalfClosure, .sendBufferSize options.sendBufferSize,
   .receiveBufferSize options.receiveBufferSize, .lingerMillis options.lingerMillis,
   .typeOfService options.typeOfService, .lowWaterMark options.lowWaterMark,
   .highWaterMark options.highWaterMark, .connectTimeoutMillis options.connectTimeoutMillis]

theorem foldl_overrides (start options : SocketOptions) :
    options.overrides.foldl layout.replace start = options := by
  simp only [overrides, List.foldl_cons, List.foldl_nil, layout]

theorem names_of_overrides (options : SocketOptions) :
    options.overrides.map layout.name = fields.map Field.name := rfl

theorem layout_servedBy : layout.ServedBy fields where
  named := Layout.named_of_names (names_of_overrides standard)
  served {override _} written := by
    cases override with
    | noDelay => exact ⟨_, rfl, Field.assign_of (JsonTree.IsFlag.flag? written)⟩
    | keepAlive => exact ⟨_, rfl, Field.assign_of (JsonTree.IsFlag.flag? written)⟩
    | reuseAddress => exact ⟨_, rfl, Field.assign_of (JsonTree.IsFlag.flag? written)⟩
    | allowHalfClosure => exact ⟨_, rfl, Field.assign_of (JsonTree.IsFlag.flag? written)⟩
    | sendBufferSize => exact ⟨_, rfl, Field.assign_of (JsonTree.IsOptional.word? written)⟩
    | receiveBufferSize => exact ⟨_, rfl, Field.assign_of (JsonTree.IsOptional.word? written)⟩
    | lingerMillis => exact ⟨_, rfl, Field.assign_of (JsonTree.IsOptional.long? written)⟩
    | typeOfService => exact ⟨_, rfl, Field.assign_of (JsonTree.IsOptional.word? written)⟩
    | lowWaterMark => exact ⟨_, rfl, Field.assign_of (JsonTree.IsNatural.long? written)⟩
    | highWaterMark => exact ⟨_, rfl, Field.assign_of (JsonTree.IsNatural.long? written)⟩
    | connectTimeoutMillis => exact ⟨_, rfl, Field.assign_of (JsonTree.IsNatural.long? written)⟩

/-- The JSON object of a section overrides every field by the section's value. -/
theorem isObject_toJson (options : SocketOptions) :
    layout.IsObject options.overrides options.toJson.tree := by
  apply Layout.isObject_of_forall₂
  · rw [names_of_overrides]
    decide
  · simp only [overrides, List.forall₂_cons]
    exact ⟨⟨rfl, rfl⟩, ⟨rfl, rfl⟩, ⟨rfl, rfl⟩, ⟨rfl, rfl⟩, ⟨rfl, JsonTree.isOptional_toUInt64 _⟩,
      ⟨rfl, JsonTree.isOptional_toUInt64 _⟩, ⟨rfl, JsonTree.isOptional_ofOptional _⟩,
      ⟨rfl, JsonTree.isOptional_toUInt64 _⟩, ⟨rfl, JsonTree.isNatural_ofWord _⟩,
      ⟨rfl, JsonTree.isNatural_ofWord _⟩, ⟨rfl, JsonTree.isNatural_ofWord _⟩, .nil⟩

theorem integral_toJson (options : SocketOptions) : options.toJson.Integral :=
  ⟨trivial, trivial, trivial, trivial, trivial, Json.integral_ofOptional _, Json.integral_ofOptional _,
    Json.integral_ofOptional _, Json.integral_ofOptional _, Json.integral_ofWord _,
    Json.integral_ofWord _, Json.integral_ofWord _, trivial⟩

end SocketOptions

/-! ### The frames -/

namespace FrameConfig

/-- A field of the section with a value for it. -/
inductive Override where
  | maxFrameLength (value : UInt64)

/-- The layout of the section. -/
def layout : Layout FrameConfig Override where
  name
    | .maxFrameLength _ => "max_frame_length"
  Written
    | .maxFrameLength value, tree => tree.IsNatural value.toNat
  replace config
    | .maxFrameLength value => { config with maxFrameLength := value }

/-- The overrides that make any section the given one. -/
def overrides (config : FrameConfig) : List Override :=
  [.maxFrameLength config.maxFrameLength]

theorem foldl_overrides (start config : FrameConfig) :
    config.overrides.foldl layout.replace start = config := rfl

theorem names_of_overrides (config : FrameConfig) :
    config.overrides.map layout.name = fields.map Field.name := rfl

theorem layout_servedBy : layout.ServedBy fields where
  named := Layout.named_of_names (names_of_overrides standard)
  served {override _} written := by
    cases override with
    | maxFrameLength => exact ⟨_, rfl, Field.assign_of (JsonTree.IsNatural.long? written)⟩

/-- The JSON object of a section overrides every field by the section's value. -/
theorem isObject_toJson (config : FrameConfig) : layout.IsObject config.overrides config.toJson.tree := by
  apply Layout.isObject_of_forall₂
  · rw [names_of_overrides]
    decide
  · simp only [overrides, List.forall₂_cons]
    exact ⟨⟨rfl, JsonTree.isNatural_ofWord _⟩, .nil⟩

theorem integral_toJson (config : FrameConfig) : config.toJson.Integral :=
  ⟨trivial, Json.integral_ofWord _, trivial⟩

end FrameConfig

/-! ### The whole configuration -/

namespace ConnectorConfig

/-- A section with what is said about its fields. -/
inductive Override where
  | pool (overrides : List PoolConfig.Override)
  | watchdog (overrides : List WatchdogConfig.Override)
  | socket (overrides : List SocketOptions.Override)
  | frame (overrides : List FrameConfig.Override)

/-- The layout of a configuration: each section is an object of its own, and a field that it leaves out is the
standard one. -/
def layout : Layout ConnectorConfig Override where
  name
    | .pool _ => "pool"
    | .watchdog _ => "watchdog"
    | .socket _ => "socket"
    | .frame _ => "frame"
  Written
    | .pool overrides, tree => PoolConfig.layout.IsObject overrides tree
    | .watchdog overrides, tree => WatchdogConfig.layout.IsObject overrides tree
    | .socket overrides, tree => SocketOptions.layout.IsObject overrides tree
    | .frame overrides, tree => FrameConfig.layout.IsObject overrides tree
  replace config
    | .pool overrides => { config with pool := overrides.foldl PoolConfig.layout.replace .standard }
    | .watchdog overrides =>
        { config with watchdog := overrides.foldl WatchdogConfig.layout.replace .standard }
    | .socket overrides => { config with socket := overrides.foldl SocketOptions.layout.replace .standard }
    | .frame overrides => { config with frame := overrides.foldl FrameConfig.layout.replace .standard }

/-- The overrides that make any configuration the given one. -/
def overrides (config : ConnectorConfig) : List Override :=
  [.pool config.pool.overrides, .watchdog config.watchdog.overrides, .socket config.socket.overrides,
   .frame config.frame.overrides]

theorem foldl_overrides (start config : ConnectorConfig) :
    config.overrides.foldl layout.replace start = config := by
  simp only [overrides, List.foldl_cons, List.foldl_nil, layout, PoolConfig.foldl_overrides,
    WatchdogConfig.foldl_overrides, SocketOptions.foldl_overrides, FrameConfig.foldl_overrides]

theorem names_of_overrides (config : ConnectorConfig) (counted : Bool) :
    config.overrides.map layout.name = (fields counted).map Field.name := rfl

theorem layout_servedBy (counted : Bool) : layout.ServedBy (fields counted) where
  named := Layout.named_of_names (names_of_overrides standard counted)
  served {override _} written := by
    cases override with
    | pool => exact ⟨_, rfl, Field.assign_of (written.record? PoolConfig.layout_servedBy counted .standard)⟩
    | watchdog =>
        exact ⟨_, rfl, Field.assign_of (written.record? WatchdogConfig.layout_servedBy counted .standard)⟩
    | socket =>
        exact ⟨_, rfl, Field.assign_of (written.record? SocketOptions.layout_servedBy counted .standard)⟩
    | frame =>
        exact ⟨_, rfl, Field.assign_of (written.record? FrameConfig.layout_servedBy counted .standard)⟩

/-- The JSON object of a configuration overrides every field by the configuration's value. -/
theorem isObject_toJson (config : ConnectorConfig) : layout.IsObject config.overrides config.toJson.tree := by
  apply Layout.isObject_of_forall₂
  · rw [names_of_overrides config true]
    decide
  · simp only [overrides, List.forall₂_cons]
    exact ⟨⟨rfl, config.pool.isObject_toJson⟩, ⟨rfl, config.watchdog.isObject_toJson⟩,
      ⟨rfl, config.socket.isObject_toJson⟩, ⟨rfl, config.frame.isObject_toJson⟩, .nil⟩

theorem integral_toJson (config : ConnectorConfig) : config.toJson.Integral :=
  ⟨trivial, config.pool.integral_toJson, config.watchdog.integral_toJson, config.socket.integral_toJson,
    config.frame.integral_toJson, trivial⟩

/-- A text that is an object with some fields is read as the standard configuration with exactly those fields
replaced. -/
theorem ofJsonText?_isObject {bytes : List UInt8} {tree : JsonTree} {overrides : List Override}
    (isRead : JsonTree.read? bytes = some tree) (isObject : layout.IsObject overrides tree) :
    ofJsonText? bytes = some (overrides.foldl layout.replace standard) := by
  rw [ofJsonText?, isRead, Option.bind_eq_bind, Option.bind_some, ofSetting?]
  exact isObject.record? (layout_servedBy true) true standard

/-- The text of a configuration is read as that configuration. -/
theorem ofJsonText?_render (config : ConnectorConfig) :
    ofJsonText? (bytesOfText config.toJson.render) = some config := by
  rw [Json.bytesOfText_render, ofJsonText?_isObject (Json.read?_bytes config.integral_toJson)
    config.isObject_toJson, foldl_overrides]

/-- A configuration survives its JSON text.  A JSON text with any of the fields, each of them once and with a
value of its type, gives the standard configuration with exactly those fields replaced, in whatever order they
stand and whatever else stands between them. -/
theorem survives_json :
    (∀ config : ConnectorConfig, ofJsonText? (bytesOfText config.toJson.render) = some config) ∧
      ∀ (bytes : List UInt8) (tree : JsonTree) (overrides : List Override),
        JsonTree.read? bytes = some tree → layout.IsObject overrides tree →
          ofJsonText? bytes = some (overrides.foldl layout.replace standard) :=
  ⟨ofJsonText?_render, fun _ _ _ => ofJsonText?_isObject⟩

/-- A text with one field of one section, and with members that have other names. -/
theorem survives_json_of_one_field :
    ofJsonText? (bytesOfText (Json.object
      [("other", .array [.null]), ("frame", .object [("max_frame_length", .ofWord 64), ("", .null)])]).render) =
      some { standard with frame := { maxFrameLength := 64 } } := by
  rw [Json.bytesOfText_render]
  apply survives_json.2 _ _ [.frame [.maxFrameLength 64]] (Json.read?_bytes _)
  · refine ⟨_, rfl, .unknown (RawText.decode?_ofText _) ?_ (.override (RawText.decode?_ofText _) ?_ ?_ .nil)⟩
    · rintro (_ | _ | _ | _) <;> simp [layout]
    · refine ⟨_, rfl, .override (RawText.decode?_ofText _) (JsonTree.isNatural_ofWord 64) ?_
        (.unknown (RawText.decode?_ofText _) ?_ .nil)⟩
      · exact nofun
      · rintro ⟨_⟩
        simp [FrameConfig.layout]
    · exact nofun
  · exact ⟨trivial, ⟨trivial, trivial⟩, ⟨trivial, Json.integral_ofWord _, trivial, trivial⟩, trivial⟩

end ConnectorConfig

end Uplink
