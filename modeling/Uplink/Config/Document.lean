/-
Module: Uplink.Config.Document
Purpose: A connector's configuration from a TOML document.
Main exports: Setting.ofToml, ConnectorConfig.ofTomlText
-/
import Uplink.Config.Connector
import Uplink.Toml.Reader

namespace Uplink

namespace Setting

mutual

/-- The setting that a TOML value stands for.  A date stands for a record none of whose fields is
known. -/
def ofToml : Toml → Setting
  | .text value => .text value
  | .integer value => .integer value
  | .real => .foreign
  | .flag value => .flag value
  | .moment => .table []
  | .list items => .list (ofTomls items)
  | .sealedTable entries => .table (ofTomlEntries entries)
  | .table _ entries => .table (ofTomlEntries entries)
  | .tables items => .list (ofTomls items)

/-- The settings of some values. -/
def ofTomls : List Toml → List Setting
  | [] => []
  | item :: rest => ofToml item :: ofTomls rest

/-- The settings of some entries. -/
def ofTomlEntries : List (String × Toml) → List (Option String × Setting)
  | [] => []
  | (key, item) :: rest => (some key, ofToml item) :: ofTomlEntries rest

end

end Setting

/-- The configuration that a TOML document describes, within its limits. -/
def ConnectorConfig.ofTomlText (text : String) : Except ConfigError ConnectorConfig :=
  match (Toml.ofText? text).bind fun entries =>
      ofSetting? false (.table (Setting.ofTomlEntries entries)) with
  | none => .error .unreadable
  | some config =>
      match config.validate with
      | .ok () => .ok config
      | .error error => .error error

end Uplink
