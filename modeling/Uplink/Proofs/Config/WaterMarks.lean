/-
Module: Uplink.Proofs.Config.WaterMarks
Purpose: The water marks of every socket options that can reach a channel: a use of their setter puts
  them in order for good, and before the first use they are the ones that the document gives.
Main exports: SocketOptions.Origin, SocketOptions.Origin.mark, SocketOptions.marks_ordered_iff
-/
import Uplink.Config.Document
import Uplink.Proofs.Config.Record

namespace Uplink

namespace Setting

/-- The number that a configuration document gives for a field of its socket section. -/
def socketNumber? (document : Setting) (name : String) : Option UInt64 := do
  let part ← document.at? ["pool", "watchdog", "socket", "frame"] "socket"
  let setting ← part.at? (SocketOptions.fields.map Field.name) name
  setting.long?

end Setting

namespace SocketOptions

/-- Where socket options come from: they are the standard ones, or those of a configuration in TOML or in
JSON. -/
inductive Origin where
  | standard
  | toml (text : String)
  | json (bytes : List UInt8)

namespace Origin

/-- The options, if the configuration is read and is within its limits. -/
def options? : Origin → Option SocketOptions
  | .standard => some .standard
  | .toml text =>
      match ConnectorConfig.ofTomlText text with
      | .ok config => some config.socket
      | .error _ => none
  | .json bytes => do
      let config ← ConnectorConfig.ofJsonText? bytes
      match config.validate with
      | .ok () => some config.socket
      | .error _ => none

/-- The configuration document, if there is one. -/
def document? : Origin → Option Setting
  | .standard => none
  | .toml text => (Toml.ofText? text).map fun entries => .table (Setting.ofTomlEntries entries)
  | .json bytes => (JsonTree.read? bytes).map Setting.ofTree

/-- A number of the socket section: the one that the document gives, or the standard one. -/
def number (origin : Origin) (name : String) (standard : UInt64) : UInt64 :=
  (origin.document?.bind fun document => document.socketNumber? name).getD standard

/-- The low water mark that an origin says. -/
def lowMark (origin : Origin) : UInt64 :=
  origin.number "write_buffer_low_water_mark" SocketOptions.standard.lowWaterMark

/-- The high water mark that an origin says. -/
def highMark (origin : Origin) : UInt64 :=
  origin.number "write_buffer_high_water_mark" SocketOptions.standard.highWaterMark

end Origin

/-! The marks as parts of the section, and the section as a part of the configuration. -/

theorem serves_lowMark :
    ∀ field ∈ fields, field.Serves "write_buffer_low_water_mark" Setting.long? lowWaterMark := by
  simp [fields, Setting.Field.of_serves]

theorem serves_highMark :
    ∀ field ∈ fields, field.Serves "write_buffer_high_water_mark" Setting.long? highWaterMark := by
  simp [fields, Setting.Field.of_serves]

theorem fields_distinct : (fields.map Setting.Field.name).Nodup := by
  decide

end SocketOptions

namespace ConnectorConfig

theorem serves_socket (counted : Bool) :
    ∀ field ∈ fields counted, field.Serves "socket" (SocketOptions.ofSetting? counted) socket := by
  simp [fields, Setting.Field.of_serves]

theorem names_of_fields (counted : Bool) :
    (fields counted).map Setting.Field.name = ["pool", "watchdog", "socket", "frame"] := rfl

variable {counted : Bool} {document : Setting} {config : ConnectorConfig}

/-- A number of the socket section of a configuration that was read. -/
theorem socketNumber_of_ofSetting? {name : String} {part : SocketOptions → UInt64}
    (serves : ∀ field ∈ SocketOptions.fields, field.Serves name Setting.long? part)
    (named : name ∈ SocketOptions.fields.map Setting.Field.name)
    (isRead : ofSetting? counted document = some config) :
    part config.socket = (document.socketNumber? name).getD (part .standard) := by
  have atSection := Setting.given_of_record? (serves_socket counted) (by simp [names_of_fields])
    (by simp [names_of_fields]) isRead
  rw [names_of_fields] at atSection
  unfold Setting.socketNumber?
  cases section? : document.at? ["pool", "watchdog", "socket", "frame"] "socket" with
  | none =>
      rw [section?] at atSection
      have isStandard : config.socket = .standard := atSection
      rw [isStandard]
      rfl
  | some setting =>
      rw [section?] at atSection
      have isSection : setting.record? counted SocketOptions.fields .standard = some config.socket :=
        atSection
      exact (Setting.given_of_record? serves named SocketOptions.fields_distinct isSection).eq

end ConnectorConfig

namespace SocketOptions

namespace Origin

/-- The options of an origin other than the standard ones are the socket section of a configuration read
from its document. -/
theorem config_of_options? {origin : Origin} {options : SocketOptions}
    (isFrom : origin.options? = some options) :
    origin.document? = none ∧ options = .standard ∨
      ∃ document counted config, origin.document? = some document ∧
        ConnectorConfig.ofSetting? counted document = some config ∧ options = config.socket := by
  cases origin with
  | standard =>
      cases isFrom
      exact .inl ⟨rfl, rfl⟩
  | toml text =>
      simp only [options?, ConnectorConfig.ofTomlText] at isFrom
      cases parsed : Toml.ofText? text with
      | none => simp [parsed] at isFrom
      | some entries =>
          refine .inr ⟨.table (Setting.ofTomlEntries entries), false, ?_⟩
          rw [parsed, Option.bind_some] at isFrom
          split at isFrom
          next config accepted =>
            split at accepted
            next => cases accepted
            next found isRead =>
              split at accepted
              next =>
                cases accepted
                exact ⟨config, by simp [document?, parsed], isRead, (Option.some.inj isFrom).symm⟩
              next => cases accepted
          next => cases isFrom
  | json bytes =>
      simp only [options?, ConnectorConfig.ofJsonText?, Option.bind_eq_bind,
        Option.bind_eq_some_iff] at isFrom
      obtain ⟨config, ⟨tree, parsed, isRead⟩, accepted⟩ := isFrom
      refine .inr ⟨Setting.ofTree tree, true, config, by simp [document?, parsed], isRead, ?_⟩
      split at accepted
      next => exact (Option.some.inj accepted).symm
      next => cases accepted

/-- An accepted document has the numbers of its socket section in the options as they stand. -/
theorem number_of_options? {origin : Origin} {options : SocketOptions} {name : String}
    {part : SocketOptions → UInt64} (isFrom : origin.options? = some options)
    (serves : ∀ field ∈ fields, field.Serves name Setting.long? part)
    (named : name ∈ fields.map Setting.Field.name) :
    part options = origin.number name (part .standard) := by
  unfold number
  obtain ⟨noDocument, rfl⟩ | ⟨document, counted, config, isDocument, isRead, rfl⟩ :=
    config_of_options? isFrom
  · rw [noDocument]
    rfl
  · rw [isDocument]
    exact ConnectorConfig.socketNumber_of_ofSetting? serves named isRead

end Origin

/-- What one setter does to the order of the marks: the marks' own puts them in order, and any other one
leaves both marks as they are. -/
theorem apply_marks (options : SocketOptions) (change : Change) :
    (∃ low high, change = .waterMarks low high) ∧
        (options.apply change).lowWaterMark ≤ (options.apply change).highWaterMark ∨
      (∀ low high, change ≠ .waterMarks low high) ∧
        (options.apply change).lowWaterMark = options.lowWaterMark ∧
        (options.apply change).highWaterMark = options.highWaterMark := by
  cases change with
  | waterMarks low high =>
      refine .inl ⟨⟨low, high, rfl⟩, ?_⟩
      simp only [apply, setWaterMarks]
      exact Std.min_le_right
  | _ =>
      -- With the record taken apart the equations are read off its fields.
      cases options
      exact .inr ⟨nofun, rfl, rfl⟩

/-- After some setters the marks are in order if the marks' own was among them, or if they were before. -/
theorem foldl_apply_ordered_iff (options : SocketOptions) (changes : List Change) :
    (changes.foldl apply options).lowWaterMark ≤ (changes.foldl apply options).highWaterMark ↔
      (∃ low high, Change.waterMarks low high ∈ changes) ∨ options.lowWaterMark ≤ options.highWaterMark := by
  induction changes generalizing options with
  | nil => simp
  | cons change rest ih =>
      rw [List.foldl_cons, ih]
      obtain ⟨⟨low, high, rfl⟩, ordered⟩ | ⟨other, sameLow, sameHigh⟩ := apply_marks options change
      · exact iff_of_true (.inr ordered) (.inl ⟨low, high, List.mem_cons_self⟩)
      · have notFirst (low high : UInt64) : Change.waterMarks low high ≠ change := (other low high).symm
        simp only [sameLow, sameHigh, List.mem_cons, notFirst, false_or]

/-- Socket options that were taken from a configuration, or are the standard ones, and then changed by any
setters have their water marks in order exactly if the marks' own setter was used, or the configuration
itself says marks in order.  Reading a configuration and checking its limits compares the two marks
nowhere, so one that only lowers the high mark below the standard low one is accepted as it is. -/
theorem marks_ordered_iff {origin : Origin} {options : SocketOptions}
    (isFrom : origin.options? = some options) (changes : List Change) :
    (changes.foldl apply options).lowWaterMark ≤ (changes.foldl apply options).highWaterMark ↔
      (∃ low high, Change.waterMarks low high ∈ changes) ∨ origin.lowMark ≤ origin.highMark := by
  have low := Origin.number_of_options? isFrom serves_lowMark (by decide)
  have high := Origin.number_of_options? isFrom serves_highMark (by decide)
  rw [foldl_apply_ordered_iff, low, high]
  rfl

/-- A document that says no more than a high mark of 1024 is accepted, with the standard low mark above it,
and changing another option leaves the marks so. -/
theorem marks_disordered_by_high_mark :
    Origin.options? (.toml "[socket]\nwrite_buffer_high_water_mark = 1024") =
        some { standard with highWaterMark := 1024 } ∧
      ¬ ([Change.noDelay false].foldl apply { standard with highWaterMark := 1024 }).lowWaterMark ≤
        ([Change.noDelay false].foldl apply { standard with highWaterMark := 1024 }).highWaterMark := by
  have isFrom : Origin.options? (.toml "[socket]\nwrite_buffer_high_water_mark = 1024") =
      some { standard with highWaterMark := 1024 } := by decide +kernel
  refine ⟨isFrom, fun ordered => ?_⟩
  obtain ⟨low, high, isChange⟩ | inOrder := (marks_ordered_iff isFrom [.noDelay false]).mp ordered
  · simp at isChange
  · exact absurd inOrder (by decide +kernel)

end SocketOptions

end Uplink
