/-
Module: Uplink.Config.Setting
Purpose: Configuration documents of any notation, and reading records from them field by field.
Main exports: Setting, Setting.ofJson, Setting.ofTree, Setting.word?, Setting.optional?,
  Setting.record?
-/
import Uplink.Json.Tree

namespace Uplink

/-- A value of a configuration document.  What no field can hold is `foreign`; a key that could not be
decoded is absent from its entry. -/
inductive Setting where
  | absent
  | flag (value : Bool)
  | integer (value : Int)
  | text (value : String)
  | foreign
  | list (items : List Setting)
  | table (entries : List (Option String × Setting))
deriving Repr, Inhabited

namespace Setting

/-- The setting that a JSON number stands for. -/
def ofNumber : Option Number → Setting
  | some (.integer found) => .integer found.value
  | _ => .foreign

mutual

/-- The setting that a JSON value stands for. -/
def ofJson : Json → Setting
  | .null => .absent
  | .boolean value => .flag value
  | .number value => ofNumber (some value)
  | .text value => .text value
  | .array items => .list (ofItems items)
  | .object members => .table (ofMembers members)

/-- The settings of some items. -/
def ofItems : List Json → List Setting
  | [] => []
  | item :: rest => ofJson item :: ofItems rest

/-- The settings of some members. -/
def ofMembers : List (String × Json) → List (Option String × Setting)
  | [] => []
  | (key, item) :: rest => (some key, ofJson item) :: ofMembers rest

end

mutual

/-- The setting that a JSON text stands for.  What is never asked for may exceed every limit. -/
def ofTree : JsonTree → Setting
  | .null => .absent
  | .boolean value => .flag value
  | .number literal => ofNumber literal.number?
  | .text raw =>
      match raw.decode? with
      | some value => .text value
      | none => .foreign
  | .array items => .list (ofTrees items)
  | .object members => .table (ofTreeMembers members)

/-- The settings of some trees. -/
def ofTrees : List JsonTree → List Setting
  | [] => []
  | item :: rest => ofTree item :: ofTrees rest

/-- The settings of some members. -/
def ofTreeMembers : List (RawText × JsonTree) → List (Option String × Setting)
  | [] => []
  | (key, item) :: rest => (key.decode?, ofTree item) :: ofTreeMembers rest

end

/-- A truth value. -/
def flag? : Setting → Option Bool
  | .flag value => some value
  | _ => none

/-- A number below a limit. -/
def natural? (limit : Nat) : Setting → Option Nat
  | .integer value => if 0 ≤ value ∧ value < limit then some value.toNat else none
  | _ => none

/-- A 16-bit number. -/
def half? (setting : Setting) : Option UInt16 :=
  (natural? 0x10000 setting).map UInt16.ofNat

/-- A 32-bit number. -/
def word? (setting : Setting) : Option UInt32 :=
  (natural? 0x100000000 setting).map UInt32.ofNat

/-- A 64-bit number. -/
def long? (setting : Setting) : Option UInt64 :=
  (natural? 0x10000000000000000 setting).map UInt64.ofNat

/-- A text. -/
def text? : Setting → Option String
  | .text value => some value
  | _ => none

/-- A value that may be left out. -/
def optional? {α : Type} (read : Setting → Option α) : Setting → Option (Option α)
  | .absent => some none
  | setting => (read setting).map some

/-- A field of a record: its name, and what its value changes in the record read so far. -/
structure Field (α : Type) where
  name : String
  assign : α → Setting → Option α

/-- The field with a name, a way to read its value and a way to store it. -/
def Field.of {α β : Type} (name : String) (read : Setting → Option β) (store : α → β → α) : Field α :=
  { name, assign := fun record setting => (read setting).map (store record) }

/-- Read the entries of a table into a record.  Entries that no field names are passed over; a field
named twice, a key that could not be decoded and a value that does not fit are refused. -/
def assignEntries {α : Type} (fields : List (Field α)) (seen : List String) (record : α) :
    List (Option String × Setting) → Option α
  | [] => some record
  | (none, _) :: _ => none
  | (some key, value) :: rest =>
      match fields.find? fun field => field.name == key with
      | none => assignEntries fields seen record rest
      | some field =>
          if seen.contains key then none
          else
            match field.assign record value with
            | some assigned => assignEntries fields (key :: seen) assigned rest
            | none => none

/-- Read the items of a list into a record, one for each field in turn.  Fields without an item keep
their value; items without a field are refused if the notation counts them. -/
def assignItems {α : Type} (counted : Bool) (fields : List (Field α)) (record : α) :
    List Setting → Option α
  | [] => some record
  | item :: rest =>
      match fields with
      | [] => if counted then none else some record
      | field :: others =>
          match field.assign record item with
          | some assigned => assignItems counted others assigned rest
          | none => none

/-- Read a record, starting from the one that holds where nothing is said. -/
def record? {α : Type} (counted : Bool) (fields : List (Field α)) (start : α) : Setting → Option α
  | .table entries => assignEntries fields [] start entries
  | .list items => assignItems counted fields start items
  | _ => none

end Setting

end Uplink
