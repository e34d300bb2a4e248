/-
Module: Uplink.Toml.Value
Purpose: TOML documents as values, and the rules for putting a key or a table into one.
Main exports: Toml, Toml.TableKind, Toml.assign, Toml.openHeader, Toml.atHeader
-/

namespace Uplink

/-- How a table came into being: by a header or as the root, on the way to another header, or through
a dotted key. -/
inductive Toml.TableKind where
  | declared
  | implied
  | dotted
deriving DecidableEq, Repr, Inhabited

/-- A value of a document.  A sealed table is written in braces and is complete where it stands. -/
inductive Toml where
  | text (value : String)
  | integer (value : Int)
  | real
  | flag (value : Bool)
  | moment
  | list (items : List Toml)
  | sealedTable (entries : List (String × Toml))
  | table (kind : Toml.TableKind) (entries : List (String × Toml))
  | tables (items : List Toml)
deriving Repr, Inhabited

namespace Toml

/-- The keys of a table and their values, in order of appearance. -/
abbrev Entries := List (String × Toml)

/-- Give a key that is there another value. -/
def replace (key : String) (value : Toml) (entries : Entries) : Entries :=
  entries.map fun entry => if entry.1 = key then (key, value) else entry

/-- Add a key that is not there yet. -/
def insertNew? (key : String) (value : Toml) (entries : Entries) : Option Entries :=
  if (entries.lookup key).isSome then none else some (entries ++ [(key, value)])

/-- Change the last table of an array of tables. -/
def changeLast? (change : TableKind → Entries → Option Entries) : List Toml → Option (List Toml)
  | [] => none
  | [.table kind entries] => (change kind entries).map fun changed => [.table kind changed]
  | [_] => none
  | item :: rest => (changeLast? change rest).map (item :: ·)

/-- Put a value under a dotted key.  Tables on the way that are missing are made; a declared table may
not be entered from a dotted key, and only a table that dotted keys made takes the value.  `open` says
whether the table at hand is such a table, or the one under the latest header. -/
def assign (key : String) (value : Toml) : List String → Bool → Entries → Option Entries
  | [], isOpen, entries => if isOpen then insertNew? key value entries else none
  | part :: rest, _, entries =>
      match entries.lookup part with
      | none =>
          (assign key value rest true []).map fun made => entries ++ [(part, .table .dotted made)]
      | some (.table kind inner) =>
          if kind = .declared then none
          else
            (assign key value rest (kind == .dotted) inner).map fun changed =>
              replace part (.table kind changed) entries
      | some (.tables items) =>
          (changeLast? (fun kind inner => assign key value rest (kind == .dotted) inner) items).map
            fun changed => replace part (.tables changed) entries
      | some _ => none

/-- The table that a header declares: a new one, or one that was only implied so far. -/
def declare (key : String) (entries : Entries) : Option Entries :=
  match entries.lookup key with
  | none => some (entries ++ [(key, .table .declared [])])
  | some (.table .implied inner) => some (replace key (.table .declared inner) entries)
  | some _ => none

/-- The table that a double-bracket header appends to an array of tables. -/
def append (key : String) (entries : Entries) : Option Entries :=
  match entries.lookup key with
  | none => some (entries ++ [(key, .tables [.table .declared []])])
  | some (.tables items) => some (replace key (.tables (items ++ [.table .declared []])) entries)
  | some _ => none

/-- Make a change at the end of a header's path.  Tables on the way that are missing are implied. -/
def openHeader (change : String → Entries → Option Entries) : List String → Entries → Option Entries
  | [], _ => none
  | [key], entries => change key entries
  | part :: rest, entries =>
      match entries.lookup part with
      | none => (openHeader change rest []).map fun made => entries ++ [(part, .table .implied made)]
      | some (.table kind inner) =>
          (openHeader change rest inner).map fun changed => replace part (.table kind changed) entries
      | some (.tables items) =>
          (changeLast? (fun _ inner => openHeader change rest inner) items).map fun changed =>
            replace part (.tables changed) entries
      | some _ => none

/-- Make a change in the table that the latest header opened. -/
def atHeader (change : Entries → Option Entries) : List String → Entries → Option Entries
  | [], entries => change entries
  | part :: rest, entries =>
      match entries.lookup part with
      | some (.table kind inner) =>
          (atHeader change rest inner).map fun changed => replace part (.table kind changed) entries
      | some (.tables items) =>
          (changeLast? (fun _ inner => atHeader change rest inner) items).map fun changed =>
            replace part (.tables changed) entries
      | _ => none

end Toml

end Uplink
