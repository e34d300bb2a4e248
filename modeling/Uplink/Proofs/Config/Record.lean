/-
Module: Uplink.Proofs.Config.Record
Purpose: What a record that is read from a document holds: a field that the document gives has the value
  given, and every other field keeps the value it had.
Main exports: Setting.at?, Setting.Field.Serves, Setting.Given, Setting.given_of_record?
-/
import Uplink.Config.Setting

namespace Uplink.Setting

/-- What a document gives for a field: in a table what stands behind its name, in a list what stands in its
place. -/
def at? (names : List String) (name : String) : Setting → Option Setting
  | .table entries => entries.lookup (some name)
  | .list items => (names.zip items).lookup name
  | _ => none

variable {α β : Type}

/-- A field serves the part of a record that belongs to a name: if the name is its own it sets the part to
the value that is read, and otherwise it leaves the part alone. -/
structure Field.Serves (field : Field α) (name : String) (read : Setting → Option β) (part : α → β) :
    Prop where
  own : field.name = name → ∀ record setting assigned,
    field.assign record setting = some assigned → read setting = some (part assigned)
  other : field.name ≠ name → ∀ record setting assigned,
    field.assign record setting = some assigned → part assigned = part record

/-- A field that stores what it reads serves a part if storing does. -/
theorem Field.of_serves {γ : Type} {fieldName name : String} {readField : Setting → Option γ}
    {store : α → γ → α} {read : Setting → Option β} {part : α → β} :
    (Field.of fieldName readField store).Serves name read part ↔
      (fieldName = name → ∀ record setting value,
        readField setting = some value → read setting = some (part (store record value))) ∧
      (fieldName ≠ name → ∀ record setting value,
        readField setting = some value → part (store record value) = part record) := by
  constructor
  · rintro ⟨own, other⟩
    exact ⟨fun same record setting value isRead => own same record setting _ (by simp [Field.of, isRead]),
      fun different record setting value isRead =>
        other different record setting _ (by simp [Field.of, isRead])⟩
  · rintro ⟨own, other⟩
    constructor
    · intro same record setting assigned isAssigned
      obtain ⟨value, isRead, rfl⟩ := Option.map_eq_some_iff.mp isAssigned
      exact own same record setting value isRead
    · intro different record setting assigned isAssigned
      obtain ⟨value, isRead, rfl⟩ := Option.map_eq_some_iff.mp isAssigned
      exact other different record setting value isRead

/-- A part has the value that was given for it, or the one it had before if none was. -/
def Given (read : Setting → Option β) (given : Option Setting) (before after : β) : Prop :=
  match given with
  | some setting => read setting = some after
  | none => after = before

/-- A value given is one that can be read, so the part is what was read or what it was. -/
theorem Given.eq {read : Setting → Option β} {given : Option Setting} {before after : β}
    (isGiven : Given read given before after) : after = (given.bind read).getD before := by
  cases given with
  | none => exact isGiven
  | some setting => rw [Option.bind_some, isGiven, Option.getD_some]

variable {fields : List (Field α)} {name : String} {read : Setting → Option β} {part : α → β}

/-- Assigning the field of a part's own name gives the part a value; assigning any other one does not. -/
theorem Field.Serves.given {field : Field α} (serves : field.Serves name read part) {record assigned : α}
    {setting : Setting} (isAssigned : field.assign record setting = some assigned) :
    Given read (if field.name = name then some setting else none) (part record) (part assigned) := by
  split
  next own => exact serves.own own record setting assigned isAssigned
  next other => exact serves.other other record setting assigned isAssigned

/-- A table: what counts is the first entry with the field's name, unless the name was read before. -/
theorem given_of_assignEntries (serves : ∀ field ∈ fields, field.Serves name read part)
    (named : name ∈ fields.map Field.name) {entries : List (Option String × Setting)} {seen : List String}
    {record final : α} (assigned : assignEntries fields seen record entries = some final) :
    if name ∈ seen then part final = part record
    else Given read (entries.lookup (some name)) (part record) (part final) := by
  fun_induction assignEntries fields seen record entries with
  | case1 seen record =>
      cases assigned
      split <;> rfl
  | case2 => cases assigned
  | case3 seen record key value rest unknown ih =>
      obtain ⟨field, isField, rfl⟩ := List.mem_map.mp named
      have different : (some field.name == some key) = false := by
        simpa using List.find?_eq_none.mp unknown field isField
      rw [List.lookup_cons, different]
      exact ih assigned
  | case4 => cases assigned
  | case5 seen record key value rest field found fresh next isNext ih =>
      obtain rfl : field.name = key := by simpa using List.find?_some found
      -- The rest is read with this name among the ones seen, so it leaves the field's own part alone.
      have atField := (serves field (List.mem_of_find?_eq_some found)).given isNext
      have later := ih assigned
      by_cases own : field.name = name
      · rw [if_pos own] at atField
        rw [if_pos (by simp [own])] at later
        have unseen : name ∉ seen := by simpa [own] using fresh
        rw [if_neg unseen, List.lookup_cons, own, beq_self_eq_true, later]
        exact atField
      · rw [if_neg own] at atField
        have same : part next = part record := atField
        have different : (some name == some field.name) = false := by simpa using Ne.symm own
        rw [List.lookup_cons, different, ← same]
        simpa [Ne.symm own] using later
  | case6 => cases assigned

/-- A list: what counts is the item in the field's place. -/
theorem given_of_assignItems {counted : Bool} (serves : ∀ field ∈ fields, field.Serves name read part)
    (distinct : (fields.map Field.name).Nodup) {items : List Setting} {record final : α}
    (assigned : assignItems counted fields record items = some final) :
    Given read (((fields.map Field.name).zip items).lookup name) (part record) (part final) := by
  fun_induction assignItems counted fields record items with
  | case1 =>
      cases assigned
      rw [List.zip_nil_right]
      rfl
  | case2 => cases assigned
  | case3 =>
      cases assigned
      rfl
  | case4 record item rest field others next isNext ih =>
      obtain ⟨servesFirst, servesOthers⟩ := List.forall_mem_cons.mp serves
      have atField := servesFirst.given isNext
      obtain ⟨notAgain, distinctOthers⟩ := List.nodup_cons.mp distinct
      have later := ih servesOthers distinctOthers assigned
      rw [List.map_cons, List.zip_cons_cons, List.lookup_cons]
      by_cases own : field.name = name
      · subst own
        have nowhere : ((others.map Field.name).zip rest).lookup field.name = none :=
          List.lookup_eq_none_iff.mpr fun entry isEntry =>
            by simpa using fun same : field.name = entry.1 => notAgain (same ▸ (List.of_mem_zip isEntry).1)
        rw [if_pos rfl] at atField
        rw [nowhere] at later
        have same : part final = part next := later
        rw [beq_self_eq_true, same]
        exact atField
      · rw [if_neg own] at atField
        have same : part next = part record := atField
        have different : (name == field.name) = false := by simpa using Ne.symm own
        rw [different, ← same]
        exact later
  | case5 => cases assigned

/-- A record read from a document has in each part what the document gives for its field, and where it
gives nothing what the record had to start with. -/
theorem given_of_record? {counted : Bool} (serves : ∀ field ∈ fields, field.Serves name read part)
    (named : name ∈ fields.map Field.name) (distinct : (fields.map Field.name).Nodup) {setting : Setting}
    {start record : α} (isRead : setting.record? counted fields start = some record) :
    Given read (setting.at? (fields.map Field.name) name) (part start) (part record) := by
  cases setting with
  | table entries => simpa [at?] using given_of_assignEntries serves named isRead
  | list items => exact given_of_assignItems serves distinct isRead
  | absent => cases isRead
  | flag => cases isRead
  | integer => cases isRead
  | text => cases isRead
  | foreign => cases isRead

end Uplink.Setting
