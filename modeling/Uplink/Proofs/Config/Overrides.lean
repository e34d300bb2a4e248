/-
Module: Uplink.Proofs.Config.Overrides
Purpose: What the members of a JSON object say about a record, in the terms of the record: which fields they
  override and by what.  Reading the object into the record does those overrides and nothing else.
Main exports: JsonTree.IsFlag, JsonTree.IsNatural, JsonTree.IsOptional, Setting.Layout,
  Setting.Layout.Makes, Setting.Layout.ServedBy, Setting.Layout.IsObject.record?
-/
import Uplink.Config.Socket
import Uplink.Proofs.Json.Number
import Uplink.Proofs.Json.Ordered
import Uplink.Proofs.Json.RoundTrip

namespace Uplink

open Text

/-! ### What a JSON value is written for -/

namespace JsonTree

/-- A truth value is written as itself. -/
def IsFlag (value : Bool) (tree : JsonTree) : Prop :=
  tree = .boolean value

/-- A natural number is written as its digits, without a sign, a fraction or an exponent. -/
def IsNatural (value : Nat) (tree : JsonTree) : Prop :=
  ∃ digitList, tree = .number { negative := false, whole := digitList, fraction := [], exponent := none } ∧
    ofDigits 10 digitList = value

/-- A number that may be left out is written as a natural number, or as `null`. -/
def IsOptional : Option Nat → JsonTree → Prop
  | some value, tree => tree.IsNatural value
  | none, tree => tree = .null

variable {tree : JsonTree}

theorem IsFlag.flag? {value : Bool} (written : tree.IsFlag value) :
    (Setting.ofTree tree).flag? = some value := by
  obtain rfl : tree = .boolean value := written
  rfl

/-- A natural number of 64 bits stands for that number. -/
theorem IsNatural.ofTree {value : Nat} (written : tree.IsNatural value) (fits : value < 0x10000000000000000) :
    Setting.ofTree tree = .integer value := by
  obtain ⟨digitList, rfl, rfl⟩ := written
  have gathered : Literal.gather 0 digitList = (ofDigits 10 digitList, []) :=
    Literal.gather_of_fits (Nat.le_of_lt_succ fits)
  have inRange : (-0x8000000000000000 : Int) ≤ ofDigits 10 digitList ∧
      (ofDigits 10 digitList : Int) < 0x10000000000000000 := by omega
  simp [Setting.ofTree, Literal.number?, gathered, WireInteger.ofInt?, inRange, Setting.ofNumber]

theorem IsNatural.natural? {value limit : Nat} (written : tree.IsNatural value) (below : value < limit)
    (fits : limit ≤ 0x10000000000000000) : (Setting.ofTree tree).natural? limit = some value := by
  rw [written.ofTree (Nat.lt_of_lt_of_le below fits)]
  simp [Setting.natural?, below]

theorem IsNatural.long? {value : UInt64} (written : tree.IsNatural value.toNat) :
    (Setting.ofTree tree).long? = some value := by
  simp [Setting.long?, written.natural? value.toNat_lt (Nat.le_refl _)]

theorem IsNatural.word? {value : UInt32} (written : tree.IsNatural value.toNat) :
    (Setting.ofTree tree).word? = some value := by
  simp [Setting.word?, written.natural? value.toNat_lt (by decide)]

/-- A number is not left out, whatever it stands for. -/
theorem optional?_number {α : Type} (read : Setting → Option α) (literal : Literal) :
    Setting.optional? read (Setting.ofTree (.number literal)) =
      (read (Setting.ofTree (.number literal))).map some := by
  rw [Setting.ofTree]
  obtain _ | (_ | _) := literal.number? <;> rfl

/-- A number that may be left out is read if it is read wherever it is given. -/
theorem IsOptional.optional? {α : Type} {read : Setting → Option α} {number : α → Nat} {value : Option α}
    (isRead : ∀ found, tree.IsNatural (number found) → read (Setting.ofTree tree) = some found)
    (written : tree.IsOptional (value.map number)) :
    Setting.optional? read (Setting.ofTree tree) = some value := by
  cases value with
  | none =>
      obtain rfl : tree = .null := written
      rfl
  | some found =>
      have given := isRead found written
      obtain ⟨_, rfl, -⟩ := written
      rw [optional?_number, given, Option.map_some]

theorem IsOptional.long? {value : Option UInt64} (written : tree.IsOptional (value.map UInt64.toNat)) :
    Setting.optional? Setting.long? (Setting.ofTree tree) = some value :=
  written.optional? fun _ => IsNatural.long?

theorem IsOptional.word? {value : Option UInt32} (written : tree.IsOptional (value.map UInt32.toNat)) :
    Setting.optional? Setting.word? (Setting.ofTree tree) = some value :=
  written.optional? fun _ => IsNatural.word?

/-- A word is written as its number. -/
theorem isNatural_ofWord (word : UInt64) : (Json.ofWord word).tree.IsNatural word.toNat := by
  refine ⟨digits 10 word.toNat, ?_, ofDigits_digits 10 word.toNat⟩
  have notNegative : ¬ ((WireInteger.ofWord word).value < 0) := Int.not_lt.mpr (Int.natCast_nonneg _)
  rw [Json.ofWord, Json.tree, WireInteger.literal, decide_eq_false notNegative]
  rfl

/-- A word that may be left out is written as its number or as `null`. -/
theorem isOptional_ofOptional (value : Option UInt64) :
    (Json.ofOptional value).tree.IsOptional (value.map UInt64.toNat) := by
  cases value with
  | none => rfl
  | some word => exact isNatural_ofWord word

/-- A short word is written as any word is. -/
theorem isNatural_toUInt64 (word : UInt32) : (Json.ofWord word.toUInt64).tree.IsNatural word.toNat :=
  isNatural_ofWord word.toUInt64

theorem isOptional_toUInt64 (value : Option UInt32) :
    (Json.ofOptional (value.map UInt32.toUInt64)).tree.IsOptional (value.map UInt32.toNat) := by
  cases value with
  | none => rfl
  | some word => exact isNatural_toUInt64 word

end JsonTree

namespace Json

theorem integral_ofWord (word : UInt64) : (ofWord word).Integral :=
  ⟨.ofWord word, rfl⟩

theorem integral_ofOptional (value : Option UInt64) : (ofOptional value).Integral := by
  cases value with
  | none => trivial
  | some word => exact integral_ofWord word

end Json

/-! ### What an object says about a record -/

namespace Setting

/-- A field stores the value that it reads. -/
theorem Field.assign_of {α β : Type} {name : String} {read : Setting → Option β} {store : α → β → α}
    {setting : Setting} {value : β} (isRead : read setting = some value) (record : α) :
    (Field.of name read store).assign record setting = some (store record value) := by
  simp only [Field.of, isRead, Option.map_some]

/-- How a record is laid out in JSON.  An override gives one field a value: it stands in an object under a
name, its value may be written in some ways, and it puts the value in the place of the one that the record
has. -/
structure Layout (α Override : Type) where
  name : Override → String
  Written : Override → JsonTree → Prop
  replace : α → Override → α

namespace Layout

variable {α Override : Type} {layout : Layout α Override}

/-- The members of an object make some overrides, each of a field of its own.  The overrides are in the order
of the members, which may be any; between them there may be members with other names and any values, but a
key stands for a text. -/
inductive Makes (layout : Layout α Override) : List (RawText × JsonTree) → List Override → Prop where
  | nil : Makes layout [] []
  | unknown {raw : RawText} {key : String} {value : JsonTree} {members : List (RawText × JsonTree)}
      {overrides : List Override} (isKey : raw.decode? = some key)
      (unknown : ∀ override, layout.name override ≠ key) (rest : Makes layout members overrides) :
      Makes layout ((raw, value) :: members) overrides
  | override {raw : RawText} {override : Override} {value : JsonTree} {members : List (RawText × JsonTree)}
      {overrides : List Override} (isName : raw.decode? = some (layout.name override))
      (written : layout.Written override value)
      (once : ∀ other ∈ overrides, layout.name other ≠ layout.name override)
      (rest : Makes layout members overrides) :
      Makes layout ((raw, value) :: members) (override :: overrides)

/-- Fields serve a layout if they have its names and no others, and the one with an override's name puts the
override's value into the record. -/
structure ServedBy (layout : Layout α Override) (fields : List (Field α)) : Prop where
  named : ∀ field ∈ fields, ∃ override, layout.name override = field.name
  served : ∀ {override value}, layout.Written override value →
    ∃ field, fields.find? (fun field => field.name == layout.name override) = some field ∧
      ∀ record, field.assign record (ofTree value) = some (layout.replace record override)

variable {fields : List (Field α)}

/-- The members of an object are read one after the other, and each override is done once. -/
theorem Makes.assignEntries (served : layout.ServedBy fields) {members : List (RawText × JsonTree)}
    {overrides : List Override} (makes : layout.Makes members overrides) {seen : List String}
    (unseen : ∀ override ∈ overrides, layout.name override ∉ seen) (record : α) :
    assignEntries fields seen record (ofTreeMembers members) =
      some (overrides.foldl layout.replace record) := by
  induction makes generalizing seen record with
  | nil => rfl
  | unknown isKey unknown rest ih =>
      -- No field has the name, so the member is passed over whatever its value is.
      have nowhere : fields.find? (fun field => field.name == _) = none :=
        List.find?_eq_none.mpr fun field isField same => by
          obtain ⟨override, isName⟩ := served.named field isField
          exact unknown override (isName.trans (beq_iff_eq.mp same))
      simp only [ofTreeMembers, Setting.assignEntries, isKey, nowhere]
      exact ih unseen record
  | override isName written once rest ih =>
      obtain ⟨field, isFound, assigns⟩ := served.served written
      obtain ⟨fresh, others⟩ := List.forall_mem_cons.mp unseen
      simp only [ofTreeMembers, Setting.assignEntries, isName, isFound, assigns]
      rw [if_neg (by simpa using fresh), List.foldl_cons]
      apply ih
      intro other isOther
      rw [List.mem_cons, not_or]
      exact ⟨once other isOther, others other isOther⟩

/-- An object that makes some overrides. -/
def IsObject (layout : Layout α Override) (overrides : List Override) (tree : JsonTree) : Prop :=
  ∃ members, tree = .object members ∧ layout.Makes members overrides

/-- Reading an object into a record does the overrides that it makes, and nothing else. -/
theorem IsObject.record? (served : layout.ServedBy fields) {overrides : List Override} {tree : JsonTree}
    (isObject : layout.IsObject overrides tree) (counted : Bool) (start : α) :
    (ofTree tree).record? counted fields start = some (overrides.foldl layout.replace start) := by
  obtain ⟨members, rfl, makes⟩ := isObject
  rw [ofTree, Setting.record?]
  exact makes.assignEntries served (fun _ _ => List.not_mem_nil) start

/-- An object whose members are written for some overrides, one by one, makes them. -/
theorem isObject_of_forall₂ {members : List (String × Json)} {overrides : List Override}
    (distinct : (overrides.map layout.name).Nodup)
    (writes : List.Forall₂ (fun member override =>
      member.1 = layout.name override ∧ layout.Written override member.2.tree) members overrides) :
    layout.IsObject overrides (Json.object members).tree := by
  refine ⟨Json.treesOfMembers members, by rw [Json.tree], ?_⟩
  induction writes with
  | nil => exact .nil
  | cons first rest ih =>
      obtain ⟨isName, written⟩ := first
      obtain ⟨once, others⟩ := List.nodup_cons.mp distinct
      refine .override ?_ written ?_ (ih others)
      · rw [RawText.decode?_ofText, isName]
      · intro other isOther same
        exact once (same ▸ List.mem_map_of_mem isOther)

/-- Fields have no other names than a layout if they have the names of some of its overrides. -/
theorem named_of_names {overrides : List Override}
    (names : overrides.map layout.name = fields.map Field.name) :
    ∀ field ∈ fields, ∃ override, layout.name override = field.name := by
  intro field isField
  have isName : field.name ∈ overrides.map layout.name := names ▸ List.mem_map_of_mem isField
  obtain ⟨override, _, same⟩ := List.mem_map.mp isName
  exact ⟨override, same⟩

end Layout

end Setting

end Uplink
