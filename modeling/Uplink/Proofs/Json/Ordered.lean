/-
Module: Uplink.Proofs.Json.Ordered
Purpose: Every value that is read or made from a draft has its objects sorted by key, each key once.
Main exports: Json.Every, Json.Ordered, Json.Integral, Json.sortMembers_of_ascending, Json.parse_ordered,
  Draft.toJson?_ordered
-/
import Mathlib.Data.List.Basic
import Uplink.Json.Reader
import Uplink.Payload.Draft

namespace Uplink

/-- A number that is an integer. -/
def Number.IsInteger (number : Number) : Prop :=
  ∃ value, number = .integer value

namespace Json

/-! ### Predicates on all parts of a value -/

mutual

/-- All numbers of a value, at any depth, satisfy `ofNumber`, and the keys of all its objects `ofKeys`. -/
def Every (ofNumber : Number → Prop) (ofKeys : List String → Prop) : Json → Prop
  | .number value => ofNumber value
  | .array items => EveryItem ofNumber ofKeys items
  | .object members => ofKeys (members.map Prod.fst) ∧ EveryMember ofNumber ofKeys members
  | _ => True

/-- `Every` for each item. -/
def EveryItem (ofNumber : Number → Prop) (ofKeys : List String → Prop) : List Json → Prop
  | [] => True
  | item :: rest => Every ofNumber ofKeys item ∧ EveryItem ofNumber ofKeys rest

/-- `Every` for the value of each member. -/
def EveryMember (ofNumber : Number → Prop) (ofKeys : List String → Prop) :
    List (String × Json) → Prop
  | [] => True
  | (_, value) :: rest => Every ofNumber ofKeys value ∧ EveryMember ofNumber ofKeys rest

end

/-- Every object lists its keys in ascending order, each once. -/
def Ordered : Json → Prop :=
  Every (fun _ => True) (List.Pairwise (· < ·))

/-- Every number is an integer. -/
def Integral : Json → Prop :=
  Every Number.IsInteger (fun _ => True)

variable {ofNumber : Number → Prop} {ofKeys : List String → Prop}

theorem everyItem_iff (items : List Json) :
    EveryItem ofNumber ofKeys items ↔ ∀ item ∈ items, Every ofNumber ofKeys item := by
  induction items with
  | nil => simp only [EveryItem, List.not_mem_nil, false_imp_iff, implies_true]
  | cons item rest ih => simp only [EveryItem, ih, List.forall_mem_cons]

theorem everyMember_iff (members : List (String × Json)) :
    EveryMember ofNumber ofKeys members ↔ ∀ member ∈ members, Every ofNumber ofKeys member.2 := by
  induction members with
  | nil => simp only [EveryMember, List.not_mem_nil, false_imp_iff, implies_true]
  | cons member rest ih => simp only [EveryMember, ih, List.forall_mem_cons]

/-! ### Sorted members -/

/-- The keys of the members are in ascending order, each once. -/
def Ascending {α : Type} (members : List (String × α)) : Prop :=
  (members.map Prod.fst).Pairwise (· < ·)

variable {α : Type}

theorem ascending_cons (key : String) (value : α) (rest : List (String × α)) :
    Ascending ((key, value) :: rest) ↔ (∀ member ∈ rest, key < member.1) ∧ Ascending rest := by
  simp only [Ascending, List.map_cons, List.pairwise_cons, List.forall_mem_map]

/-- Putting a member in adds only that member. -/
theorem mem_insertMember {key : String} {value : α} {members : List (String × α)}
    {member : String × α} (held : member ∈ insertMember key value members) :
    member = (key, value) ∨ member ∈ members := by
  fun_induction insertMember key value members with
  | case1 => exact .inl (List.mem_singleton.1 held)
  | case2 => exact List.mem_cons.1 held
  | case3 =>
      rcases List.mem_cons.1 held with isNew | inRest
      · exact .inl isNew
      · exact .inr (List.mem_cons_of_mem _ inRest)
  | case4 heldKey heldValue rest notBefore notSame ih =>
      rcases List.mem_cons.1 held with isFirst | inRest
      · exact .inr (List.mem_cons.2 (.inl isFirst))
      · exact (ih inRest).imp_right (List.mem_cons_of_mem _)

/-- Putting a member in keeps the members sorted. -/
theorem Ascending.insertMember {members : List (String × α)} (ascending : Ascending members)
    (key : String) (value : α) : Ascending (insertMember key value members) := by
  fun_induction Json.insertMember key value members with
  | case1 => exact List.pairwise_singleton _ _
  | case2 heldKey heldValue rest before =>
      rw [ascending_cons]
      refine ⟨?_, ascending⟩
      intro member isMember
      rcases List.mem_cons.1 isMember with isFirst | inRest
      · rw [isFirst]
        exact before
      · exact String.lt_trans before (((ascending_cons _ _ _).1 ascending).1 member inRest)
  | case3 => exact ascending
  | case4 heldKey heldValue rest notBefore notSame ih =>
      obtain ⟨first, remaining⟩ := (ascending_cons _ _ _).1 ascending
      have behind : heldKey < key := by
        by_contra notBehind
        exact notSame (String.le_antisymm (String.not_lt.1 notBehind) (String.not_lt.1 notBefore))
      rw [ascending_cons]
      refine ⟨?_, ih remaining⟩
      intro member isMember
      rcases mem_insertMember isMember with isNew | inRest
      · rw [isNew]
        exact behind
      · exact first member inRest

/-- A member whose key is greater than every other goes to the end. -/
theorem insertMember_of_greater {key : String} (value : α) {members : List (String × α)}
    (greater : ∀ member ∈ members, member.1 < key) :
    insertMember key value members = members ++ [(key, value)] := by
  induction members with
  | nil => rfl
  | cons held rest ih =>
      obtain ⟨first, remaining⟩ := List.forall_mem_cons.1 greater
      have notSame : key ≠ held.1 := fun same => String.lt_irrefl key (same ▸ first)
      simp only [insertMember]
      rw [if_neg (String.lt_asymm first), if_neg notSame, ih remaining, List.cons_append]

/-- Sorting gives sorted members. -/
theorem ascending_sortMembers (members : List (String × α)) : Ascending (sortMembers members) := by
  have keeps : ∀ (unsorted sorted : List (String × α)), Ascending sorted →
      Ascending (unsorted.foldl (fun sorted member => insertMember member.1 member.2 sorted) sorted) := by
    intro unsorted
    induction unsorted with
    | nil => exact fun _ ascending => ascending
    | cons member rest ih => exact fun _ ascending => ih _ (ascending.insertMember member.1 member.2)
  exact keeps members [] .nil

/-- Sorting adds no member. -/
theorem mem_sortMembers {members : List (String × α)} {member : String × α}
    (held : member ∈ sortMembers members) : member ∈ members := by
  have adds : ∀ (unsorted sorted : List (String × α)),
      member ∈ unsorted.foldl (fun sorted member => insertMember member.1 member.2 sorted) sorted →
        member ∈ unsorted ∨ member ∈ sorted := by
    intro unsorted
    induction unsorted with
    | nil => exact fun _ inSorted => .inr inSorted
    | cons first rest ih =>
        intro sorted inFold
        rcases ih _ inFold with inRest | inInserted
        · exact .inl (List.mem_cons_of_mem _ inRest)
        · rcases mem_insertMember inInserted with isFirst | inSorted
          · exact .inl (List.mem_cons.2 (.inl isFirst))
          · exact .inr inSorted
  exact (adds members [] held).resolve_right List.not_mem_nil

/-- Members that are sorted stay as they are. -/
theorem sortMembers_of_ascending {members : List (String × α)} (ascending : Ascending members) :
    sortMembers members = members := by
  have appends : ∀ (unsorted sorted : List (String × α)), Ascending (sorted ++ unsorted) →
      unsorted.foldl (fun sorted member => insertMember member.1 member.2 sorted) sorted
        = sorted ++ unsorted := by
    intro unsorted
    induction unsorted with
    | nil => exact fun sorted _ => (List.append_nil sorted).symm
    | cons member rest ih =>
        intro sorted ascending
        have greater : ∀ held ∈ sorted, held.1 < member.1 := by
          intro held isHeld
          rw [Ascending, List.map_append, List.pairwise_append] at ascending
          exact ascending.2.2 held.1 (List.mem_map_of_mem isHeld) member.1 List.mem_cons_self
        rw [List.foldl_cons, insertMember_of_greater member.2 greater,
          List.append_cons sorted member rest]
        rw [List.append_cons] at ascending
        exact ih _ ascending
  exact appends members [] ascending

/-- An object made of ordered values is ordered. -/
theorem objectOf_ordered {members : List (String × Json)}
    (ordered : ∀ member ∈ members, Ordered member.2) : (objectOf members).Ordered := by
  refine ⟨ascending_sortMembers members, (everyMember_iff _).2 ?_⟩
  intro member isMember
  exact ordered member (mem_sortMembers isMember)

end Json

/-! ### Where values come from -/

namespace JsonTree

mutual

/-- The value of a tree is ordered. -/
theorem value?_ordered {limit : Nat} {tree : JsonTree} {value : Json}
    (read : tree.value? limit = some value) : value.Ordered := by
  match tree, limit with
  | .null, _ =>
      cases read
      trivial
  | .boolean _, _ =>
      cases read
      trivial
  | .number _, _ =>
      obtain ⟨number, -, rfl⟩ := Option.map_eq_some_iff.1 read
      trivial
  | .text _, _ =>
      obtain ⟨text, -, rfl⟩ := Option.map_eq_some_iff.1 read
      trivial
  | .array items, 0 => cases read
  | .array items, inner + 1 =>
      obtain ⟨values, found, rfl⟩ := Option.map_eq_some_iff.1 read
      exact (Json.everyItem_iff values).2 (values?_ordered found)
  | .object members, 0 => cases read
  | .object members, inner + 1 =>
      obtain ⟨values, found, rfl⟩ := Option.map_eq_some_iff.1 read
      exact Json.objectOf_ordered (members?_ordered found)

theorem values?_ordered {limit : Nat} {items : List JsonTree} {values : List Json}
    (read : values? limit items = some values) : ∀ value ∈ values, value.Ordered := by
  match items with
  | [] =>
      cases read
      exact nofun
  | item :: rest =>
      simp only [values?, Option.bind_eq_bind, Option.bind_eq_some_iff, Option.some.injEq] at read
      obtain ⟨first, found, others, remaining, rfl⟩ := read
      exact List.forall_mem_cons.2 ⟨value?_ordered found, values?_ordered remaining⟩

theorem members?_ordered {limit : Nat} {members : List (RawText × JsonTree)}
    {values : List (String × Json)} (read : members? limit members = some values) :
    ∀ member ∈ values, member.2.Ordered := by
  match members with
  | [] =>
      cases read
      exact nofun
  | (key, item) :: rest =>
      simp only [members?, Option.bind_eq_bind, Option.bind_eq_some_iff, Option.some.injEq] at read
      obtain ⟨name, -, first, found, others, remaining, rfl⟩ := read
      exact List.forall_mem_cons.2 ⟨value?_ordered found, members?_ordered remaining⟩

end

end JsonTree

/-- A value that is read from a JSON text is ordered. -/
theorem Json.parse_ordered {bytes : List UInt8} {value : Json} (read : parse bytes = some value) :
    value.Ordered := by
  simp only [parse, parseWithin, Option.bind_eq_bind, Option.bind_eq_some_iff] at read
  obtain ⟨tree, -, found⟩ := read
  exact JsonTree.value?_ordered found

namespace Draft

theorem ofDouble_ordered (number : Double) : (ofDouble number).Ordered := by
  rw [ofDouble]
  split <;> trivial

mutual

/-- The value of a draft is ordered. -/
theorem toJson?_ordered {draft : Draft} {value : Json} (made : draft.toJson? = some value) :
    value.Ordered := by
  match draft with
  | .null =>
      cases made
      trivial
  | .boolean _ =>
      cases made
      trivial
  | .integer _ =>
      obtain ⟨fitting, -, rfl⟩ := Option.map_eq_some_iff.1 made
      trivial
  | .double number =>
      cases made
      exact ofDouble_ordered number
  | .single number =>
      cases made
      exact ofDouble_ordered number.toDouble
  | .character _ =>
      cases made
      trivial
  | .text _ =>
      cases made
      trivial
  | .bytes octets =>
      cases made
      refine (Json.everyItem_iff _).2 (List.forall_mem_map.2 ?_)
      intro byte _
      trivial
  | .present inner =>
      rw [toJson?] at made
      exact toJson?_ordered made
  | .refusing => cases made
  | .sequence items =>
      obtain ⟨values, found, rfl⟩ := Option.map_eq_some_iff.1 made
      exact (Json.everyItem_iff values).2 (itemsToJson?_ordered found)
  | .mapping entries =>
      obtain ⟨values, found, rfl⟩ := Option.map_eq_some_iff.1 made
      exact Json.objectOf_ordered (entriesToJson?_ordered found)

theorem itemsToJson?_ordered {items : List Draft} {values : List Json}
    (made : itemsToJson? items = some values) : ∀ value ∈ values, value.Ordered := by
  match items with
  | [] =>
      cases made
      exact nofun
  | item :: rest =>
      simp only [itemsToJson?, Option.bind_eq_bind, Option.bind_eq_some_iff, Option.some.injEq] at made
      obtain ⟨first, found, others, remaining, rfl⟩ := made
      exact List.forall_mem_cons.2 ⟨toJson?_ordered found, itemsToJson?_ordered remaining⟩

theorem entriesToJson?_ordered {entries : List (Draft × Draft)} {values : List (String × Json)}
    (made : entriesToJson? entries = some values) : ∀ member ∈ values, member.2.Ordered := by
  match entries with
  | [] =>
      cases made
      exact nofun
  | (key, item) :: rest =>
      simp only [entriesToJson?, Option.bind_eq_bind, Option.bind_eq_some_iff, Option.some.injEq] at made
      obtain ⟨name, -, first, found, others, remaining, rfl⟩ := made
      exact List.forall_mem_cons.2 ⟨toJson?_ordered found, entriesToJson?_ordered remaining⟩

end

end Draft

end Uplink
