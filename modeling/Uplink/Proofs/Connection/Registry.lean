/-
Module: Uplink.Proofs.Connection.Registry
Purpose: What a registry lists for each address after a connection came or an address was taken out, and how many
  entries it has in all.
Main exports: ConnectionRegistry.Sound, ConnectionRegistry.total, ConnectionRegistry.connections_manage,
  ConnectionRegistry.connections_without, ConnectionRegistry.total_without, ConnectionRegistry.withdraw_eq
-/
import Mathlib.Data.List.Nodup
import Uplink.Agenda
import Uplink.Connection.Registry

namespace Uplink.ConnectionRegistry

variable {registry : ConnectionRegistry} {address other : Address} {addresses : List Address}
  {connection : Nat}

/-- Every address has one list, and no list is empty. -/
structure Sound (registry : ConnectionRegistry) : Prop where
  nodup : registry.addresses.Nodup
  nonempty : ∀ entry ∈ registry.entries, entry.2 ≠ []

/-- The number of entries in all lists. -/
def total (registry : ConnectionRegistry) : Nat :=
  Agenda.total (fun entry => entry.2.length) registry.entries

/-- The registry without the list of an address. -/
def without (registry : ConnectionRegistry) (address : Address) : ConnectionRegistry :=
  { entries := registry.entries.filter fun entry => entry.1 ≠ address }

theorem sound_empty : empty.Sound :=
  ⟨List.nodup_nil, fun _ isEntry => absurd isEntry List.not_mem_nil⟩

/-! ### Taking a connection under management -/

theorem lookup_append (entries : List (Address × List Nat)) :
    (append address connection entries).lookup other
      = if address = other then some ((entries.lookup other).getD [] ++ [connection])
        else entries.lookup other := by
  induction entries with
  | nil =>
      simp only [append, List.lookup_cons, List.lookup_nil, Option.getD_none, List.nil_append]
      by_cases same : address = other
      · rw [if_pos same, same, beq_self_eq_true]
      · rw [if_neg same, beq_false_of_ne (Ne.symm same)]
  | cons entry rest ih =>
      obtain ⟨held, connections⟩ := entry
      simp only [append]
      by_cases isHeld : held = address
      · rw [if_pos isHeld, isHeld]
        by_cases same : address = other
        · rw [if_pos same, same, List.lookup_cons_self, List.lookup_cons_self, Option.getD_some]
        · rw [if_neg same, List.lookup_cons, List.lookup_cons, beq_false_of_ne (Ne.symm same)]
      · rw [if_neg isHeld, List.lookup_cons, List.lookup_cons, ih]
        by_cases same : other = held
        · simp only [same, beq_self_eq_true, if_neg (Ne.symm isHeld)]
        · simp only [beq_false_of_ne same]

/-- A connection comes last in the list of its address, and in no other list. -/
theorem connections_manage (registry : ConnectionRegistry) (address : Address) (connection : Nat)
    (other : Address) :
    (registry.manage address connection).connections other
      = registry.connections other ++ if address = other then [connection] else [] := by
  simp only [connections, manage, lookup_append]
  split
  · rfl
  · rw [List.append_nil]

theorem addresses_append (address : Address) (connection : Nat) (entries : List (Address × List Nat)) :
    (append address connection entries).map Prod.fst
      = if address ∈ entries.map Prod.fst then entries.map Prod.fst
        else entries.map Prod.fst ++ [address] := by
  induction entries with
  | nil => rfl
  | cons entry rest ih =>
      obtain ⟨held, connections⟩ := entry
      simp only [append, List.map_cons, List.mem_cons]
      by_cases isHeld : held = address
      · rw [if_pos isHeld, if_pos (.inl isHeld.symm)]
        rfl
      · rw [if_neg isHeld, List.map_cons, ih]
        by_cases listed : address ∈ rest.map Prod.fst
        · rw [if_pos listed, if_pos (.inr listed)]
        · rw [if_neg listed, if_neg (not_or.2 ⟨Ne.symm isHeld, listed⟩)]
          rfl

theorem nonempty_append {entries : List (Address × List Nat)} (nonempty : ∀ entry ∈ entries, entry.2 ≠ []) :
    ∀ entry ∈ append address connection entries, entry.2 ≠ [] := by
  induction entries with
  | nil =>
      intro entry isEntry
      rw [List.mem_singleton.1 isEntry]
      exact List.cons_ne_nil _ _
  | cons first rest ih =>
      obtain ⟨held, connections⟩ := first
      intro entry isEntry
      simp only [append] at isEntry
      split at isEntry
      · rcases List.mem_cons.1 isEntry with isFirst | isOther
        · rw [isFirst]
          exact List.append_ne_nil_of_right_ne_nil _ (List.cons_ne_nil _ _)
        · exact nonempty entry (List.mem_cons_of_mem _ isOther)
      · rcases List.mem_cons.1 isEntry with isFirst | isOther
        · rw [isFirst]
          exact nonempty _ List.mem_cons_self
        · exact ih (fun found isFound => nonempty found (List.mem_cons_of_mem _ isFound)) entry isOther

theorem Sound.manage (sound : registry.Sound) (address : Address) (connection : Nat) :
    (registry.manage address connection).Sound := by
  constructor
  case nodup =>
    change ((append address connection registry.entries).map Prod.fst).Nodup
    rw [addresses_append]
    split
    · exact sound.nodup
    · rename_i isNew
      exact List.Nodup.append sound.nodup (List.nodup_singleton address) (List.disjoint_singleton.2 isNew)
  case nonempty => exact nonempty_append sound.nonempty

theorem total_manage (registry : ConnectionRegistry) (address : Address) (connection : Nat) :
    (registry.manage address connection).total = registry.total + 1 := by
  have added : ∀ entries : List (Address × List Nat),
      Agenda.total (fun entry => entry.2.length) (append address connection entries)
        = Agenda.total (fun entry => entry.2.length) entries + 1 := by
    intro entries
    induction entries with
    | nil => rfl
    | cons entry rest ih =>
        obtain ⟨held, connections⟩ := entry
        simp only [append]
        split
        · simp only [Agenda.total_cons, List.length_append, List.length_singleton]
          omega
        · rw [Agenda.total_cons, Agenda.total_cons, ih, Nat.add_assoc]
  exact added registry.entries

/-! ### Taking an address out of management -/

theorem filter_cons_of_eq (connections : List Nat) (rest : List (Address × List Nat)) :
    ((address, connections) :: rest).filter (fun entry => entry.1 ≠ address)
      = rest.filter fun entry => entry.1 ≠ address := by
  rw [List.filter_cons, if_neg]
  simp only [ne_eq, not_true_eq_false, decide_false, Bool.false_eq_true, not_false_eq_true]

theorem filter_cons_of_ne {held : Address} (isOther : held ≠ address) (connections : List Nat)
    (rest : List (Address × List Nat)) :
    ((held, connections) :: rest).filter (fun entry => entry.1 ≠ address)
      = (held, connections) :: rest.filter fun entry => entry.1 ≠ address := by
  rw [List.filter_cons, if_pos (decide_eq_true isOther)]

theorem lookup_filter (entries : List (Address × List Nat)) :
    (entries.filter fun entry => entry.1 ≠ address).lookup other
      = if address = other then none else entries.lookup other := by
  induction entries with
  | nil => rw [List.filter_nil, List.lookup_nil, ite_self]
  | cons entry rest ih =>
      obtain ⟨held, connections⟩ := entry
      by_cases isHeld : held = address
      · rw [isHeld, filter_cons_of_eq, ih]
        by_cases same : address = other
        · rw [if_pos same, if_pos same]
        · rw [if_neg same, if_neg same, List.lookup_cons, beq_false_of_ne (Ne.symm same)]
      · rw [filter_cons_of_ne isHeld, List.lookup_cons, List.lookup_cons, ih]
        by_cases same : other = held
        · simp only [same, beq_self_eq_true, if_neg (Ne.symm isHeld)]
        · simp only [beq_false_of_ne same]

/-- The address that is taken out has no connections any more, and all others keep theirs. -/
theorem connections_without (registry : ConnectionRegistry) (address other : Address) :
    (registry.without address).connections other
      = if address = other then [] else registry.connections other := by
  simp only [connections, without, lookup_filter]
  split <;> rfl

theorem addresses_without (registry : ConnectionRegistry) (address : Address) :
    (registry.without address).addresses = registry.addresses.filter (· ≠ address) := by
  simp only [addresses, without, List.filter_map]
  rfl

theorem Sound.without (sound : registry.Sound) (address : Address) : (registry.without address).Sound := by
  constructor
  case nodup =>
    rw [addresses_without]
    exact sound.nodup.filter _
  case nonempty => exact fun entry isEntry => sound.nonempty entry (List.mem_filter.1 isEntry).1

/-- The entries that are taken out and those that stay are all there were. -/
theorem total_without (sound : registry.Sound) (address : Address) :
    (registry.without address).total + (registry.connections address).length = registry.total := by
  obtain ⟨entries⟩ := registry
  have nodup : (entries.map Prod.fst).Nodup := sound.nodup
  clear sound
  simp only [total, ConnectionRegistry.without, connections]
  induction entries with
  | nil => rfl
  | cons entry rest ih =>
      obtain ⟨held, connections⟩ := entry
      obtain ⟨isNew, restNodup⟩ := List.nodup_cons.1 nodup
      by_cases isHeld : held = address
      · have untouched : (rest.filter fun entry => entry.1 ≠ address) = rest := by
          apply List.filter_eq_self.2
          intro found isFound
          apply decide_eq_true
          intro same
          exact isNew (List.mem_map.2 ⟨found, isFound, same.trans isHeld.symm⟩)
        rw [isHeld, filter_cons_of_eq, untouched, List.lookup_cons_self]
        simp only [Option.getD_some, Agenda.total_cons]
        omega
      · have there := ih restNodup
        rw [filter_cons_of_ne isHeld, List.lookup_cons, beq_false_of_ne (Ne.symm isHeld)]
        simp only [Agenda.total_cons]
        omega

/-! ### What is listed -/

theorem mem_entries_of_lookup {connections : List Nat}
    (isListed : registry.entries.lookup address = some connections) :
    (address, connections) ∈ registry.entries := by
  obtain ⟨before, behind, isSplit, -⟩ := List.lookup_eq_some_iff.1 isListed
  rw [isSplit]
  exact List.mem_append_right before List.mem_cons_self

/-- An address is listed if it has connections. -/
theorem mem_addresses_iff (sound : registry.Sound) :
    address ∈ registry.addresses ↔ registry.connections address ≠ [] := by
  simp only [addresses, connections]
  cases isListed : registry.entries.lookup address with
  | none =>
      simp only [Option.getD_none, ne_eq, not_true_eq_false, iff_false, List.mem_map, not_exists, not_and]
      rintro entry isEntry rfl
      have different := List.lookup_eq_none_iff.1 isListed entry isEntry
      rw [bne_self_eq_false] at different
      cases different
  | some connections =>
      have isEntry := mem_entries_of_lookup isListed
      exact iff_of_true (List.mem_map_of_mem isEntry) (sound.nonempty _ isEntry)

/-- What is withdrawn is the list of the address, if there is one. -/
theorem withdraw_eq (sound : registry.Sound) (address : Address) :
    registry.withdraw address
      = (registry.without address,
          if registry.connections address = [] then none else some (registry.connections address)) := by
  rw [withdraw, without, connections]
  cases isListed : registry.entries.lookup address with
  | none => rfl
  | some connections =>
      rw [Option.getD_some, if_neg (sound.nonempty _ (mem_entries_of_lookup isListed))]

/-- Without a list to take out, the registry stays as it is. -/
theorem without_eq_self (sound : registry.Sound) (unlisted : registry.connections address = []) :
    registry.without address = registry := by
  have kept : (registry.entries.filter fun entry => entry.1 ≠ address) = registry.entries := by
    apply List.filter_eq_self.2
    intro entry isEntry
    apply decide_eq_true
    rintro rfl
    exact (mem_addresses_iff sound).1 (List.mem_map_of_mem isEntry) unlisted
  rw [without, kept]

/-! ### Taking some addresses out, one after the other -/

theorem connections_foldl_without (addresses : List Address) (registry : ConnectionRegistry)
    (address : Address) :
    (addresses.foldl ConnectionRegistry.without registry).connections address
      = if address ∈ addresses then [] else registry.connections address := by
  induction addresses generalizing registry with
  | nil => rw [List.foldl_nil, if_neg List.not_mem_nil]
  | cons first rest ih =>
      rw [List.foldl_cons, ih, connections_without]
      by_cases isFirst : first = address
      · rw [if_pos isFirst, ite_self, if_pos (List.mem_cons.2 (.inl isFirst.symm))]
      · rw [if_neg isFirst]
        by_cases isLater : address ∈ rest
        · rw [if_pos isLater, if_pos (List.mem_cons_of_mem first isLater)]
        · rw [if_neg isLater, if_neg (List.not_mem_cons_of_ne_of_not_mem (Ne.symm isFirst) isLater)]

theorem connections_without_of_later (nodup : (address :: addresses).Nodup) (isLater : other ∈ addresses) :
    (registry.without address).connections other = registry.connections other := by
  rw [connections_without, if_neg]
  rintro rfl
  exact (List.nodup_cons.1 nodup).1 isLater

theorem flatMap_without (nodup : (address :: addresses).Nodup) (registry : ConnectionRegistry) :
    addresses.flatMap (registry.without address).connections = addresses.flatMap registry.connections :=
  List.flatMap_congr fun _ isLater => connections_without_of_later nodup isLater

theorem sound_foldl_without (addresses : List Address) (sound : registry.Sound) :
    (addresses.foldl ConnectionRegistry.without registry).Sound := by
  induction addresses generalizing registry with
  | nil => exact sound
  | cons first rest ih => exact ih (sound.without first)

theorem total_foldl_without (sound : registry.Sound) (nodup : addresses.Nodup) :
    (addresses.foldl ConnectionRegistry.without registry).total
        + (addresses.flatMap registry.connections).length
      = registry.total := by
  induction addresses generalizing registry with
  | nil => rfl
  | cons first rest ih =>
      have others := ih (sound.without first) (List.nodup_cons.1 nodup).2
      rw [flatMap_without nodup] at others
      rw [List.foldl_cons, List.flatMap_cons, List.length_append, ← total_without sound first, ← others]
      omega

end Uplink.ConnectionRegistry
