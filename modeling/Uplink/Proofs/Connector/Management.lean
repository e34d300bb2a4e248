/-
Module: Uplink.Proofs.Connector.Management
Purpose: An account of the connections under management over any calls on the registry: which ones each
  address has, which switches a call turns off, and how many entries it counts.
Main exports: RegistryCall, managedSince, Connector.attend, Connector.attendAll, Connector.Dismisses,
  Connector.registry_accounts_for_all
-/
import Mathlib.Data.Set.Card
import Mathlib.Data.List.Induction
import Uplink.Connector.Basic
import Uplink.Proofs.Connection.Registry

namespace Uplink

/-! ### Turning switches off -/

namespace Fabric

variable {fabric : Fabric}

/-- What is seen when the switch of a connection is turned off: only a recorder shows it. -/
def sightOff (fabric : Fabric) (connection : Nat) : Option Event :=
  match fabric.connections[connection]?.bind Connection.switch with
  | some (.recorder number) => some (.switched number false)
  | _ => none

/-- Turn the switches of some connections off, one after the other. -/
def turnOff (fabric : Fabric) (connections : List Nat) : Fabric :=
  connections.foldl (fun turned connection => turned.turnSwitch connection false) fabric

/-- Turn the switches of an address off and log how many there were; without any, leave everything as it
is. -/
def dismissAll (fabric : Fabric) (address : Address) (connections : List Nat) : Fabric :=
  if connections = [] then fabric
  else (fabric.turnOff connections).log (ConnectionRegistry.cancelledLine address connections.length)

/-- Dismiss what is listed for some addresses, one address after the other. -/
def dismissEach (fabric : Fabric) (listed : Address → List Nat) (addresses : List Address) : Fabric :=
  addresses.foldl (fun dismissed address => dismissed.dismissAll address (listed address)) fabric

theorem sightOff_congr {other : Fabric} (same : other.connections = fabric.connections) :
    other.sightOff = fabric.sightOff := by
  funext connection
  rw [sightOff, sightOff, same]

/-- The switches of some connections were turned off.  Each recorder shows it, once for every time its
connection is among them, in order; nothing else is seen, and all connections keep their switches. -/
structure TurnsOff (turned : List Nat) (before after : Fabric) : Prop where
  connections : after.connections = before.connections
  events : after.roster.journal.events = before.roster.journal.events ++ turned.filterMap before.sightOff

namespace TurnsOff

variable {connections others : List Nat} {before between after : Fabric}

theorem refl (fabric : Fabric) : TurnsOff [] fabric fabric :=
  ⟨rfl, (List.append_nil _).symm⟩

theorem trans (first : TurnsOff connections before between) (second : TurnsOff others between after) :
    TurnsOff (connections ++ others) before after := by
  constructor
  case connections => exact second.connections.trans first.connections
  case events =>
    rw [second.events, first.events, sightOff_congr first.connections, List.filterMap_append,
      List.append_assoc]

theorem log (turned : TurnsOff connections before after) (line : LogLine) :
    TurnsOff connections before (after.log line) :=
  ⟨turned.connections, turned.events⟩

theorem foldl {Entry : Type} {change : Fabric → Entry → Fabric} {listed : Entry → List Nat}
    (turns : ∀ fabric entry, TurnsOff (listed entry) fabric (change fabric entry)) (entries : List Entry)
    (fabric : Fabric) : TurnsOff (entries.flatMap listed) fabric (entries.foldl change fabric) := by
  induction entries generalizing fabric with
  | nil => exact refl fabric
  | cons entry rest ih =>
      rw [List.flatMap_cons]
      exact (turns fabric entry).trans (ih _)

/-- Nobody sees a watchdog stop. -/
theorem stop (fabric : Fabric) (number : Nat) : TurnsOff [] fabric (fabric.stop number).1 := by
  simp only [Fabric.stop]
  split
  · exact refl fabric
  · rename_i watchdog _
    have cancelled : TurnsOff [] fabric (fabric.cancelPending watchdog.pending) := by
      cases watchdog.pending <;> exact ⟨rfl, (List.append_nil _).symm⟩
    split <;> exact ⟨cancelled.connections, cancelled.events⟩

theorem turnSwitch (fabric : Fabric) (connection : Nat) :
    TurnsOff [connection] fabric (fabric.turnSwitch connection false) := by
  constructor
  case connections =>
    simp only [Fabric.turnSwitch]
    split
    · rfl
    · split
      · exact (stop fabric _).connections
      · rfl
      · rfl
  case events =>
    have shown : [connection].filterMap fabric.sightOff = (fabric.sightOff connection).toList := by
      rw [List.filterMap_cons]
      cases fabric.sightOff connection <;> rfl
    rw [shown, Fabric.turnSwitch, sightOff]
    cases fabric.connections[connection]? with
    | none => exact (List.append_nil _).symm
    | some found =>
        dsimp only [Option.bind_some]
        cases found.switch with
        | none => exact (List.append_nil _).symm
        | some switch =>
            cases switch with
            | watchdog number => exact (stop fabric number).events
            | recorder number => rfl

theorem turnOff (fabric : Fabric) (connections : List Nat) :
    TurnsOff connections fabric (fabric.turnOff connections) := by
  have turned := foldl turnSwitch connections fabric
  rw [List.flatMap_singleton'] at turned
  exact turned

theorem dismissAll (fabric : Fabric) (address : Address) (connections : List Nat) :
    TurnsOff connections fabric (fabric.dismissAll address connections) := by
  rw [Fabric.dismissAll]
  split
  · rename_i none
    rw [none]
    exact refl fabric
  · exact (turnOff fabric connections).log _

theorem dismissEach (fabric : Fabric) (listed : Address → List Nat) (addresses : List Address) :
    TurnsOff (addresses.flatMap listed) fabric (fabric.dismissEach listed addresses) :=
  foldl (fun dismissed address => dismissAll dismissed address (listed address)) addresses fabric

end TurnsOff

end Fabric

/-! ### Calls on the registry -/

/-- An order in which all addresses of a map may be visited. -/
structure VisitingOrder where
  arrange : List Address → List Address
  perm : ∀ addresses, (arrange addresses).Perm addresses

/-- The order in which the addresses came. -/
def VisitingOrder.asListed : VisitingOrder :=
  { arrange := id, perm := List.Perm.refl }

/-- A call on the registry.  Nothing is said about the order in which all addresses are cancelled. -/
inductive RegistryCall where
  | manage (address : Address) (connection : Nat)
  | cancel (address : Address)
  | cancelAll (order : VisitingOrder)

namespace RegistryCall

/-- Whether a call takes all connections of an address out of management. -/
def covers (address : Address) : RegistryCall → Bool
  | manage _ _ => false
  | cancel cancelled => cancelled == address
  | cancelAll _ => true

/-- The connection that a call takes under management for an address. -/
def managed? (address : Address) : RegistryCall → Option Nat
  | manage managed connection => if managed = address then some connection else none
  | _ => none

/-- Whether a call takes a connection under management. -/
def isManage : RegistryCall → Bool
  | manage _ _ => true
  | _ => false

theorem managed?_eq_none {call : RegistryCall} {address : Address} (cancels : call.isManage = false) :
    call.managed? address = none := by
  cases call with
  | manage managed connection => cases cancels
  | cancel cancelled => rfl
  | cancelAll order => rfl

theorem manages_or_cancels (call : RegistryCall) :
    (∃ address connection, call = manage address connection) ∨ call.isManage = false := by
  cases call with
  | manage address connection => exact .inl ⟨address, connection, rfl⟩
  | cancel address => exact .inr rfl
  | cancelAll order => exact .inr rfl

/-- The addresses that a call visits, of those that are listed. -/
def visits (listed : List Address) : RegistryCall → List Address
  | manage _ _ => []
  | cancel address => [address]
  | cancelAll order => order.arrange listed

end RegistryCall

/-- The connections that came under management for an address since the last call that covered it. -/
def managedSince (calls : List RegistryCall) (address : Address) : List Nat :=
  ((calls.reverse.takeWhile fun call => !call.covers address).filterMap
    (RegistryCall.managed? address)).reverse

theorem managedSince_concat (calls : List RegistryCall) (call : RegistryCall) (address : Address) :
    managedSince (calls ++ [call]) address
      = if call.covers address then []
        else managedSince calls address ++ (call.managed? address).toList := by
  rw [managedSince, List.reverse_concat, List.takeWhile_cons]
  cases call.covers address with
  | true => rfl
  | false =>
      simp only [Bool.not_false, if_true, Bool.false_eq_true, if_false, List.filterMap_cons]
      cases call.managed? address with
      | none => exact (List.append_nil _).symm
      | some connection => exact List.reverse_cons

namespace Connector

variable {connector : Connector} {address : Address} {addresses : List Address}

/-- Answer a call.  A call that cancels hands out how many entries it has removed. -/
def attend (connector : Connector) : RegistryCall → Connector × Option Nat
  | .manage address connection => (connector.manage address connection, none)
  | .cancel address =>
      let cancelled := connector.cancelReconnect address
      (cancelled.1, some cancelled.2)
  | .cancelAll order =>
      let cancelled := connector.cancelEach (order.arrange connector.registry.addresses)
      (cancelled.1, some cancelled.2)

/-- All retries are stopped in the order in which the addresses came, which is one of the orders. -/
theorem attend_cancelAll_asListed (connector : Connector) :
    connector.attend (.cancelAll .asListed)
      = (connector.cancelAllReconnect.1, some connector.cancelAllReconnect.2) :=
  rfl

/-- Answer some calls, and collect the numbers that are handed out. -/
def attendAll (connector : Connector) (calls : List RegistryCall) : Connector × List Nat :=
  calls.foldl
    (fun reached call =>
      let attended := reached.1.attend call
      (attended.1, reached.2 ++ attended.2.toList))
    (connector, [])

theorem attendAll_concat (connector : Connector) (calls : List RegistryCall) (call : RegistryCall) :
    connector.attendAll (calls ++ [call])
      = (((connector.attendAll calls).1.attend call).1,
          (connector.attendAll calls).2 ++ ((connector.attendAll calls).1.attend call).2.toList) := by
  rw [attendAll, List.foldl_concat]
  rfl

/-! ### What cancelling does -/

/-- The connector without the lists of some addresses, all their switches turned off. -/
def dismiss (connector : Connector) (addresses : List Address) : Connector :=
  { connector with
    registry := addresses.foldl ConnectionRegistry.without connector.registry
    fabric := connector.fabric.dismissEach connector.registry.connections addresses }

theorem foldl_setReconnect (connector : Connector) (connections : List Nat) :
    connections.foldl (fun changed found => changed.setReconnect found false) connector
      = { connector with fabric := connector.fabric.turnOff connections } := by
  induction connections generalizing connector with
  | nil => rfl
  | cons connection rest ih => exact ih _

theorem cancelReconnect_eq (sound : connector.registry.Sound) (address : Address) :
    connector.cancelReconnect address
      = (connector.dismiss [address], (connector.registry.connections address).length) := by
  rw [cancelReconnect, ConnectionRegistry.withdraw_eq sound]
  simp only [dismiss, Fabric.dismissEach, List.foldl_cons, List.foldl_nil, Fabric.dismissAll]
  by_cases unlisted : connector.registry.connections address = []
  · rw [if_pos unlisted, if_pos unlisted, ConnectionRegistry.without_eq_self sound unlisted, unlisted]
    rfl
  · rw [if_neg unlisted, if_neg unlisted]
    simp only [foldl_setReconnect]
    rfl

theorem dismiss_cons (nodup : (address :: addresses).Nodup) (connector : Connector) :
    connector.dismiss (address :: addresses) = (connector.dismiss [address]).dismiss addresses := by
  have kept : ∀ fabric : Fabric,
      fabric.dismissEach connector.registry.connections addresses
        = fabric.dismissEach (connector.registry.without address).connections addresses := by
    intro fabric
    apply List.foldl_ext
    intro dismissed other isOther
    rw [ConnectionRegistry.connections_without_of_later nodup isOther]
  simp only [dismiss, List.foldl_cons, List.foldl_nil, ← kept]
  rfl

theorem cancelEach_eq (sound : connector.registry.Sound) (nodup : addresses.Nodup) :
    connector.cancelEach addresses
      = (connector.dismiss addresses, (addresses.flatMap connector.registry.connections).length) := by
  induction addresses generalizing connector with
  | nil => rfl
  | cons address rest ih =>
      have others : (connector.dismiss [address]).cancelEach rest
          = ((connector.dismiss [address]).dismiss rest,
              (rest.flatMap (connector.registry.without address).connections).length) :=
        ih (sound.without address) (List.nodup_cons.1 nodup).2
      rw [ConnectionRegistry.flatMap_without nodup] at others
      simp only [cancelEach]
      rw [cancelReconnect_eq sound, others, dismiss_cons nodup, List.flatMap_cons, List.length_append]

/-- Where nothing is listed, nothing is touched. -/
theorem dismiss_eq_self (sound : connector.registry.Sound)
    (unlisted : ∀ address ∈ addresses, connector.registry.connections address = []) :
    connector.dismiss addresses = connector := by
  induction addresses with
  | nil => rfl
  | cons address rest ih =>
      have isEmpty := unlisted address List.mem_cons_self
      have others := ih fun other isOther => unlisted other (List.mem_cons_of_mem address isOther)
      simp only [dismiss, Fabric.dismissEach, List.foldl_cons] at others ⊢
      rw [ConnectionRegistry.without_eq_self sound isEmpty, isEmpty, Fabric.dismissAll, if_pos rfl]
      exact others

/-! ### What a call does -/

theorem nodup_visits (sound : connector.registry.Sound) (call : RegistryCall) :
    (call.visits connector.registry.addresses).Nodup := by
  cases call with
  | manage address connection => exact List.nodup_nil
  | cancel address => exact List.nodup_singleton address
  | cancelAll order => exact (order.perm _).nodup_iff.2 sound.nodup

/-- A call visits the addresses that it covers and that are listed. -/
theorem mem_visits_iff (sound : connector.registry.Sound) (call : RegistryCall)
    (isListed : connector.registry.connections address ≠ []) :
    address ∈ call.visits connector.registry.addresses ↔ call.covers address = true := by
  cases call with
  | manage managed connection => exact iff_of_false List.not_mem_nil Bool.false_ne_true
  | cancel cancelled =>
      rw [RegistryCall.visits, RegistryCall.covers, List.mem_singleton, beq_iff_eq]
      exact eq_comm
  | cancelAll order =>
      have isVisited := (order.perm connector.registry.addresses).mem_iff.2
        ((ConnectionRegistry.mem_addresses_iff sound).2 isListed)
      exact iff_of_true isVisited rfl

theorem covers_of_mem_visits {listed : List Address} (call : RegistryCall)
    (isVisited : address ∈ call.visits listed) : call.covers address = true := by
  cases call with
  | manage managed connection => exact absurd isVisited List.not_mem_nil
  | cancel cancelled => exact beq_iff_eq.2 (List.mem_singleton.1 isVisited).symm
  | cancelAll order => rfl

theorem attend_eq (sound : connector.registry.Sound) {call : RegistryCall}
    (cancels : call.isManage = false) :
    connector.attend call
      = (connector.dismiss (call.visits connector.registry.addresses),
          some ((call.visits connector.registry.addresses).flatMap connector.registry.connections).length) := by
  have nodup := nodup_visits sound call
  cases call with
  | manage address connection => cases cancels
  | cancel address =>
      rw [attend, cancelReconnect_eq sound]
      simp only [RegistryCall.visits, List.flatMap_singleton]
  | cancelAll order =>
      have done := cancelEach_eq sound nodup
      simp only [RegistryCall.visits] at done ⊢
      rw [attend, done]

theorem sound_attend (sound : connector.registry.Sound) (call : RegistryCall) :
    (connector.attend call).1.registry.Sound := by
  rcases call.manages_or_cancels with ⟨address, connection, rfl⟩ | cancels
  · exact sound.manage address connection
  · rw [attend_eq sound cancels]
    exact ConnectionRegistry.sound_foldl_without _ sound

/-- A call empties the lists of the addresses that it covers, and adds what it manages. -/
theorem connections_attend (sound : connector.registry.Sound) (call : RegistryCall) (address : Address) :
    (connector.attend call).1.registry.connections address
      = if call.covers address then []
        else connector.registry.connections address ++ (call.managed? address).toList := by
  rcases call.manages_or_cancels with ⟨managed, connection, rfl⟩ | cancels
  · refine (ConnectionRegistry.connections_manage _ managed connection address).trans ?_
    rw [RegistryCall.covers, if_neg Bool.false_ne_true, RegistryCall.managed?]
    split <;> rfl
  · rw [attend_eq sound cancels, RegistryCall.managed?_eq_none cancels, Option.toList_none, List.append_nil]
    refine (ConnectionRegistry.connections_foldl_without _ _ address).trans ?_
    by_cases isListed : connector.registry.connections address = []
    · rw [isListed, ite_self, ite_self]
    · simp only [mem_visits_iff sound call isListed]

/-- What a call hands out and what is listed afterwards makes up what was listed before and what the call
manages. -/
theorem total_attend (sound : connector.registry.Sound) (call : RegistryCall) :
    (connector.attend call).2.toList.sum + (connector.attend call).1.registry.total
      = connector.registry.total + [call].countP RegistryCall.isManage := by
  rcases call.manages_or_cancels with ⟨address, connection, rfl⟩ | cancels
  · exact (Nat.zero_add _).trans (ConnectionRegistry.total_manage _ address connection)
  · have balance := ConnectionRegistry.total_foldl_without sound (nodup_visits sound call)
    rw [attend_eq sound cancels, List.countP_cons_of_neg (by rw [cancels]; exact Bool.false_ne_true),
      Option.toList_some, List.sum_singleton, Nat.add_comm]
    exact balance

/-- A call that cancels does nothing when it is made again. -/
theorem attend_again (sound : connector.registry.Sound) {call : RegistryCall}
    (cancels : call.isManage = false) :
    (connector.attend call).1.attend call = ((connector.attend call).1, some 0) := by
  let after := (connector.attend call).1
  have emptied : ∀ address ∈ call.visits after.registry.addresses, after.registry.connections address = [] := by
    intro address isVisited
    rw [connections_attend sound, if_pos (covers_of_mem_visits call isVisited)]
  rw [attend_eq (sound_attend sound call) cancels, dismiss_eq_self (sound_attend sound call) emptied,
    List.flatMap_eq_nil_iff.2 emptied]
  rfl

/-! ### The account -/

/-- What a call does when `listed` is what is under management before it.  Each address whose connections it
takes out of management is visited once, and no other address that has connections is; the switches of
those connections are turned off, address by address and in the order of each list, and nothing else
happens; and their number is handed out. -/
structure Dismisses (listed : Address → List Nat) (before : Connector) (call : RegistryCall)
    (visited : List Address) : Prop where
  once : visited.Nodup
  covered : ∀ address, listed address ≠ [] → (address ∈ visited ↔ call.covers address = true)
  turned : (before.attend call).1.fabric = before.fabric.dismissEach listed visited
  seen : (before.attend call).1.fabric.roster.journal.events
    = before.fabric.roster.journal.events ++ (visited.flatMap listed).filterMap before.fabric.sightOff
  counted : (before.attend call).2
    = if call.isManage then none else some (visited.flatMap listed).length

theorem dismisses_attend (sound : connector.registry.Sound) (call : RegistryCall) :
    Dismisses connector.registry.connections connector call
      (call.visits connector.registry.addresses) := by
  have turned : (connector.attend call).1.fabric
      = connector.fabric.dismissEach connector.registry.connections
          (call.visits connector.registry.addresses) := by
    rcases call.manages_or_cancels with ⟨address, connection, rfl⟩ | cancels
    · rfl
    · rw [attend_eq sound cancels]
      rfl
  constructor
  case once => exact nodup_visits sound call
  case covered => exact fun _ isListed => mem_visits_iff sound call isListed
  case turned => exact turned
  case seen =>
    rw [turned]
    exact (Fabric.TurnsOff.dismissEach _ _ _).events
  case counted =>
    rcases call.manages_or_cancels with ⟨address, connection, rfl⟩ | cancels
    · rfl
    · rw [attend_eq sound cancels, cancels]
      rfl

/-- What was reached by some calls, as the calls tell it. -/
structure Reflects (calls : List RegistryCall) (reached : Connector × List Nat) : Prop where
  sound : reached.1.registry.Sound
  listed : reached.1.registry.connections = managedSince calls
  balance : reached.2.sum + reached.1.registry.total = calls.countP RegistryCall.isManage

theorem Reflects.concat {calls : List RegistryCall} {reached : Connector × List Nat}
    (reflects : Reflects calls reached) (call : RegistryCall) :
    Reflects (calls ++ [call])
      ((reached.1.attend call).1, reached.2 ++ (reached.1.attend call).2.toList) := by
  constructor
  case sound => exact sound_attend reflects.sound call
  case listed =>
    funext address
    rw [connections_attend reflects.sound, managedSince_concat, reflects.listed]
  case balance =>
    have step := total_attend reflects.sound call
    rw [List.sum_append, List.countP_append, ← reflects.balance]
    dsimp only
    omega

theorem reflects_attendAll (connector : Connector) (calls : List RegistryCall) :
    Reflects calls (({ connector with registry := .empty } : Connector).attendAll calls) := by
  induction calls using List.reverseRecOn with
  | nil => exact ⟨ConnectionRegistry.sound_empty, rfl, rfl⟩
  | append_singleton calls call ih =>
      rw [attendAll_concat]
      exact ih.concat call

/-- Starting with nothing under management, any calls leave for each address what came since it was covered
last, in order.  What they handed out and what is still listed are together as many as came; the size of
the registry is the number of addresses that have connections.  A further call turns off just the switches
of what it removes, and counts it; made again, it does nothing, and neither does cancelling an address that
has no connections. -/
theorem registry_accounts_for_all (connector : Connector) (calls : List RegistryCall) :
    let reached := ({ connector with registry := .empty } : Connector).attendAll calls
    let listed := managedSince calls
    (∀ address, reached.1.registry.connections address = listed address)
      ∧ {address | listed address ≠ []}.encard = reached.1.registry.size
      ∧ reached.2.sum + reached.1.registry.total = calls.countP RegistryCall.isManage
      ∧ (∀ call, ∃ visited, Dismisses listed reached.1 call visited)
      ∧ (∀ call, call.isManage = false →
          (reached.1.attend call).1.attend call = ((reached.1.attend call).1, some 0))
      ∧ ∀ address, listed address = [] → reached.1.cancelReconnect address = (reached.1, 0) := by
  intro reached listed
  have reflects : Reflects calls reached := reflects_attendAll connector calls
  refine ⟨congrFun reflects.listed, ?_, reflects.balance, ?_, ?_, ?_⟩
  · have same : {address | listed address ≠ []} = reached.1.registry.addresses.toFinset := by
      ext address
      rw [Set.mem_ofPred_eq, Finset.mem_coe, List.mem_toFinset,
        ConnectionRegistry.mem_addresses_iff reflects.sound, reflects.listed]
    rw [same, Set.encard_coe_eq_coe_finsetCard, List.toFinset_card_of_nodup reflects.sound.nodup]
    exact congrArg Nat.cast (List.length_map _)
  · intro call
    have dismisses := dismisses_attend reflects.sound call
    rw [reflects.listed] at dismisses
    exact ⟨_, dismisses⟩
  · exact fun call cancels => attend_again reflects.sound cancels
  · intro address unlisted
    have noEntry : reached.1.registry.connections address = [] := by rw [reflects.listed]; exact unlisted
    rw [cancelReconnect_eq reflects.sound, noEntry,
      dismiss_eq_self reflects.sound (List.forall_mem_singleton.2 noEntry)]
    rfl

end Connector

end Uplink
