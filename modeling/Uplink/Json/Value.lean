/-
Module: Uplink.Json.Value
Purpose: JSON values, with objects kept sorted by key and without repeated keys.
Main exports: Json, Json.insertMember, Json.objectOf, Json.same, Json.depth
-/
import Uplink.Json.Number

namespace Uplink

/-- A JSON value.  The members of an object are sorted by the bytes of their keys. -/
inductive Json where
  | null
  | boolean (value : Bool)
  | number (value : Number)
  | text (value : String)
  | array (items : List Json)
  | object (members : List (String × Json))
deriving Repr, Inhabited

namespace Json

/-- An integer value. -/
def ofWord (word : UInt64) : Json :=
  .number (.integer (.ofWord word))

/-- Put a member into a sorted member list; the value of a key that is already there is replaced. -/
def insertMember {α : Type} (key : String) (value : α) : List (String × α) → List (String × α)
  | [] => [(key, value)]
  | (held, heldValue) :: rest =>
      if key < held then (key, value) :: (held, heldValue) :: rest
      else if key = held then (key, value) :: rest
      else (held, heldValue) :: insertMember key value rest

/-- Sort members by key; of several members with one key the last one is kept. -/
def sortMembers {α : Type} (members : List (String × α)) : List (String × α) :=
  members.foldl (fun sorted member => insertMember member.1 member.2 sorted) []

/-- The object with the given members. -/
def objectOf (members : List (String × Json)) : Json :=
  .object (sortMembers members)

mutual

/-- Whether two values are the same, reals by their words. -/
def same : Json → Json → Bool
  | .null, .null => true
  | .boolean first, .boolean second => first == second
  | .number first, .number second => decide (first = second)
  | .text first, .text second => first == second
  | .array first, .array second => sameItems first second
  | .object first, .object second => sameMembers first second
  | _, _ => false

/-- Whether two item lists are the same. -/
def sameItems : List Json → List Json → Bool
  | [], [] => true
  | first :: firsts, second :: seconds => same first second && sameItems firsts seconds
  | _, _ => false

/-- Whether two member lists are the same. -/
def sameMembers : List (String × Json) → List (String × Json) → Bool
  | [], [] => true
  | (firstKey, first) :: firsts, (secondKey, second) :: seconds =>
      firstKey == secondKey && same first second && sameMembers firsts seconds
  | _, _ => false

end

mutual

/-- How many containers a value is nested in itself; a scalar has depth zero. -/
def depth : Json → Nat
  | .array items => depthOfItems items + 1
  | .object members => depthOfMembers members + 1
  | _ => 0

/-- The greatest depth of some items. -/
def depthOfItems : List Json → Nat
  | [] => 0
  | item :: rest => max (depth item) (depthOfItems rest)

/-- The greatest depth of some members' values. -/
def depthOfMembers : List (String × Json) → Nat
  | [] => 0
  | (_, value) :: rest => max (depth value) (depthOfMembers rest)

end

end Json

end Uplink
