/- module: EasyTierEdge/Server/Rooms
   source: cloudflare/src/runtime/rooms.ts
   digest: The room registry: one connection for each peer id of a network. -/

import EasyTierEdge.Lib.OrderedMap

set_option autoImplicit false
set_option relaxedAutoImplicit false

namespace EasyTierEdge.Server.Rooms

open Lib.OrderedMap

/-- Connections are named by the index of their object. -/
structure RoomRegistry where
  rooms : OMap String (OMap UInt32 Nat)

namespace RoomRegistry

def empty : RoomRegistry := ⟨∅⟩

def get (r : RoomRegistry) (networkName : String) (peerId : UInt32) : Option Nat :=
  (r.rooms.lookup networkName).bind fun room => room.lookup peerId

/-- The connection that was there before, and the registry with the new one. -/
def set (r : RoomRegistry) (networkName : String) (peerId : UInt32) (connection : Nat) :
    Option Nat × RoomRegistry :=
  let room := (r.rooms.lookup networkName).getD ∅
  (room.lookup peerId, ⟨OMap.set r.rooms networkName (OMap.set room peerId connection)⟩)

/-- Only the connection that is registered is deleted; a room that gets empty goes as well. -/
def delete (r : RoomRegistry) (networkName : String) (peerId : UInt32) (connection : Nat) :
    RoomRegistry :=
  match r.rooms.lookup networkName with
  | none => r
  | some room =>
    if room.lookup peerId ≠ some connection then r
    else if (room.erase peerId).keys = [] then ⟨r.rooms.erase networkName⟩
    else ⟨OMap.set r.rooms networkName (room.erase peerId)⟩

/-- The peer ids of a room in the order a `for` loop visits them. -/
def peers (r : RoomRegistry) (networkName : String) : List UInt32 :=
  ((r.rooms.lookup networkName).map fun room => room.keys).getD []

theorem set_previous (r : RoomRegistry) (networkName : String) (peerId : UInt32)
    (connection : Nat) : (r.set networkName peerId connection).1 = r.get networkName peerId := by
  unfold set get
  cases r.rooms.lookup networkName with
  | none => rfl
  | some room => rfl

theorem get_set (r : RoomRegistry) (networkName n : String) (peerId p : UInt32)
    (connection : Nat) :
    (r.set networkName peerId connection).2.get n p =
      if n = networkName ∧ p = peerId then some connection else r.get n p := by
  show ((OMap.set r.rooms networkName _).lookup n).bind _ = _
  rw [OMap.lookup_set]
  by_cases network : n = networkName
  · subst network
    rw [if_pos rfl, Option.bind_some, OMap.lookup_set]
    by_cases peer : p = peerId
    · rw [if_pos peer, if_pos ⟨rfl, peer⟩]
    · rw [if_neg peer, if_neg fun both => peer both.2]
      unfold get
      cases r.rooms.lookup n with
      | none => rfl
      | some room => rfl
  · rw [if_neg network, if_neg fun both => network both.1]
    rfl

theorem get_delete (r : RoomRegistry) (networkName n : String) (peerId p : UInt32)
    (connection : Nat) :
    (r.delete networkName peerId connection).get n p =
      if n = networkName ∧ p = peerId ∧ r.get networkName peerId = some connection then none
      else r.get n p := by
  unfold delete
  cases there : r.rooms.lookup networkName with
  | none =>
    have nobody : r.get networkName peerId = none := by
      unfold get
      rw [there]
      rfl
    simp [nobody]
  | some room =>
    have found : r.get networkName peerId = room.lookup peerId := by
      unfold get
      rw [there]
      rfl
    dsimp only
    by_cases own : room.lookup peerId = some connection
    · rw [if_neg (not_not.mpr own)]
      have erased : ∀ rooms : OMap String (OMap UInt32 Nat),
          (∀ m, m ≠ networkName → rooms.lookup m = r.rooms.lookup m) →
          ((rooms.lookup networkName).bind fun room => room.lookup p) =
            (room.erase peerId).lookup p →
          (⟨rooms⟩ : RoomRegistry).get n p =
            if n = networkName ∧ p = peerId ∧ r.get networkName peerId = some connection then none
            else r.get n p := by
        intro rooms others here
        by_cases network : n = networkName
        · subst network
          show ((rooms.lookup n).bind fun room => room.lookup p) = _
          rw [here, OMap.lookup_erase_eq_ite]
          by_cases peer : p = peerId
          · rw [if_pos peer, if_pos ⟨rfl, peer, found.trans own⟩]
          · rw [if_neg peer, if_neg fun all => peer all.2.1]
            unfold get
            rw [there]
            rfl
        · show ((rooms.lookup n).bind fun room => room.lookup p) = _
          rw [others n network, if_neg fun all => network all.1]
          rfl
      by_cases last : (room.erase peerId).keys = []
      · rw [if_pos last]
        apply erased
        · intro m other
          exact AList.lookup_erase_ne other
        · have nothing : (room.erase peerId).lookup p = none := by
            rw [AList.lookup_eq_none, AList.mem_keys, last]
            exact List.not_mem_nil
          rw [AList.lookup_erase, nothing]
          rfl
      · rw [if_neg last]
        apply erased
        · intro m other
          rw [OMap.lookup_set, if_neg other]
        · rw [OMap.lookup_set, if_pos rfl]
          rfl
    · rw [if_pos own, if_neg fun all => own (found.symm.trans all.2.2)]

theorem mem_peers {r : RoomRegistry} {networkName : String} {peerId : UInt32} {connection : Nat}
    (found : r.get networkName peerId = some connection) : peerId ∈ r.peers networkName := by
  unfold get at found
  unfold peers
  cases there : r.rooms.lookup networkName with
  | none =>
    rw [there] at found
    cases found
  | some room =>
    rw [there] at found
    exact OMap.mem_of_lookup found

end RoomRegistry

end EasyTierEdge.Server.Rooms
