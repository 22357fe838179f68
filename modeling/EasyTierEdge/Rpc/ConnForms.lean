/- module: EasyTierEdge/Rpc/ConnForms
   source: cloudflare/wasm/src/route_state.rs, build_conn_info
   digest: The legacy bitmap, bit by bit, and the sparse list of the same topology. -/

import EasyTierEdge.Rpc.ConnBitmap

set_option autoImplicit false
set_option relaxedAutoImplicit false

namespace EasyTierEdge.Rpc.ConnForms

open Lib.AscendingMap Lib.Fallible
open Packet (Bytes)
open Proto Routes Rpc.Topology ConnBitmap

/-- Bit `k` of a bitmap, least significant bit of each byte first. -/
def bit (bitmap : Bytes) (k : Nat) : Bool := (bitmap[k / 8]?.getD 0).toNat.testBit (k % 8)

/-- The peers that the list connects with its `i`-th one. -/
def connections (l : RouteConnPeerList) (i : Nat) : List UInt32 :=
  (l.peerConnInfos[i]?.map PeerConnInfo.connectedPeerIds).getD []

/-- A bitmap and a peer list for `relevantPeers` that describe the star around the relay. -/
structure SameStar (relevantPeers : List UInt32) (myPeerId : UInt32) (b : RouteConnBitmap)
    (l : RouteConnPeerList) : Prop where
  size : b.bitmap.length = (relevantPeers.length * relevantPeers.length + 7) / 8
  cells : ∀ (i j : Nat) p q, relevantPeers[i]? = some p → relevantPeers[j]? = some q →
    (bit b.bitmap (i * relevantPeers.length + j) = true ↔ i = j ∨ p = myPeerId ∨ q = myPeerId)
  padding : ∀ k, relevantPeers.length * relevantPeers.length ≤ k → bit b.bitmap k = false
  symmetric : ∀ i j, i < relevantPeers.length → j < relevantPeers.length →
    bit b.bitmap (i * relevantPeers.length + j) = bit b.bitmap (j * relevantPeers.length + i)
  adjacency : ∀ (i j : Nat) q, i < relevantPeers.length → relevantPeers[j]? = some q →
    (i ≠ j ∧ bit b.bitmap (i * relevantPeers.length + j) = true ↔ q ∈ connections l i)
  peers : l.peerConnInfos.length = relevantPeers.length ∧
    ∀ i, ∀ q ∈ connections l i, q ∈ relevantPeers
  listed : b.peerIds.map PeerIdVersion.peerId = relevantPeers
  versions : b.peerIds.map some = l.peerConnInfos.map PeerConnInfo.peerId

/-! The loops that write the bitmap. -/

section Loops

variable {relevantPeers : List UInt32} {myPeerId : UInt32}

private theorem foldl_keeps {α β : Type} {P : β → Prop} {f : β → α → β} (as : List α) (b : β)
    (start : P b) (keep : ∀ b, P b → ∀ a ∈ as, P (f b a)) : P (as.foldl f b) := by
  induction as generalizing b with
  | nil => exact start
  | cons a as ih =>
    refine ih (f b a) (keep b start a List.mem_cons_self) ?_
    intro b' holds a' member
    exact keep b' holds a' (List.mem_cons_of_mem a member)

/-- What every write of a cell inside the matrix keeps, the bitmap has. -/
private theorem connBitmap_keeps {P : Bytes → Prop}
    (start : P (List.replicate ((relevantPeers.length * relevantPeers.length + 7) / 8) 0))
    (keep : ∀ bitmap i j, P bitmap → i < relevantPeers.length → j < relevantPeers.length →
      P (RouteGroupData.setBit relevantPeers.length bitmap i j)) :
    P (RouteGroupData.connBitmap relevantPeers myPeerId) := by
  have diagonal : P ((List.range relevantPeers.length).foldl
      (fun bitmap i => RouteGroupData.setBit relevantPeers.length bitmap i i)
      (List.replicate ((relevantPeers.length * relevantPeers.length + 7) / 8) 0)) := by
    refine foldl_keeps _ _ start ?_
    intro bitmap holds i member
    have inside := List.mem_range.mp member
    exact keep bitmap i i holds inside inside
  rw [RouteGroupData.connBitmap]
  cases found : relevantPeers.idxOf? myPeerId with
  | some serverIdx =>
    have server := (List.idxOf?_eq_some_iff.mp found).1
    refine foldl_keeps _ _ diagonal ?_
    intro bitmap holds i member
    have inside := List.mem_range.mp member
    by_cases own : i = serverIdx
    · rw [if_pos own]
      exact holds
    · rw [if_neg own]
      exact keep _ i serverIdx (keep bitmap serverIdx i holds server inside) inside server
  | none =>
    refine foldl_keeps _ _ diagonal ?_
    intro bitmap holds i member
    refine foldl_keeps _ _ holds ?_
    intro bitmap' holds' j member'
    exact keep bitmap' i j holds' (List.mem_range.mp member) (List.mem_range.mp member')

private theorem length_connBitmap : (RouteGroupData.connBitmap relevantPeers myPeerId).length =
    (relevantPeers.length * relevantPeers.length + 7) / 8 := by
  refine @connBitmap_keeps relevantPeers myPeerId (fun bitmap => bitmap.length =
    (relevantPeers.length * relevantPeers.length + 7) / 8) List.length_replicate ?_
  intro bitmap i j same _ _
  exact (length_setBit bitmap).trans same

private theorem bit_connBitmap_padding {k : Nat}
    (beyond : relevantPeers.length * relevantPeers.length ≤ k) :
    bit (RouteGroupData.connBitmap relevantPeers myPeerId) k = false := by
  have both : (RouteGroupData.connBitmap relevantPeers myPeerId).length =
      (relevantPeers.length * relevantPeers.length + 7) / 8 ∧
      bit (RouteGroupData.connBitmap relevantPeers myPeerId) k = false := by
    refine @connBitmap_keeps relevantPeers myPeerId (fun bitmap => bitmap.length =
      (relevantPeers.length * relevantPeers.length + 7) / 8 ∧ bit bitmap k = false) ?_ ?_
    · refine ⟨List.length_replicate, ?_⟩
      have empty := @bitAt_empty 0 ((relevantPeers.length * relevantPeers.length + 7) / 8) 0 k
      rwa [bitAt, Nat.zero_mul, Nat.zero_add] at empty
    · rintro bitmap i j ⟨same, clear⟩ row col
      refine ⟨(length_setBit bitmap).trans same, ?_⟩
      have cell := cell_lt row col
      have written := @bitAt_setBit relevantPeers.length i j 0 k bitmap (by omega)
      rw [bitAt, bitAt, Nat.zero_mul, Nat.zero_add] at written
      rw [bit, written, decide_eq_false (by omega), Bool.false_or]
      exact clear
  exact both.2

end Loops

/-! Both forms. -/

section Forms

variable {relevantPeers : List UInt32} {myPeerId : UInt32} {g : RouteGroupData}

private theorem getElem?_inj {l : List UInt32} (ascending : l.Pairwise (· < ·)) {i j : Nat}
    {p : UInt32} (first : l[i]? = some p) (second : l[j]? = some p) : i = j := by
  have nodup : l.Nodup := ascending.imp fun lt => ne_of_lt lt
  exact (List.getElem?_inj (List.getElem?_eq_some_iff.mp first).1 nodup).mp
    (first.trans second.symm)

private theorem bit_connBitmap (ascending : relevantPeers.Pairwise (· < ·))
    (relay : myPeerId ∈ relevantPeers) {i j : Nat} {p q : UInt32}
    (row : relevantPeers[i]? = some p) (col : relevantPeers[j]? = some q) :
    bit (RouteGroupData.connBitmap relevantPeers myPeerId) (i * relevantPeers.length + j) = true ↔
      i = j ∨ p = myPeerId ∨ q = myPeerId := by
  obtain ⟨serverIdx, found⟩ : ∃ k, relevantPeers.idxOf? myPeerId = some k := by
    refine Option.ne_none_iff_exists'.mp fun missing => ?_
    exact List.idxOf?_eq_none_iff.mp missing relay
  obtain ⟨server, at_server, _⟩ := List.idxOf?_eq_some_iff.mp found
  have cell := bitAt_connBitmap found server (List.getElem?_eq_some_iff.mp row).1
    (List.getElem?_eq_some_iff.mp col).1
  have own : ∀ {k : Nat} {r : UInt32}, relevantPeers[k]? = some r →
      (k = serverIdx ↔ r = myPeerId) := by
    intro k r here
    have there : relevantPeers[serverIdx]? = some myPeerId :=
      List.getElem?_eq_some_iff.mpr ⟨server, at_server⟩
    constructor
    · rintro rfl
      exact Option.some.inj (here.symm.trans there)
    · rintro rfl
      exact getElem?_inj ascending here there
  rw [bitAt] at cell
  rw [bit, cell, decide_eq_true_eq, own row, own col]

private theorem connections_connPeerList {i : Nat} {p : UInt32} (row : relevantPeers[i]? = some p) :
    connections (g.connPeerList relevantPeers myPeerId) i =
      if p = myPeerId then relevantPeers.filter (· ≠ myPeerId) else [myPeerId] := by
  rw [connections, RouteGroupData.connPeerList, List.getElem?_map, RouteGroupData.peerIdVersions,
    List.getElem?_map, row]
  rfl

private theorem sameStar (ascending : relevantPeers.Pairwise (· < ·))
    (relay : myPeerId ∈ relevantPeers) :
    SameStar relevantPeers myPeerId (bitmapOf g relevantPeers myPeerId)
      (g.connPeerList relevantPeers myPeerId) where
  size := length_connBitmap
  cells i j p q row col := bit_connBitmap ascending relay row col
  padding k beyond := bit_connBitmap_padding beyond
  symmetric i j row col := by
    have at_i := List.getElem?_eq_getElem row
    have at_j := List.getElem?_eq_getElem col
    rw [Bool.eq_iff_iff]
    show bit (RouteGroupData.connBitmap _ _) _ = true ↔ bit (RouteGroupData.connBitmap _ _) _ = true
    rw [bit_connBitmap ascending relay at_i at_j, bit_connBitmap ascending relay at_j at_i, eq_comm]
    exact or_congr_right or_comm
  adjacency i j q row col := by
    have at_i := List.getElem?_eq_getElem row
    have inside := List.mem_of_getElem? col
    show _ ∧ bit (RouteGroupData.connBitmap _ _) _ = true ↔ _
    rw [bit_connBitmap ascending relay at_i col, connections_connPeerList at_i]
    have same : i = j ↔ relevantPeers[i] = q := by
      constructor
      · rintro rfl
        exact Option.some.inj (at_i.symm.trans col)
      · intro equal
        rw [equal] at at_i
        exact getElem?_inj ascending at_i col
    rw [Ne, same]
    by_cases own : relevantPeers[i] = myPeerId
    · rw [if_pos own, List.mem_filter, decide_eq_true_eq, own]
      constructor
      · rintro ⟨other, _⟩
        exact ⟨inside, fun equal => other equal.symm⟩
      · rintro ⟨_, other⟩
        exact ⟨fun equal => other equal.symm, Or.inr (Or.inl rfl)⟩
    · rw [if_neg own, List.mem_singleton]
      constructor
      · rintro ⟨other, equal | equal | equal⟩
        · exact absurd equal other
        · exact absurd equal own
        · exact equal
      · rintro rfl
        exact ⟨own, Or.inr (Or.inr rfl)⟩
  peers := by
    refine ⟨?_, ?_⟩
    · rw [RouteGroupData.connPeerList, List.length_map, RouteGroupData.peerIdVersions,
        List.length_map]
    · intro i q member
      cases row : relevantPeers[i]? with
      | none =>
        rw [connections, RouteGroupData.connPeerList, List.getElem?_map,
          RouteGroupData.peerIdVersions, List.getElem?_map, row] at member
        cases member
      | some p =>
        rw [connections_connPeerList row] at member
        split at member
        · exact (List.mem_filter.mp member).1
        · rw [List.mem_singleton.mp member]
          exact relay
  listed := by
    rw [bitmapOf, RouteGroupData.peerIdVersions, List.map_map]
    exact List.map_id relevantPeers
  versions := by
    rw [bitmapOf, RouteGroupData.connPeerList, List.map_map]
    rfl

private theorem filter_current {α : Type} {cache : Option (UInt64 × α)} {version : UInt64}
    (uncached : ∀ cached, cache = some cached → cached.1 ≠ version) :
    cache.filter (fun cached => cached.1 == version) = none := by
  rw [Option.filter_eq_none_iff]
  intro cached found
  rw [beq_iff_eq]
  exact uncached cached found

private theorem buildConnInfo_dense {t : UInt32} {nowMs : UInt64} (relay : myPeerId ∈ relevantPeers)
    (few : relevantPeers.length ≤ maxLegacyBitmapPeers)
    (unknown : g.topologyKnown t nowMs = false)
    (uncached : ∀ cached, g.cachedConnBitmap = some cached → cached.1 ≠ g.topologyVersion) :
    value (RouteGroupData.buildConnInfo relevantPeers t false myPeerId nowMs g) =
      .ok (some (.connBitmap (bitmapOf g relevantPeers myPeerId))) := by
  refine value_of_ensures ?_
  simp only [RouteGroupData.buildConnInfo, ensures_bind, ensures_ite, ensures_get, ensures_pure,
    unknown, filter_current uncached, ensures_throw, ensures_set]
  refine ⟨fun empty => ?_, fun _ => ⟨fun known => ?_, fun _ => ⟨fun sparse => ?_, fun _ =>
    ⟨fun many => absurd few (not_le.mpr many), fun _ => rfl⟩⟩⟩⟩
  · rw [List.isEmpty_iff.mp empty] at relay
    cases relay
  · cases known
  · cases sparse

private theorem buildConnInfo_sparse {t : UInt32} {nowMs : UInt64}
    (relay : myPeerId ∈ relevantPeers) (unknown : g.topologyKnown t nowMs = false)
    (uncached : ∀ cached, g.cachedConnPeerList = some cached → cached.1 ≠ g.topologyVersion) :
    value (RouteGroupData.buildConnInfo relevantPeers t true myPeerId nowMs g) =
      .ok (some (.connPeerList (g.connPeerList relevantPeers myPeerId))) := by
  refine value_of_ensures ?_
  simp only [RouteGroupData.buildConnInfo, ensures_bind, ensures_ite, ensures_get, ensures_pure,
    unknown, filter_current uncached, ensures_set]
  refine ⟨fun empty => ?_, fun _ => ⟨fun known => ?_, fun _ => ⟨fun _ => trivial, fun dense => ?_⟩⟩⟩
  · rw [List.isEmpty_iff.mp empty] at relay
    cases relay
  · cases known
  · exact absurd trivial dense

/-- In every group state and for every list of relevant peers with the relay in it, both forms are
the star around the relay, and they are what `build_conn_info` builds. -/
theorem conn_forms_agree (g : RouteGroupData) {relevantPeers : List UInt32} {myPeerId : UInt32}
    (ascending : relevantPeers.Pairwise (· < ·)) (relay : myPeerId ∈ relevantPeers)
    (few : relevantPeers.length ≤ maxLegacyBitmapPeers) :
    ∃ b l, SameStar relevantPeers myPeerId b l ∧
      ∀ t nowMs, g.topologyKnown t nowMs = false →
        ((∀ cached, g.cachedConnBitmap = some cached → cached.1 ≠ g.topologyVersion) →
          value (RouteGroupData.buildConnInfo relevantPeers t false myPeerId nowMs g) =
            .ok (some (.connBitmap b))) ∧
        ((∀ cached, g.cachedConnPeerList = some cached → cached.1 ≠ g.topologyVersion) →
          value (RouteGroupData.buildConnInfo relevantPeers t true myPeerId nowMs g) =
            .ok (some (.connPeerList l))) := by
  refine ⟨_, _, @sameStar _ _ g ascending relay, ?_⟩
  intro t nowMs unknown
  exact ⟨buildConnInfo_dense relay few unknown, buildConnInfo_sparse relay unknown⟩

end Forms

/-! Three peers, the relay in the middle. -/

def starGroup : RouteGroupData :=
  RouteGroupData.new 5 ⟨fun _ => 1_000, ⟨1, 2, 3, 4⟩, 9, fun _ => .ok 9⟩

theorem conn_forms_agree_three :
    ∃ b l, SameStar [3, 5, 9] 5 b l ∧
      ∀ t nowMs, starGroup.topologyKnown t nowMs = false →
        ((∀ cached, starGroup.cachedConnBitmap = some cached →
            cached.1 ≠ starGroup.topologyVersion) →
          value (RouteGroupData.buildConnInfo [3, 5, 9] t false 5 nowMs starGroup) =
            .ok (some (.connBitmap b))) ∧
        ((∀ cached, starGroup.cachedConnPeerList = some cached →
            cached.1 ≠ starGroup.topologyVersion) →
          value (RouteGroupData.buildConnInfo [3, 5, 9] t true 5 nowMs starGroup) =
            .ok (some (.connPeerList l))) :=
  conn_forms_agree starGroup (by decide) (by decide) (by decide)

end EasyTierEdge.Rpc.ConnForms
