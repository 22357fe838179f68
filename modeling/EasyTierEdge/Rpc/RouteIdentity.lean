/- module: EasyTierEdge/Rpc/RouteIdentity
   source: cloudflare/wasm/src/route_state.rs
   digest: Every table of a group speaks about its authenticated members only. -/

import EasyTierEdge.Rpc.Topology

set_option autoImplicit false
set_option relaxedAutoImplicit false

namespace EasyTierEdge.Rpc.RouteIdentity

open Lib.AscendingMap Lib.Fallible Lib.FiniteMap Lib.Machine
open Packet (Key)
open Proto Routes RouteMoves RouteRuns Rpc.Topology

/-- Members have a key, infos belong to members and carry their key, and connection versions are
kept for members and for the relay. -/
structure Identity (myPeerId : UInt32) (g : RouteGroupData) : Prop where
  keyed : ∀ p, p ∈ g.peers.keys ↔ p ∈ g.authenticatedPeerKeys.keys
  infos : ∀ p info, g.peerInfos.get? p = some info → p ∈ g.peers.keys ∧ info.peerId = p ∧
    ∃ key : Key, g.authenticatedPeerKeys.get? p = some key ∧ info.noiseStaticPubkey = key.toList
  versions : ∀ p ∈ g.peerConnVersions.keys, p ∈ g.peers.keys ∨ p = myPeerId

/-- The info a group holds of a peer. -/
def infoAt (s : RouteState) (groupKey : String) (p : UInt32) : Option RoutePeerInfo :=
  (s.groups.lookup groupKey).bind fun g => g.peerInfos.get? p

/-- The info of `p` is the same in both. -/
def SameInfo (p : UInt32) (g g' : RouteGroupData) : Prop :=
  g'.peerInfos.get? p = g.peerInfos.get? p

section Preservation

variable {myPeerId : UInt32} {g g' : RouteGroupData}

theorem identity_new (host : Host) : Identity myPeerId (RouteGroupData.new myPeerId host) where
  keyed p := by simp [RouteGroupData.new, AscMap.mem_keys, AscMap.get?_empty]
  infos p info found := by simp [RouteGroupData.new, AscMap.get?_empty] at found
  versions p member := by
    simp [RouteGroupData.new, AscMap.mem_keys, AscMap.get?_empty] at member

theorem Identity.ids_eq (inv : Identity myPeerId g) : ids g = g.peers.keys := by
  refine AscMap.keys_eq _ fun p => ?_
  show p ∈ ids g ↔ p ∈ g.peers.keys
  rw [mem_ids]
  constructor
  · rintro (member | published)
    · exact member
    · obtain ⟨info, found⟩ := Option.isSome_iff_exists.mp ((AscMap.mem_keys _).mp published)
      exact (inv.infos p info found).1
  · exact Or.inl

theorem Identity.of_tables (inv : Identity myPeerId g) (peers : g'.peers = g.peers)
    (infos : g'.peerInfos = g.peerInfos) (keys : g'.authenticatedPeerKeys = g.authenticatedPeerKeys)
    (versions : g'.peerConnVersions = g.peerConnVersions) : Identity myPeerId g' := by
  constructor
  · rw [peers, keys]
    exact inv.keyed
  · rw [peers, infos, keys]
    exact inv.infos
  · rw [peers, versions]
    exact inv.versions

private theorem Identity.bump (inv : Identity myPeerId g) :
    Identity myPeerId (g.bumpAllConnVersions myPeerId) where
  keyed := inv.keyed
  infos := inv.infos
  versions p member := by
    rcases (mem_bumped_keys g myPeerId).mp member with old | listed | own
    · exact inv.versions p old
    · rw [inv.ids_eq] at listed
      exact Or.inl listed
    · exact Or.inr own

private theorem Identity.addPeer (inv : Identity myPeerId g) (p : UInt32) (key : Key) :
    Identity myPeerId (final (RouteGroupData.addPeer myPeerId p key g)) := by
  refine ensures_final ?_
  simp only [RouteGroupData.addPeer, ensures_bind, ensures_get, ensures_ite, ensures_throw,
    ensures_set]
  refine ⟨fun _ => inv, fun matching => ?_⟩
  have joined : Identity myPeerId { g with
      authenticatedPeerKeys := g.authenticatedPeerKeys.insert p key
      peers := g.peers.insert p () } := by
    constructor
    · intro q
      simp only [AscMap.mem_keys_insert, inv.keyed q]
    · intro q info found
      obtain ⟨member, own, bound, known, carried⟩ := inv.infos q info found
      refine ⟨(AscMap.mem_keys_insert _).mpr (Or.inr member), own, bound, ?_, carried⟩
      rw [AscMap.get?_insert]
      by_cases same : q = p
      · -- the key that is written is the one that is already there
        rw [if_pos same]
        rw [same] at known
        rw [known] at matching
        have equal : bound = key := by simpa using matching
        rw [equal]
      · rw [if_neg same]
        exact known
    · intro q listed
      rcases inv.versions q listed with member | own
      · exact Or.inl ((AscMap.mem_keys_insert _).mpr (Or.inr member))
      · exact Or.inr own
  split
  · exact joined.bump
  · exact joined

private theorem Identity.removePeer (inv : Identity myPeerId g) (p : UInt32) :
    Identity myPeerId (g.removePeer myPeerId p) := by
  have left (sessions : AscMap UInt32 SessionState) : Identity myPeerId { g with
      peers := g.peers.erase p
      peerInfos := g.peerInfos.erase p
      authenticatedPeerKeys := g.authenticatedPeerKeys.erase p
      sessions
      peerConnVersions := g.peerConnVersions.erase p } := by
    constructor
    · intro q
      simp only [AscMap.mem_keys_erase, inv.keyed q]
    · intro q info found
      rw [AscMap.get?_erase] at found
      split at found
      · cases found
      · rename_i other
        obtain ⟨member, own, bound, known, carried⟩ := inv.infos q info found
        refine ⟨(AscMap.mem_keys_erase _).mpr ⟨other, member⟩, own, bound, ?_, carried⟩
        rw [AscMap.get?_erase, if_neg other]
        exact known
    · intro q listed
      obtain ⟨other, listed⟩ := (AscMap.mem_keys_erase _).mp listed
      rcases inv.versions q listed with member | own
      · exact Or.inl ((AscMap.mem_keys_erase _).mpr ⟨other, member⟩)
      · exact Or.inr own
  rw [RouteGroupData.removePeer]
  split
  · exact (left _).bump
  · exact left _

private theorem Identity.publish (inv : Identity myPeerId g) {p : UInt32} {stored : RoutePeerInfo}
    (publishes : Publishes p g stored) : Identity myPeerId (publish p g stored) := by
  obtain ⟨key, known, carried⟩ := publishes.key
  constructor
  · exact inv.keyed
  · intro q info found
    have found : (g.peerInfos.insert p stored).get? q = some info := found
    rw [AscMap.get?_insert] at found
    split at found
    · rename_i own
      cases Option.some.inj found
      subst own
      refine ⟨(inv.keyed q).mpr ?_, publishes.peerId, key, known, carried⟩
      rw [AscMap.mem_keys, known]
      rfl
    · exact inv.infos q info found
  · exact inv.versions

end Preservation

section Runs

variable {E : Codec} {host : Host} {c : RouteCall} {op : UInt32 → GroupM RouteReply}

theorem identity_keep {myPeerId : UInt32} {g : RouteGroupData} (inv : Identity myPeerId g)
    (accepted : groupOp E host c = .ok op) : Identity myPeerId (final (op myPeerId g)) := by
  have ran := groupOp_final accepted myPeerId g
  cases c with
  | addPeer groupKey p bytes =>
    obtain ⟨key, _, ran⟩ := ran
    rw [ran]
    exact inv.addPeer p key
  | removePeer groupKey p =>
    rw [ran]
    exact inv.removePeer p
  | onRouteSessionAck groupKey p theirSessionId weAreInitiator =>
    rw [ran]
    exact inv.of_tables rfl rfl rfl rfl
  | commitRouteUpdate groupKey p versions topologyVersion =>
    rw [ran]
    exact inv.of_tables rfl rfl rfl rfl
  | setMyInfoField groupKey field value =>
    rcases ran with ⟨myInfo, ran⟩ | ran
    · rw [ran]
      exact inv.of_tables rfl rfl rfl rfl
    · rw [ran]
      exact inv
  | setMyNoisePublicKey groupKey publicKey =>
    obtain ⟨myInfo, ran⟩ := ran
    rw [ran]
    exact inv.of_tables rfl rfl rfl rfl
  | buildSyncRouteInfoRequest groupKey t serverSessionId weAreInitiator forceFull =>
    rw [ran]
    refine ensures_final ((buildSyncRouteInfoRequest_built g t myPeerId E host serverSessionId
      weAreInitiator forceFull).mono ?_ ?_)
    · rintro u g' ⟨shown, _⟩
      obtain ⟨same, versions, _⟩ := shown.frame
      exact inv.of_tables same.peers same.peerInfos same.authenticatedPeerKeys versions
    · rintro _ g' rfl
      exact inv.of_tables rfl rfl rfl rfl
  | handleSyncRouteInfoRequest groupKey p bytes =>
    obtain ⟨req, _, _, ran⟩ := ran
    rw [ran]
    refine ensures_final (@handleSyncRouteInfoRequest_cases host p (Identity myPeerId)
      (Identity myPeerId) E myPeerId req g ?_ ?_ ?_ ?_)
    · exact inv.of_tables rfl rfl rfl rfl
    · intro g' info _ stampMs inv publishes
      exact inv.publish publishes
    · intro g' inv
      exact inv
    · intro g' _ _ inv _ _
      exact inv.bump

/-- The info of a peer moves only in its own sync requests and when it is removed. -/
private theorem info_moved {myPeerId p : UInt32} {g : RouteGroupData}
    (accepted : groupOp E host c = .ok op) (moved : ¬ SameInfo p g (final (op myPeerId g))) :
    (∃ bytes, c = .handleSyncRouteInfoRequest c.groupKey p bytes) ∨
      c = .removePeer c.groupKey p := by
  have ran := groupOp_final accepted myPeerId g
  cases c with
  | addPeer groupKey q bytes =>
    obtain ⟨key, _, ran⟩ := ran
    refine absurd ?_ moved
    rw [ran]
    refine ensures_final ((addPeer_cases myPeerId q key g).mono ?_ ?_)
    · rintro _ g' ⟨_, infos, _, _⟩
      rw [SameInfo, infos]
    · rintro _ g' rfl
      exact rfl
  | removePeer groupKey q =>
    rw [SameInfo, ran, (removePeer_tables g myPeerId q).2.1, AscMap.get?_erase] at moved
    by_cases own : p = q
    · subst own
      exact Or.inr rfl
    · rw [if_neg own] at moved
      exact absurd rfl moved
  | onRouteSessionAck groupKey q theirSessionId weAreInitiator =>
    rw [ran] at moved
    exact absurd rfl moved
  | commitRouteUpdate groupKey q versions topologyVersion =>
    rw [ran] at moved
    exact absurd rfl moved
  | setMyInfoField groupKey field value =>
    rcases ran with ⟨myInfo, ran⟩ | ran
    · rw [ran] at moved
      exact absurd rfl moved
    · rw [ran] at moved
      exact absurd rfl moved
  | setMyNoisePublicKey groupKey publicKey =>
    obtain ⟨myInfo, ran⟩ := ran
    rw [ran] at moved
    exact absurd rfl moved
  | buildSyncRouteInfoRequest groupKey t serverSessionId weAreInitiator forceFull =>
    refine absurd ?_ moved
    rw [ran]
    refine ensures_final ((buildSyncRouteInfoRequest_built g t myPeerId E host serverSessionId
      weAreInitiator forceFull).mono ?_ ?_)
    · rintro u g' ⟨shown, _⟩
      rw [SameInfo, shown.frame.1.peerInfos]
      rfl
    · rintro _ g' rfl
      exact rfl
  | handleSyncRouteInfoRequest groupKey q bytes =>
    obtain ⟨req, _, _, ran⟩ := ran
    by_cases own : p = q
    · subst own
      exact Or.inl ⟨bytes, rfl⟩
    · refine absurd ?_ moved
      rw [ran]
      refine ensures_final (@handleSyncRouteInfoRequest_cases host q
        (SameInfo p g) (SameInfo p g) E myPeerId req g rfl ?_ ?_ ?_)
      · intro g' info _ stampMs same _
        show (g'.peerInfos.insert q _).get? p = _
        rw [AscMap.get?_insert, if_neg own]
        exact same
      · intro g' same
        exact same
      · intro g' _ _ same _ _
        exact same

end Runs

theorem run_identity (E : Codec) {myPeerId : UInt32} {es : List RouteEvent} {groupKey : String}
    {g : RouteGroupData}
    (found : (run (step E) (RouteState.new myPeerId) es).groups.lookup groupKey = some g) :
    Identity myPeerId g := by
  refine group_invariant (fun host => identity_new host) ?_ found
  intro host c op g inv accepted
  exact identity_keep inv accepted

/-- In every state that any calls lead to, the tables of every group agree on its members, and
the next call moves the info of a peer only as this very peer or by removing it. -/
theorem route_identity (E : Codec) (myPeerId : UInt32) (es : List RouteEvent) (groupKey : String) :
    (∀ g, (run (step E) (RouteState.new myPeerId) es).groups.lookup groupKey = some g →
        Identity myPeerId g) ∧
      ∀ e p, infoAt (run (step E) (RouteState.new myPeerId) (es ++ [e])) groupKey p ≠
          infoAt (run (step E) (RouteState.new myPeerId) es) groupKey p →
        (∃ bytes, e.call = .handleSyncRouteInfoRequest groupKey p bytes) ∨
          e.call = .removePeer groupKey p := by
  constructor
  · exact fun g found => run_identity E found
  · intro e p moved
    rw [run_snoc] at moved
    rcases step_groups E (run (step E) (RouteState.new myPeerId) es) e groupKey with
      ⟨same, _⟩ | ⟨op, here, accepted, after⟩
    · rw [infoAt, infoAt, same] at moved
      exact absurd rfl moved
    · subst here
      rw [infoAt, infoAt, after, Option.bind_some] at moved
      refine info_moved accepted fun same => moved (same.trans ?_)
      rw [RouteState.ensureGroup]
      cases (run (step E) (RouteState.new myPeerId) es).groups.lookup e.call.groupKey with
      | some g => rfl
      | none => rfl

end EasyTierEdge.Rpc.RouteIdentity
