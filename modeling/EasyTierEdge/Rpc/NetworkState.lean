/- module: EasyTierEdge/Rpc/NetworkState
   source: cloudflare/wasm/src/rpc.rs, route_state.rs and peer_center.rs, their maps by network
   digest: What the core keeps for one network, and when two cores keep the same. -/

import EasyTierEdge.Lib.Relational
import EasyTierEdge.Rpc.MergeIsolation

set_option autoImplicit false
set_option relaxedAutoImplicit false

namespace EasyTierEdge.Rpc.NetworkState

open Lib.Fallible Lib.FiniteMap Lib.Relational Lib.Saturating
open Packet (Bytes)
open Proto Routes PeerCenter Fragments FragmentMoves Rpc.Core MergeIsolation

/-! Groups. -/

/-- The group of the network is the same in both. -/
structure SameGroup (network : String) (s s' : RouteState) : Prop where
  group : s.groups.lookup network = s'.groups.lookup network
  myPeerId : s.myPeerId = s'.myPeerId

/-- A call on one group: refused without a look at it, or run on it. -/
inductive OnGroup {α : Type} (host : Host) (groupKey : String) : RouteM α → Prop
  | refused (e : String) : OnGroup host groupKey (throw e)
  | runs (op : UInt32 → GroupM α) : OnGroup host groupKey (RouteState.onGroup host groupKey op)

section OnGroup

variable {α : Type} {host : Host} {groupKey network : String} {s s' : RouteState} {op : RouteM α}

theorem OnGroup.agree (on : OnGroup host network op) (same : SameGroup network s s') :
    Agree (SameGroup network) (op s) (op s') := by
  cases on with
  | refused e => exact ⟨rfl, same⟩
  | runs op =>
    have opened : s.ensureGroup host network = s'.ensureGroup host network := by
      rw [RouteState.ensureGroup, RouteState.ensureGroup, same.group, same.myPeerId]
    have written : ∀ g, SameGroup network ⟨s.groups.insert network g, s'.myPeerId⟩
        ⟨s'.groups.insert network g, s'.myPeerId⟩ := by
      intro g
      refine ⟨?_, rfl⟩
      rw [Finmap.lookup_insert, Finmap.lookup_insert]
    rw [RouteState.onGroup, RouteState.onGroup, opened, same.myPeerId]
    cases op s'.myPeerId (s'.ensureGroup host network) with
    | ok a g => exact ⟨rfl, written g⟩
    | error e g => exact ⟨rfl, written g⟩

theorem OnGroup.keeps (on : OnGroup host groupKey op) (other : network ≠ groupKey) :
    Keeps (SameGroup network s) op := by
  intro s' same
  cases on with
  | refused e => exact same
  | runs op =>
    have written : ∀ g, SameGroup network s { s' with groups := s'.groups.insert groupKey g } := by
      intro g
      refine ⟨?_, same.myPeerId⟩
      rw [Finmap.lookup_insert_of_ne _ other]
      exact same.group
    rw [Ensures, RouteState.onGroup]
    cases op s'.myPeerId (s'.ensureGroup host groupKey) with
    | ok a g => exact written g
    | error e g => exact written g

variable (host groupKey)

theorem onGroup_addPeer (peerId : UInt32) (publicKey : Bytes) :
    OnGroup host groupKey (RouteState.addPeer host groupKey peerId publicKey) := by
  rw [RouteState.addPeer]
  cases Packet.keyOfBytes publicKey with
  | none => exact .refused _
  | some key => exact .runs _

theorem onGroup_setMyNoisePublicKey (publicKey : Bytes) :
    OnGroup host groupKey (RouteState.setMyNoisePublicKey host groupKey publicKey) := by
  rw [RouteState.setMyNoisePublicKey]
  split
  · exact .refused _
  · exact .runs _

theorem onGroup_handleSyncRouteInfoRequest (E : Codec) (fromPeerId : UInt32) (request : Bytes) :
    OnGroup host groupKey
      (RouteState.handleSyncRouteInfoRequest E host groupKey fromPeerId request) := by
  rw [RouteState.handleSyncRouteInfoRequest]
  cases E.decodeSyncRouteInfoRequest request with
  | error e => exact .refused _
  | ok req =>
    simp only
    split
    · exact .refused _
    · exact .runs _

end OnGroup

/-! Centers. -/

/-- The reports of the network are the same in both. -/
def SameReports (network : String) (s s' : Center) : Prop :=
  s.groups.lookup network = s'.groups.lookup network

section Reports

variable {groupKey network : String} {s s' : Center}

private theorem SameReports.insert (same : SameReports network s s') (groupKey : String)
    (data : PeerCenterGroupData) :
    SameReports network ⟨s.groups.insert groupKey data⟩ ⟨s'.groups.insert groupKey data⟩ := by
  rw [SameReports, FMap.lookup_insert_eq_ite, FMap.lookup_insert_eq_ite, same]

private theorem SameReports.groupMut (same : SameReports network s s') :
    s.groupMut network = s'.groupMut network := by
  rw [Center.groupMut, Center.groupMut, same]

theorem reportPeers_agree (E : Codec) (hash : Bytes → Digest) (peerId : PeerId) (report : Bytes)
    (nowMs : UInt64) (same : SameReports network s s') :
    Agree (SameReports network) (Center.reportPeers E hash network peerId report nowMs s)
      (Center.reportPeers E hash network peerId report nowMs s') := by
  rw [Center.reportPeers]
  cases E.decodeReportPeersRequest report with
  | error e => exact ⟨rfl, same⟩
  | ok req =>
    simp only
    split
    · exact ⟨rfl, same⟩
    · refine agree_modify_bind ⟨rfl, ?_⟩
      rw [same.groupMut]
      exact same.insert network _

theorem getGlobalPeerMap_agree (E : Codec) (request : Bytes) (same : SameReports network s s') :
    Agree (SameReports network) (Center.getGlobalPeerMap E network request s)
      (Center.getGlobalPeerMap E network request s') := by
  rw [Center.getGlobalPeerMap]
  have answered : Agree (SameReports network) (Center.answerGlobalPeerMap E network request s)
      (Center.answerGlobalPeerMap E network request s') := by
    rw [Center.answerGlobalPeerMap]
    cases E.decodeGetGlobalPeerMapRequest request with
    | error e => exact ⟨rfl, same⟩
    | ok req =>
      refine agree_get_bind (agree_set_bind ⟨?_, ?_⟩)
      · show Except.ok _ = Except.ok _
        rw [same.groupMut]
      · show SameReports network ⟨_⟩ ⟨_⟩
        rw [same.groupMut]
        exact same.insert network _
  refine agree_bind answered (fun _ _ same => same) ?_
  intro resp s s' _ _ same
  exact ⟨rfl, same⟩

private theorem SameReports.written (same : SameReports network s s') (other : network ≠ groupKey)
    (data : PeerCenterGroupData) : SameReports network s ⟨s'.groups.insert groupKey data⟩ := by
  rw [SameReports, Finmap.lookup_insert_of_ne _ other]
  exact same

theorem reportPeers_keeps (E : Codec) (hash : Bytes → Digest) (peerId : PeerId) (report : Bytes)
    (nowMs : UInt64) (other : network ≠ groupKey) :
    Keeps (SameReports network s) (Center.reportPeers E hash groupKey peerId report nowMs) := by
  rw [Center.reportPeers]
  cases E.decodeReportPeersRequest report with
  | error e => exact keeps_throw _
  | ok req =>
    intro s' same
    simp only [ensures_bind, ensures_ite, ensures_throw, ensures_modify, ensures_pure]
    exact ⟨fun _ => same, fun _ => same.written other _⟩

theorem getGlobalPeerMap_keeps (E : Codec) (request : Bytes) (other : network ≠ groupKey) :
    Keeps (SameReports network s) (Center.getGlobalPeerMap E groupKey request) := by
  rw [Center.getGlobalPeerMap, Center.answerGlobalPeerMap]
  cases E.decodeGetGlobalPeerMapRequest request with
  | error e => exact keeps_throw _
  | ok req =>
    intro s' same
    simp only [ensures_bind, ensures_get, ensures_set, ensures_pure]
    exact same.written other _

theorem removePeer_lookup (s : Center) (hash : Bytes → Digest) (groupKey : String)
    (peerId : PeerId) (network : String) :
    (s.removePeer hash groupKey peerId).groups.lookup network =
      if network = groupKey then
        ((s.groups.lookup groupKey).map fun data => (data.without peerId).withDigest hash).filter
          fun data => !data.isEmpty
      else s.groups.lookup network := by
  rw [Center.removePeer]
  cases found : s.groups.lookup groupKey with
  | none =>
    by_cases own : network = groupKey
    · rw [if_pos own, own]
      exact found
    · rw [if_neg own]
  | some data =>
    simp only [Option.map_some, Option.filter_some]
    cases empty : ((data.without peerId).withDigest hash).isEmpty with
    | false =>
      simp only [Bool.false_eq_true, if_false, Bool.not_false, if_true]
      exact FMap.lookup_insert_eq_ite _ _ _ _
    | true =>
      simp only [if_true, Bool.not_true, Bool.false_eq_true, if_false]
      exact FMap.lookup_erase_eq_ite _ _ _

theorem cleanOutdated_lookup (s : Center) (hash : Bytes → Digest) (ttlSec nowMs : UInt64)
    (network : String) :
    (s.cleanOutdated hash ttlSec nowMs).groups.lookup network =
      ((s.groups.lookup network).map fun data =>
        (data.recent (saturatingMul ttlSec 1000) nowMs).withDigest hash).filter
          fun data => !data.isEmpty := by
  rw [Center.cleanOutdated, FMap.lookup_retain, FMap.lookup_mapValues]

end Reports

/-! Fragments. -/

section Pending

variable {network : String} {nowMs : UInt64} {t s : PendingTable}

theorem PendingAlike.removeWhere (alike : PendingAlike network nowMs t s)
    (chosen : RpcKey → PendingRpc → Bool) :
    PendingAlike network nowMs (t.removeWhere chosen) (s.removeWhere chosen) := by
  intro key here
  have now := alike key here
  rw [cleanPending_lookup, cleanPending_lookup] at now ⊢
  rw [removeWhere_lookup, removeWhere_lookup, FMap.filter_comm, now, FMap.filter_comm]

/-- What is removed from one table only does not matter, if it is expired or not of the network. -/
theorem PendingAlike.removed (alike : PendingAlike network nowMs t s)
    {chosen : RpcKey → PendingRpc → Bool}
    (idle : ∀ key p, key.network = network → chosen key p = true → p.expired nowMs = true) :
    PendingAlike network nowMs t (s.removeWhere chosen) := by
  intro key here
  have now := alike key here
  rw [cleanPending_lookup, cleanPending_lookup] at now ⊢
  have weaker : ∀ p : PendingRpc, (!p.expired nowMs) = true → (!chosen key p) = true := by
    intro p fresh
    cases picked : chosen key p with
    | false => rfl
    | true =>
      rw [idle key p here picked] at fresh
      cases fresh
  rw [removeWhere_lookup, FMap.filter_absorb weaker, now]

private theorem merge_elsewhere {key : RpcKey} {packet : RpcPacket} {atMs : UInt64}
    {r : Except String MergedPacket} (move : MergeMove key packet atMs s r t) {key' : RpcKey}
    (other : key' ≠ key) : t.pending.lookup key' = s.pending.lookup key' ∨
      t.pending.lookup key' = (s.cleanPending atMs).pending.lookup key' := by
  have opened : ∀ {u : PendingTable}, Opened key packet.totalPieces atMs (s.cleanPending atMs) u →
      u.pending.lookup key' = (s.cleanPending atMs).pending.lookup key' := by
    intro u open_
    cases open_ with
    | present => rfl
    | created => exact Finmap.lookup_insert_of_ne _ other
  cases move with
  | whole => exact .inl rfl
  | malformed => exact .inl rfl
  | refused e piece t' refused =>
    right
    cases refused with
    | changed => rw [removePending_lookup, if_neg other]
    | tooMany => rfl
    | noRoom => rfl
  | overflow valid u open_ =>
    right
    rw [removePending_lookup, if_neg other, opened open_]
  | stored valid u open_ =>
    right
    exact (Finmap.lookup_insert_of_ne _ other).trans (opened open_)
  | completed valid u open_ =>
    right
    rw [removePending_lookup, if_neg other]
    exact (Finmap.lookup_insert_of_ne _ other).trans (opened open_)
  | outOfBounds e valid u open_ => exact .inr (opened open_)
  | broken e valid u open_ =>
    right
    rw [removePending_lookup, if_neg other]
    exact (Finmap.lookup_insert_of_ne _ other).trans (opened open_)

theorem PendingAlike.merged {key : RpcKey} {packet : RpcPacket} {atMs : UInt64}
    {r : Except String MergedPacket} {s' : PendingTable} (alike : PendingAlike network nowMs t s)
    (le : atMs ≤ nowMs) (foreign : key.network ≠ network)
    (move : MergeMove key packet atMs s r s') : PendingAlike network nowMs t s' := by
  intro key' here
  have other : key' ≠ key := by
    intro same
    exact foreign (same ▸ here)
  have swept : PendingAlike network nowMs t (s.cleanPending atMs) :=
    PendingAlike.removed alike fun key p _ old => expired_later le old
  rcases merge_elsewhere move other with same | same
  · rw [cleanPending_lookup, same, ← cleanPending_lookup]
    exact alike key' here
  · rw [cleanPending_lookup, same, ← cleanPending_lookup]
    exact swept key' here

end Pending

/-! Outstanding transactions. -/

/-- The transactions of the network that are not over at `nowMs` are the same in both. -/
def SameOutstanding (network : String) (nowMs : UInt64) (m m' : FMap RpcKey OutstandingRoute) :
    Prop :=
  ∀ key, key.network = network →
    (m.lookup key).filter (fun route => nowMs ≤ route.deadlineMs) =
      (m'.lookup key).filter fun route => nowMs ≤ route.deadlineMs

section Outstanding

variable {network : String} {nowMs : UInt64} {m m' : FMap RpcKey OutstandingRoute}

theorem SameOutstanding.symm (same : SameOutstanding network nowMs m m') :
    SameOutstanding network nowMs m' m :=
  fun key here => (same key here).symm

private theorem SameOutstanding.later {later : UInt64} (same : SameOutstanding network nowMs m m')
    (le : nowMs ≤ later) : SameOutstanding network later m m' := by
  intro key here
  have now := same key here
  have weaker : ∀ route : OutstandingRoute, decide (later ≤ route.deadlineMs) = true →
      decide (nowMs ≤ route.deadlineMs) = true := fun route soon =>
    decide_eq_true (UInt64.le_trans le (of_decide_eq_true soon))
  rw [← FMap.filter_absorb weaker, now, FMap.filter_absorb weaker]

theorem SameOutstanding.retain (same : SameOutstanding network nowMs m m')
    (kept : RpcKey → OutstandingRoute → Bool) :
    SameOutstanding network nowMs (FMap.retain kept m) (FMap.retain kept m') := by
  intro key here
  have now := same key here
  rw [FMap.lookup_retain, FMap.lookup_retain, FMap.filter_comm, now, FMap.filter_comm]

theorem SameOutstanding.dropped (same : SameOutstanding network nowMs m m')
    {kept : RpcKey → OutstandingRoute → Bool}
    (idle : ∀ key route, key.network = network → nowMs ≤ route.deadlineMs →
      kept key route = true) : SameOutstanding network nowMs m (FMap.retain kept m') := by
  intro key here
  have weaker : ∀ route : OutstandingRoute, decide (nowMs ≤ route.deadlineMs) = true →
      kept key route = true := fun route soon => idle key route here (of_decide_eq_true soon)
  rw [FMap.lookup_retain, FMap.filter_absorb weaker, same key here]

theorem SameOutstanding.insert (same : SameOutstanding network nowMs m m') (key : RpcKey)
    (route : OutstandingRoute) :
    SameOutstanding network nowMs (m.insert key route) (m'.insert key route) := by
  intro key' here
  rw [FMap.lookup_insert_eq_ite, FMap.lookup_insert_eq_ite]
  split
  · rfl
  · exact same key' here

theorem SameOutstanding.erase (same : SameOutstanding network nowMs m m') (key : RpcKey) :
    SameOutstanding network nowMs (m.erase key) (m'.erase key) := by
  intro key' here
  rw [FMap.lookup_erase_eq_ite, FMap.lookup_erase_eq_ite]
  split
  · rfl
  · exact same key' here

theorem SameOutstanding.closed (same : SameOutstanding network nowMs m m') {key : RpcKey}
    {route : OutstandingRoute} (found : m'.lookup key = some route)
    (late : ¬ nowMs ≤ route.deadlineMs) : SameOutstanding network nowMs m (m'.erase key) := by
  intro key' here
  rw [same key' here, FMap.lookup_erase_eq_ite]
  split
  · rename_i own
    rw [own, found, Option.filter_some, if_neg (by simpa using late)]
    rfl
  · rfl

theorem SameOutstanding.timely (same : SameOutstanding network nowMs m m') {key : RpcKey}
    (here : key.network = network) {route : OutstandingRoute} (found : m.lookup key = some route)
    (soon : nowMs ≤ route.deadlineMs) : m'.lookup key = some route := by
  have now := same key here
  rw [found, Option.filter_some, if_pos (decide_eq_true soon)] at now
  exact (Option.filter_eq_some_iff.mp now.symm).1

end Outstanding

/-! The core. -/

/-- The cores agree on everything that the calls for the network read at `nowMs` or later. -/
structure Alike (network : String) (nowMs : UInt64) (c d : WasmRpcCore) : Prop where
  routes : SameGroup network c.routes d.routes
  peerCenter : SameReports network c.peerCenter d.peerCenter
  configuredGroups : c.configuredGroups.lookup network = d.configuredGroups.lookup network
  peerInitiator : ∀ peerId, c.peerInitiator.lookup (network, peerId) =
    d.peerInitiator.lookup (network, peerId)
  fragments : PendingAlike network nowMs c.fragments d.fragments
  outstandingRoutes : SameOutstanding network nowMs c.outstandingRoutes d.outstandingRoutes
  publicKey : c.publicKey = d.publicKey
  hostname : c.hostname = d.hostname
  serverPeerId : c.serverPeerId = d.serverPeerId

section Core

variable {network : String} {nowMs : UInt64} {c d : WasmRpcCore}

theorem Alike.refl (c : WasmRpcCore) : Alike network nowMs c c where
  routes := ⟨rfl, rfl⟩
  peerCenter := rfl
  configuredGroups := rfl
  peerInitiator := fun _ => rfl
  fragments := fun _ _ => rfl
  outstandingRoutes := fun _ _ => rfl
  publicKey := rfl
  hostname := rfl
  serverPeerId := rfl

theorem Alike.symm (alike : Alike network nowMs c d) : Alike network nowMs d c where
  routes := ⟨alike.routes.group.symm, alike.routes.myPeerId.symm⟩
  peerCenter := alike.peerCenter.symm
  configuredGroups := alike.configuredGroups.symm
  peerInitiator := fun peerId => (alike.peerInitiator peerId).symm
  fragments := fun key here => (alike.fragments key here).symm
  outstandingRoutes := alike.outstandingRoutes.symm
  publicKey := alike.publicKey.symm
  hostname := alike.hostname.symm
  serverPeerId := alike.serverPeerId.symm

theorem Alike.later {later : UInt64} (alike : Alike network nowMs c d) (le : nowMs ≤ later) :
    Alike network later c d :=
  { alike with
    fragments := alike.fragments.later le
    outstandingRoutes := alike.outstandingRoutes.later le }

end Core

end EasyTierEdge.Rpc.NetworkState
