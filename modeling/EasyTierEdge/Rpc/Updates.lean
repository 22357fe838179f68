/- module: EasyTierEdge/Rpc/Updates
   source: cloudflare/wasm/src/rpc.rs and route_state.rs, build_route_update
   digest: What an update tells a member of its network, and when there is none. -/

import EasyTierEdge.Rpc.ConnCaches
import EasyTierEdge.Rpc.Introductions

set_option autoImplicit false
set_option relaxedAutoImplicit false

namespace EasyTierEdge.Rpc.Updates

open Lib.AscendingMap Lib.Fallible Lib.FiniteMap Lib.Machine Lib.Saturating
open Packet (Key)
open Proto Routes Rpc.Core CoreMoves CoreRuns CoreRoutes
open RouteMoves RouteMembers Rpc.Topology ConnBitmap ConnCaches
open RouteIdentity (Identity)
open TopologyKnown (freshConnInfo members relevantPeers_eq relay_mem_members)
open Introductions (Presented introduction)

section Groups

variable {E : Codec} {host : Host} {myPeerId t : UInt32} {g : RouteGroupData}

private theorem listed_fresh (member : t ∈ g.peers.keys) :
    (listed (freshConnInfo g myPeerId t)).map PeerIdVersion.peerId = members g myPeerId := by
  rw [freshConnInfo, relevantPeers_eq member]
  split
  · rw [listed_connPeerList, ids_peerIdVersions]
  · exact ids_peerIdVersions g

/-- It links the relay to everybody, and nobody else. -/
private theorem linked_fresh (member : t ∈ g.peers.keys) {p q : UInt32} (different : p ≠ q) :
    linked (freshConnInfo g myPeerId t) p q = true ↔
      p ∈ members g myPeerId ∧ q ∈ members g myPeerId ∧ (p = myPeerId ∨ q = myPeerId) := by
  rw [freshConnInfo, relevantPeers_eq member]
  split
  · rw [← linked_forms g relay_mem_members different, linked_bitmapOf g relay_mem_members different,
      decide_eq_true_eq]
  · rw [linked_bitmapOf g relay_mem_members different, decide_eq_true_eq]

theorem mem_members {q : UInt32} : q ∈ members g myPeerId ↔ q = myPeerId ∨ q ∈ g.peers.keys :=
  AscMap.mem_keys_insert _

/-- What an update of the group tells `t`. -/
structure Tells (myPeerId t : UInt32) (forceFull : Bool) (g : RouteGroupData) (u : RouteUpdate) :
    Prop where
  sender : u.request.myPeerId = myPeerId
  topology : ∀ conn, u.request.connInfo = some conn → conn = freshConnInfo g myPeerId t
  infos : ∀ info ∈ items u, ∃ q, q ∈ members g myPeerId ∧ q ≠ t ∧
    g.infoOf myPeerId q = some info
  full : forceFull = true → ∀ q info, q ∈ members g myPeerId → q ≠ t →
    g.infoOf myPeerId q = some info → info ∈ items u

private theorem buildSyncRouteInfoRequest_encoded (g : RouteGroupData) (serverSessionId : UInt64)
    (weAreInitiator forceFull : Bool) :
    Ensures (RouteGroupData.buildSyncRouteInfoRequest E host myPeerId t serverSessionId
        weAreInitiator forceFull) g
      (fun u _ => u.request.myPeerId = myPeerId ∧
        u.payload = E.encodeSyncRouteInfoRequest u.request) (fun _ _ => True) := by
  simp only [RouteGroupData.buildSyncRouteInfoRequest, ensures_bind, ensures_modify, ensures_get,
    ensures_pure]
  exact ensures_of_forall (fun _ _ => ⟨trivial, trivial⟩) fun _ _ => trivial

private theorem buildSyncRouteInfoRequest_tells (current : Current myPeerId g)
    (member : t ∈ g.peers.keys) (serverSessionId : UInt64) (weAreInitiator forceFull : Bool) :
    Ensures (RouteGroupData.buildSyncRouteInfoRequest E host myPeerId t serverSessionId
        weAreInitiator forceFull) g
      (fun u _ => Tells myPeerId t forceFull g u ∧
        u.payload = E.encodeSyncRouteInfoRequest u.request)
      (fun _ _ => (members g myPeerId).length > maxLegacyBitmapPeers) := by
  have spec := ((buildSyncRouteInfoRequest_cases g t serverSessionId E host myPeerId weAreInitiator
    forceFull).and (buildSyncRouteInfoRequest_built g t myPeerId E host serverSessionId
      weAreInitiator forceFull)).and
    (@buildSyncRouteInfoRequest_encoded E host myPeerId t g serverSessionId weAreInitiator
      forceFull)
  have listing : g.relevantPeers myPeerId t = members g myPeerId := relevantPeers_eq member
  refine spec.mono ?_ ?_
  · rintro u g'
      ⟨⟨⟨touched, missing, at_touch, are_missing, _, carried, _⟩, shown, _⟩, sender, encoded⟩
    rw [at_touch] at are_missing
    refine ⟨⟨sender, ?_, ?_, ?_⟩, encoded⟩
    · intro conn there
      have kept : Current myPeerId (g.touchSession t serverSessionId (host.clock 0)) :=
        current.same rfl rfl fun conn cached => cached_of_caches rfl rfl rfl cached
      rw [there] at shown
      exact handed_fresh kept member shown
    · intro info carries
      rw [carried] at carries
      obtain ⟨⟨q, sent⟩, among, rfl⟩ := List.mem_map.mp carries
      rw [are_missing, mem_missingInfos] at among
      obtain ⟨inside, other, found, _⟩ := among
      rw [← listing]
      exact ⟨q, inside, other, found⟩
    · intro everything q info inside other found
      rw [carried]
      refine List.mem_map.mpr ⟨(q, info), ?_, rfl⟩
      rw [are_missing, mem_missingInfos]
      rw [← listing] at inside
      refine ⟨inside, other, found, Or.inl ?_⟩
      rw [everything]
      rfl
  · rintro e g' ⟨⟨⟨_, _, large⟩, _⟩, _⟩
    rw [← listing]
    exact large

end Groups

/-! The core. -/

section Core

variable {E : Env} {host : Host} {network : String} {t : UInt32} {core c : WasmRpcCore}

/-- What is true of a network: its relay, who is inside, and about these the infos they published
and the keys they authenticated with. -/
structure View where
  relay : UInt32
  inside : UInt32 → Prop
  introduces : RoutePeerInfo → Prop
  published : UInt32 → Option RoutePeerInfo
  key : UInt32 → Option Key

/-- An update tells `t` the truth: the topology is a star around the relay, and the infos are the
relay's own and those of others, each under its key. A full update leaves none out. -/
structure Truthful (v : View) (t : UInt32) (forceFull : Bool) (u : RouteUpdate) : Prop where
  sender : u.request.myPeerId = v.relay
  listing : ∀ conn, u.request.connInfo = some conn →
    ((listed conn).map PeerIdVersion.peerId).Pairwise (· < ·) ∧
      ∀ q, q ∈ (listed conn).map PeerIdVersion.peerId ↔ q = v.relay ∨ v.inside q
  star : ∀ conn, u.request.connInfo = some conn → ∀ p q, p ≠ q →
    (linked conn p q = true ↔ p = v.relay ∧ v.inside q ∨ v.inside p ∧ q = v.relay)
  infos : ∀ info ∈ items u, info.peerId ≠ t ∧ (v.introduces info ∨ (v.inside info.peerId ∧
    v.published info.peerId = some info ∧
      (v.key info.peerId).map Vector.toList = some info.noiseStaticPubkey))
  full : forceFull = true → (∃ info ∈ items u, v.introduces info) ∧
    ∀ q info, q ≠ t → v.published q = some info → info ∈ items u

theorem Truthful.mono {v v' : View} {forceFull : Bool} {u : RouteUpdate}
    (truthful : Truthful v t forceFull u) (relay : v'.relay = v.relay)
    (inside : ∀ q, v'.inside q ↔ v.inside q)
    (introduces : ∀ info, v.introduces info → v'.introduces info)
    (published : v'.published = v.published) (key : v'.key = v.key) :
    Truthful v' t forceFull u where
  sender := truthful.sender.trans relay.symm
  listing := by
    intro conn there
    simp only [relay, inside]
    exact truthful.listing conn there
  star := by
    intro conn there p q different
    simp only [relay, inside]
    exact truthful.star conn there p q different
  infos := by
    intro info carried
    simp only [inside, published, key]
    obtain ⟨other, how⟩ := truthful.infos info carried
    exact ⟨other, how.imp_left (introduces info)⟩
  full := by
    intro everything
    obtain ⟨⟨own, carried, introduced⟩, others⟩ := truthful.full everything
    rw [published]
    exact ⟨⟨own, carried, introduces own introduced⟩, others⟩

/-- What the core knows about a network. -/
def coreView (c : WasmRpcCore) (network : String) : View where
  relay := c.routes.myPeerId
  inside := Member c.routes network
  introduces info := ∃ host, info = introduction c host
  published := RouteIdentity.infoAt c.routes network
  key q := (roll c.routes network q).2

private theorem ensures_onGroup {α : Type} {op : UInt32 → GroupM α} {s : RouteState} {ok : α → Prop}
    {err : String → Prop}
    (grouped : Ensures (op s.myPeerId) (s.ensureGroup host network) (fun a _ => ok a)
      (fun e _ => err e)) :
    Ensures (RouteState.onGroup host network op) s (fun a _ => ok a) (fun e _ => err e) := by
  simp only [Ensures, RouteState.onGroup]
  cases ran : op s.myPeerId (s.ensureGroup host network) with
  | ok a g =>
    have returned := ensures_of_ok grouped ran
    exact returned
  | error e g =>
    have failed := ensures_of_error grouped ran
    exact failed

/-- What is known about a network while it has members. -/
structure Settled (core c : WasmRpcCore) (network : String) (g : RouteGroupData) : Prop where
  group : c.routes.groups.lookup network = some g
  identity : Identity c.routes.myPeerId g
  current : Current c.routes.myPeerId g
  presented : Presented core c
  apart : c.routes.myPeerId ∉ g.peers.keys

private theorem Settled.mem_members {g : RouteGroupData} (settled : Settled core c network g)
    (q : UInt32) :
    q ∈ members g c.routes.myPeerId ↔ q = c.routes.myPeerId ∨ Member c.routes network q := by
  rw [Updates.mem_members, Member, roll, settled.group]
  show _ ∨ _ ↔ _ ∨ (g.peers.get? q).isSome = true
  rw [AscMap.mem_keys]

private theorem Settled.introduced {g : RouteGroupData} (settled : Settled core c network g)
    (member : t ∈ g.peers.keys) : ∃ host, g.myInfo = introduction c host := by
  have inside : Member c.routes network t := by
    rw [Member, roll, settled.group]
    exact (AscMap.mem_keys _).mp member
  have known := settled.presented.configured network t inside
  have introduced := settled.presented.introduced network
  obtain ⟨_, configured⟩ := Option.isSome_iff_exists.mp known
  rw [Introductions.Introduced, configured] at introduced
  obtain ⟨host, found⟩ := introduced
  rw [Introductions.infoAt, settled.group] at found
  exact ⟨host, (Prod.mk.inj (Option.some.inj found)).1⟩

private theorem Settled.truthful {g : RouteGroupData} (settled : Settled core c network g)
    (member : t ∈ g.peers.keys) {forceFull : Bool} {u : RouteUpdate}
    (tells : Tells c.routes.myPeerId t forceFull g u) :
    Truthful (coreView c network) t forceFull u where
  sender := tells.sender
  listing := by
    intro conn there
    rw [tells.topology conn there, listed_fresh member]
    exact ⟨AscMap.ascending _, settled.mem_members⟩
  star := by
    intro conn there p q different
    rw [tells.topology conn there, linked_fresh member different, settled.mem_members,
      settled.mem_members]
    constructor
    · rintro ⟨first, second, rfl | rfl⟩
      · exact Or.inl ⟨rfl, second.resolve_left different.symm⟩
      · exact Or.inr ⟨first.resolve_left different, rfl⟩
    · rintro (⟨rfl, member⟩ | ⟨member, rfl⟩)
      · exact ⟨Or.inl rfl, Or.inr member, Or.inl rfl⟩
      · exact ⟨Or.inr member, Or.inl rfl, Or.inr rfl⟩
  infos := by
    intro info carried
    obtain ⟨q, inside, other, found⟩ := tells.infos info carried
    unfold RouteGroupData.infoOf at found
    split at found
    · rename_i relay
      obtain ⟨host, introduced⟩ := settled.introduced member
      cases Option.some.inj found
      have own : g.myInfo.peerId = q := by
        rw [introduced, relay]
        rfl
      exact ⟨own ▸ other, Or.inl ⟨host, introduced⟩⟩
    · obtain ⟨among, own, key, authenticated, same⟩ := settled.identity.infos q info found
      refine ⟨own ▸ other, Or.inr ?_⟩
      show Member c.routes network info.peerId ∧ RouteIdentity.infoAt c.routes network info.peerId =
        some info ∧ (roll c.routes network info.peerId).2.map _ = _
      rw [own, Member, roll, settled.group, RouteIdentity.infoAt, settled.group, same]
      refine ⟨(AscMap.mem_keys _).mp among, found, ?_⟩
      show (g.authenticatedPeerKeys.get? q).map _ = _
      rw [authenticated]
      rfl
  full := by
    intro everything
    have all := tells.full everything
    constructor
    · obtain ⟨host, introduced⟩ := settled.introduced member
      refine ⟨g.myInfo, all c.routes.myPeerId g.myInfo relay_mem_members ?_ (if_pos rfl), host,
        introduced⟩
      rintro rfl
      exact settled.apart member
    · intro q info other found
      have there : g.peerInfos.get? q = some info := by
        have found : RouteIdentity.infoAt c.routes network q = some info := found
        rw [RouteIdentity.infoAt, settled.group] at found
        exact found
      have among := (settled.identity.infos q info there).1
      refine all q info (Updates.mem_members.mpr (Or.inr among)) other ((if_neg ?_).trans there)
      rintro rfl
      exact settled.apart among

/-- The packet that carries an update. -/
def updatePacket (E : Env) (serverPeerId : UInt32) (network : String) (peerId : UInt32)
    (transactionId : Int64) (update : RouteUpdate) : RpcPacket where
  fromPeer := serverPeerId
  toPeer := peerId
  transactionId := transactionId
  descriptor := some {
    domainName := network
    protoName := "OspfRouteRpc"
    serviceName := "OspfRouteRpc"
    methodIndex := 1 }
  body := E.codec.encodeRpcRequest {
    descriptor := none
    request := update.payload
    timeoutMs := routeRpcTimeoutMs.toUInt32.toInt32 }
  isRequest := true
  totalPieces := 1
  pieceIdx := 0
  traceId := 0
  compressionInfo := some noCompression

private theorem buildRouteUpdate_sends {P : RouteUpdate → Prop} {failed : String → Prop}
    (serverSessionId : UInt64) (forceFull : Bool) (nowMs : UInt64)
    (asked : Ensures (RouteState.buildSyncRouteInfoRequest E.codec host network t serverSessionId
      ((c.peerInitiator.lookup (network, t)).getD true) forceFull) c.routes (fun u _ => P u)
      (fun e _ => failed e)) :
    Ensures (WasmRpcCore.buildRouteUpdate E host network t serverSessionId forceFull nowMs) c
      (fun payload _ => ∃ transactionId u, P u ∧
        payload = E.codec.encodeRpcPacket (updatePacket E c.serverPeerId network t transactionId u))
      (fun e _ => failed e ∨ ∃ routes, WasmRpcCore.drawTransactionId host
        { c.cleanRpcState nowMs with routes } network t 16 0 = .error e) := by
  simp only [WasmRpcCore.buildRouteUpdate, ensures_bind, ensures_modify, ensures_get,
    ensures_onRoutes]
  show Ensures (RouteState.buildSyncRouteInfoRequest E.codec host network t serverSessionId
    ((c.peerInitiator.lookup (network, t)).getD true) forceFull) c.routes _ _
  refine asked.mono ?_ fun e _ failed => Or.inl failed
  intro u routes told
  simp only [WasmRpcCore.nextTransactionId, ensures_bind, ensures_get]
  split
  · rename_i e drawn
    exact Or.inr ⟨_, drawn⟩
  · rename_i transactionId _
    exact ⟨transactionId, u, told, rfl⟩

theorem Settled.buildRouteUpdate {g : RouteGroupData} (settled : Settled core c network g)
    (member : t ∈ g.peers.keys)
    (small : (members g c.routes.myPeerId).length ≤ maxLegacyBitmapPeers)
    (serverSessionId : UInt64) (forceFull : Bool) (nowMs : UInt64) :
    Ensures (WasmRpcCore.buildRouteUpdate E host network t serverSessionId forceFull nowMs) c
      (fun payload _ => ∃ transactionId u, (Truthful (coreView c network) t forceFull u ∧
          u.payload = E.codec.encodeSyncRouteInfoRequest u.request) ∧
        payload = E.codec.encodeRpcPacket (updatePacket E c.serverPeerId network t transactionId u))
      (fun e _ => ∃ routes, WasmRpcCore.drawTransactionId host
        { c.cleanRpcState nowMs with routes } network t 16 0 = .error e) := by
  have asked : Ensures (RouteState.buildSyncRouteInfoRequest E.codec host network t serverSessionId
      ((c.peerInitiator.lookup (network, t)).getD true) forceFull) c.routes
      (fun u _ => Truthful (coreView c network) t forceFull u ∧
        u.payload = E.codec.encodeSyncRouteInfoRequest u.request) (fun _ _ => False) := by
    have same : c.routes.ensureGroup host network = g := by
      rw [RouteState.ensureGroup, settled.group]
      rfl
    refine ensures_onGroup ?_
    rw [same]
    refine (buildSyncRouteInfoRequest_tells settled.current member serverSessionId _
      forceFull).mono ?_ ?_
    · rintro u _ ⟨tells, encoded⟩
      exact ⟨settled.truthful member tells, encoded⟩
    · intro _ _ large
      exact absurd large (Nat.not_lt.mpr small)
  refine (buildRouteUpdate_sends serverSessionId forceFull nowMs asked).mono
    (fun _ _ sent => sent) ?_
  intro e _ failed
  exact failed.resolve_left id

end Core

end EasyTierEdge.Rpc.Updates
