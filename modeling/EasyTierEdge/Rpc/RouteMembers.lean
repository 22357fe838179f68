/- module: EasyTierEdge/Rpc/RouteMembers
   source: cloudflare/wasm/src/route_state.rs, add_peer and remove_peer
   digest: Only joining and leaving change the members of a network and the keys they have. -/

import EasyTierEdge.Rpc.CoreMoves

set_option autoImplicit false
set_option relaxedAutoImplicit false

namespace EasyTierEdge.Rpc.RouteMembers

open Lib.AscendingMap Lib.Fallible Lib.FiniteMap Lib.Machine
open Packet (Bytes Key keyOfBytes)
open Proto Routes Rpc.Core RouteMoves RouteRuns CoreMoves

/-- Whether a peer is a member of a network, and the key that it is bound to there. -/
abbrev Entry := Option Unit × Option Key

def groupEntry (g : Option RouteGroupData) (p : UInt32) : Entry :=
  (g.bind fun g => g.peers.get? p, g.bind fun g => g.authenticatedPeerKeys.get? p)

/-- The members of every network. -/
def roll (s : RouteState) (network : String) (p : UInt32) : Entry :=
  groupEntry (s.groups.lookup network) p

/-- The peer is a member of the network. -/
def Member (s : RouteState) (network : String) (p : UInt32) : Prop :=
  (roll s network p).1.isSome = true

/-- The roll with another entry for one peer. -/
def enroll (r : String → UInt32 → Entry) (network : String) (peerId : UInt32) (entry : Entry) :
    String → UInt32 → Entry :=
  fun n p => if n = network ∧ p = peerId then entry else r n p

private theorem groupEntry_ensureGroup (host : Host) (s : RouteState) (network : String)
    (p : UInt32) :
    groupEntry (some (s.ensureGroup host network)) p = roll s network p := by
  unfold RouteState.ensureGroup roll
  cases s.groups.lookup network with
  | none =>
    show ((RouteGroupData.new s.myPeerId host).peers.get? p,
      (RouteGroupData.new s.myPeerId host).authenticatedPeerKeys.get? p) = _
    simp [RouteGroupData.new, AscMap.get?_empty, groupEntry]
  | some g => rfl

section Groups

variable {g g' : RouteGroupData}

private theorem groupEntry_same (peers : g'.peers = g.peers)
    (keys : g'.authenticatedPeerKeys = g.authenticatedPeerKeys) (p : UInt32) :
    groupEntry (some g') p = groupEntry (some g) p := by
  show (g'.peers.get? p, g'.authenticatedPeerKeys.get? p) = _
  rw [peers, keys]
  rfl

private theorem groupEntry_tables (same : SameTables g g') (p : UInt32) :
    groupEntry (some g') p = groupEntry (some g) p :=
  groupEntry_same same.peers same.authenticatedPeerKeys p

end Groups

variable {E : Codec}

/-- A call that is not `add_peer` or `remove_peer`. -/
def Settled : RouteCall → Prop
  | .addPeer .. => False
  | .removePeer .. => False
  | _ => True

theorem step_roll (s : RouteState) (e : RouteEvent) (settled : Settled e.call) :
    roll (step E s e) = roll s := by
  funext network p
  rcases step_groups E s e network with ⟨same, _⟩ | ⟨op, own, accepted, moved⟩
  · unfold roll
    rw [same]
  · rw [← groupEntry_ensureGroup e.host s network p, roll, moved]
    generalize s.ensureGroup e.host network = g
    have after := groupOp_final accepted s.myPeerId g
    obtain ⟨host, call⟩ := e
    cases call with
    | addPeer groupKey peerId publicKey => exact settled.elim
    | removePeer groupKey peerId => exact settled.elim
    | onRouteSessionAck groupKey peerId theirSessionId weAreInitiator =>
      rw [after]
      exact groupEntry_same rfl rfl p
    | commitRouteUpdate groupKey peerId versions topologyVersion =>
      rw [after]
      exact groupEntry_same rfl rfl p
    | setMyInfoField groupKey field value =>
      rcases after with ⟨myInfo, after⟩ | after
      · rw [after]
        exact groupEntry_same rfl rfl p
      · rw [after]
    | setMyNoisePublicKey groupKey publicKey =>
      obtain ⟨myInfo, after⟩ := after
      rw [after]
      exact groupEntry_same rfl rfl p
    | buildSyncRouteInfoRequest groupKey targetPeerId serverSessionId weAreInitiator forceFull =>
      rw [after]
      have kept : Ensures (RouteGroupData.buildSyncRouteInfoRequest E host s.myPeerId targetPeerId
          serverSessionId weAreInitiator forceFull) g
          (fun _ g' => groupEntry (some g') p = groupEntry (some g) p)
          (fun _ g' => groupEntry (some g') p = groupEntry (some g) p) := by
        refine (buildSyncRouteInfoRequest_cases g targetPeerId serverSessionId E host s.myPeerId
          weAreInitiator forceFull).mono ?_ ?_
        · rintro u g' ⟨touched, missing, rfl, rfl, same, _⟩
          exact (groupEntry_tables same p).trans (groupEntry_same rfl rfl p)
        · rintro error g' ⟨rfl, _⟩
          exact groupEntry_same rfl rfl p
      exact ensures_final kept
    | handleSyncRouteInfoRequest groupKey fromPeerId requestBytes =>
      obtain ⟨req, _, _, after⟩ := after
      rw [after]
      have start : groupEntry (some (g.onRouteSessionAck fromPeerId req.mySessionId
          (!req.isInitiator) (host.clock 0))) p = groupEntry (some g) p :=
        groupEntry_same rfl rfl p
      refine ensures_final (@handleSyncRouteInfoRequest_cases host fromPeerId
        (fun g' => groupEntry (some g') p = groupEntry (some g) p)
        (fun g' => groupEntry (some g') p = groupEntry (some g) p) E s.myPeerId req g start
        ?_ ?_ ?_)
      · intro g₁ info _ stampMs same _
        exact (groupEntry_same rfl rfl p).trans same
      · intro g₁ same
        exact same
      · intro g₁ g₀ info same _ _
        exact (groupEntry_same rfl rfl p).trans same

private theorem onGroup_roll {α : Type} {host : Host} {network : String} {op : UInt32 → GroupM α}
    {s : RouteState} (ok err : (UInt32 → Entry) → Prop)
    (grouped : Ensures (op s.myPeerId) (s.ensureGroup host network)
      (fun _ g => ok (groupEntry (some g))) (fun _ g => err (groupEntry (some g)))) :
    Ensures (RouteState.onGroup host network op) s
      (fun _ s' => ok (roll s' network) ∧ ∀ n, n ≠ network → roll s' n = roll s n)
      (fun _ s' => err (roll s' network) ∧ ∀ n, n ≠ network → roll s' n = roll s n) := by
  have written (g : RouteGroupData) :
      roll { s with groups := s.groups.insert network g } network = groupEntry (some g) ∧
        ∀ n, n ≠ network → roll { s with groups := s.groups.insert network g } n = roll s n := by
    constructor
    · funext p
      unfold roll
      rw [FMap.lookup_insert_eq_ite, if_pos rfl]
    · intro n other
      funext p
      unfold roll
      rw [FMap.lookup_insert_eq_ite, if_neg other]
  simp only [Ensures, RouteState.onGroup]
  cases ran : op s.myPeerId (s.ensureGroup host network) with
  | ok a g =>
    simp only
    rw [(written g).1]
    exact ⟨ensures_of_ok grouped ran, (written g).2⟩
  | error e g =>
    simp only
    rw [(written g).1]
    exact ⟨ensures_of_error grouped ran, (written g).2⟩

private theorem eq_enroll {r r' : String → UInt32 → Entry} {network : String} {peerId : UInt32}
    {entry : Entry} (own : ∀ p, r' network p = if p = peerId then entry else r network p)
    (others : ∀ n, n ≠ network → r' n = r n) : r' = enroll r network peerId entry := by
  funext n p
  by_cases here : n = network
  · subst here
    rw [own, enroll]
    simp
  · rw [others n here, enroll, if_neg fun both => here both.1]

private theorem eq_roll {r r' : String → UInt32 → Entry} {network : String}
    (own : r' network = r network) (others : ∀ n, n ≠ network → r' n = r n) : r' = r := by
  funext n
  by_cases here : n = network
  · rw [here, own]
  · exact others n here

theorem addPeer_roll (host : Host) (network : String) (peerId : UInt32) (publicKey : Bytes)
    (s : RouteState) :
    Ensures (RouteState.addPeer host network peerId publicKey) s
      (fun _ s' => ∃ key, keyOfBytes publicKey = some key ∧
        roll s' = enroll (roll s) network peerId (some (), some key))
      (fun _ s' => roll s' = roll s) := by
  unfold RouteState.addPeer
  cases sized : keyOfBytes publicKey with
  | none => exact rfl
  | some key =>
    refine (onGroup_roll (fun entries => ∀ p, entries p =
      if p = peerId then (some (), some key) else roll s network p)
      (fun entries => entries = roll s network) ?_).mono ?_ ?_
    · refine (addPeer_cases s.myPeerId peerId key (s.ensureGroup host network)).mono ?_ ?_
      · rintro _ g ⟨peers, _, keys, _⟩ p
        rw [← groupEntry_ensureGroup host s network p]
        show (g.peers.get? p, g.authenticatedPeerKeys.get? p) = _
        rw [peers, keys, AscMap.get?_insert, AscMap.get?_insert]
        by_cases own : p = peerId
        · rw [if_pos own, if_pos own, if_pos own]
        · rw [if_neg own, if_neg own, if_neg own]
          rfl
      · rintro e g rfl
        funext p
        exact groupEntry_ensureGroup host s network p
    · rintro _ s' ⟨own, others⟩
      exact ⟨key, rfl, eq_enroll own others⟩
    · rintro e s' ⟨own, others⟩
      exact eq_roll own others

theorem removePeer_roll (host : Host) (network : String) (peerId : UInt32) (s : RouteState) :
    Ensures (RouteState.removePeer host network peerId) s
      (fun _ s' => roll s' = enroll (roll s) network peerId (none, none)) (fun _ _ => False) := by
  unfold RouteState.removePeer
  refine (onGroup_roll (fun entries => ∀ p, entries p =
    if p = peerId then (none, none) else roll s network p) (fun _ => False) ?_).mono ?_ ?_
  · rw [ensures_modify]
    intro p
    obtain ⟨peers, _, keys, _⟩ :=
      removePeer_tables (s.ensureGroup host network) s.myPeerId peerId
    rw [← groupEntry_ensureGroup host s network p]
    show (((s.ensureGroup host network).removePeer s.myPeerId peerId).peers.get? p, _) = _
    rw [peers, groupEntry, Option.bind_some, keys, AscMap.get?_erase, AscMap.get?_erase]
    by_cases own : p = peerId
    · rw [if_pos own, if_pos own, if_pos own]
    · rw [if_neg own, if_neg own, if_neg own]
      rfl
  · rintro _ s' ⟨own, others⟩
    exact eq_enroll own others
  · rintro e s' ⟨impossible, _⟩
    exact impossible

/-! The core. -/

/-- The core knows the same members, under the same keys, and has the key it was made with. -/
structure Steady (c c' : WasmRpcCore) : Prop where
  publicKey : c'.publicKey = c.publicKey
  members : roll c'.routes = roll c.routes

section Core

variable {E : Env} {host : Host} {network : String} {peerId : UInt32} {c : WasmRpcCore}

theorem Steady.refl (c : WasmRpcCore) : Steady c c := ⟨rfl, rfl⟩

theorem Steady.trans {c₁ c₂ c₃ : WasmRpcCore} (first : Steady c₁ c₂) (second : Steady c₂ c₃) :
    Steady c₁ c₃ :=
  ⟨second.publicKey.trans first.publicKey, second.members.trans first.members⟩

private theorem routed_roll (call : RouteCall) (settled : Settled call) :
    roll (routed E host c call) = roll c.routes :=
  step_roll c.routes ⟨host, call⟩ settled

private theorem steady_served {c' : WasmRpcCore} (served : Served E host network peerId c c') :
    Steady c c' := by
  cases served with
  | nothing => exact .refl c
  | synced request sync decoded => exact ⟨rfl, routed_roll _ trivial⟩
  | centered peerCenter => exact ⟨rfl, rfl⟩

theorem steady_handleRequest (payload : Bytes) (nowMs : UInt64) :
    Ensures (WasmRpcCore.handleRequest E host network peerId payload nowMs) c
      (fun _ c' => Steady c c') (fun _ c' => Steady c c') := by
  have moved {c' : WasmRpcCore} (move : RequestMove E host network peerId payload nowMs c c') :
      Steady c c' := by
    cases move with
    | rejected => exact .refl c
    | merged packet decoded envelope r fragments move _ served =>
      have merged : Steady c { c with fragments } := ⟨rfl, rfl⟩
      exact merged.trans (steady_served served)
  exact (handleRequest_cases payload nowMs).mono (fun _ _ move => moved move)
    fun _ _ move => moved move

private theorem steady_acknowledged (sessionId : UInt64) (route : OutstandingRoute) :
    roll (acknowledged E host network peerId c sessionId route) = roll c.routes := by
  unfold acknowledged
  rw [run_cons, run_cons, run_nil]
  exact (step_roll _ _ (by trivial)).trans (step_roll _ _ (by trivial))

theorem steady_handleResponse (payload : Bytes) (nowMs : UInt64) :
    Ensures (WasmRpcCore.handleResponse E host network peerId payload nowMs) c
      (fun _ c' => Steady c c') (fun _ c' => Steady c c') := by
  have unaccepted {c' : WasmRpcCore}
      (move : UnacceptedMove E network peerId payload nowMs c c') : Steady c c' := by
    cases move with
    | rejected => exact .refl c
    | late => exact ⟨rfl, rfl⟩
    | merged => exact ⟨rfl, rfl⟩
  refine (handleResponse_cases payload nowMs).mono ?_ fun _ _ move => unaccepted move
  intro done c' move
  cases done with
  | false => exact unaccepted move
  | true =>
    obtain ⟨packet, route, sessionId, accepted⟩ := move
    obtain ⟨whole, fragments, _, _, rfl⟩ := accepted.merged
    exact ⟨rfl, steady_acknowledged sessionId route⟩

theorem steady_buildRouteUpdate (serverSessionId : UInt64) (forceFull : Bool) (nowMs : UInt64) :
    Ensures (WasmRpcCore.buildRouteUpdate E host network peerId serverSessionId forceFull nowMs) c
      (fun _ c' => Steady c c') (fun _ c' => Steady c c') := by
  have updated : Steady c (updating E host network peerId serverSessionId forceFull nowMs c) :=
    ⟨rfl, routed_roll _ trivial⟩
  refine (buildRouteUpdate_cases serverSessionId forceFull nowMs).mono ?_ ?_
  · rintro payload c' ⟨transactionId, update, move⟩
    rw [move.after]
    exact ⟨rfl, updated.members⟩
  · rintro e c' rfl
    exact updated

theorem steady_cleanExpired (nowMs : UInt64) :
    Ensures (WasmRpcCore.cleanExpired E host nowMs) c (fun _ c' => Steady c c')
      (fun _ c' => Steady c c') := by
  unfold WasmRpcCore.cleanExpired
  rw [ensures_modify]
  exact ⟨rfl, rfl⟩

theorem removePeer_members :
    Ensures (WasmRpcCore.removePeer E host network peerId) c
      (fun _ c' => c'.publicKey = c.publicKey ∧
        roll c'.routes = enroll (roll c.routes) network peerId (none, none))
      (fun _ _ => False) := by
  unfold WasmRpcCore.removePeer
  rw [ensures_bind, ensures_onRoutes]
  refine (removePeer_roll host network peerId c.routes).mono ?_ fun _ _ impossible => impossible
  intro _ routes left
  rw [ensures_modify]
  exact ⟨rfl, left⟩

private theorem setMyInfo_roll (publicKey : Bytes) (hostname : String)
    (sized : publicKey.length = 32) (s : RouteState) :
    Ensures (do
        RouteState.setMyInfoField host network "hostname" hostname
        RouteState.setMyNoisePublicKey host network publicKey) s
      (fun _ s' => roll s' = roll s) (fun _ _ => False) := by
  have published (myInfo : RouteGroupData → RoutePeerInfo) (s : RouteState) :
      Ensures (RouteState.onGroup host network fun _ => modify fun g => g.publishMyInfo (myInfo g))
        s (fun _ s' => roll s' = roll s) (fun _ _ => False) := by
    refine (onGroup_roll (fun entries => entries = roll s network) (fun _ => False) ?_).mono ?_ ?_
    · rw [ensures_modify]
      funext p
      exact (groupEntry_same rfl rfl p).trans (groupEntry_ensureGroup host s network p)
    · rintro _ s' ⟨own, others⟩
      exact eq_roll own others
    · rintro e s' ⟨impossible, _⟩
      exact impossible
  rw [ensures_bind]
  refine (published (fun g => { g.myInfo with hostname := some hostname }) s).mono ?_
    fun _ _ impossible => impossible
  intro _ s₁ same
  unfold RouteState.setMyNoisePublicKey
  rw [if_neg (not_not.mpr sized)]
  refine (published (fun g => { g.myInfo with noiseStaticPubkey := publicKey }) s₁).mono ?_
    fun _ _ impossible => impossible
  intro _ s₂ same'
  exact same'.trans same

theorem addPeer_members {publicKey : Bytes} (sized : c.publicKey.length = 32) :
    Ensures (WasmRpcCore.addPeer host network peerId publicKey) c
      (fun _ c' => c'.publicKey = c.publicKey ∧ ∃ key, keyOfBytes publicKey = some key ∧
        roll c'.routes = enroll (roll c.routes) network peerId (some (), some key))
      (fun _ c' => Steady c c') := by
  unfold WasmRpcCore.addPeer
  rw [ensures_bind, ensures_onRoutes]
  refine (addPeer_roll host network peerId publicKey c.routes).mono ?_
    fun e routes same => ⟨rfl, same⟩
  rintro _ routes ⟨key, bound, joined⟩
  simp only [ensures_bind, ensures_get, ensures_ite, ensures_set, ensures_modify,
    ensures_onRoutes]
  constructor
  · intro _
    have own := @setMyInfo_roll host network c.publicKey c.hostname sized routes
    rw [ensures_bind] at own
    refine own.mono ?_ fun _ _ impossible => impossible.elim
    intro _ routes₁ rest
    refine rest.mono ?_ fun _ _ impossible => impossible.elim
    intro _ routes₂ same
    exact ⟨trivial, key, bound, same.trans joined⟩
  · intro _
    exact ⟨trivial, key, bound, joined⟩

end Core

end EasyTierEdge.Rpc.RouteMembers
