/- module: EasyTierEdge/Rpc/Transactions
   source: cloudflare/wasm/src/rpc.rs, outstanding_routes
   digest: A route acknowledgement is applied when it is due, and at most once. -/

import EasyTierEdge.Rpc.CoreRuns
import EasyTierEdge.Wire

set_option autoImplicit false
set_option relaxedAutoImplicit false

namespace EasyTierEdge.Rpc.Transactions

open Lib.AscendingMap Lib.Fallible Lib.FiniteMap Lib.Machine Lib.Saturating
open Packet (Bytes)
open Proto Routes PeerCenter Fragments FragmentMoves Rpc.Core CoreMoves CoreRuns
open RouteRuns (RouteCall)

variable (E : Env)

/-- What is recorded for an update that is built. -/
def recorded (nowMs : UInt64) (update : RouteUpdate) : OutstandingRoute :=
  ⟨saturatingAdd nowMs routeRpcTimeoutMs, update.peerInfoVersions, update.topologyVersion⟩

/-- A `build_route_update` that opens the transaction `key` with an update. -/
inductive Builds (c : WasmRpcCore) (e : CoreEvent) (key : RpcKey) (nowMs : UInt64)
    (update : RouteUpdate) : Prop
  | intro (network : String) (peerId : UInt32) (serverSessionId : UInt64) (forceFull : Bool)
      (transactionId : Int64) (payload : Bytes)
      (call : e.call = .buildRouteUpdate network peerId serverSessionId forceFull nowMs)
      (answer : outcome E c e = .ok (.bytes payload))
      (own : key = rpcKey network peerId transactionId false)
      (move : BuiltMove E e.host network peerId serverSessionId forceFull nowMs c (step E c e)
        transactionId update)

/-- A `handle_response` that commits the transaction `key`, of which `route` is recorded, under the
session id of the response. -/
inductive Commits (c : WasmRpcCore) (e : CoreEvent) (key : RpcKey) (route : OutstandingRoute)
    (sessionId : UInt64) : Prop
  | intro (payload : Bytes) (nowMs : UInt64) (packet : RpcPacket)
      (call : e.call = .handleResponse key.network key.peerId payload nowMs)
      (answer : outcome E c e = .ok (.completed true))
      (own : key = rpcKey key.network key.peerId packet.transactionId false)
      (move : AcceptedMove E e.host key.network key.peerId payload nowMs c (step E c e) packet route
        sessionId)

/-- The time of a call that sweeps expired transactions. -/
def sweep : CoreCall → Option UInt64
  | .buildRouteUpdate _ _ _ _ nowMs => some nowMs
  | .cleanExpired nowMs => some nowMs
  | _ => none

/-- The transaction `key` with this deadline stays open. -/
structure Waits (key : RpcKey) (deadlineMs : UInt64) (c : WasmRpcCore) (e : CoreEvent) : Prop where
  unbuilt : ∀ nowMs update, ¬ Builds E c e key nowMs update
  uncommitted : ∀ route sessionId, ¬ Commits E c e key route sessionId
  stays : e.call ≠ .removePeer key.network key.peerId
  timely : ∀ payload nowMs packet, e.call = .handleResponse key.network key.peerId payload nowMs →
    E.codec.decodeRpcPacket payload = .ok packet →
    Envelope c key.network key.peerId false packet →
    key = rpcKey key.network key.peerId packet.transactionId false → nowMs ≤ deadlineMs
  unexpired : ∀ nowMs, sweep e.call = some nowMs → nowMs ≤ deadlineMs

/-! One event. -/

section Steps

variable {E} {c : WasmRpcCore} {e : CoreEvent} {key : RpcKey} {route : OutstandingRoute}

theorem not_builds {nowMs : UInt64} {update : RouteUpdate}
    (other : ∀ network peerId serverSessionId forceFull nowMs,
      e.call ≠ .buildRouteUpdate network peerId serverSessionId forceFull nowMs) :
    ¬ Builds E c e key nowMs update := by
  rintro ⟨network, peerId, serverSessionId, forceFull, _, _, call, _⟩
  exact other _ _ _ _ _ call

private theorem Builds.unique {key' : RpcKey} {nowMs nowMs' : UInt64} {update update' : RouteUpdate}
    (builds : Builds E c e key nowMs update) (builds' : Builds E c e key' nowMs' update') :
    key = key' ∧ nowMs = nowMs' ∧ update = update' := by
  obtain ⟨_, _, _, _, _, _, call, _, own, move⟩ := builds
  obtain ⟨_, _, _, _, _, _, call', _, own', move'⟩ := builds'
  rw [call] at call'
  cases call'
  have drawn := move.drawn.symm.trans move'.drawn
  have ran := move.ran.symm.trans move'.ran
  cases drawn
  cases ran
  exact ⟨own.trans own'.symm, rfl, rfl⟩

private theorem waits_of_other {deadlineMs : UInt64}
    (unbuilt : ∀ nowMs update, ¬ Builds E c e key nowMs update)
    (not_response : ∀ network peerId payload nowMs,
      e.call ≠ .handleResponse network peerId payload nowMs)
    (stays : e.call ≠ .removePeer key.network key.peerId)
    (unexpired : ∀ nowMs, sweep e.call = some nowMs → nowMs ≤ deadlineMs) :
    Waits E key deadlineMs c e where
  unbuilt := unbuilt
  uncommitted := by
    rintro route sessionId ⟨payload, nowMs, packet, call, _⟩
    exact not_response _ _ _ _ call
  stays := stays
  timely := by
    intro payload nowMs packet call
    exact absurd call (not_response _ _ _ _)
  unexpired := unexpired

/-- A response is waited through if it does not commit the transaction and is not late for it. -/
private theorem waits_of_response {host : Host} {network : String} {peerId : UInt32}
    {payload : Bytes} {nowMs deadlineMs : UInt64}
    (uncommitted : ∀ route sessionId, ¬ Commits E c
      ⟨host, .handleResponse network peerId payload nowMs⟩ key route sessionId)
    (timely : ∀ packet, E.codec.decodeRpcPacket payload = .ok packet →
      Envelope c network peerId false packet →
      key = rpcKey network peerId packet.transactionId false → nowMs ≤ deadlineMs) :
    Waits E key deadlineMs c ⟨host, .handleResponse network peerId payload nowMs⟩ where
  unbuilt := by
    intro nowMs update
    exact not_builds fun _ _ _ _ _ call => by cases call
  uncommitted := uncommitted
  stays := by
    intro call
    cases call
  timely := by
    intro payload' nowMs' packet call
    cases call
    exact timely packet
  unexpired := by
    intro nowMs' swept
    cases swept

private theorem retained_lookup {p : RpcKey → OutstandingRoute → Bool}
    {routes : FMap RpcKey OutstandingRoute} :
    (FMap.retain p routes).lookup key = some route ↔
      routes.lookup key = some route ∧ p key route = true := by
  constructor
  · exact FMap.lookup_of_lookup_retain
  · rintro ⟨found, kept⟩
    exact FMap.lookup_retain_of_true found kept

private theorem erased_lookup {other : RpcKey} {routes : FMap RpcKey OutstandingRoute} :
    (routes.erase other).lookup key = some route ↔
      routes.lookup key = some route ∧ key ≠ other := by
  rw [FMap.lookup_erase_eq_ite]
  by_cases same : key = other
  · simp [same]
  · simp [same]

/-- An event that builds nothing for this transaction: what is kept is what waits. -/
private theorem kept_step (kept : Prop) (unbuilt : ∀ nowMs update, ¬ Builds E c e key nowMs update)
    (after : (step E c e).outstandingRoutes.lookup key = some route ↔
      c.outstandingRoutes.lookup key = some route ∧ kept)
    (waits : c.outstandingRoutes.lookup key = some route →
      (kept ↔ Waits E key route.deadlineMs c e)) :
    (step E c e).outstandingRoutes.lookup key = some route ↔
      (∃ nowMs update, Builds E c e key nowMs update ∧ route = recorded nowMs update) ∨
        c.outstandingRoutes.lookup key = some route ∧ Waits E key route.deadlineMs c e := by
  rw [after, and_congr_right waits]
  constructor
  · exact Or.inr
  · rintro (⟨nowMs, update, builds, _⟩ | waited)
    · exact absurd builds (unbuilt nowMs update)
    · exact waited

private theorem unchanged_step (other : ∀ network peerId serverSessionId forceFull nowMs,
      e.call ≠ .buildRouteUpdate network peerId serverSessionId forceFull nowMs)
    (same : (step E c e).outstandingRoutes = c.outstandingRoutes)
    (waits : c.outstandingRoutes.lookup key = some route → Waits E key route.deadlineMs c e) :
    (step E c e).outstandingRoutes.lookup key = some route ↔
      (∃ nowMs update, Builds E c e key nowMs update ∧ route = recorded nowMs update) ∨
        c.outstandingRoutes.lookup key = some route ∧ Waits E key route.deadlineMs c e :=
  kept_step True (fun _ _ => not_builds other) (by rw [same, and_true])
    fun found => iff_of_true trivial (waits found)

private theorem swept_step {nowMs : UInt64}
    (unbuilt : ∀ nowMs update, ¬ Builds E c e key nowMs update)
    (not_response : ∀ network peerId payload nowMs,
      e.call ≠ .handleResponse network peerId payload nowMs)
    (stays : e.call ≠ .removePeer key.network key.peerId) (swept : sweep e.call = some nowMs)
    (after : (step E c e).outstandingRoutes.lookup key = some route ↔
      (FMap.retain (fun _ route => nowMs ≤ route.deadlineMs) c.outstandingRoutes).lookup key =
        some route) :
    (step E c e).outstandingRoutes.lookup key = some route ↔
      (∃ nowMs update, Builds E c e key nowMs update ∧ route = recorded nowMs update) ∨
        c.outstandingRoutes.lookup key = some route ∧ Waits E key route.deadlineMs c e := by
  rw [retained_lookup, decide_eq_true_eq] at after
  refine kept_step _ unbuilt after fun _ => ⟨fun unexpired => ?_, fun waits => ?_⟩
  · refine waits_of_other unbuilt not_response stays fun nowMs' again => ?_
    rw [swept] at again
    cases again
    exact unexpired
  · exact waits.unexpired nowMs swept

private theorem removed_step (host : Host) (network : String) (peerId : UInt32) :
    (step E c ⟨host, .removePeer network peerId⟩).outstandingRoutes.lookup key = some route ↔
      (∃ nowMs update, Builds E c ⟨host, .removePeer network peerId⟩ key nowMs update ∧
        route = recorded nowMs update) ∨
      c.outstandingRoutes.lookup key = some route ∧
        Waits E key route.deadlineMs c ⟨host, .removePeer network peerId⟩ := by
  refine kept_step (¬ (key.network = network ∧ key.peerId = peerId))
    (fun _ _ => not_builds (by simp)) ?_ fun _ => ⟨fun elsewhere => ?_, ?_⟩
  · show (FMap.retain _ c.outstandingRoutes).lookup key = some route ↔ _
    rw [retained_lookup, Bool.or_eq_true, bne_iff_ne, bne_iff_ne, ← not_and_or]
  · refine waits_of_other (fun _ _ => not_builds (by simp)) (by simp) ?_ (by simp [sweep])
    intro call
    cases call
    exact elsewhere ⟨rfl, rfl⟩
  · rintro waits ⟨rfl, rfl⟩
    exact waits.stays rfl

/-- A response takes out the transaction that it is about, if it does. -/
private theorem answered_step {host : Host} {network : String} {peerId : UInt32} {payload : Bytes}
    {nowMs : UInt64} {packet : RpcPacket} (decoded : E.codec.decodeRpcPacket payload = .ok packet)
    (erased : (step E c ⟨host, .handleResponse network peerId payload nowMs⟩).outstandingRoutes =
      c.outstandingRoutes.erase (rpcKey network peerId packet.transactionId false))
    (uncommitted : key ≠ rpcKey network peerId packet.transactionId false →
      ∀ route sessionId, ¬ Commits E c
        ⟨host, .handleResponse network peerId payload nowMs⟩ key route sessionId)
    (ended : c.outstandingRoutes.lookup (rpcKey network peerId packet.transactionId false) =
        some route →
      ¬ Waits E (rpcKey network peerId packet.transactionId false) route.deadlineMs c
        ⟨host, .handleResponse network peerId payload nowMs⟩) :
    (step E c ⟨host, .handleResponse network peerId payload nowMs⟩).outstandingRoutes.lookup key =
        some route ↔
      (∃ nowMs' update, Builds E c ⟨host, .handleResponse network peerId payload nowMs⟩ key nowMs'
          update ∧ route = recorded nowMs' update) ∨
        c.outstandingRoutes.lookup key = some route ∧ Waits E key route.deadlineMs c
          ⟨host, .handleResponse network peerId payload nowMs⟩ := by
  refine kept_step (key ≠ rpcKey network peerId packet.transactionId false)
    (fun _ _ => not_builds (by simp)) (by rw [erased, erased_lookup])
    fun found => ⟨fun other => waits_of_response (uncommitted other) ?_, ?_⟩
  · intro packet' decoded' _ own
    rw [decoded] at decoded'
    cases decoded'
    exact absurd own other
  · rintro waits rfl
    exact ended found waits

/-- A build opens its own transaction, and sweeps the others. -/
private theorem built_step {host : Host} {network : String} {peerId : UInt32}
    {serverSessionId : UInt64} {forceFull : Bool} {nowMs : UInt64} (opened : RpcKey)
    (update : RouteUpdate)
    (builds : Builds E c ⟨host, .buildRouteUpdate network peerId serverSessionId forceFull nowMs⟩
      opened nowMs update)
    (inserted : (step E c ⟨host, .buildRouteUpdate network peerId serverSessionId forceFull
        nowMs⟩).outstandingRoutes =
      (c.cleanRpcState nowMs).outstandingRoutes.insert opened (recorded nowMs update)) :
    (step E c ⟨host, .buildRouteUpdate network peerId serverSessionId forceFull
        nowMs⟩).outstandingRoutes.lookup key = some route ↔
      (∃ nowMs' update', Builds E c ⟨host, .buildRouteUpdate network peerId serverSessionId
          forceFull nowMs⟩ key nowMs' update' ∧ route = recorded nowMs' update') ∨
        c.outstandingRoutes.lookup key = some route ∧ Waits E key route.deadlineMs c
          ⟨host, .buildRouteUpdate network peerId serverSessionId forceFull nowMs⟩ := by
  by_cases own : key = opened
  · rw [inserted, FMap.lookup_insert_eq_ite, if_pos own]
    constructor
    · intro found
      cases found
      exact Or.inl ⟨nowMs, update, own ▸ builds, rfl⟩
    · rintro (⟨nowMs', update', builds', rfl⟩ | ⟨_, waits⟩)
      · obtain ⟨_, rfl, rfl⟩ := Builds.unique builds' builds
        rfl
      · exact absurd (own ▸ builds) (waits.unbuilt nowMs update)
  · refine swept_step ?_ (by simp) (by simp) rfl ?_
    · intro nowMs' update' builds'
      exact own (Builds.unique builds' builds).1
    · rw [inserted, FMap.lookup_insert_eq_ite, if_neg own]
      rfl

private theorem outstanding_step (key : RpcKey) (route : OutstandingRoute) (c : WasmRpcCore)
    (e : CoreEvent) :
    (step E c e).outstandingRoutes.lookup key = some route ↔
      (∃ nowMs update, Builds E c e key nowMs update ∧ route = recorded nowMs update) ∨
        c.outstandingRoutes.lookup key = some route ∧ Waits E key route.deadlineMs c e := by
  obtain ⟨host, call⟩ := e
  have move := @step_moves E c ⟨host, call⟩
  generalize left : step E c ⟨host, call⟩ = c' at move
  generalize answer : outcome E c ⟨host, call⟩ = r at move
  rw [← left]
  cases move with
  | added network peerId publicKey _ accepted joined =>
    obtain ⟨calls, groups, _, _, rfl⟩ := joined.after
    refine unchanged_step (by simp) (by rw [left]) fun _ => ?_
    exact waits_of_other (fun _ _ => not_builds (by simp)) (by simp) (by simp) (by simp [sweep])
  | unadded network peerId publicKey e _ joined =>
    obtain ⟨calls, groups, _, _, rfl⟩ := joined.after
    refine unchanged_step (by simp) (by rw [left]) fun _ => ?_
    exact waits_of_other (fun _ _ => not_builds (by simp)) (by simp) (by simp) (by simp [sweep])
  | removed network peerId => exact removed_step host network peerId
  | requested network peerId payload nowMs _ _ move =>
    have same : c'.outstandingRoutes = c.outstandingRoutes := by
      cases move with
      | rejected => rfl
      | merged packet decoded envelope r fragments move _ served =>
        have kept := Served.outstandingRoutes served
        exact kept
    refine unchanged_step (by simp) (by rw [left, same]) fun _ => ?_
    exact waits_of_other (fun _ _ => not_builds (by simp)) (by simp) (by simp) (by simp [sweep])
  | accepted network peerId payload nowMs _ packet route' sessionId move =>
    refine answered_step move.decoded ?_ ?_ fun found waits => ?_
    · obtain ⟨whole, fragments, _, _, rfl⟩ := move.merged
      rw [left]
    · rintro other route sessionId ⟨payload', nowMs', packet', call, _, own, move'⟩
      cases call
      have same := move.decoded.symm.trans move'.decoded
      cases same
      exact other own
    · refine waits.uncommitted route' sessionId ⟨payload, nowMs, packet, rfl, answer, rfl, ?_⟩
      rw [left]
      exact move
  | unaccepted network peerId payload nowMs _ other _ move =>
    have uncommitted : ∀ route sessionId, ¬ Commits E c
        ⟨host, .handleResponse network peerId payload nowMs⟩ key route sessionId := by
      rintro route sessionId ⟨_, _, _, _, accepted, _, _⟩
      exact other (answer.symm.trans accepted)
    cases move with
    | rejected unmatched =>
      refine unchanged_step (by simp) (by rw [left]) fun found => waits_of_response uncommitted ?_
      intro packet decoded envelope own
      rw [own, unmatched packet decoded envelope] at found
      cases found
    | late packet decoded envelope route' outstanding late =>
      refine answered_step decoded (by rw [left]) (fun _ => uncommitted) fun found waits => ?_
      rw [outstanding] at found
      cases found
      have timely := waits.timely payload nowMs packet rfl decoded envelope rfl
      exact absurd late (UInt64.not_lt.mpr timely)
    | merged packet decoded envelope route' outstanding timely r fragments move =>
      refine unchanged_step (by simp) (by rw [left]) fun found => waits_of_response uncommitted ?_
      intro packet' decoded' _ own
      rw [decoded] at decoded'
      cases decoded'
      rw [own, outstanding] at found
      cases found
      exact timely
  | built network peerId serverSessionId forceFull nowMs payload _ transactionId update move =>
    refine built_step (rpcKey network peerId transactionId false) update ?_ ?_
    · refine ⟨network, peerId, serverSessionId, forceFull, transactionId, payload, rfl, answer, rfl,
        ?_⟩
      rw [left]
      exact move
    · rw [left, move.after]
      rfl
  | unbuilt network peerId serverSessionId forceFull nowMs e =>
    refine swept_step ?_ (by simp) (by simp) rfl ?_
    · rintro nowMs' update ⟨_, _, _, _, _, _, _, built, _⟩
      rw [answer] at built
      cases built
    · rw [left]
      rfl
  | cleaned nowMs =>
    refine swept_step (fun _ _ => not_builds (by simp)) (by simp) (by simp) rfl ?_
    rw [left]
    rfl

private theorem commits_of_completed {network : String} {peerId : UInt32} {payload : Bytes}
    {nowMs : UInt64} (call : e.call = .handleResponse network peerId payload nowMs)
    (completed : outcome E c e = .ok (.completed true)) :
    ∃ key route sessionId, Commits E c e key route sessionId ∧
      c.outstandingRoutes.lookup key = some route := by
  obtain ⟨host, _⟩ := e
  cases call
  have move := @step_moves E c ⟨host, .handleResponse network peerId payload nowMs⟩
  generalize left : step E c ⟨host, .handleResponse network peerId payload nowMs⟩ = c' at move
  rw [completed] at move
  cases move with
  | accepted _ _ _ _ _ packet route sessionId move =>
    refine ⟨rpcKey network peerId packet.transactionId false, route, sessionId, ?_,
      move.outstanding⟩
    refine ⟨payload, nowMs, packet, rfl, completed, rfl, ?_⟩
    rw [left]
    exact move
  | unaccepted _ _ _ _ _ other _ move => exact absurd rfl other

private theorem Commits.routes {sessionId : UInt64} (commits : Commits E c e key route sessionId) :
    (step E c e).routes = acknowledged E e.host key.network key.peerId c sessionId route := by
  obtain ⟨payload, nowMs, packet, _, _, _, move⟩ := commits
  obtain ⟨whole, fragments, _, _, after⟩ := move.merged
  rw [after]

private theorem routes_of_unaccepted {network : String} {peerId : UInt32} {payload : Bytes}
    {nowMs : UInt64} (call : e.call = .handleResponse network peerId payload nowMs)
    (uncompleted : outcome E c e ≠ .ok (.completed true)) : (step E c e).routes = c.routes := by
  obtain ⟨host, _⟩ := e
  cases call
  have move := @step_moves E c ⟨host, .handleResponse network peerId payload nowMs⟩
  generalize step E c ⟨host, .handleResponse network peerId payload nowMs⟩ = c' at move ⊢
  generalize answer : outcome E c ⟨host, .handleResponse network peerId payload nowMs⟩ = r at move
  cases move with
  | accepted => exact absurd answer uncompleted
  | unaccepted _ _ _ _ _ other _ move =>
    cases move with
    | rejected => rfl
    | late => rfl
    | merged => rfl

/-- A call of `commit_route_update`. -/
def isCommit : RouteCall → Bool
  | .commitRouteUpdate .. => true
  | _ => false

private theorem routes_of_other (other : ∀ network peerId payload nowMs,
      e.call ≠ .handleResponse network peerId payload nowMs) :
    ∃ calls : List RouteCall, (∀ call ∈ calls, isCommit call = false) ∧
      (step E c e).routes = run (RouteRuns.step E.codec) c.routes (calls.map (⟨e.host, ·⟩)) := by
  obtain ⟨host, call⟩ := e
  have move := @step_moves E c ⟨host, call⟩
  generalize step E c ⟨host, call⟩ = c' at move ⊢
  generalize outcome E c ⟨host, call⟩ = r at move
  have joined_calls : ∀ {calls : List RouteCall} {network : String} {peerId : UInt32}
      {publicKey : Bytes}, calls <+: joining c network peerId publicKey →
        ∀ call ∈ calls, isCommit call = false := by
    intro calls network peerId publicKey some_of call member
    have one := some_of.subset member
    simp only [joining, List.mem_cons, List.not_mem_nil, or_false] at one
    rcases one with rfl | rfl | rfl
    · rfl
    · rfl
    · rfl
  cases move with
  | added network peerId publicKey _ accepted joined =>
    obtain ⟨calls, groups, some_of, _, rfl⟩ := joined.after
    exact ⟨calls, joined_calls some_of, rfl⟩
  | unadded network peerId publicKey e _ joined =>
    obtain ⟨calls, groups, some_of, _, rfl⟩ := joined.after
    exact ⟨calls, joined_calls some_of, rfl⟩
  | removed network peerId =>
    exact ⟨[.removePeer network peerId], by simp [isCommit], rfl⟩
  | requested network peerId payload nowMs _ _ move =>
    cases move with
    | rejected => exact ⟨[], by simp, rfl⟩
    | merged packet decoded envelope r fragments move _ served =>
      cases served with
      | nothing => exact ⟨[], by simp, rfl⟩
      | synced request sync decoded =>
        exact ⟨[.handleSyncRouteInfoRequest network peerId request], by simp [isCommit], rfl⟩
      | centered => exact ⟨[], by simp, rfl⟩
  | accepted network peerId payload nowMs => exact absurd rfl (other network peerId payload nowMs)
  | unaccepted network peerId payload nowMs => exact absurd rfl (other network peerId payload nowMs)
  | built network peerId serverSessionId forceFull nowMs payload _ transactionId update move =>
    rw [move.after]
    exact ⟨[.buildSyncRouteInfoRequest network peerId serverSessionId
      ((c.peerInitiator.lookup (network, peerId)).getD true) forceFull], by simp [isCommit], rfl⟩
  | unbuilt network peerId serverSessionId forceFull nowMs e =>
    exact ⟨[.buildSyncRouteInfoRequest network peerId serverSessionId
      ((c.peerInitiator.lookup (network, peerId)).getD true) forceFull], by simp [isCommit], rfl⟩
  | cleaned nowMs => exact ⟨[], by simp, rfl⟩

end Steps

/-! The run. -/

/-- The commit `f` is due to the update built by `b`: the same transaction, open all the time. -/
structure Due (c₀ : WasmRpcCore) (before : List CoreEvent) (b : CoreEvent) (mid : List CoreEvent)
    (f : CoreEvent) (key : RpcKey) (nowMs : UInt64) (update : RouteUpdate) (sessionId : UInt64) :
    Prop where
  built : Builds E (run (step E) c₀ before) b key nowMs update
  waited : AllSteps (step E) (fun _ => Waits E key (recorded nowMs update).deadlineMs)
    (run (step E) c₀ (before ++ [b])) mid
  committed : Commits E (run (step E) c₀ (before ++ b :: mid)) f key (recorded nowMs update)
    sessionId

/-- What an event may do to the routes: an accepted response commits the update it is due to, any
other response changes nothing, and no other call commits. -/
structure Acknowledges (c₀ : WasmRpcCore) (pre : List CoreEvent) (c : WasmRpcCore)
    (e : CoreEvent) : Prop where
  accepted : ∀ network peerId payload nowMs, e.call = .handleResponse network peerId payload nowMs →
    outcome E c e = .ok (.completed true) → ∃ before b mid key builtMs update sessionId,
      pre = before ++ b :: mid ∧ Due E c₀ before b mid e key builtMs update sessionId ∧
      key.network = network ∧ key.peerId = peerId ∧
      nowMs ≤ saturatingAdd builtMs routeRpcTimeoutMs ∧
      (step E c e).routes = run (RouteRuns.step E.codec) c.routes
        [⟨e.host, .onRouteSessionAck network peerId sessionId
            ((c.peerInitiator.lookup (network, peerId)).getD true)⟩,
          ⟨e.host, .commitRouteUpdate network peerId update.peerInfoVersions
            update.topologyVersion⟩]
  unaccepted : ∀ network peerId payload nowMs,
    e.call = .handleResponse network peerId payload nowMs →
    outcome E c e ≠ .ok (.completed true) → (step E c e).routes = c.routes
  other : (∀ network peerId payload nowMs,
      e.call ≠ .handleResponse network peerId payload nowMs) →
    ∃ calls : List RouteCall, (∀ call ∈ calls, isCommit call = false) ∧
      (step E c e).routes = run (RouteRuns.step E.codec) c.routes (calls.map (⟨e.host, ·⟩))

section Runs

variable {E} {c₀ : WasmRpcCore} {es : List CoreEvent}

/-- An open transaction was opened by a build since which nothing ended it. -/
private theorem outstanding_iff_built (start : c₀.outstandingRoutes = ∅) (key : RpcKey)
    (route : OutstandingRoute) (es : List CoreEvent) :
    (run (step E) c₀ es).outstandingRoutes.lookup key = some route ↔
      ∃ before e mid, es = before ++ e :: mid ∧
        (∃ nowMs update, Builds E (run (step E) c₀ before) e key nowMs update ∧
          route = recorded nowMs update) ∧
        AllSteps (step E) (fun _ => Waits E key route.deadlineMs)
          (run (step E) c₀ (before ++ [e])) mid := by
  refine @holds_iff_birth _ _ (step E) c₀
    (fun c => c.outstandingRoutes.lookup key = some route) _ _ (outstanding_step key route) ?_ es
  rw [start]
  rintro ⟨⟩

private theorem Due.unique {before mid mid' post post' : List CoreEvent} {b f f' : CoreEvent}
    {key key' : RpcKey} {nowMs nowMs' : UInt64} {update update' : RouteUpdate} {sid sid' : UInt64}
    (due : Due E c₀ before b mid f key nowMs update sid)
    (due' : Due E c₀ before b mid' f' key' nowMs' update' sid')
    (same : mid ++ f :: post = mid' ++ f' :: post') : mid = mid' := by
  obtain ⟨rfl, rfl, rfl⟩ := due.built.unique due'.built
  have shorter : ∀ {m m' r : List CoreEvent} {g : CoreEvent} {sid : UInt64}, m' = m ++ g :: r →
      AllSteps (step E) (fun _ => Waits E key (recorded nowMs update).deadlineMs)
        (run (step E) c₀ (before ++ [b])) m' →
      ¬ Commits E (run (step E) c₀ (before ++ b :: m)) g key (recorded nowMs update) sid := by
    intro m m' r g sid split waited committed
    have waits := waited m g r split
    rw [← run_append, List.append_assoc] at waits
    exact waits.uncommitted _ _ committed
  rcases List.append_eq_append_iff.mp same with ⟨rest, longer, tail⟩ | ⟨rest, longer, tail⟩
  · cases rest with
    | nil => simpa using longer.symm
    | cons g rest =>
      obtain ⟨rfl, _⟩ := List.cons.inj tail
      exact absurd due.committed (shorter longer due'.waited)
  · cases rest with
    | nil => simpa using longer
    | cons g rest =>
      obtain ⟨rfl, _⟩ := List.cons.inj tail
      exact absurd due'.committed (shorter longer due.waited)

theorem acknowledges_run (start : c₀.outstandingRoutes = ∅) (es : List CoreEvent) :
    AllSteps (step E) (Acknowledges E c₀) c₀ es := by
  intro pre e post _
  refine ⟨?_, ?_, routes_of_other⟩
  · intro network peerId payload nowMs call completed
    obtain ⟨key, route, sessionId, commits, found⟩ := commits_of_completed call completed
    obtain ⟨before, b, mid, rfl, ⟨builtMs, update, builds, rfl⟩, waited⟩ :=
      (outstanding_iff_built start key route pre).mp found
    have routes := commits.routes
    have committed := commits
    obtain ⟨payload', nowMs', packet, same, _, _, move⟩ := commits
    rw [call] at same
    cases same
    exact ⟨before, b, mid, key, builtMs, update, sessionId, rfl, ⟨builds, waited, committed⟩, rfl,
      rfl, move.timely, routes⟩
  · intro network peerId payload nowMs call
    exact routes_of_unaccepted call

end Runs

theorem new_outstandingRoutes {publicKey : Bytes} {hostname : String} {serverPeerId : UInt32}
    {c : WasmRpcCore} (created : WasmRpcCore.new publicKey hostname serverPeerId = .ok c) :
    c.outstandingRoutes = ∅ := by
  rw [WasmRpcCore.new] at created
  split at created
  · cases created
  · split at created
    · cases created
    · cases created
      rfl

/-- In every run a commit is due to one build, of which it commits the recorded versions, and a
build has at most one; every response that is not accepted leaves the routes as they are. -/
theorem acknowledgement_due {E : Env} {publicKey : Bytes} {hostname : String}
    {serverPeerId : UInt32} {c : WasmRpcCore}
    (created : WasmRpcCore.new publicKey hostname serverPeerId = .ok c) (es : List CoreEvent) :
    AllSteps (step E) (Acknowledges E c) c es ∧
      ∀ before b mid f post mid' f' post' key nowMs update sid key' nowMs' update' sid',
        es = before ++ b :: (mid ++ f :: post) → es = before ++ b :: (mid' ++ f' :: post') →
        Due E c before b mid f key nowMs update sid →
        Due E c before b mid' f' key' nowMs' update' sid' → mid = mid' := by
  refine ⟨acknowledges_run (new_outstandingRoutes created) es, ?_⟩
  intro before b mid f post mid' f' post' key nowMs update sid key' nowMs' update' sid' split split'
    due due'
  have same := split.symm.trans split'
  rw [List.append_cancel_left_eq, List.cons.injEq] at same
  exact due.unique due' same.2

/-! A peer joins, gets an update and acknowledges it. -/

def syncedResponse : SyncRouteInfoResponse := ⟨true, 77, none⟩

def ackedResponse : RpcResponse := ⟨Wire.syncRouteInfoResponse syncedResponse, none, 0⟩

def ackPacket : RpcPacket where
  fromPeer := 5
  toPeer := 1
  transactionId := 9
  descriptor := some ⟨"net", "OspfRouteRpc", "OspfRouteRpc", 1⟩
  body := Wire.rpcResponse ackedResponse
  isRequest := false
  totalPieces := 1
  pieceIdx := 0
  traceId := 0
  compressionInfo := none

def ackEnv : Env :=
  ⟨Wire.codec ⟨[ackPacket], [], [ackedResponse], [], [syncedResponse], [], []⟩, fun _ => 0⟩

def ackHost : Host := ⟨fun _ => 1_000, ⟨1, 2, 3, 4⟩, 9, fun _ => .ok 9⟩

def ackCore : Except String WasmRpcCore := WasmRpcCore.new (List.replicate 32 1) "edge" 1

def ackRun : List CoreEvent :=
  [⟨ackHost, .addPeer "net" 5 (List.replicate 32 2)⟩,
    ⟨ackHost, .buildRouteUpdate "net" 5 3 false 1_000⟩,
    ⟨ackHost, .handleResponse "net" 5 (Wire.rpcPacket ackPacket) 2_000⟩]

theorem acknowledgement_due_ackRun : ∃ c, ackCore = .ok c ∧
    outcome ackEnv (run (step ackEnv) c (ackRun.take 2))
      ⟨ackHost, .handleResponse "net" 5 (Wire.rpcPacket ackPacket) 2_000⟩ =
        .ok (.completed true) ∧
    AllSteps (step ackEnv) (Acknowledges ackEnv c) c ackRun :=
  ⟨_, rfl, by decide +kernel,
    (@acknowledgement_due ackEnv (List.replicate 32 1) "edge" 1 _ rfl ackRun).1⟩

end EasyTierEdge.Rpc.Transactions
