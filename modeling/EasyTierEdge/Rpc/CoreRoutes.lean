/- module: EasyTierEdge/Rpc/CoreRoutes
   source: cloudflare/wasm/src/rpc.rs, its calls of route_state.rs and peer_center.rs
   digest: A run of the core makes a run of the route state, and one of the peer center. -/

import EasyTierEdge.Rpc.CoreRuns
import EasyTierEdge.Rpc.Reports

set_option autoImplicit false
set_option relaxedAutoImplicit false

namespace EasyTierEdge.Rpc.CoreRoutes

open Lib.AscendingMap Lib.Fallible Lib.FiniteMap Lib.Machine
open Packet (Bytes)
open Proto Routes PeerCenter Rpc.Core CoreMoves CoreRuns
open RouteRuns (RouteCall RouteEvent)
open MapDigest (CenterEvent centerStep)

/-- The calls on the route state that a call of the core makes, in their order. -/
inductive Made (c : WasmRpcCore) : CoreCall → List RouteCall → Prop
  | idle {call : CoreCall} : Made c call []
  | joined {network : String} {peerId : UInt32} {publicKey : Bytes} {calls : List RouteCall}
      (some_of : calls <+: joining c network peerId publicKey) :
      Made c (.addPeer network peerId publicKey) calls
  | left {network : String} {peerId : UInt32} :
      Made c (.removePeer network peerId) [.removePeer network peerId]
  | synced {network : String} {peerId : UInt32} {payload request : Bytes} {nowMs : UInt64} :
      Made c (.handleRequest network peerId payload nowMs)
        [.handleSyncRouteInfoRequest network peerId request]
  | acknowledged {network : String} {peerId : UInt32} {payload : Bytes} {nowMs sessionId : UInt64}
      {weAreInitiator : Bool} {versions : List (UInt32 × UInt32)}
      {topologyVersion : Option UInt64} :
      Made c (.handleResponse network peerId payload nowMs)
        [.onRouteSessionAck network peerId sessionId weAreInitiator,
          .commitRouteUpdate network peerId versions topologyVersion]
  | built {network : String} {peerId : UInt32} {serverSessionId nowMs : UInt64}
      {weAreInitiator forceFull : Bool} :
      Made c (.buildRouteUpdate network peerId serverSessionId forceFull nowMs)
        [.buildSyncRouteInfoRequest network peerId serverSessionId weAreInitiator forceFull]

/-- The events of these calls. -/
def during (host : Host) (calls : List RouteCall) : List RouteEvent := calls.map (⟨host, ·⟩)

section Steps

variable {E : Env}

theorem step_made (c : WasmRpcCore) (e : CoreEvent) :
    ∃ calls, Made c e.call calls ∧
      (step E c e).routes = run (RouteRuns.step E.codec) c.routes (during e.host calls) := by
  obtain ⟨host, call⟩ := e
  have move := @step_moves E c ⟨host, call⟩
  generalize step E c ⟨host, call⟩ = c' at move ⊢
  generalize outcome E c ⟨host, call⟩ = r at move
  have joins {network : String} {peerId : UInt32} {publicKey : Bytes}
      {initiators : FMap (String × UInt32) Bool}
      (joined : Joined E host network peerId publicKey c c' initiators) :
      ∃ calls, Made c (.addPeer network peerId publicKey) calls ∧
        c'.routes = run (RouteRuns.step E.codec) c.routes (during host calls) := by
    obtain ⟨made, groups, some_of, _, rfl⟩ := joined.after
    exact ⟨made, .joined some_of, rfl⟩
  cases move with
  | added network peerId publicKey _ _ joined => exact joins joined
  | unadded network peerId publicKey _ _ joined => exact joins joined
  | removed network peerId => exact ⟨_, .left, rfl⟩
  | requested network peerId payload nowMs _ _ move =>
    cases move with
    | rejected => exact ⟨[], .idle, rfl⟩
    | merged packet decoded envelope r fragments move _ served =>
      cases served with
      | nothing => exact ⟨[], .idle, rfl⟩
      | synced request sync decoded => exact ⟨_, .synced, rfl⟩
      | centered => exact ⟨[], .idle, rfl⟩
  | accepted network peerId payload nowMs _ packet route sessionId move =>
    obtain ⟨whole, fragments, _, _, rfl⟩ := move.merged
    exact ⟨_, .acknowledged, rfl⟩
  | unaccepted network peerId payload nowMs _ _ _ move =>
    cases move with
    | rejected => exact ⟨[], .idle, rfl⟩
    | late => exact ⟨[], .idle, rfl⟩
    | merged => exact ⟨[], .idle, rfl⟩
  | built network peerId serverSessionId forceFull nowMs payload _ transactionId update move =>
    rw [move.after]
    exact ⟨_, .built, rfl⟩
  | unbuilt network peerId serverSessionId forceFull nowMs e => exact ⟨_, .built, rfl⟩
  | cleaned nowMs => exact ⟨[], .idle, rfl⟩

/-- What each call of a run guarantees about the calls it makes, all of them satisfy. -/
theorem routes_run {Q : RouteState → RouteEvent → Prop} {c : WasmRpcCore} {es : List CoreEvent}
    (asked : AllSteps (step E) (fun _ c e => ∀ calls, Made c e.call calls →
      AllSteps (RouteRuns.step E.codec) (fun _ => Q) c.routes (during e.host calls)) c es) :
    ∃ events, AllSteps (RouteRuns.step E.codec) (fun _ => Q) c.routes events ∧
      run (RouteRuns.step E.codec) c.routes events = (run (step E) c es).routes := by
  induction es using List.reverseRecOn with
  | nil => exact ⟨[], .nil, rfl⟩
  | append_singleton es e ih =>
    obtain ⟨events, all, same⟩ := ih asked.init
    obtain ⟨calls, made, after⟩ := @step_made E (run (step E) c es) e
    have last := asked.last calls made
    rw [run_snoc, after, ← same]
    refine ⟨events ++ during e.host calls, ?_, run_append _ _ _ _⟩
    rw [← same] at last
    exact all.append last

end Steps

/-! The peer center. -/

/-- What a call of the core asks of the peer center. -/
inductive Centered (host : Host) : CoreCall → List CenterEvent → Prop
  | idle {call : CoreCall} (stay : ∀ network peerId, call ≠ .removePeer network peerId)
      (keep : ∀ nowMs, call ≠ .cleanExpired nowMs) : Centered host call []
  | reported {network : String} {peerId : UInt32} {payload request : Bytes} {nowMs : UInt64} :
      Centered host (.handleRequest network peerId payload nowMs)
        [⟨host.clock 0, .reportPeers network peerId request⟩]
  | asked {network : String} {peerId : UInt32} {payload request : Bytes} {nowMs : UInt64} :
      Centered host (.handleRequest network peerId payload nowMs)
        [⟨host.clock 0, .getGlobalPeerMap network request⟩]
  | left {network : String} {peerId : UInt32} :
      Centered host (.removePeer network peerId) [⟨host.clock 0, .removePeer network peerId⟩]
  | cleaned {nowMs : UInt64} :
      Centered host (.cleanExpired nowMs) [⟨host.clock 0, .cleanOutdated peerCenterTtlSeconds⟩]

section Center

variable {E : Env} {host : Host} {network : String} {peerId : UInt32} {c : WasmRpcCore}

/-- A request may ask one thing of the peer center. -/
def Consults (E : Env) (host : Host) (call : CoreCall) (c c' : WasmRpcCore) : Prop :=
  ∃ events, Centered host call events ∧
    c'.peerCenter = run (centerStep E.codec E.hash) c.peerCenter events

private theorem Consults.none {payload : Bytes} {nowMs : UInt64} {c' : WasmRpcCore}
    (same : c'.peerCenter = c.peerCenter) :
    Consults E host (.handleRequest network peerId payload nowMs) c c' :=
  ⟨[], .idle (by simp) (by simp), same⟩

private theorem serve_consults (descriptor : RpcDescriptor) (request : Bytes) (payload : Bytes)
    (nowMs : UInt64) :
    Ensures (WasmRpcCore.serve E host network peerId descriptor request) c
      (fun _ c' => Consults E host (.handleRequest network peerId payload nowMs) c c')
      (fun _ c' => Consults E host (.handleRequest network peerId payload nowMs) c c') := by
  simp only [WasmRpcCore.serve, ensures_ite, ensures_bind, ensures_pure]
  refine ⟨fun _ => ⟨fun _ => .none rfl, fun _ => ?_⟩, fun _ => ⟨fun _ => ⟨fun _ => ?_, fun _ =>
    ⟨fun _ => ?_, fun _ => .none rfl⟩⟩, fun _ => .none rfl⟩⟩
  · cases E.codec.decodeSyncRouteInfoRequest request with
    | error e => exact .none rfl
    | ok sync =>
      simp only [ensures_bind, ensures_modify, ensures_onRoutes, ensures_pure]
      exact ensures_of_forall (fun _ _ => .none rfl) fun _ _ => .none rfl
  · simp only [ensures_onCenter]
    refine (ensures_self _ _).mono ?_ ?_
    · rintro _ peerCenter rfl
      exact ⟨_, .reported, rfl⟩
    · rintro _ peerCenter rfl
      exact ⟨_, .reported, rfl⟩
  · simp only [ensures_onCenter]
    refine (ensures_self _ _).mono ?_ ?_
    · rintro _ peerCenter rfl
      exact ⟨_, .asked, rfl⟩
    · rintro _ peerCenter rfl
      exact ⟨_, .asked, rfl⟩

private theorem handleRequest_consults (payload : Bytes) (nowMs : UInt64) :
    Ensures (WasmRpcCore.handleRequest E host network peerId payload nowMs) c
      (fun _ c' => Consults E host (.handleRequest network peerId payload nowMs) c c')
      (fun _ c' => Consults E host (.handleRequest network peerId payload nowMs) c c') := by
  rw [WasmRpcCore.handleRequest]
  cases E.codec.decodeRpcPacket payload with
  | error e => exact .none rfl
  | ok packet =>
    simp only [ensures_bind]
    refine (validateEnvelope_cases true).mono ?_ ?_
    · rintro _ _ ⟨same, _⟩
      rw [same, ensures_onFragments]
      refine ensures_of_forall (fun merged fragments => ?_) fun _ _ => .none rfl
      cases merged with
      | pending => exact .none rfl
      | complete whole =>
        dsimp only
        rw [WasmRpcCore.answerRequest, ensures_bind]
        refine (validateCompression_cases whole).mono ?_ ?_
        · rintro _ _ rfl
          cases whole.descriptor with
          | none => exact .none rfl
          | some descriptor =>
            cases E.codec.decodeRpcRequest whole.body with
            | error e => exact .none rfl
            | ok request =>
              simp only [ensures_bind, ensures_get, ensures_pure]
              exact @serve_consults E host network peerId { c with fragments } descriptor
                request.request payload nowMs
        · rintro _ _ rfl
          exact .none rfl
    · rintro _ _ ⟨rfl, _⟩
      exact .none rfl

theorem step_centered (c : WasmRpcCore) (e : CoreEvent) :
    ∃ events, Centered e.host e.call events ∧
      (step E c e).peerCenter = run (centerStep E.codec E.hash) c.peerCenter events := by
  obtain ⟨host, call⟩ := e
  have quiet (call : CoreCall) (stay : ∀ network peerId, call ≠ .removePeer network peerId)
      (keep : ∀ nowMs, call ≠ .cleanExpired nowMs) {c' : WasmRpcCore}
      (same : c'.peerCenter = c.peerCenter) : ∃ events, Centered host call events ∧
      c'.peerCenter = run (centerStep E.codec E.hash) c.peerCenter events :=
    ⟨[], .idle stay keep, same⟩
  cases call with
  | handleRequest network peerId payload nowMs =>
    have consults := ensures_final (@handleRequest_consults E host network peerId c payload nowMs)
    rw [step, perform, RouteRuns.final_bind_pure]
    exact consults
  | removePeer network peerId =>
    have move := @step_moves E c ⟨host, .removePeer network peerId⟩
    generalize step E c ⟨host, .removePeer network peerId⟩ = c' at move ⊢
    generalize outcome E c ⟨host, .removePeer network peerId⟩ = r at move
    cases move with
    | removed => exact ⟨_, .left, rfl⟩
  | cleanExpired nowMs => exact ⟨_, .cleaned, rfl⟩
  | addPeer network peerId publicKey =>
    have move := @step_moves E c ⟨host, .addPeer network peerId publicKey⟩
    generalize step E c ⟨host, .addPeer network peerId publicKey⟩ = c' at move ⊢
    generalize outcome E c ⟨host, .addPeer network peerId publicKey⟩ = r at move
    refine quiet _ (by simp) (by simp) ?_
    cases move with
    | added _ _ _ _ _ joined =>
      obtain ⟨_, _, _, _, rfl⟩ := joined.after
      rfl
    | unadded _ _ _ _ _ joined =>
      obtain ⟨_, _, _, _, rfl⟩ := joined.after
      rfl
  | handleResponse network peerId payload nowMs =>
    have move := @step_moves E c ⟨host, .handleResponse network peerId payload nowMs⟩
    generalize step E c ⟨host, .handleResponse network peerId payload nowMs⟩ = c' at move ⊢
    generalize outcome E c ⟨host, .handleResponse network peerId payload nowMs⟩ = r at move
    refine quiet _ (by simp) (by simp) ?_
    cases move with
    | accepted _ _ _ _ _ packet route sessionId move =>
      obtain ⟨whole, fragments, _, _, rfl⟩ := move.merged
      rfl
    | unaccepted _ _ _ _ _ _ _ move =>
      cases move with
      | rejected => rfl
      | late => rfl
      | merged => rfl
  | buildRouteUpdate network peerId serverSessionId forceFull nowMs =>
    have move := @step_moves E c ⟨host, .buildRouteUpdate network peerId serverSessionId forceFull
      nowMs⟩
    generalize step E c ⟨host, .buildRouteUpdate network peerId serverSessionId forceFull nowMs⟩ =
      c' at move ⊢
    generalize outcome E c ⟨host, .buildRouteUpdate network peerId serverSessionId forceFull
      nowMs⟩ = r at move
    refine quiet _ (by simp) (by simp) ?_
    cases move with
    | built _ _ _ _ _ _ _ _ _ move =>
      rw [move.after]
      rfl
    | unbuilt => rfl

end Center

end EasyTierEdge.Rpc.CoreRoutes
