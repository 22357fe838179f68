/- module: EasyTierEdge/Rpc/CoreMoves
   source: cloudflare/wasm/src/rpc.rs
   digest: What each call of the RPC core does to its parts. -/

import EasyTierEdge.Rpc.Core
import EasyTierEdge.Rpc.FragmentMoves
import EasyTierEdge.Rpc.RouteRuns

set_option autoImplicit false
set_option relaxedAutoImplicit false

namespace EasyTierEdge.Rpc.CoreMoves

open Lib.AscendingMap Lib.Fallible Lib.FiniteMap Lib.Machine Lib.Saturating
open Packet (Bytes)
open Proto Routes PeerCenter Fragments FragmentMoves Rpc.Core
open RouteRuns (RouteCall)

section Lifting

variable {α : Type} {c : WasmRpcCore} {ok : α → WasmRpcCore → Prop}
  {err : String → WasmRpcCore → Prop}

@[simp] theorem ensures_onRoutes (op : RouteM α) :
    Ensures (onRoutes op) c ok err ↔
      Ensures op c.routes (fun a routes => ok a { c with routes })
        (fun e routes => err e { c with routes }) := by
  simp only [Ensures, onRoutes]
  cases op c.routes with
  | ok a routes => rfl
  | error e routes => rfl

@[simp] theorem ensures_onCenter (op : CenterM α) :
    Ensures (onCenter op) c ok err ↔
      Ensures op c.peerCenter (fun a peerCenter => ok a { c with peerCenter })
        (fun e peerCenter => err e { c with peerCenter }) := by
  simp only [Ensures, onCenter]
  cases op c.peerCenter with
  | ok a peerCenter => rfl
  | error e peerCenter => rfl

@[simp] theorem ensures_onFragments (op : FragmentsM α) :
    Ensures (onFragments op) c ok err ↔
      Ensures op c.fragments (fun a fragments => ok a { c with fragments })
        (fun e fragments => err e { c with fragments }) := by
  simp only [Ensures, onFragments]
  cases op c.fragments with
  | ok a fragments => rfl
  | error e fragments => rfl

end Lifting

/-- The route state after one of its calls. -/
def routed (E : Env) (host : Host) (c : WasmRpcCore) (call : RouteCall) : RouteState :=
  RouteRuns.step E.codec c.routes ⟨host, call⟩

/-- A packet that belongs to the authenticated peer and its network. -/
structure Envelope (c : WasmRpcCore) (network : String) (peerId : UInt32) (isRequest : Bool)
    (packet : RpcPacket) : Prop where
  fromPeer : packet.fromPeer = peerId
  toPeer : packet.toPeer = c.serverPeerId
  direction : packet.isRequest = isRequest
  domain : ∀ descriptor, packet.descriptor = some descriptor → descriptor.domainName = network

section Checks

variable {c : WasmRpcCore} {network : String} {peerId : UInt32} {packet : RpcPacket}

theorem validateEnvelope_cases (isRequest : Bool) :
    Ensures (WasmRpcCore.validateEnvelope packet network peerId isRequest) c
      (fun _ c' => c' = c ∧ Envelope c network peerId isRequest packet)
      (fun _ c' => c' = c ∧ ¬ Envelope c network peerId isRequest packet) := by
  simp only [WasmRpcCore.validateEnvelope, ensures_bind, ensures_get, ensures_ite, ensures_throw,
    ensures_pure, true_and]
  refine ⟨?_, fun addressed => ⟨?_, fun directed => ⟨?_, fun domestic => ?_⟩⟩⟩
  · intro foreign envelope
    rcases foreign with sender | receiver
    · exact sender envelope.fromPeer
    · exact receiver envelope.toPeer
  · intro turned envelope
    exact turned envelope.direction
  · intro abroad envelope
    obtain ⟨descriptor, given, other⟩ := Option.any_eq_true _ _ |>.mp abroad
    exact of_decide_eq_true other (envelope.domain descriptor given)
  · rw [not_or, not_not, not_not] at addressed
    refine ⟨addressed.1, addressed.2, not_not.mp directed, ?_⟩
    intro descriptor given
    rw [given] at domestic
    simpa using domestic

theorem validateCompression_cases (packet : RpcPacket) :
    Ensures (WasmRpcCore.validateCompression packet) c (fun _ c' => c' = c)
      (fun _ c' => c' = c) := by
  simp only [WasmRpcCore.validateCompression, ensures_ite, ensures_throw, ensures_pure]
  exact ⟨fun _ => trivial, fun _ => trivial⟩

theorem acceptedResponse_cases (E : Env) (packet : RpcPacket) :
    Ensures (WasmRpcCore.acceptedResponse E packet) c (fun _ c' => c' = c)
      (fun _ c' => c' = c) := by
  rw [WasmRpcCore.acceptedResponse, ensures_bind]
  refine (validateCompression_cases packet).mono ?_ fun _ _ same => same
  rintro _ _ rfl
  cases packet.descriptor with
  | none => exact rfl
  | some descriptor =>
    simp only [ensures_bind, ensures_ite, ensures_throw]
    refine ⟨fun _ => trivial, fun _ => ?_⟩
    cases E.codec.decodeRpcResponse packet.body with
    | error e => exact rfl
    | ok response =>
      simp only [ensures_bind, ensures_ite, ensures_throw]
      refine ⟨fun _ => trivial, fun _ => ?_⟩
      cases E.codec.decodeSyncRouteInfoResponse response.response with
      | error e => exact rfl
      | ok sync =>
        dsimp only
        cases sync.error with
        | none => exact rfl
        | some e => exact rfl

end Checks

/-! Requests. -/

/-- What a service may change. -/
inductive Served (E : Env) (host : Host) (network : String) (peerId : UInt32) (c : WasmRpcCore) :
    WasmRpcCore → Prop
  | nothing : Served E host network peerId c c
  | synced (request : Bytes) (sync : SyncRouteInfoRequest)
      (decoded : E.codec.decodeSyncRouteInfoRequest request = .ok sync) :
      Served E host network peerId c { c with
        peerInitiator := c.peerInitiator.insert (network, peerId) (!sync.isInitiator)
        routes := routed E host c (.handleSyncRouteInfoRequest network peerId request) }
  | centered (peerCenter : Center) : Served E host network peerId c { c with peerCenter }

section Requests

variable {E : Env} {host : Host} {network : String} {peerId : UInt32} {c : WasmRpcCore}

theorem ensures_self {σ α : Type} (op : EStateM String σ α) (s : σ) :
    Ensures op s (fun _ s' => s' = final (op s)) (fun _ s' => s' = final (op s)) := by
  unfold Ensures
  cases op s with
  | ok a s' => rfl
  | error e s' => rfl

private theorem serve_cases (descriptor : RpcDescriptor) (request : Bytes) :
    Ensures (WasmRpcCore.serve E host network peerId descriptor request) c
      (fun _ c' => Served E host network peerId c c')
      (fun _ c' => Served E host network peerId c c') := by
  simp only [WasmRpcCore.serve, ensures_ite, ensures_bind, ensures_pure]
  refine ⟨fun _ => ⟨fun _ => .nothing, fun _ => ?_⟩, fun _ => ⟨fun _ => ⟨fun _ => ?_, fun _ =>
    ⟨fun _ => ?_, fun _ => .nothing⟩⟩, fun _ => .nothing⟩⟩
  · cases decoded : E.codec.decodeSyncRouteInfoRequest request with
    | error e => exact .nothing
    | ok sync =>
      simp only [ensures_bind, ensures_modify, ensures_onRoutes, ensures_pure]
      have same : final (RouteState.handleSyncRouteInfoRequest E.codec host network peerId request
          c.routes) = routed E host c (.handleSyncRouteInfoRequest network peerId request) :=
        (RouteRuns.final_bind_pure _ _ _).symm
      refine (ensures_self _ _).mono ?_ ?_
      · rintro outcome _ rfl
        rw [same]
        exact .synced request sync decoded
      · rintro e _ rfl
        rw [same]
        exact .synced request sync decoded
  · simp only [ensures_onCenter]
    exact (ensures_self _ _).mono (fun _ peerCenter _ => .centered peerCenter)
      fun _ peerCenter _ => .centered peerCenter
  · simp only [ensures_onCenter]
    exact (ensures_self _ _).mono (fun _ peerCenter _ => .centered peerCenter)
      fun _ peerCenter _ => .centered peerCenter

private theorem answerRequest_cases (packet : RpcPacket) :
    Ensures (WasmRpcCore.answerRequest E host network peerId packet) c
      (fun _ c' => Served E host network peerId c c')
      (fun _ c' => Served E host network peerId c c') := by
  rw [WasmRpcCore.answerRequest, ensures_bind]
  refine (validateCompression_cases packet).mono ?_ ?_
  · rintro _ _ rfl
    cases packet.descriptor with
    | none => exact .nothing
    | some descriptor =>
      cases E.codec.decodeRpcRequest packet.body with
      | error e => exact .nothing
      | ok request =>
        simp only [ensures_bind, ensures_get, ensures_pure]
        exact serve_cases descriptor request.request
  · rintro _ _ rfl
    exact .nothing

/-- Everything `handle_request` can do. -/
inductive RequestMove (E : Env) (host : Host) (network : String) (peerId : UInt32)
    (payload : Bytes) (nowMs : UInt64) (c : WasmRpcCore) : WasmRpcCore → Prop
  | rejected : RequestMove E host network peerId payload nowMs c c
  | merged (packet : RpcPacket) (decoded : E.codec.decodeRpcPacket payload = .ok packet)
      (envelope : Envelope c network peerId true packet) (r : Except String MergedPacket)
      (fragments : PendingTable)
      (move : MergeMove (rpcKey network peerId packet.transactionId true) packet nowMs
        c.fragments r fragments) (c' : WasmRpcCore)
      (served : Served E host network peerId { c with fragments } c') :
      RequestMove E host network peerId payload nowMs c c'

theorem handleRequest_cases (payload : Bytes) (nowMs : UInt64) :
    Ensures (WasmRpcCore.handleRequest E host network peerId payload nowMs) c
      (fun _ c' => RequestMove E host network peerId payload nowMs c c')
      (fun _ c' => RequestMove E host network peerId payload nowMs c c') := by
  rw [WasmRpcCore.handleRequest]
  cases decoded : E.codec.decodeRpcPacket payload with
  | error e => exact .rejected
  | ok packet =>
    simp only [ensures_bind]
    refine (validateEnvelope_cases true).mono ?_ ?_
    · rintro _ _ ⟨same, envelope⟩
      rw [same, ensures_onFragments]
      refine (mergePacket_cases network peerId packet nowMs c.fragments).mono ?_ ?_
      · intro merged fragments move
        rw [envelope.direction] at move
        cases merged with
        | pending => exact .merged packet decoded envelope _ fragments move _ .nothing
        | complete whole =>
          exact (answerRequest_cases whole).mono
            (fun _ c' served => .merged packet decoded envelope _ fragments move c' served)
            fun _ c' served => .merged packet decoded envelope _ fragments move c' served
      · intro e fragments move
        rw [envelope.direction] at move
        exact .merged packet decoded envelope _ fragments move _ .nothing
    · rintro _ _ ⟨rfl, _⟩
      exact .rejected

end Requests

/-! Responses. -/

section Responses

variable {E : Env} {host : Host} {network : String} {peerId : UInt32} {c : WasmRpcCore}

/-- The two route calls of an accepted response. -/
def acknowledged (E : Env) (host : Host) (network : String) (peerId : UInt32) (c : WasmRpcCore)
    (sessionId : UInt64) (route : OutstandingRoute) : RouteState :=
  run (RouteRuns.step E.codec) c.routes
    [⟨host, .onRouteSessionAck network peerId sessionId
        ((c.peerInitiator.lookup (network, peerId)).getD true)⟩,
      ⟨host, .commitRouteUpdate network peerId route.peerInfoVersions route.topologyVersion⟩]

/-- A response that `handle_response` accepts. -/
structure AcceptedMove (E : Env) (host : Host) (network : String) (peerId : UInt32)
    (payload : Bytes) (nowMs : UInt64) (c c' : WasmRpcCore) (packet : RpcPacket)
    (route : OutstandingRoute) (sessionId : UInt64) : Prop where
  decoded : E.codec.decodeRpcPacket payload = .ok packet
  envelope : Envelope c network peerId false packet
  outstanding : c.outstandingRoutes.lookup (rpcKey network peerId packet.transactionId false) =
    some route
  timely : nowMs ≤ route.deadlineMs
  merged : ∃ whole fragments, MergeMove (rpcKey network peerId packet.transactionId false) packet
    nowMs c.fragments (.ok (.complete whole)) fragments ∧
    value (WasmRpcCore.acceptedResponse E whole { c with fragments }) = .ok sessionId ∧
    c' = { c with
      fragments
      outstandingRoutes := c.outstandingRoutes.erase
        (rpcKey network peerId packet.transactionId false)
      routes := acknowledged E host network peerId c sessionId route }

/-- Everything `handle_response` can do without accepting the response. -/
inductive UnacceptedMove (E : Env) (network : String) (peerId : UInt32) (payload : Bytes)
    (nowMs : UInt64) (c : WasmRpcCore) : WasmRpcCore → Prop
  | rejected (unmatched : ∀ packet, E.codec.decodeRpcPacket payload = .ok packet →
        Envelope c network peerId false packet →
        c.outstandingRoutes.lookup (rpcKey network peerId packet.transactionId false) = none) :
      UnacceptedMove E network peerId payload nowMs c c
  | late (packet : RpcPacket) (decoded : E.codec.decodeRpcPacket payload = .ok packet)
      (envelope : Envelope c network peerId false packet) (route : OutstandingRoute)
      (outstanding : c.outstandingRoutes.lookup
        (rpcKey network peerId packet.transactionId false) = some route)
      (late : route.deadlineMs < nowMs) : UnacceptedMove E network peerId payload nowMs c { c with
        outstandingRoutes := c.outstandingRoutes.erase
          (rpcKey network peerId packet.transactionId false) }
  | merged (packet : RpcPacket) (decoded : E.codec.decodeRpcPacket payload = .ok packet)
      (envelope : Envelope c network peerId false packet) (route : OutstandingRoute)
      (outstanding : c.outstandingRoutes.lookup
        (rpcKey network peerId packet.transactionId false) = some route)
      (timely : nowMs ≤ route.deadlineMs) (r : Except String MergedPacket)
      (fragments : PendingTable)
      (move : MergeMove (rpcKey network peerId packet.transactionId false) packet nowMs
        c.fragments r fragments) :
      UnacceptedMove E network peerId payload nowMs c { c with fragments }

private theorem acknowledge_cases (key : RpcKey) (sessionId : UInt64) (route : OutstandingRoute)
    (outstanding : c.outstandingRoutes.lookup key = some route) :
    Ensures (WasmRpcCore.acknowledge host network peerId key sessionId) c
      (fun _ c' => c' = { c with
        outstandingRoutes := c.outstandingRoutes.erase key
        routes := acknowledged E host network peerId c sessionId route })
      (fun _ _ => False) := by
  simp only [WasmRpcCore.acknowledge, ensures_bind, ensures_get, outstanding, ensures_set,
    ensures_onRoutes]
  exact rfl

theorem handleResponse_cases (payload : Bytes) (nowMs : UInt64) :
    Ensures (WasmRpcCore.handleResponse E host network peerId payload nowMs) c
      (fun done c' => if done = true then
          ∃ packet route sessionId, AcceptedMove E host network peerId payload nowMs c c' packet
            route sessionId
        else UnacceptedMove E network peerId payload nowMs c c')
      (fun _ c' => UnacceptedMove E network peerId payload nowMs c c') := by
  rw [WasmRpcCore.handleResponse]
  cases decoded : E.codec.decodeRpcPacket payload with
  | error e =>
    refine .rejected ?_
    intro packet impossible
    rw [decoded] at impossible
    cases impossible
  | ok packet =>
    have unmatched : (Envelope c network peerId false packet → c.outstandingRoutes.lookup
          (rpcKey network peerId packet.transactionId false) = none) →
        UnacceptedMove E network peerId payload nowMs c c := by
      intro missing
      refine .rejected ?_
      intro packet' same
      rw [decoded] at same
      cases same
      exact missing
    simp only [ensures_bind]
    refine (validateEnvelope_cases false).mono ?_ ?_
    · rintro _ _ ⟨same, envelope⟩
      rw [same]
      simp only [ensures_get]
      cases outstanding : c.outstandingRoutes.lookup
          (rpcKey network peerId packet.transactionId false) with
      | none => exact unmatched fun _ => outstanding
      | some route =>
        simp only [ensures_bind, ensures_ite, ensures_set, ensures_throw, ensures_onFragments]
        refine ⟨fun late => .late packet decoded envelope route outstanding late, fun timely => ?_⟩
        have timely := UInt64.not_lt.mp timely
        refine (mergePacket_cases network peerId packet nowMs c.fragments).mono ?_ ?_
        · intro merged fragments move
          rw [envelope.direction] at move
          cases merged with
          | pending =>
            exact .merged packet decoded envelope route outstanding timely _ fragments move
          | complete whole =>
            dsimp only
            simp only [ensures_bind]
            refine (acceptedResponse_cases E whole).ran.mono ?_ ?_
            · rintro sessionId _ ⟨rfl, accepted⟩
              refine (@acknowledge_cases E host network peerId { c with fragments } _ sessionId
                route outstanding).mono ?_ fun _ _ impossible => impossible.elim
              rintro _ c' rfl
              refine ⟨packet, route, sessionId, decoded, envelope, outstanding, timely, whole,
                fragments, move, ?_, rfl⟩
              rw [accepted]
              rfl
            · rintro e _ ⟨rfl, _⟩
              exact .merged packet decoded envelope route outstanding timely _ fragments move
        · intro e fragments move
          rw [envelope.direction] at move
          exact .merged packet decoded envelope route outstanding timely _ fragments move
    · rintro _ _ ⟨rfl, foreign⟩
      exact unmatched fun envelope => absurd envelope foreign

end Responses

/-! The other calls. -/

section Others

variable {E : Env} {host : Host} {network : String} {peerId : UInt32} {c : WasmRpcCore}

private theorem perform_final {α : Type} (op : RouteM α) (reply : α → RouteRuns.RouteReply)
    (s : RouteState) : final (op s) = final ((op >>= fun a => pure (reply a)) s) :=
  (RouteRuns.final_bind_pure op reply s).symm

/-- The core after the clean-up and the route call of `build_route_update`. -/
def updating (E : Env) (host : Host) (network : String) (peerId : UInt32)
    (serverSessionId : UInt64) (forceFull : Bool) (nowMs : UInt64) (c : WasmRpcCore) :
    WasmRpcCore :=
  { c.cleanRpcState nowMs with
    routes := routed E host c (.buildSyncRouteInfoRequest network peerId serverSessionId
      ((c.peerInitiator.lookup (network, peerId)).getD true) forceFull) }

/-- An update that is handed out. -/
structure BuiltMove (E : Env) (host : Host) (network : String) (peerId : UInt32)
    (serverSessionId : UInt64) (forceFull : Bool) (nowMs : UInt64) (c c' : WasmRpcCore)
    (transactionId : Int64) (update : RouteUpdate) : Prop where
  ran : value (RouteState.buildSyncRouteInfoRequest E.codec host network peerId serverSessionId
    ((c.peerInitiator.lookup (network, peerId)).getD true) forceFull c.routes) = .ok update
  drawn : WasmRpcCore.drawTransactionId host
    (updating E host network peerId serverSessionId forceFull nowMs c) network peerId 16 0 =
      .ok transactionId
  after : c' = { updating E host network peerId serverSessionId forceFull nowMs c with
    outstandingRoutes := (c.cleanRpcState nowMs).outstandingRoutes.insert
      (rpcKey network peerId transactionId false)
      ⟨saturatingAdd nowMs routeRpcTimeoutMs, update.peerInfoVersions, update.topologyVersion⟩ }

theorem buildRouteUpdate_cases (serverSessionId : UInt64) (forceFull : Bool) (nowMs : UInt64) :
    Ensures (WasmRpcCore.buildRouteUpdate E host network peerId serverSessionId forceFull nowMs) c
      (fun _ c' => ∃ transactionId update, BuiltMove E host network peerId serverSessionId forceFull
        nowMs c c' transactionId update)
      (fun _ c' => c' = updating E host network peerId serverSessionId forceFull nowMs c) := by
  simp only [WasmRpcCore.buildRouteUpdate, ensures_bind, ensures_modify, ensures_get,
    ensures_onRoutes]
  have ran : final (RouteState.buildSyncRouteInfoRequest E.codec host network peerId
      serverSessionId ((c.peerInitiator.lookup (network, peerId)).getD true) forceFull c.routes) =
      routed E host c (.buildSyncRouteInfoRequest network peerId serverSessionId
        ((c.peerInitiator.lookup (network, peerId)).getD true) forceFull) :=
    perform_final _ RouteRuns.RouteReply.update _
  show Ensures (RouteState.buildSyncRouteInfoRequest E.codec host network peerId serverSessionId
    ((c.peerInitiator.lookup (network, peerId)).getD true) forceFull) c.routes _ _
  refine ((ensures_self _ _).ran).mono ?_ ?_
  · rintro update routes ⟨same, result⟩
    rw [ran] at same
    subst same
    show Ensures (WasmRpcCore.nextTransactionId host network peerId)
      (updating E host network peerId serverSessionId forceFull nowMs c) _ _
    simp only [WasmRpcCore.nextTransactionId, ensures_bind, ensures_get]
    cases drawn : WasmRpcCore.drawTransactionId host
        (updating E host network peerId serverSessionId forceFull nowMs c) network peerId 16 0 with
    | error e => exact rfl
    | ok transactionId =>
      refine ⟨transactionId, update, ?_, drawn, rfl⟩
      rw [result]
      rfl
  · rintro e routes ⟨same, _⟩
    rw [ran] at same
    subst same
    exact rfl

/-- The route calls of `add_peer`: the peer, and the relay's own info when the network is new. -/
def joining (c : WasmRpcCore) (network : String) (peerId : UInt32) (publicKey : Bytes) :
    List RouteCall :=
  [.addPeer network peerId publicKey, .setMyInfoField network "hostname" c.hostname,
    .setMyNoisePublicKey network c.publicKey]

/-- The core after some of these calls. -/
structure Joined (E : Env) (host : Host) (network : String) (peerId : UInt32) (publicKey : Bytes)
    (c c' : WasmRpcCore) (peerInitiator : FMap (String × UInt32) Bool) : Prop where
  after : ∃ calls configuredGroups, calls <+: joining c network peerId publicKey ∧
    calls ≠ [] ∧ c' = { c with
      routes := run (RouteRuns.step E.codec) c.routes (calls.map (⟨host, ·⟩))
      configuredGroups
      peerInitiator }

theorem addPeer_cases (publicKey : Bytes) :
    Ensures (WasmRpcCore.addPeer host network peerId publicKey) c
      (fun _ c' => value (RouteState.addPeer host network peerId publicKey c.routes) = .ok () ∧
        Joined E host network peerId publicKey c c'
          (c.peerInitiator.insert (network, peerId) false))
      (fun _ c' => Joined E host network peerId publicKey c c' c.peerInitiator) := by
  rw [WasmRpcCore.addPeer]
  simp only [ensures_bind, ensures_onRoutes, ensures_get, ensures_ite, ensures_set, ensures_modify]
  have added : final (RouteState.addPeer host network peerId publicKey c.routes) =
      run (RouteRuns.step E.codec) c.routes [⟨host, .addPeer network peerId publicKey⟩] :=
    perform_final _ (fun _ => RouteRuns.RouteReply.done) _
  refine ((ensures_self _ _).ran).mono ?_ ?_
  · rintro ⟨⟩ routes ⟨same, result⟩
    rw [added] at same
    have accepted : value (RouteState.addPeer host network peerId publicKey c.routes) = .ok () := by
      rw [result]
      rfl
    refine ⟨fun _ => ?_, fun _ => ⟨accepted, ?_⟩⟩
    · have named : final (RouteState.setMyInfoField host network "hostname" c.hostname routes) =
          run (RouteRuns.step E.codec) c.routes [⟨host, .addPeer network peerId publicKey⟩,
            ⟨host, .setMyInfoField network "hostname" c.hostname⟩] := by
        rw [same, run_cons, run_cons, run_nil]
        exact perform_final _ (fun _ => RouteRuns.RouteReply.done) _
      refine (ensures_self _ _).mono ?_ ?_
      · rintro ⟨⟩ routes' rfl
        have keyed : final (RouteState.setMyNoisePublicKey host network c.publicKey
            (final (RouteState.setMyInfoField host network "hostname" c.hostname routes))) =
            run (RouteRuns.step E.codec) c.routes ((joining c network peerId publicKey).map
              (⟨host, ·⟩)) := by
          rw [named]
          exact perform_final _ (fun _ => RouteRuns.RouteReply.done) _
        refine (ensures_self _ _).mono ?_ ?_
        · rintro ⟨⟩ routes'' rfl
          refine ⟨accepted, joining c network peerId publicKey,
            c.configuredGroups.insert network (), List.prefix_rfl, by simp [joining], ?_⟩
          rw [keyed]
        · rintro e routes'' rfl
          refine ⟨joining c network peerId publicKey, c.configuredGroups.insert network (),
            List.prefix_rfl, by simp [joining], ?_⟩
          rw [keyed]
      · rintro e routes' rfl
        refine ⟨[.addPeer network peerId publicKey,
          .setMyInfoField network "hostname" c.hostname],
          c.configuredGroups.insert network (), ?_, by simp, ?_⟩
        · exact ⟨[.setMyNoisePublicKey network c.publicKey], rfl⟩
        · rw [named]
          rfl
    · refine ⟨[.addPeer network peerId publicKey], c.configuredGroups, ?_, by simp, ?_⟩
      · exact ⟨[.setMyInfoField network "hostname" c.hostname,
          .setMyNoisePublicKey network c.publicKey], rfl⟩
      · rw [same]
        rfl
  · rintro e routes ⟨same, _⟩
    rw [added] at same
    refine ⟨[.addPeer network peerId publicKey], c.configuredGroups, ?_, by simp, ?_⟩
    · exact ⟨[.setMyInfoField network "hostname" c.hostname,
        .setMyNoisePublicKey network c.publicKey], rfl⟩
    · rw [same]
      rfl

/-- The core after `remove_peer`. -/
def leaving (E : Env) (host : Host) (network : String) (peerId : UInt32) (c : WasmRpcCore) :
    WasmRpcCore :=
  { c with
    routes := routed E host c (.removePeer network peerId)
    peerCenter := c.peerCenter.removePeer E.hash network peerId
    peerInitiator := c.peerInitiator.erase (network, peerId)
    fragments := c.fragments.removePeer network peerId
    outstandingRoutes := FMap.retain
      (fun key _ => key.network != network || key.peerId != peerId) c.outstandingRoutes }

theorem removePeer_cases :
    Ensures (WasmRpcCore.removePeer E host network peerId) c
      (fun _ c' => c' = leaving E host network peerId c) (fun _ _ => False) := by
  simp only [WasmRpcCore.removePeer, ensures_bind, ensures_onRoutes, ensures_modify]
  exact rfl

end Others

end EasyTierEdge.Rpc.CoreMoves
