/- module: EasyTierEdge/Rpc/CoreRuns
   source: cloudflare/wasm/src/rpc.rs, the calls of core/rpc.ts
   digest: The RPC core as a machine. -/

import EasyTierEdge.Lib.Machine
import EasyTierEdge.Rpc.CoreMoves

set_option autoImplicit false
set_option relaxedAutoImplicit false

namespace EasyTierEdge.Rpc.CoreRuns

open Lib.Fallible Lib.FiniteMap Lib.Machine
open Packet (Bytes)
open Proto Routes PeerCenter Fragments FragmentMoves Rpc.Core CoreMoves

inductive CoreCall
  | addPeer (network : String) (peerId : UInt32) (remotePublicKey : Bytes)
  | removePeer (network : String) (peerId : UInt32)
  | handleRequest (network : String) (authenticatedPeerId : UInt32) (payload : Bytes)
      (nowMs : UInt64)
  | handleResponse (network : String) (authenticatedPeerId : UInt32) (payload : Bytes)
      (nowMs : UInt64)
  | buildRouteUpdate (network : String) (peerId : UInt32) (serverSessionId : UInt64)
      (forceFull : Bool) (nowMs : UInt64)
  | cleanExpired (nowMs : UInt64)
  deriving DecidableEq

inductive CoreReply
  | done
  | bytes (payload : Bytes)
  | completed (route : Bool)
  deriving DecidableEq

/-- A call with what the host supplies during it. -/
structure CoreEvent where
  host : Host
  call : CoreCall

variable (E : Env)

def perform (host : Host) : CoreCall → CoreM CoreReply
  | .addPeer network peerId remotePublicKey => do
    WasmRpcCore.addPeer host network peerId remotePublicKey
    return .done
  | .removePeer network peerId => do
    WasmRpcCore.removePeer E host network peerId
    return .done
  | .handleRequest network authenticatedPeerId payload nowMs => do
    let response ← WasmRpcCore.handleRequest E host network authenticatedPeerId payload nowMs
    return .bytes response
  | .handleResponse network authenticatedPeerId payload nowMs => do
    let route ← WasmRpcCore.handleResponse E host network authenticatedPeerId payload nowMs
    return .completed route
  | .buildRouteUpdate network peerId serverSessionId forceFull nowMs => do
    let update ← WasmRpcCore.buildRouteUpdate E host network peerId serverSessionId forceFull nowMs
    return .bytes update
  | .cleanExpired nowMs => do
    WasmRpcCore.cleanExpired E host nowMs
    return .done

def step (c : WasmRpcCore) (e : CoreEvent) : WasmRpcCore := final (perform E e.host e.call c)

/-- What the call hands back. -/
def outcome (c : WasmRpcCore) (e : CoreEvent) : Except String CoreReply :=
  value (perform E e.host e.call c)

/-- How a call ends, and the core it leaves behind. -/
inductive CoreMove (E : Env) (host : Host) (c : WasmRpcCore) :
    CoreCall → Except String CoreReply → WasmRpcCore → Prop
  | added (network : String) (peerId : UInt32) (publicKey : Bytes) (c' : WasmRpcCore)
      (accepted : value (RouteState.addPeer host network peerId publicKey c.routes) = .ok ())
      (joined : Joined E host network peerId publicKey c c'
        (c.peerInitiator.insert (network, peerId) false)) :
      CoreMove E host c (.addPeer network peerId publicKey) (.ok .done) c'
  | unadded (network : String) (peerId : UInt32) (publicKey : Bytes) (e : String)
      (c' : WasmRpcCore) (joined : Joined E host network peerId publicKey c c' c.peerInitiator) :
      CoreMove E host c (.addPeer network peerId publicKey) (.error e) c'
  | removed (network : String) (peerId : UInt32) :
      CoreMove E host c (.removePeer network peerId) (.ok .done) (leaving E host network peerId c)
  | requested (network : String) (peerId : UInt32) (payload : Bytes) (nowMs : UInt64)
      (r : Except String CoreReply) (c' : WasmRpcCore)
      (move : RequestMove E host network peerId payload nowMs c c') :
      CoreMove E host c (.handleRequest network peerId payload nowMs) r c'
  | accepted (network : String) (peerId : UInt32) (payload : Bytes) (nowMs : UInt64)
      (c' : WasmRpcCore) (packet : RpcPacket) (route : OutstandingRoute) (sessionId : UInt64)
      (move : AcceptedMove E host network peerId payload nowMs c c' packet route sessionId) :
      CoreMove E host c (.handleResponse network peerId payload nowMs) (.ok (.completed true)) c'
  | unaccepted (network : String) (peerId : UInt32) (payload : Bytes) (nowMs : UInt64)
      (r : Except String CoreReply) (other : r ≠ .ok (.completed true)) (c' : WasmRpcCore)
      (move : UnacceptedMove E network peerId payload nowMs c c') :
      CoreMove E host c (.handleResponse network peerId payload nowMs) r c'
  | built (network : String) (peerId : UInt32) (serverSessionId : UInt64) (forceFull : Bool)
      (nowMs : UInt64) (payload : Bytes) (c' : WasmRpcCore) (transactionId : Int64)
      (update : RouteUpdate)
      (move : BuiltMove E host network peerId serverSessionId forceFull nowMs c c' transactionId
        update) :
      CoreMove E host c (.buildRouteUpdate network peerId serverSessionId forceFull nowMs)
        (.ok (.bytes payload)) c'
  | unbuilt (network : String) (peerId : UInt32) (serverSessionId : UInt64) (forceFull : Bool)
      (nowMs : UInt64) (e : String) :
      CoreMove E host c (.buildRouteUpdate network peerId serverSessionId forceFull nowMs)
        (.error e) (updating E host network peerId serverSessionId forceFull nowMs c)
  | cleaned (nowMs : UInt64) :
      CoreMove E host c (.cleanExpired nowMs) (.ok .done) { c.cleanRpcState nowMs with
        peerCenter := (c.cleanRpcState nowMs).peerCenter.cleanOutdated E.hash peerCenterTtlSeconds
          (host.clock 0) }

private theorem perform_moves (host : Host) (call : CoreCall) (c : WasmRpcCore) :
    Ensures (perform E host call) c (fun a c' => CoreMove E host c call (.ok a) c')
      (fun e c' => CoreMove E host c call (.error e) c') := by
  cases call with
  | addPeer network peerId publicKey =>
    simp only [perform, ensures_bind, ensures_pure]
    have spec := @addPeer_cases E host network peerId c publicKey
    refine spec.mono ?_ ?_
    · intro _ c' spec
      obtain ⟨accepted, joined⟩ := spec
      exact .added network peerId publicKey c' accepted joined
    · intro e c' joined
      exact .unadded network peerId publicKey e c' joined
  | removePeer network peerId =>
    simp only [perform, ensures_bind, ensures_pure]
    refine removePeer_cases.mono ?_ fun _ _ impossible => impossible.elim
    rintro _ c' rfl
    exact .removed network peerId
  | handleRequest network peerId payload nowMs =>
    simp only [perform, ensures_bind, ensures_pure]
    exact (handleRequest_cases payload nowMs).mono
      (fun _ c' move => .requested network peerId payload nowMs _ c' move)
      fun _ c' move => .requested network peerId payload nowMs _ c' move
  | handleResponse network peerId payload nowMs =>
    simp only [perform, ensures_bind, ensures_pure]
    refine (handleResponse_cases payload nowMs).mono ?_ ?_
    · intro done c' move
      cases done with
      | true =>
        obtain ⟨packet, route, sessionId, move⟩ := move
        exact .accepted network peerId payload nowMs c' packet route sessionId move
      | false => exact .unaccepted network peerId payload nowMs _ (by simp) c' move
    · intro e c' move
      exact .unaccepted network peerId payload nowMs _ (by simp) c' move
  | buildRouteUpdate network peerId serverSessionId forceFull nowMs =>
    simp only [perform, ensures_bind, ensures_pure]
    refine (buildRouteUpdate_cases serverSessionId forceFull nowMs).mono ?_ ?_
    · rintro payload c' ⟨transactionId, update, move⟩
      exact .built network peerId serverSessionId forceFull nowMs payload c' transactionId update
        move
    · rintro e c' rfl
      exact .unbuilt network peerId serverSessionId forceFull nowMs e
  | cleanExpired nowMs =>
    simp only [perform, WasmRpcCore.cleanExpired, ensures_bind, ensures_modify, ensures_pure]
    exact .cleaned nowMs

variable {E}

theorem step_moves (c : WasmRpcCore) (e : CoreEvent) :
    CoreMove E e.host c e.call (outcome E c e) (step E c e) := by
  exact @ensures_result _ _ _ c _ (fun r => CoreMove E e.host c e.call (value r) (final r))
    (perform_moves E e.host e.call c)

/-! The fragments. -/

/-- What a call does to the pending fragments. -/
inductive FragmentStep (t : PendingTable) : PendingTable → Prop
  | same : FragmentStep t t
  | merged (key : RpcKey) (packet : RpcPacket) (nowMs : UInt64) (r : Except String MergedPacket)
      (t' : PendingTable) (move : MergeMove key packet nowMs t r t') : FragmentStep t t'
  | removed (chosen : RpcKey → PendingRpc → Bool) : FragmentStep t (t.removeWhere chosen)

theorem Served.fragments {host : Host} {network : String} {peerId : UInt32} {c c' : WasmRpcCore}
    (h : Served E host network peerId c c') : c'.fragments = c.fragments := by
  cases h with
  | nothing => rfl
  | synced => rfl
  | centered => rfl

theorem Served.outstandingRoutes {host : Host} {network : String} {peerId : UInt32}
    {c c' : WasmRpcCore} (h : Served E host network peerId c c') :
    c'.outstandingRoutes = c.outstandingRoutes := by
  cases h with
  | nothing => rfl
  | synced => rfl
  | centered => rfl

theorem step_fragments (c : WasmRpcCore) (e : CoreEvent) :
    FragmentStep c.fragments (step E c e).fragments := by
  obtain ⟨host, call⟩ := e
  have move := @step_moves E c ⟨host, call⟩
  generalize step E c ⟨host, call⟩ = c' at move ⊢
  generalize outcome E c ⟨host, call⟩ = r at move
  cases move with
  | added network peerId publicKey _ accepted joined =>
    obtain ⟨calls, configuredGroups, _, _, rfl⟩ := joined.after
    exact .same
  | unadded network peerId publicKey e _ joined =>
    obtain ⟨calls, configuredGroups, _, _, rfl⟩ := joined.after
    exact .same
  | removed network peerId => exact .removed _
  | requested network peerId payload nowMs _ _ move =>
    cases move with
    | rejected => exact .same
    | merged packet decoded envelope r fragments move _ served =>
      rw [Served.fragments served]
      exact .merged _ packet nowMs r fragments move
  | accepted network peerId payload nowMs _ packet route sessionId move =>
    obtain ⟨whole, fragments, merge, _, rfl⟩ := move.merged
    exact .merged _ packet nowMs _ fragments merge
  | unaccepted network peerId payload nowMs _ _ _ move =>
    cases move with
    | rejected => exact .same
    | late => exact .same
    | merged packet decoded envelope route outstanding timely r fragments move =>
      exact .merged _ packet nowMs r fragments move
  | built network peerId serverSessionId forceFull nowMs payload _ transactionId update move =>
    rw [move.after]
    exact .removed _
  | unbuilt network peerId serverSessionId forceFull nowMs e => exact .removed _
  | cleaned nowMs => exact .removed _

end EasyTierEdge.Rpc.CoreRuns
