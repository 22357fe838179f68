/- module: EasyTierEdge/Rpc/CoreHost
   source: cloudflare/src/core/rpc.ts over cloudflare/wasm/src/rpc.rs
   digest: The scheduler on top of the RPC core. -/

import EasyTierEdge.Rpc.CoreRuns
import EasyTierEdge.Rpc.Scheduler

set_option autoImplicit false
set_option relaxedAutoImplicit false

namespace EasyTierEdge.Rpc.CoreHost

open Lib.Fallible
open Packet (Bytes)
open Routes Rpc.Core CoreRuns Scheduler

/-- What surrounds the core: the clock and randomness it is called with, and the peers. -/
structure Ambient (τ : Type) where
  supply : τ → Host × τ
  encrypt : RpcPeer → Bytes → EStateM String τ Bytes
  send : RpcPeer → Bytes → EStateM String τ Unit
  dateNow : τ → Nat × τ

structure Hosted (τ : Type) where
  core : WasmRpcCore
  ambient : τ
  -- the calls made so far: history, which nothing reads
  calls : List CoreEvent

variable {τ α : Type}

/-- The host after a call that left the core as `core`. -/
def Hosted.called (A : Ambient τ) (call : CoreCall) (h : Hosted τ) (core : WasmRpcCore) :
    Hosted τ where
  core := core
  ambient := (A.supply h.ambient).2
  calls := h.calls ++ [⟨(A.supply h.ambient).1, call⟩]

@[simp] theorem Hosted.called_core (A : Ambient τ) (call : CoreCall) (h : Hosted τ)
    (core : WasmRpcCore) : (h.called A call core).core = core := rfl

/-- `op` is the call on the core. -/
def onCore (A : Ambient τ) (call : CoreCall) (op : Host → CoreM α) :
    EStateM String (Hosted τ) α := fun h =>
  match op (A.supply h.ambient).1 h.core with
  | .ok a core => .ok a (h.called A call core)
  | .error e core => .error e (h.called A call core)

def onAmbient (op : EStateM String τ α) : EStateM String (Hosted τ) α := fun h =>
  match op h.ambient with
  | .ok a ambient => .ok a { h with ambient }
  | .error e ambient => .error e { h with ambient }

theorem ensures_onCore {A : Ambient τ} {call : CoreCall} {op : Host → CoreM α} {h : Hosted τ}
    {ok : α → Hosted τ → Prop} {err : String → Hosted τ → Prop} :
    Ensures (onCore A call op) h ok err ↔
      Ensures (op (A.supply h.ambient).1) h.core (fun a core => ok a (h.called A call core))
        (fun e core => err e (h.called A call core)) := by
  unfold Ensures onCore
  cases op (A.supply h.ambient).1 h.core with
  | ok a core => rfl
  | error e core => rfl

theorem ensures_onAmbient {op : EStateM String τ α} {h : Hosted τ} {ok : α → Hosted τ → Prop}
    {err : String → Hosted τ → Prop} :
    Ensures (onAmbient op) h ok err ↔
      Ensures op h.ambient (fun a ambient => ok a { h with ambient })
        (fun e ambient => err e { h with ambient }) := by
  unfold Ensures onAmbient
  cases op h.ambient with
  | ok a ambient => rfl
  | error e ambient => rfl

def coreHost (E : Env) (A : Ambient τ) : RpcHost (Hosted τ) where
  addPeer network peerId remotePublicKey :=
    onCore A (.addPeer network peerId remotePublicKey) fun host =>
      WasmRpcCore.addPeer host network peerId remotePublicKey
  removePeer network peerId :=
    onCore A (.removePeer network peerId) fun host =>
      WasmRpcCore.removePeer E host network peerId
  cleanExpired nowMs :=
    onCore A (.cleanExpired nowMs) fun host => WasmRpcCore.cleanExpired E host nowMs
  handleRequest network authenticatedPeerId payload nowMs :=
    onCore A (.handleRequest network authenticatedPeerId payload nowMs) fun host =>
      WasmRpcCore.handleRequest E host network authenticatedPeerId payload nowMs
  handleResponse network authenticatedPeerId payload nowMs :=
    onCore A (.handleResponse network authenticatedPeerId payload nowMs) fun host =>
      WasmRpcCore.handleResponse E host network authenticatedPeerId payload nowMs
  buildRouteUpdate network peerId serverSessionId forceFull nowMs :=
    onCore A (.buildRouteUpdate network peerId serverSessionId forceFull nowMs) fun host =>
      WasmRpcCore.buildRouteUpdate E host network peerId serverSessionId forceFull nowMs
  encrypt peer packet := onAmbient (A.encrypt peer packet)
  send peer packet := onAmbient (A.send peer packet)
  dateNow h := ((A.dateNow h.ambient).1, { h with ambient := (A.dateNow h.ambient).2 })

/-- `time` is the clock: it never goes back, and `Date.now()` reads it. -/
structure Clock (A : Ambient τ) (time : τ → Nat) : Prop where
  supply : ∀ t, time t ≤ time (A.supply t).2
  encrypt : ∀ peer packet t, time t ≤ time (final (A.encrypt peer packet t))
  send : ∀ peer packet t, time t ≤ time (final (A.send peer packet t))
  advances : ∀ t, time t ≤ time (A.dateNow t).2
  reads : ∀ t, (A.dateNow t).1 = time (A.dateNow t).2

end EasyTierEdge.Rpc.CoreHost
