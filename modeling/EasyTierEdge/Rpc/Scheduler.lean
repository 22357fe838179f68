/- module: EasyTierEdge/Rpc/Scheduler
   source: cloudflare/src/core/rpc.ts
   digest: When route updates are built and sent, over any core and any sockets. -/

import EasyTierEdge.Lib.Fallible
import EasyTierEdge.Lib.OrderedMap
import EasyTierEdge.Packet

set_option autoImplicit false
set_option relaxedAutoImplicit false

namespace EasyTierEdge.Rpc.Scheduler

open Lib.Fallible Lib.OrderedMap
open Packet (Bytes)

def packetTypeRpcReq : UInt8 := 8
def packetTypeRpcResp : UInt8 := 9
def routeSyncTimeoutMs : Nat := 3_000
def routeMaintenanceIntervalMs : Nat := 10_000

/-- A peer as the scheduler sees it. `handle` says which object its `encrypt` and `send` are methods
of. -/
structure RpcPeer where
  peerId : UInt32
  networkName : String
  serverSessionId : UInt64
  remotePublicKey : Bytes
  handle : Nat
  deriving DecidableEq

/-- The key of `routeSyncStates`; `JSON.stringify` tells different pairs apart. -/
abbrev RouteSyncKey := String × UInt32

def routeSyncKey (peer : RpcPeer) : RouteSyncKey := (peer.networkName, peer.peerId)

structure RouteSyncState where
  peer : RpcPeer
  inFlight : Bool
  dirty : Bool
  forceFull : Bool
  sentAt : Nat
  lastCompletedAt : Nat
  deriving DecidableEq

structure RouteSyncFailure where
  peer : RpcPeer
  error : String

/-- What the scheduler calls: the WASM core, the methods of a peer and the clock. -/
structure RpcHost (σ : Type) where
  addPeer : String → UInt32 → Bytes → EStateM String σ Unit
  removePeer : String → UInt32 → EStateM String σ Unit
  cleanExpired : UInt64 → EStateM String σ Unit
  handleRequest : String → UInt32 → Bytes → UInt64 → EStateM String σ Bytes
  handleResponse : String → UInt32 → Bytes → UInt64 → EStateM String σ Bool
  buildRouteUpdate : String → UInt32 → UInt64 → Bool → UInt64 → EStateM String σ Bytes
  encrypt : RpcPeer → Bytes → EStateM String σ Bytes
  send : RpcPeer → Bytes → EStateM String σ Unit
  dateNow : σ → Nat × σ

/-- What happened to the updates of a peer, in the order it happened. -/
inductive Note
  | requested (key : RouteSyncKey) (forceFull : Bool)
  | retried (key : RouteSyncKey)
  | building (key : RouteSyncKey)
  | refused (key : RouteSyncKey)
  | sent (key : RouteSyncKey)
  | forgot (key : RouteSyncKey)
  deriving DecidableEq

/-- `notes` is a history that no operation reads. -/
structure EasyTierRpc (σ : Type) where
  routeSyncStates : OMap RouteSyncKey RouteSyncState
  serverPeerId : UInt32
  notes : List Note
  host : σ

abbrev RpcM (σ : Type) := EStateM String (EasyTierRpc σ)

inductive RequestResult
  | handled
  | route
  | routeSession
  | pending
  deriving DecidableEq

variable {σ : Type}

def note (n : Note) : RpcM σ Unit := modify fun r => { r with notes := r.notes ++ [n] }

/-- A call into the host: it has no access to the scheduler's own state. -/
def onHost {α : Type} (op : EStateM String σ α) : RpcM σ α := fun r =>
  match op r.host with
  | .ok a host => .ok a { r with host }
  | .error e host => .error e { r with host }

/-- `Date.now()`. -/
def dateNow (H : RpcHost σ) : RpcM σ Nat := fun r =>
  .ok (H.dateNow r.host).1 { r with host := (H.dateNow r.host).2 }

/-- `BigInt(now)`, as the binding passes it to a `u64`. -/
def toBigInt (now : Nat) : UInt64 := UInt64.ofNat now

/-- Assignments to the fields of the entry under `key`. -/
def assign (key : RouteSyncKey) (f : RouteSyncState → RouteSyncState) : RpcM σ Unit :=
  modify fun r => { r with routeSyncStates := OMap.modify r.routeSyncStates key f }

def forget (key : RouteSyncKey) : RpcM σ Unit := do
  modify fun r => { r with routeSyncStates := r.routeSyncStates.erase key }
  note (.forgot key)

theorem ensures_onHost {α : Type} {op : EStateM String σ α} {r : EasyTierRpc σ}
    {ok : α → EasyTierRpc σ → Prop} {err : String → EasyTierRpc σ → Prop} :
    Ensures (onHost op) r ok err ↔
      Ensures op r.host (fun a host => ok a { r with host })
        (fun e host => err e { r with host }) := by
  unfold Ensures onHost
  cases op r.host with
  | ok a host => rfl
  | error e host => rfl

@[simp] theorem ensures_note (n : Note) {r : EasyTierRpc σ} {ok : Unit → EasyTierRpc σ → Prop}
    {err : String → EasyTierRpc σ → Prop} :
    Ensures (note n) r ok err ↔ ok () { r with notes := r.notes ++ [n] } :=
  Iff.rfl

@[simp] theorem ensures_assign (key : RouteSyncKey) (f : RouteSyncState → RouteSyncState)
    {r : EasyTierRpc σ} {ok : Unit → EasyTierRpc σ → Prop}
    {err : String → EasyTierRpc σ → Prop} :
    Ensures (assign key f) r ok err ↔
      ok () { r with routeSyncStates := OMap.modify r.routeSyncStates key f } :=
  Iff.rfl

variable (H : RpcHost σ)

@[simp] theorem ensures_dateNow {r : EasyTierRpc σ} {ok : Nat → EasyTierRpc σ → Prop}
    {err : String → EasyTierRpc σ → Prop} :
    Ensures (dateNow H) r ok err ↔
      ok (H.dateNow r.host).1 { r with host := (H.dateNow r.host).2 } :=
  Iff.rfl

namespace EasyTierRpc

def new (serverPeerId : UInt32) (host : σ) : EasyTierRpc σ where
  routeSyncStates := ∅
  serverPeerId
  notes := []
  host

def addPeer (peer : RpcPeer) : RpcM σ Unit := do
  onHost (H.addPeer peer.networkName peer.peerId peer.remotePublicKey)
  forget (routeSyncKey peer)

def removePeer (peer : RpcPeer) : RpcM σ Unit := do
  onHost (H.removePeer peer.networkName peer.peerId)
  forget (routeSyncKey peer)

def sendControl (peer : RpcPeer) (packetType : UInt8) (payload : Bytes) : RpcM σ Unit := do
  let r ← get
  match Packet.buildPacket r.serverPeerId peer.peerId packetType payload with
  | .error e => throw e
  | .ok clear =>
    let packet ← onHost (H.encrypt peer clear)
    onHost (H.send peer packet)

/-- `core.build_route_update` for the peer of an entry. -/
def buildUpdate (key : RouteSyncKey) (peer : RpcPeer) (forceFull : Bool) (now : Nat) :
    RpcM σ Bytes := do
  note (.building key)
  tryCatch
    (onHost (H.buildRouteUpdate peer.networkName peer.peerId peer.serverSessionId forceFull
      (toBigInt now)))
    fun e => do
      note (.refused key)
      throw e

/-- The `try` of `flushRouteUpdate`: a packet that is not sent is put back. -/
def sendUpdate (key : RouteSyncKey) (peer : RpcPeer) (forceFull : Bool) (packet : Bytes) :
    RpcM σ Unit :=
  tryCatch
    (do
      sendControl H peer packetTypeRpcReq packet
      note (.sent key))
    fun e => do
      assign key fun state =>
        { state with inFlight := false, dirty := true, forceFull := state.forceFull || forceFull }
      throw e

def flushRouteUpdate (key : RouteSyncKey) (now : Nat) : RpcM σ Unit := do
  let r ← get
  match r.routeSyncStates.lookup key with
  | none => return ()
  | some state =>
    if state.inFlight ∨ (!state.dirty ∧ !state.forceFull) then return ()
    else do
      let forceFull := state.forceFull
      assign key fun state => { state with dirty := false, forceFull := false }
      let packet ← buildUpdate H key state.peer forceFull now
      assign key fun state => { state with inFlight := true, sentAt := now }
      sendUpdate H key state.peer forceFull packet

/-- An entry of `routeSyncStates` as `sendRouteUpdate` makes it. -/
def freshState (peer : RpcPeer) : RouteSyncState where
  peer
  inFlight := false
  dirty := false
  forceFull := false
  sentAt := 0
  lastCompletedAt := 0

def sendRouteUpdate (peer : RpcPeer) (forceFull : Bool) : RpcM σ Unit := do
  let key := routeSyncKey peer
  note (.requested key forceFull)
  let r ← get
  if (r.routeSyncStates.lookup key).isNone then
    set { r with routeSyncStates := OMap.set r.routeSyncStates key (freshState peer) }
  assign key fun state =>
    { state with peer, dirty := true, forceFull := state.forceFull || forceFull }
  let now ← dateNow H
  flushRouteUpdate H key now

def maintainPeer (peer : RpcPeer) (now : Nat) : RpcM σ Unit := do
  let r ← get
  match r.routeSyncStates.lookup (routeSyncKey peer) with
  | none => return ()
  | some state =>
    if state.inFlight ∨ now - state.lastCompletedAt < routeMaintenanceIntervalMs then return ()
    else sendRouteUpdate H peer false

/-- What `handleResponse` writes into the entry of a completed update. -/
def completed (completedAt : Nat) (state : RouteSyncState) : RouteSyncState :=
  { state with inFlight := false, sentAt := 0, lastCompletedAt := completedAt }

def handleResponse (peer : RpcPeer) (payload : Bytes) : RpcM σ Unit := do
  let now ← dateNow H
  let complete ← onHost (H.handleResponse peer.networkName peer.peerId payload (toBigInt now))
  if !complete then return ()
  else do
    let key := routeSyncKey peer
    let r ← get
    match r.routeSyncStates.lookup key with
    | none => return ()
    | some state =>
      let completedAt ← dateNow H
      assign key (completed completedAt)
      if state.dirty ∨ state.forceFull then
        let now ← dateNow H
        flushRouteUpdate H key now

def handleRequest (peer : RpcPeer) (payload : Bytes) : RpcM σ RequestResult := do
  let now ← dateNow H
  match ← onHost (H.handleRequest peer.networkName peer.peerId payload (toBigInt now)) with
  | [] =>
    sendControl H peer packetTypeRpcResp []
    throw "WASM RPC core returned unknown result undefined"
  | result :: response =>
    if result = 0 then return .pending
    else if response = [] then throw "WASM RPC core returned an empty response"
    else do
      sendControl H peer packetTypeRpcResp response
      if result = 2 then
        sendRouteUpdate H peer false
        return .route
      else if result = 3 then
        sendRouteUpdate H peer false
        return .routeSession
      else if result = 1 then return .handled
      else throw s!"WASM RPC core returned unknown result {result}"

/-- One round of the loop of `cleanExpired`; the value is the failure to report, if any. -/
def retryExpired (now : Nat) (key : RouteSyncKey) : RpcM σ (Option RouteSyncFailure) := do
  let r ← get
  match r.routeSyncStates.lookup key with
  | none => return none
  | some state =>
    if !state.inFlight ∨ now - state.sentAt ≤ routeSyncTimeoutMs then return none
    else do
      note (.retried key)
      assign key fun state => { state with inFlight := false, dirty := true, forceFull := true }
      tryCatch
        (do
          flushRouteUpdate H key now
          return none)
        fun e => return some ⟨state.peer, e⟩

/-- No round adds or removes an entry, so the keys at the start are those the loop visits. -/
def retryAll (now : Nat) : List RouteSyncKey → RpcM σ (List RouteSyncFailure)
  | [] => return []
  | key :: keys => do
    let failure ← retryExpired H now key
    let failures ← retryAll now keys
    return failure.toList ++ failures

def cleanExpired (now : Nat) : RpcM σ (List RouteSyncFailure) := do
  onHost (H.cleanExpired (toBigInt now))
  let r ← get
  retryAll H now r.routeSyncStates.keys

end EasyTierRpc

/-- The operations the server calls. -/
inductive RpcOp
  | addPeer (peer : RpcPeer)
  | removePeer (peer : RpcPeer)
  | sendRouteUpdate (peer : RpcPeer) (forceFull : Bool)
  | handleRequest (peer : RpcPeer) (payload : Bytes)
  | handleResponse (peer : RpcPeer) (payload : Bytes)
  | maintainPeer (peer : RpcPeer) (now : Nat)
  | cleanExpired (now : Nat)

inductive RpcReply
  | done
  | result (result : RequestResult)
  | failures (failures : List RouteSyncFailure)

def perform : RpcOp → RpcM σ RpcReply
  | .addPeer peer => do
    EasyTierRpc.addPeer H peer
    return .done
  | .removePeer peer => do
    EasyTierRpc.removePeer H peer
    return .done
  | .sendRouteUpdate peer forceFull => do
    EasyTierRpc.sendRouteUpdate H peer forceFull
    return .done
  | .handleRequest peer payload => do
    let result ← EasyTierRpc.handleRequest H peer payload
    return .result result
  | .handleResponse peer payload => do
    EasyTierRpc.handleResponse H peer payload
    return .done
  | .maintainPeer peer now => do
    EasyTierRpc.maintainPeer H peer now
    return .done
  | .cleanExpired now => do
    let failures ← EasyTierRpc.cleanExpired H now
    return .failures failures

def step (r : EasyTierRpc σ) (op : RpcOp) : EasyTierRpc σ := final (perform H op r)

end EasyTierEdge.Rpc.Scheduler
