/- module: EasyTierEdge/Rpc/Core
   source: cloudflare/wasm/src/rpc.rs
   digest: The RPC core of the relay: requests, responses and route updates of all networks. -/

import EasyTierEdge.Rpc.Fragments
import EasyTierEdge.Rpc.PeerCenter
import EasyTierEdge.Rpc.Routes

set_option autoImplicit false
set_option relaxedAutoImplicit false

namespace EasyTierEdge.Rpc.Core

open Lib.FiniteMap Lib.Saturating
open Packet (Bytes)
open Proto Routes PeerCenter Fragments

def routeRpcTimeoutMs : UInt64 := 3_000
def peerCenterTtlSeconds : UInt64 := 180
def resultHandled : UInt8 := 1
def resultRoute : UInt8 := 2
def resultRouteSession : UInt8 := 3

structure OutstandingRoute where
  deadlineMs : UInt64
  peerInfoVersions : List (UInt32 × UInt32)
  topologyVersion : Option UInt64
  deriving DecidableEq

structure WasmRpcCore where
  routes : RouteState
  peerCenter : Center
  configuredGroups : FMap String Unit
  peerInitiator : FMap (String × UInt32) Bool
  fragments : PendingTable
  outstandingRoutes : FMap RpcKey OutstandingRoute
  publicKey : Bytes
  hostname : String
  serverPeerId : UInt32

abbrev CoreM := EStateM String WasmRpcCore

/-- What the core is built on: prost's codec, and the default hasher as a function of the bytes it
is fed with. -/
structure Env where
  codec : Codec
  hash : Bytes → Digest

def onRoutes {α : Type} (op : RouteM α) : CoreM α := fun c =>
  match op c.routes with
  | .ok a routes => .ok a { c with routes }
  | .error e routes => .error e { c with routes }

def onCenter {α : Type} (op : CenterM α) : CoreM α := fun c =>
  match op c.peerCenter with
  | .ok a peerCenter => .ok a { c with peerCenter }
  | .error e peerCenter => .error e { c with peerCenter }

def onFragments {α : Type} (op : FragmentsM α) : CoreM α := fun c =>
  match op c.fragments with
  | .ok a fragments => .ok a { c with fragments }
  | .error e fragments => .error e { c with fragments }

def noCompression : RpcCompressionInfo := ⟨compressionNone, compressionNone⟩

def invalidMethodError (descriptor : RpcDescriptor) : RpcError :=
  ⟨some (.invalidMethodIndex descriptor.serviceName descriptor.methodIndex)⟩

def isService (descriptor : RpcDescriptor) (expected : String) : Bool :=
  descriptor.serviceName == expected &&
    (descriptor.protoName == "peer_rpc." ++ expected || descriptor.protoName == "peer_rpc" ||
      descriptor.protoName == expected)

def resultWithPacket (E : Env) (result : UInt8) (packet : RpcPacket) : Bytes :=
  result :: E.codec.encodeRpcPacket packet

namespace WasmRpcCore

def new (publicKey : Bytes) (hostname : String) (serverPeerId : UInt32) :
    Except String WasmRpcCore :=
  if publicKey.length ≠ 32 then .error "Noise public key must be 32 bytes"
  else if serverPeerId = 0 then .error "server peer id must not be zero"
  else .ok {
    routes := RouteState.new serverPeerId
    peerCenter := Center.new
    configuredGroups := ∅
    peerInitiator := ∅
    fragments := PendingTable.empty
    outstandingRoutes := ∅
    publicKey
    hostname
    serverPeerId }

def addPeer (host : Host) (network : String) (peerId : UInt32) (remotePublicKey : Bytes) :
    CoreM Unit := do
  onRoutes (RouteState.addPeer host network peerId remotePublicKey)
  let c ← get
  if (c.configuredGroups.lookup network).isNone then
    set { c with configuredGroups := c.configuredGroups.insert network () }
    onRoutes (RouteState.setMyInfoField host network "hostname" c.hostname)
    onRoutes (RouteState.setMyNoisePublicKey host network c.publicKey)
  modify fun c => { c with peerInitiator := c.peerInitiator.insert (network, peerId) false }

def removePeer (E : Env) (host : Host) (network : String) (peerId : UInt32) : CoreM Unit := do
  onRoutes (RouteState.removePeer host network peerId)
  modify fun c => { c with
    peerCenter := c.peerCenter.removePeer E.hash network peerId
    peerInitiator := c.peerInitiator.erase (network, peerId)
    fragments := c.fragments.removePeer network peerId
    outstandingRoutes := FMap.retain
      (fun key _ => key.network != network || key.peerId != peerId) c.outstandingRoutes }

def cleanRpcState (c : WasmRpcCore) (nowMs : UInt64) : WasmRpcCore :=
  { c with
    fragments := c.fragments.cleanPending nowMs
    outstandingRoutes := FMap.retain (fun _ route => nowMs ≤ route.deadlineMs)
      c.outstandingRoutes }

def validateEnvelope (packet : RpcPacket) (network : String) (peerId : UInt32)
    (isRequest : Bool) : CoreM Unit := do
  if packet.fromPeer ≠ peerId ∨ packet.toPeer ≠ (← get).serverPeerId then
    throw "RPC protobuf envelope does not match its EasyTier header"
  if packet.isRequest ≠ isRequest then
    throw "unexpected RPC request/response direction"
  if packet.descriptor.any fun descriptor => descriptor.domainName ≠ network then
    throw "cross-network RPC domain rejected"

def validateCompression (packet : RpcPacket) : CoreM Unit :=
  if packet.compressionInfo.any fun compression => compression.algo > compressionNone then
    throw "compressed RPC is not negotiated by this relay"
  else pure ()

/-- The response of a service: its body, its error and the result code of the call. -/
def serve (E : Env) (host : Host) (network : String) (authenticatedPeerId : UInt32)
    (descriptor : RpcDescriptor) (request : Bytes) : CoreM (Bytes × Option RpcError × UInt8) := do
  if isService descriptor "OspfRouteRpc" then
    if descriptor.methodIndex ≠ 1 then
      return ([], some (invalidMethodError descriptor), resultHandled)
    match E.codec.decodeSyncRouteInfoRequest request with
    | .error e => throw s!"decode SyncRouteInfoRequest failed: {e}"
    | .ok sync =>
      let weAreInitiator := !sync.isInitiator
      modify fun c => { c with
        peerInitiator := c.peerInitiator.insert (network, authenticatedPeerId) weAreInitiator }
      let outcome ← onRoutes
        (RouteState.handleSyncRouteInfoRequest E.codec host network authenticatedPeerId request)
      let result :=
        if outcome.routeChanged then resultRoute
        else if outcome.sessionChanged then resultRouteSession
        else resultHandled
      return (outcome.response, none, result)
  else if isService descriptor "PeerCenterRpc" then
    if descriptor.methodIndex = 1 then
      let response ← onCenter
        (Center.reportPeers E.codec E.hash network authenticatedPeerId request (host.clock 0))
      return (response, none, resultHandled)
    else if descriptor.methodIndex = 2 then
      let response ← onCenter (Center.getGlobalPeerMap E.codec network request)
      return (response, none, resultHandled)
    else
      return ([], some (invalidMethodError descriptor), resultHandled)
  else
    return ([], some ⟨some (.invalidService descriptor.serviceName)⟩, resultHandled)

/-- What `handle_request` does with a message once it is complete. -/
def answerRequest (E : Env) (host : Host) (network : String) (authenticatedPeerId : UInt32)
    (packet : RpcPacket) : CoreM Bytes := do
  validateCompression packet
  match packet.descriptor with
  | none => throw "RPC request is missing its descriptor"
  | some descriptor =>
    match E.codec.decodeRpcRequest packet.body with
    | .error e => throw s!"decode RpcRequest failed: {e}"
    | .ok request =>
      let (responseBody, responseError, result) ←
        serve E host network authenticatedPeerId descriptor request.request
      let responsePacket : RpcPacket := {
        fromPeer := (← get).serverPeerId
        toPeer := authenticatedPeerId
        transactionId := packet.transactionId
        descriptor := packet.descriptor
        body := E.codec.encodeRpcResponse ⟨responseBody, responseError, 0⟩
        isRequest := false
        totalPieces := 1
        pieceIdx := 0
        traceId := packet.traceId
        compressionInfo := some noCompression }
      return resultWithPacket E result responsePacket

def handleRequest (E : Env) (host : Host) (network : String) (authenticatedPeerId : UInt32)
    (payload : Bytes) (nowMs : UInt64) : CoreM Bytes := do
  match E.codec.decodeRpcPacket payload with
  | .error e => throw s!"decode RpcPacket failed: {e}"
  | .ok packet =>
    validateEnvelope packet network authenticatedPeerId true
    match ← onFragments (mergePacket network authenticatedPeerId packet nowMs) with
    | .pending => return [0]
    | .complete packet => answerRequest E host network authenticatedPeerId packet

/-- The checks of `handle_response` on a complete message; the value is the session id. -/
def acceptedResponse (E : Env) (packet : RpcPacket) : CoreM UInt64 := do
  validateCompression packet
  match packet.descriptor with
  | none => throw "RPC response is missing its descriptor"
  | some descriptor =>
    if !isService descriptor "OspfRouteRpc" ∨ descriptor.methodIndex ≠ 1 then
      throw "RPC response descriptor does not match the route request"
    match E.codec.decodeRpcResponse packet.body with
    | .error e => throw s!"decode RpcResponse failed: {e}"
    | .ok response =>
      if response.error.isSome then
        throw "peer rejected the route synchronization RPC"
      match E.codec.decodeSyncRouteInfoResponse response.response with
      | .error e => throw s!"decode SyncRouteInfoResponse failed: {e}"
      | .ok sync =>
        match sync.error with
        | some routeError => throw s!"peer returned route synchronization error {routeError}"
        | none => return sync.sessionId

/-- Take the transaction of an accepted response out, and acknowledge its update. -/
def acknowledge (host : Host) (network : String) (authenticatedPeerId : UInt32) (key : RpcKey)
    (sessionId : UInt64) : CoreM Unit := do
  let c ← get
  match c.outstandingRoutes.lookup key with
  | none => throw "route synchronization transaction disappeared"
  | some outstanding =>
    set { c with outstandingRoutes := c.outstandingRoutes.erase key }
    let weAreInitiator := (c.peerInitiator.lookup (network, authenticatedPeerId)).getD true
    onRoutes (RouteState.onRouteSessionAck host network authenticatedPeerId sessionId
      weAreInitiator)
    onRoutes (RouteState.commitRouteUpdate host network authenticatedPeerId
      outstanding.peerInfoVersions outstanding.topologyVersion)

def handleResponse (E : Env) (host : Host) (network : String) (authenticatedPeerId : UInt32)
    (payload : Bytes) (nowMs : UInt64) : CoreM Bool := do
  match E.codec.decodeRpcPacket payload with
  | .error e => throw s!"decode RpcPacket failed: {e}"
  | .ok packet =>
    validateEnvelope packet network authenticatedPeerId false
    let key := rpcKey network authenticatedPeerId packet.transactionId false
    let c ← get
    match c.outstandingRoutes.lookup key with
    | none => throw "RPC response does not match an outstanding transaction"
    | some route =>
      if nowMs > route.deadlineMs then
        set { c with outstandingRoutes := c.outstandingRoutes.erase key }
        throw "RPC response arrived after its transaction deadline"
      match ← onFragments (mergePacket network authenticatedPeerId packet nowMs) with
      | .pending => return false
      | .complete packet =>
        let sessionId ← acceptedResponse E packet
        acknowledge host network authenticatedPeerId key sessionId
        return true

/-- The transaction id drawn at the `k`-th of the remaining attempts. -/
def drawTransactionId (host : Host) (c : WasmRpcCore) (network : String) (peerId : UInt32) :
    Nat → Nat → Except String Int64
  | 0, _ => .error "failed to allocate a unique RPC transaction id"
  | attempts + 1, k => do
    let transactionId := ((← host.fill k) &&& 0x7fffffffffffffff).toInt64
    let key := rpcKey network peerId transactionId false
    if transactionId ≠ 0 ∧ (c.outstandingRoutes.lookup key).isNone then
      return transactionId
    else drawTransactionId host c network peerId attempts (k + 1)

def nextTransactionId (host : Host) (network : String) (peerId : UInt32) : CoreM Int64 := do
  match drawTransactionId host (← get) network peerId 16 0 with
  | .error e => throw e
  | .ok transactionId => return transactionId

def buildRouteUpdate (E : Env) (host : Host) (network : String) (peerId : UInt32)
    (serverSessionId : UInt64) (forceFull : Bool) (nowMs : UInt64) : CoreM Bytes := do
  modify (·.cleanRpcState nowMs)
  let weAreInitiator := ((← get).peerInitiator.lookup (network, peerId)).getD true
  let update ← onRoutes (RouteState.buildSyncRouteInfoRequest E.codec host network peerId
    serverSessionId weAreInitiator forceFull)
  let transactionId ← nextTransactionId host network peerId
  let descriptor : RpcDescriptor := {
    domainName := network
    protoName := "OspfRouteRpc"
    serviceName := "OspfRouteRpc"
    methodIndex := 1 }
  let request : RpcRequest :=
    { descriptor := none, request := update.payload,
      timeoutMs := routeRpcTimeoutMs.toUInt32.toInt32 }
  let packet : RpcPacket := {
    fromPeer := (← get).serverPeerId
    toPeer := peerId
    transactionId
    descriptor := some descriptor
    body := E.codec.encodeRpcRequest request
    isRequest := true
    totalPieces := 1
    pieceIdx := 0
    traceId := 0
    compressionInfo := some noCompression }
  modify fun c => { c with
    outstandingRoutes := c.outstandingRoutes.insert (rpcKey network peerId transactionId false) {
      deadlineMs := saturatingAdd nowMs routeRpcTimeoutMs
      peerInfoVersions := update.peerInfoVersions
      topologyVersion := update.topologyVersion } }
  return E.codec.encodeRpcPacket packet

def cleanExpired (E : Env) (host : Host) (nowMs : UInt64) : CoreM Unit :=
  modify fun c =>
    { c.cleanRpcState nowMs with
      peerCenter := (c.cleanRpcState nowMs).peerCenter.cleanOutdated E.hash peerCenterTtlSeconds
        (host.clock 0) }

end WasmRpcCore

end EasyTierEdge.Rpc.Core
