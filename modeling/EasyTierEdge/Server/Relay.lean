/- module: EasyTierEdge/Server/Relay
   source: cloudflare/src/server.ts, cloudflare/src/runtime/messages.ts
   digest: The server's handlers over its connections, rooms and scheduler. -/

import EasyTierEdge.Lib.Machine
import EasyTierEdge.Server.Sockets

set_option autoImplicit false
set_option relaxedAutoImplicit false

namespace EasyTierEdge.Server.Relay

open Lib.AscendingMap Lib.Fallible Lib.FiniteMap Lib.OrderedMap
open Packet (Bytes PacketHeader encryptedFlag headerSize)
open Rpc.Core (WasmRpcCore)
open Rpc.Scheduler (EasyTierRpc RpcM RpcPeer RpcHost RouteSyncFailure onHost)
open Rpc.CoreHost (Hosted coreHost onAmbient)
open Secure.Session Secure.Peer Secure.Connections
open Rooms Sockets

def maxConnections : Nat := 2_048
def packetTypePing : UInt8 := 4
def packetTypePong : UInt8 := 5
def packetTypeNoiseHandshakeMsg1 : UInt8 := 13
def packetTypeNoiseHandshakeMsg3 : UInt8 := 15

structure ServerConfig where
  rooms : FMap String String
  hostname : String
  localPrivateKey : String
  localPublicKey : String
  localPublicKeyBytes : Bytes
  maxFrameBytes : Nat

/-- The key that the route state has bound a peer id to. -/
def boundKey (routes : Rpc.Routes.RouteState) (networkName : String) (peerId : UInt32) :
    Option Packet.Key :=
  (routes.groups.lookup networkName).bind fun group => group.authenticatedPeerKeys.get? peerId

/-- What the server is built on, and its configuration. -/
structure ServerEnv (HS : Type) where
  secure : SecureEnv HS
  rpc : Rpc.Core.Env
  config : ServerConfig

/-- The scheduler, on its core, on everything else. -/
abbrev ServerState (HS : Type) := EasyTierRpc (Hosted (Grid HS))

abbrev ServerM (HS : Type) := RpcM (Hosted (Grid HS))

variable {HS : Type}

def onGrid {α : Type} (op : GridM HS α) : ServerM HS α := onHost (onAmbient op)

def grid : ServerM HS (Grid HS) := do
  return (← get).host.ambient

def orThrow {α : Type} (r : Except String α) : ServerM HS α :=
  match r with
  | .ok a => pure a
  | .error e => throw e

/-- `try { op } finally { last }`. -/
def runFinally {α : Type} (op : ServerM HS α) (last : ServerM HS Unit) : ServerM HS α := do
  let result ← tryCatch op fun e => do
    last
    throw e
  last
  return result

variable (V : ServerEnv HS)

def host : RpcHost (Hosted (Grid HS)) := coreHost V.rpc (surroundings V.secure)

/-! `handshake` messages, as `messages.ts` reads the JSON of `secure.rs`. -/

structure HandshakeInfo where
  peerId : UInt32
  networkName : String

structure AuthenticationInfo where
  peerId : UInt32
  networkName : String
  remotePublicKey : Bytes

def readPeerId (value : UInt32) (field : String) : Except String UInt32 :=
  if value = 0 then .error s!"{field} must be a non-zero u32 peer id" else .ok value

def readString (value : String) (field : String) : Except String String :=
  if value.isEmpty then .error s!"{field} must be a non-empty string" else .ok value

def parseHandshakeInfo (info : Msg1Info) : Except String HandshakeInfo := do
  let _ ← readString info.clientEncryptionAlgorithm "client_encryption_algorithm"
  let peerId ← readPeerId info.peerId "peer_id"
  let networkName ← readString info.networkName "network_name"
  return { peerId, networkName }

def parseAuthenticationInfo (info : AuthInfo) : Except String AuthenticationInfo := do
  if info.authLevel ≠ "NetworkSecretConfirmed" then
    throw "secure handshake did not confirm the network secret"
  let peerId ← readPeerId info.peerId "peer_id"
  let networkName ← readString info.networkName "network_name"
  if info.remotePublicKey.length ≠ 32 then
    throw "remote_public_key_base64 must decode to 32 bytes"
  return { peerId, networkName, remotePublicKey := info.remotePublicKey }

/-! The calls on the `SecurePeer` of a connection. -/

def callSecure (c : Nat) (call : Nat → Event) : ServerM HS Outcome := do
  let connection ← onGrid (object c)
  onGrid (secureCall V.secure connection.secure (call connection.secure))

def readMsg1 (c : Nat) (frame : Bytes) : ServerM HS Msg1Info := do
  match ← callSecure V c fun i => .readMsg1 i frame with
  | .msg1 (.ok info) => return info
  | .msg1 (.error e) => throw (errorText e)
  | _ => throw "null pointer passed to rust"

def buildMsg2 (c : Nat) (networkSecret : String) : ServerM HS Bytes := do
  let draws ← onGrid (reading Inputs.draws)
  let upsertMs ← onGrid (reading Inputs.secureNow)
  let attachMs ← onGrid (reading Inputs.secureNow)
  match ← callSecure V c fun i => .buildMsg2 i networkSecret draws upsertMs attachMs with
  | .msg2 (.ok msg2) => return msg2.packet
  | .msg2 (.error e) => throw (errorText e)
  | _ => throw "null pointer passed to rust"

def finishMsg3 (c : Nat) (frame : Bytes) : ServerM HS AuthInfo := do
  let nowMs ← onGrid (reading Inputs.secureNow)
  match ← callSecure V c fun i => .finishMsg3 i frame nowMs with
  | .auth (.ok info) => return info
  | .auth (.error e) => throw (errorText e)
  | _ => throw "null pointer passed to rust"

def decryptPacket (c : Nat) (frame : Bytes) : ServerM HS Bytes := do
  let receivedMs ← onGrid (reading Inputs.secureNow)
  let persistMs ← onGrid (reading Inputs.secureNow)
  match ← callSecure V c fun i => .decrypt i frame receivedMs persistMs with
  | .data (.ok clear) => return clear
  | .data (.error e) => throw (errorText e)
  | _ => throw "null pointer passed to rust"

namespace EasyTierServer

/-! `close`, `removeConnection` and `broadcastRouteUpdate` call each other. Each of the first two is
written over what it calls next; `closeWithin` ties the knot, with a bound on the depth. -/

/-- `close(connection, code, reason)`. -/
abbrev CloseM (HS : Type) := Nat → Nat → String → ServerM HS Unit

/-- The rounds of `broadcastRouteUpdate`; a peer that was deleted meanwhile is not visited. -/
def broadcastTo (close : CloseM HS) (networkName : String)
    (excludePeerId : Option UInt32) : List UInt32 → ServerM HS Unit
  | [] => return ()
  | peerId :: rest => do
    match (← grid).rooms.get networkName peerId with
    | none => broadcastTo close networkName excludePeerId rest
    | some c =>
      let peer ← onGrid (object c)
      if some peer.peerId = excludePeerId ∨ peer.phase ≠ .ready then
        broadcastTo close networkName excludePeerId rest
      else do
        tryCatch (do
          EasyTierRpc.sendRouteUpdate (host V) (rpcPeer c peer) false
          onGrid (note (.updated c))) fun _ => close c 1011 "route synchronization failed"
        broadcastTo close networkName excludePeerId rest

def broadcastWith (close : CloseM HS) (networkName : String)
    (excludePeerId : Option UInt32) : ServerM HS Unit := do
  let g ← grid
  broadcastTo V close networkName excludePeerId (g.rooms.peers networkName)

/-- The connection leaves `connections` and the rooms. -/
def unregister (c : Nat) (connection : Connection) : GridM HS Unit :=
  modify fun g =>
    let connections := g.connections.erase c
    { g with
      connections
      maintenanceTimer := g.maintenanceTimer && !connections.isEmpty
      rooms := g.rooms.delete connection.networkName connection.peerId c
      history := g.history ++ [.removed c] }

def removeWith (close : CloseM HS) (c : Nat) : ServerM HS Unit := do
  let connection ← onGrid (object c)
  if connection.phase = .closed then return ()
  else do
    onGrid (update c fun connection => { connection with phase := .closed })
    onGrid (unregister c connection)
    if connection.phase = .ready then
      EasyTierRpc.removePeer (host V) (rpcPeer c connection)
      broadcastWith V close connection.networkName none
    onGrid (disposeConnection V.secure c)

/-- `socket.close`. -/
def socketClose (code : Nat) (reason : String) : ServerM HS Unit := do
  orThrow (← onGrid (reading fun inputs k => inputs.socketClose k code reason))

/-- `close`, to a depth of nested calls. -/
def closeWithin : Nat → CloseM HS
  | 0, _, _, _ => onGrid (modify fun g => { g with cutOff := true })
  | depth + 1, c, code, reason => do
    let connection ← onGrid (object c)
    if connection.phase = .closed then return ()
    else do
      onGrid (note (.closing c))
      runFinally (socketClose code (String.ofList (reason.toList.take 120)))
        (removeWith V (closeWithin depth) c)

/-- Every nested `close` is of another connection, so the connections bound the depth. -/
def depth : ServerM HS Nat := do
  return (← grid).objects.length + 1

def close (c code : Nat) (reason : String) : ServerM HS Unit := do
  closeWithin V (← depth) c code reason

def removeConnection (c : Nat) : ServerM HS Unit := do
  removeWith V (closeWithin V (← depth)) c

def broadcastRouteUpdate (networkName : String) (excludePeerId : Option UInt32) :
    ServerM HS Unit := do
  broadcastWith V (closeWithin V (← depth)) networkName excludePeerId

/-- `rooms.set`; the value is the connection it replaced. -/
def setRoom (c : Nat) (connection : Connection) : GridM HS (Option Nat) := fun g =>
  let r := g.rooms.set connection.networkName connection.peerId c
  .ok r.1 { g with rooms := r.2 }

/-- `rpc.addPeer`, noting the key that the route state has for the peer id. -/
def addPeer (peer : RpcPeer) : ServerM HS Unit := do
  let routes := (← get).host.core.routes
  onGrid (modify fun g => { g with
    keysMet := g.keysMet ++ [⟨boundKey routes peer.networkName peer.peerId,
      peer.remotePublicKey⟩] })
  EasyTierRpc.addPeer (host V) peer

def registerConnection (c : Nat) : ServerM HS Unit := do
  let connection ← onGrid (object c)
  match ← onGrid (setRoom c connection) with
  | none => addPeer V (rpcPeer c connection)
  | some replaced =>
    if replaced ≠ c then close V replaced 4000 "replaced by an authenticated reconnect"
    addPeer V (rpcPeer c connection)

def failConnection (c : Nat) : ServerM HS Unit :=
  close V c 4401 "EasyTier authentication or protocol error"

def handleHandshakeMessage1 (c : Nat) (frame : Bytes) (packetType : UInt8) : ServerM HS Unit := do
  if packetType ≠ packetTypeNoiseHandshakeMsg1 then
    throw "secure_mode rejects legacy or out-of-order handshakes"
  else do
    let info ← readMsg1 V c frame
    let info ← orThrow (parseHandshakeInfo info)
    match V.config.rooms.lookup info.networkName with
    | none => close V c 4403 "network is not configured"
    | some networkSecret =>
      onGrid (update c fun connection =>
        { connection with peerId := info.peerId, networkName := info.networkName })
      let msg2 ← buildMsg2 V c networkSecret
      onGrid (sendConnection c msg2)
      onGrid (update c fun connection => { connection with phase := .msg3 })

def handleHandshakeMessage3 (c : Nat) (frame : Bytes) (packetType : UInt8) : ServerM HS Unit := do
  if packetType ≠ packetTypeNoiseHandshakeMsg3 then
    throw "expected NoiseHandshakeMsg3"
  else do
    let info ← finishMsg3 V c frame
    let auth ← orThrow (parseAuthenticationInfo info)
    let connection ← onGrid (object c)
    if auth.peerId ≠ connection.peerId ∨ auth.networkName ≠ connection.networkName then
      throw "secure handshake identity mismatch"
    else do
      onGrid (update c fun connection =>
        { connection with remotePublicKey := auth.remotePublicKey })
      registerConnection V c
      onGrid (completeHandshake c)
      broadcastRouteUpdate V connection.networkName none

/-- The forwarding path of `handleReadyPacket`. -/
def forward (c : Nat) (connection : Connection) (frame : Bytes) (header : PacketHeader) :
    ServerM HS Unit := do
  match (← grid).rooms.get connection.networkName header.toPeerId with
  | none => return ()
  | some t =>
    let target ← onGrid (object t)
    if target.phase ≠ .ready then return ()
    else do
      let forwarded ← orThrow (Packet.prepareForward frame)
      onGrid (modify fun g => { g with forwards := g.forwards ++ [⟨c, t, frame, forwarded⟩] })
      tryCatch (onGrid (sendConnection t forwarded)) fun _ =>
        close V t 1013 "outbound relay capacity exceeded"

/-- The direct RPC packets of `handleReadyPacket`. -/
def handleRpcPacket (c : Nat) (connection : Connection) (frame : Bytes) (header : PacketHeader) :
    ServerM HS Unit := do
  let clear ← decryptPacket V c frame
  if clear = [] then return ()
  else do
    let _ ← orThrow (Packet.parsePacket clear)
    let payload := clear.drop headerSize
    if header.packetType = Rpc.Scheduler.packetTypeRpcReq then
      let result ← EasyTierRpc.handleRequest (host V) (rpcPeer c connection) payload
      if result = .route then
        broadcastRouteUpdate V connection.networkName (some connection.peerId)
    else EasyTierRpc.handleResponse (host V) (rpcPeer c connection) payload

def handleReadyPacket (c : Nat) (frame : Bytes) (header : PacketHeader) : ServerM HS Unit := do
  let connection ← onGrid (object c)
  if header.toPeerId ≠ serverPeerId then forward V c connection frame header
  else if header.fromPeerId ≠ connection.peerId then
    throw "direct control packet source does not match the authenticated peer"
  else if (header.packetType = packetTypePing ∨ header.packetType = packetTypePong) ∧
      header.flags &&& encryptedFlag ≠ 0 then
    throw "EasyTier Ping and Pong packets must remain unencrypted"
  else if header.packetType = packetTypePing then do
    let pong ← orThrow (Packet.preparePong frame)
    onGrid (sendConnection c pong)
  else if header.packetType = packetTypePong then return ()
  else if header.packetType ≠ Rpc.Scheduler.packetTypeRpcReq ∧
      header.packetType ≠ Rpc.Scheduler.packetTypeRpcResp then return ()
  else if header.flags &&& encryptedFlag = 0 then
    throw "secure_mode requires encrypted direct RPC packets"
  else handleRpcPacket V c connection frame header

/-- The data of a message event. -/
inductive MessageData
  | text
  | binary (frame : Bytes)

def handleMessage (c : Nat) (data : MessageData) : ServerM HS Unit := do
  match data with
  | .text => throw "EasyTier accepts binary WebSocket messages only"
  | .binary frame =>
    if frame.length > V.config.maxFrameBytes then
      throw "EasyTier frame exceeds MAX_FRAME_BYTES"
    else do
      let header ← orThrow (Packet.parsePacket frame)
      let connection ← onGrid (object c)
      match connection.phase with
      | .msg1 => handleHandshakeMessage1 V c frame header.packetType
      | .msg3 => handleHandshakeMessage3 V c frame header.packetType
      | .ready => handleReadyPacket V c frame header
      | .closed => return ()

/-- Every connection is known to its listeners only, which `fetch` attaches. -/
def scheduleMaintenance : GridM HS Unit :=
  modify fun g => { g with
    maintenanceTimer := g.maintenanceTimer || !g.connections.isEmpty }

inductive Response
  | notFound
  | upgradeRequired
  | capacityExceeded
  | invalidConfiguration
  | switching
  deriving DecidableEq

def fetch (pathname : String) (upgrade : Option String) : ServerM HS Response := do
  if pathname ≠ "/" then return .notFound
  else if upgrade.map String.toLower ≠ some "websocket" then return .upgradeRequired
  else if (← grid).connections.length ≥ maxConnections then return .capacityExceeded
  else do
    let secure := (← grid).world.peers.length
    let nowMs ← onGrid (reading Inputs.secureNow)
    let made ← onGrid fun g =>
      let r := g.world.perform V.secure
        (.construct V.config.localPrivateKey V.config.localPublicKey serverPeerId nowMs)
      .ok r.2 { g with world := r.1 }
    match made with
    | .constructed _ =>
      let serverSessionId ← onGrid (reading Inputs.randomU64)
      let now ← onGrid (reading Inputs.dateNow)
      onGrid (modify fun g => { g with
        objects := g.objects ++ [createConnection secure serverSessionId now]
        connections := g.connections ++ [g.objects.length] })
      onGrid scheduleMaintenance
      return .switching
    | _ => return .invalidConfiguration

/-- The failures of `cleanExpired`, one after the other. -/
def closeFailed : List RouteSyncFailure → ServerM HS Unit
  | [] => return ()
  | failure :: rest => do
    match (← grid).rooms.get failure.peer.networkName failure.peer.peerId with
    | none => closeFailed rest
    | some c => do
      close V c 1011 "route synchronization retry failed"
      closeFailed rest

/-- The second loop of the maintenance timer; a connection that was deleted meanwhile is not
visited. -/
def maintainAll (now : Nat) : List Nat → ServerM HS Unit
  | [] => return ()
  | c :: rest => do
    if c ∉ (← grid).connections then maintainAll now rest
    else do
      let connection ← onGrid (object c)
      if connection.phase ≠ .ready then maintainAll now rest
      else do
        tryCatch (EasyTierRpc.maintainPeer (host V) (rpcPeer c connection) now) fun _ =>
          close V c 1011 "route synchronization maintenance failed"
        maintainAll now rest

def maintain : ServerM HS Unit := do
  onGrid (modify fun g => { g with maintenanceTimer := false })
  let now ← onGrid (reading Inputs.dateNow)
  let failures ← EasyTierRpc.cleanExpired (host V) now
  closeFailed V failures
  let g ← grid
  maintainAll V now g.connections
  onGrid scheduleMaintenance

end EasyTierServer

/-! Events. -/

open EasyTierServer

inductive ServerEvent
  | fetch (pathname : String) (upgrade : Option String)
  | message (c : Nat) (data : MessageData)
  | socketClosed (c : Nat)
  | socketError (c : Nat)
  | handshakeTimeout (c : Nat)
  | maintenance

def perform : ServerEvent → ServerM HS Unit
  | .fetch pathname upgrade => do
    let _ ← fetch V pathname upgrade
  | .message c data => tryCatch (handleMessage V c data) fun _ => failConnection V c
  | .socketClosed c => removeConnection V c
  | .socketError c => removeConnection V c
  | .handshakeTimeout c => do
    let connection ← onGrid (object c)
    if connection.handshakeTimer then close V c 4408 "secure handshake timeout"
  | .maintenance => do
    if (← grid).maintenanceTimer then maintain V

/-- An event, and what the runtime supplies while it is handled. -/
structure Happening where
  event : ServerEvent
  inputs : Inputs

def arriving (s : ServerState HS) (inputs : Inputs) : ServerState HS :=
  { s with host := { s.host with ambient := { s.host.ambient with inputs, tick := 0 } } }

def step (s : ServerState HS) (h : Happening) : ServerState HS :=
  final (perform V h.event (arriving s h.inputs))

/-- The server before its first connection. -/
def start (core : WasmRpcCore) (inputs : Inputs) : ServerState HS :=
  EasyTierRpc.new serverPeerId ⟨core, {
    world := World.empty
    objects := []
    connections := []
    rooms := RoomRegistry.empty
    maintenanceTimer := false
    inputs
    tick := 0
    freedCalls := []
    forwards := []
    keysMet := []
    sends := []
    history := []
    cutOff := false }, []⟩

end EasyTierEdge.Server.Relay
