/- module: EasyTierEdge/Server/Sockets
   source: cloudflare/src/runtime/connection.ts, cloudflare/src/core/packet.ts
   digest: The connection objects, the calls on their SecurePeers and their outbound window. -/

import EasyTierEdge.Rpc.CoreHost
import EasyTierEdge.Secure.Connections
import EasyTierEdge.Server.Rooms

set_option autoImplicit false
set_option relaxedAutoImplicit false

namespace EasyTierEdge.Server.Sockets

open Lib.Fallible Lib.OrderedMap
open Packet (Bytes)
open Rpc.Scheduler (RpcPeer)
open Rpc.CoreHost (Ambient)
open Secure.Session Secure.Peer Secure.Connections
open Rooms

def wsOpen : Nat := 1
def sendWindowMs : Nat := 1_000
def maxSendBytesPerWindow : Nat := 32 * 1024 * 1024
def maxSendFramesPerWindow : Nat := 4_096
def serverPeerId : UInt32 := 10_000_001

inductive ConnectionPhase
  | msg1
  | msg3
  | ready
  | closed
  deriving DecidableEq

/-- A connection object. Its index stands for the object and for its socket, `secure` for its
`SecurePeer`. -/
structure Connection where
  secure : Nat
  remotePublicKey : Bytes
  phase : ConnectionPhase
  peerId : UInt32
  networkName : String
  serverSessionId : UInt64
  handshakeTimer : Bool
  sendWindowStartedAt : Nat
  sentBytesInWindow : Nat
  sentFramesInWindow : Nat

/-- What the runtime supplies during one event, by the number of the reading. -/
structure Inputs where
  dateNow : Nat → Nat
  secureNow : Nat → UInt64
  core : Nat → Rpc.Routes.Host
  draws : Nat → Msg2Draws
  randomU64 : Nat → UInt64
  readyState : Nat → Nat
  socketSend : Nat → Bytes → Except String Unit
  socketClose : Nat → Nat → String → Except String Unit

/-- A frame that the forwarding path hands to a connection. -/
structure Forward where
  source : Nat
  target : Nat
  received : Bytes
  forwarded : Bytes

/-- The key a peer id was bound to when a connection with that id was added. -/
structure KeyMet where
  before : Option Packet.Key
  remotePublicKey : Bytes

/-- A packet that a connection handed to its socket. -/
structure Sent where
  connection : Nat
  time : Nat
  packet : Bytes

/-- What happened to a connection: its socket was told to close, it was removed, a route update for
it returned normally. -/
inductive Milestone
  | closing (c : Nat)
  | removed (c : Nat)
  | updated (c : Nat)
  deriving DecidableEq

/-- Everything of the server outside its scheduler. The last six fields are histories that nothing
reads: calls on a freed `SecurePeer`, forwarded frames, the keys that registrations met, packets
sent, the milestones of connections, and whether a recursion was cut off. -/
structure Grid (HS : Type) where
  world : World HS
  objects : List Connection
  connections : List Nat
  rooms : RoomRegistry
  maintenanceTimer : Bool
  inputs : Inputs
  tick : Nat
  freedCalls : List Nat
  forwards : List Forward
  keysMet : List KeyMet
  sends : List Sent
  history : List Milestone
  cutOff : Bool

variable {HS : Type}

abbrev GridM (HS : Type) := EStateM String (Grid HS)

/-- The next reading of one of the inputs. -/
def reading {α : Type} (input : Inputs → Nat → α) : GridM HS α := fun g =>
  .ok (input g.inputs g.tick) { g with tick := g.tick + 1 }

def object (c : Nat) : GridM HS Connection := do
  match (← get).objects[c]? with
  | some connection => return connection
  | none => throw "undefined connection"

def update (c : Nat) (f : Connection → Connection) : GridM HS Unit :=
  modify fun g => { g with objects := g.objects.modify c f }

def note (milestone : Milestone) : GridM HS Unit :=
  modify fun g => { g with history := g.history ++ [milestone] }

def errorText : JsError → String
  | .message text => text
  | .dependency text => text

/-- A call on the `SecurePeer` with this index. -/
def secureCall (E : SecureEnv HS) (secure : Nat) (call : Event) : GridM HS Outcome := fun g =>
  let r := g.world.perform E call
  .ok r.2 { g with
    world := r.1
    freedCalls := if (g.world.peer? secure).isNone then g.freedCalls ++ [secure] else g.freedCalls }

/-- The bytes a call returned; a freed object has no pointer to call with. -/
def returned : Outcome → GridM HS Bytes
  | .data (.ok bytes) => return bytes
  | .data (.error e) => throw (errorText e)
  | _ => throw "null pointer passed to rust"

/-- `connection.encrypt`. -/
def encrypt (E : SecureEnv HS) (c : Nat) (packet : Bytes) : GridM HS Bytes := do
  let connection ← object c
  let rotateMs ← reading Inputs.secureNow
  let persistMs ← reading Inputs.secureNow
  let outcome ← secureCall E connection.secure
    (.encrypt connection.secure packet rotateMs persistMs)
  returned outcome

/-- The window a send at `now` falls into. -/
def Connection.window (now : Nat) (connection : Connection) : Connection :=
  if now - connection.sendWindowStartedAt ≥ sendWindowMs then
    { connection with sendWindowStartedAt := now, sentBytesInWindow := 0, sentFramesInWindow := 0 }
  else connection

/-- `sendConnection`. -/
def sendConnection (c : Nat) (packet : Bytes) : GridM HS Unit := do
  let now ← reading Inputs.dateNow
  update c (Connection.window now)
  let connection ← object c
  if connection.sentBytesInWindow + packet.length > maxSendBytesPerWindow ∨
      connection.sentFramesInWindow ≥ maxSendFramesPerWindow then
    throw "WebSocket outbound relay capacity exceeded"
  else do
    let readyState ← reading Inputs.readyState
    if readyState ≠ wsOpen then throw "WebSocket is not open"
    else do
      update c fun connection => { connection with
        sentBytesInWindow := connection.sentBytesInWindow + packet.length
        sentFramesInWindow := connection.sentFramesInWindow + 1 }
      modify fun g => { g with sends := g.sends ++ [⟨c, now, packet⟩] }
      match ← reading fun inputs k => inputs.socketSend k packet with
      | .ok () => return ()
      | .error e => throw e

/-- The object `createConnection` makes for a new `SecurePeer`. -/
def createConnection (secure : Nat) (serverSessionId : UInt64) (now : Nat) : Connection where
  secure
  remotePublicKey := []
  phase := .msg1
  peerId := 0
  networkName := ""
  serverSessionId := if serverSessionId = 0 then 1 else serverSessionId
  handshakeTimer := true
  sendWindowStartedAt := now
  sentBytesInWindow := 0
  sentFramesInWindow := 0

def completeHandshake (c : Nat) : GridM HS Unit :=
  update c fun connection => { connection with handshakeTimer := false, phase := .ready }

/-- `disposeConnection`; `free` is a call like any other. -/
def disposeConnection (E : SecureEnv HS) (c : Nat) : GridM HS Unit := do
  update c fun connection => { connection with handshakeTimer := false }
  let connection ← object c
  let nowMs ← reading Inputs.secureNow
  let _ ← secureCall E connection.secure (.drop connection.secure nowMs)

/-- A connection as the scheduler sees it. -/
def rpcPeer (c : Nat) (connection : Connection) : RpcPeer where
  peerId := connection.peerId
  networkName := connection.networkName
  serverSessionId := connection.serverSessionId
  remotePublicKey := connection.remotePublicKey
  handle := c

/-- The surroundings of the core in the server. -/
def surroundings (E : SecureEnv HS) : Ambient (Grid HS) where
  supply g := (g.inputs.core g.tick, { g with tick := g.tick + 1 })
  encrypt peer packet := encrypt E peer.handle packet
  send peer packet := sendConnection peer.handle packet
  dateNow g := (g.inputs.dateNow g.tick, { g with tick := g.tick + 1 })

end EasyTierEdge.Server.Sockets
