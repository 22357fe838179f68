/- module: EasyTierEdge/Secure/Connections
   source: cloudflare/wasm/src/secure.rs, SESSION_STORE and every live SecurePeer
   digest: Any number of connections interleaving their calls over one session store. -/

import EasyTierEdge.Lib.Fallible
import EasyTierEdge.Lib.Machine
import EasyTierEdge.Secure.Peer

set_option autoImplicit false
set_option relaxedAutoImplicit false

namespace EasyTierEdge.Secure.Connections

open Lib.Fallible Lib.FiniteMap
open Packet (Bytes)
open Session Peer

/-- The store and the objects handed to the runtime. An object keeps its index for ever;
`none` marks one that was dropped. -/
structure World (HS : Type) where
  store : SessionStore
  peers : List (Option (SecurePeer HS))

/-- The two inline 32-byte keys alone make an object 64 bytes, and wasm32 has `2 ^ 32` bytes
of linear memory: no further object can be allocated beyond this many. -/
def maxLivePeers : Nat := 2 ^ 32 / 64

inductive Event
  | construct (privateKey publicKey : String) (serverPeerId : UInt32) (nowMs : UInt64)
  | readMsg1 (i : Nat) (packet : Bytes)
  | buildMsg2 (i : Nat) (networkSecret : String) (draws : Msg2Draws) (upsertMs attachMs : UInt64)
  | finishMsg3 (i : Nat) (packet : Bytes) (nowMs : UInt64)
  | encrypt (i : Nat) (packet : Bytes) (rotateMs persistMs : UInt64)
  | decrypt (i : Nat) (packet : Bytes) (receivedMs persistMs : UInt64)
  | drop (i : Nat) (nowMs : UInt64)

/-- What a call returned; `absent` stands for a call on an object that is not live. -/
inductive Outcome
  | constructed (i : Nat)
  | refused (error : String)
  | msg1 (result : Except JsError Msg1Info)
  | msg2 (result : Except JsError Msg2)
  | auth (result : Except JsError AuthInfo)
  | data (result : Except JsError Bytes)
  | dropped
  | absent

/-- The error a method call threw. -/
def Outcome.error? : Outcome → Option JsError
  | .msg1 (.error e) => some e
  | .msg2 (.error e) => some e
  | .auth (.error e) => some e
  | .data (.error e) => some e
  | _ => none

variable {HS : Type}

namespace World

def empty : World HS := ⟨∅, []⟩

/-- The live object with index `i`. -/
def peer? (w : World HS) (i : Nat) : Option (SecurePeer HS) := (w.peers[i]?).join

def livePeers (w : World HS) : Nat := w.peers.countP Option.isSome

/-- Whether this object counts for the attachments of `key`. -/
def attachedTo (key : SessionKey) (p : Option (SecurePeer HS)) : Bool :=
  p.any fun p => p.sessionAttached && p.sessionKey == some key

def attachedPeers (w : World HS) (key : SessionKey) : Nat := w.peers.countP (attachedTo key)

/-- Write back what a call on object `i` left behind. -/
def put (w : World HS) (i : Nat) (c : Ctx HS) : World HS :=
  ⟨c.store, w.peers.set i (some c.peer)⟩

/-- Run a method of object `i` on the shared store. -/
def call {α : Type} (w : World HS) (i : Nat) (op : SecureM HS α) :
    World HS × Option (Except JsError α) :=
  match w.peer? i with
  | none => (w, none)
  | some p => (w.put i (final (op ⟨p, w.store⟩)), some (value (op ⟨p, w.store⟩)))

/-- Every call of the exported interface, one at a time. -/
def perform (E : SecureEnv HS) (w : World HS) : Event → World HS × Outcome
  | .construct privateKey publicKey serverPeerId nowMs =>
    if w.livePeers ≥ maxLivePeers then (w, .refused "out of memory")
    else
      match SecurePeer.new E privateKey publicKey serverPeerId nowMs with
      | .error e => (w, .refused e)
      | .ok p => (⟨w.store, w.peers ++ [some p]⟩, .constructed w.peers.length)
  | .readMsg1 i packet =>
    let r := w.call i (Peer.readMsg1 E packet)
    (r.1, r.2.elim .absent .msg1)
  | .buildMsg2 i networkSecret draws upsertMs attachMs =>
    let r := w.call i (Peer.buildMsg2 E networkSecret draws upsertMs attachMs)
    (r.1, r.2.elim .absent .msg2)
  | .finishMsg3 i packet nowMs =>
    let r := w.call i (Peer.finishMsg3 E packet nowMs)
    (r.1, r.2.elim .absent .auth)
  | .encrypt i packet rotateMs persistMs =>
    let r := w.call i (encryptPacket E packet rotateMs persistMs)
    (r.1, r.2.elim .absent .data)
  | .decrypt i packet receivedMs persistMs =>
    let r := w.call i (decryptPacket E packet receivedMs persistMs)
    (r.1, r.2.elim .absent .data)
  | .drop i nowMs =>
    match w.peer? i with
    | none => (w, .absent)
    | some p => (⟨dropPeer p w.store nowMs, w.peers.set i none⟩, .dropped)

def step (E : SecureEnv HS) (w : World HS) (e : Event) : World HS := (w.perform E e).1

def outcome (E : SecureEnv HS) (w : World HS) (e : Event) : Outcome := (w.perform E e).2

/-- The state after a run from the empty store. -/
def after (E : SecureEnv HS) (es : List Event) : World HS :=
  Lib.Machine.run (step E) empty es

/-- What `upsert_session` selects in a `build_msg2` call. -/
def selection (E : SecureEnv HS) (w : World HS) : Event → Option (Msg2Selection HS)
  | .buildMsg2 i networkSecret draws upsertMs _ =>
    (w.peer? i).bind fun p =>
      match selectSession E networkSecret draws.random32 upsertMs ⟨p, w.store⟩ with
      | .ok sel _ => some sel
      | .error _ _ => none
  | _ => none

/-- The root key a step draws and stores. -/
def createdRootKey (E : SecureEnv HS) (w : World HS) (e : Event) : Option Key :=
  (w.selection E e).bind fun sel =>
    if sel.session.action = .create then some sel.session.sessionRootKey else none

/-- The root keys of a run, in the order they were drawn. -/
def createdRootKeys (E : SecureEnv HS) (es : List Event) : List Key :=
  Lib.Machine.log (step E) (createdRootKey E) empty es

/-- The stored session a `build_msg2` call answers Sync for. -/
def syncedSession (E : SecureEnv HS) (w : World HS) (e : Event) : Option StoredSession :=
  (w.selection E e).bind fun sel =>
    if sel.session.action = .sync then w.store.lookup sel.sessionKey else none

end World

/-! A transparent instance of the dependencies, to run the system on concrete packets: nothing
is encrypted, and the handshake only keeps track of whose turn it is. -/

structure Turn where
  count : Nat
  remoteStatic : Bytes
  deriving DecidableEq

def plainDigest (key message : Bytes) : Key := Vector.ofFn fun i => (message ++ key).getD i 0

def plainEnv : SecureEnv Turn where
  buildResponder := fun _ => .ok ⟨0, []⟩
  readMessage := fun turn payload =>
    if turn.count = 0 then (.ok payload, { turn with count := 1 })
    else if turn.count = 2 then (.ok (payload.drop 32), ⟨3, payload.take 32⟩)
    else (.error "not my turn", turn)
  writeMessage := fun turn payload =>
    if turn.count = 1 then (.ok payload, { turn with count := 2 })
    else (.error "not my turn", turn)
  getHandshakeHash := fun turn => [UInt8.ofNat turn.count]
  getRemoteStatic := fun turn => if turn.count = 3 then some turn.remoteStatic else none
  decodeMsg1 := fun payload => .ok {
    version := 1
    aNetworkName := "n"
    aSessionGeneration := payload.head?.map fun b => UInt32.ofNat b.toNat
    aConnId := none
    clientEncryptionAlgorithm := "aes-gcm" }
  encodeMsg2 := fun message => (message.rootKey32.elim [] Vector.toList)
  decodeMsg3 := fun payload => .ok {
    aConnIdEcho := none
    bConnIdEcho := some ⟨0, 0, 0, 0⟩
    secretProof32 := some payload }
  hmacSha256 := plainDigest
  encryptInPlace := fun _ _ _ plaintext => some (plaintext, List.replicate 16 0)
  decryptInPlace := fun _ _ _ ciphertext _ => some ciphertext
  x25519Public := id
  decodeBase64 := fun _ => some (List.replicate 32 7)

/-- Messages 1 and 3 of peer 5 under server 9, network secret "s" and static key `static`. -/
def plainMsg1 (reported : Bytes) : Bytes := Packet.wrapPacket 5 9 packetNoiseMsg1 0 reported

def plainMsg3 (static : UInt8) : Bytes :=
  Packet.wrapPacket 5 9 packetNoiseMsg3 0
    (List.replicate 32 static ++ secretProof plainEnv (utf8 "s") [2])

/-- An encrypted payload with the given nonce, and a packet of peer 5 that carries it. -/
def plainPayload (epoch : UInt32) (sequence : UInt64) : Bytes :=
  [42] ++ List.replicate aeadTagSize 0 ++ nonceBytes epoch sequence

def plainData (epoch : UInt32) (sequence : UInt64) : Bytes :=
  Packet.joinHeaderPayload ⟨5, 9, 1, Packet.encryptedFlag, 1, 0, 1⟩ (plainPayload epoch sequence)

/-- A control packet of server 9 to peer 5, before it is encrypted. -/
def plainControl : Bytes := Packet.wrapPacket 9 5 1 0 [42]

/-- A new object of server 9. -/
def plainPeer : SecurePeer Turn :=
  (SecurePeer.new plainEnv "" "" 9 0).toOption.get (by decide +kernel)

/-- The session key of peer 5. -/
def plainKey : SessionKey := ⟨"n", 5, 9, Vector.replicate 32 7⟩

/-- A whole handshake on a new object `i`, drawing `rootKey` if it creates a session. -/
def plainHandshake (i : Nat) (reported : Bytes) (rootKey : Key) (nowMs : UInt64) : List Event :=
  [.construct "" "" 9 nowMs, .readMsg1 i (plainMsg1 reported),
    .buildMsg2 i "s" ⟨.ok rootKey, .ok ⟨0, 0, 0, 0⟩⟩ nowMs nowMs,
    .finishMsg3 i (plainMsg3 3) nowMs]

end EasyTierEdge.Secure.Connections
