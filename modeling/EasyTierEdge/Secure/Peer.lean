/- module: EasyTierEdge/Secure/Peer
   source: cloudflare/wasm/src/secure.rs, SecurePeer
   digest: The Noise responder of one connection and its encrypted datagrams. -/

import EasyTierEdge.Proto
import EasyTierEdge.Secure.Session

set_option autoImplicit false
set_option relaxedAutoImplicit false

namespace EasyTierEdge.Secure.Peer

open Lib.Endian Lib.FiniteMap
open Packet
open ReplayWindow (ReplayWindow256)
open Session
export Packet (keyOfBytes)
export Proto (Uuid)

def easytierProtocolVersion : UInt32 := 1
def packetNoiseMsg1 : UInt8 := 13
def packetNoiseMsg2 : UInt8 := 14
def packetNoiseMsg3 : UInt8 := 15
def aeadTagSize : Nat := 16
def aeadNonceSize : Nat := 12

/-- `PeerConnNoiseMsg1Pb`. -/
structure NoiseMsg1 where
  version : UInt32
  aNetworkName : String
  aSessionGeneration : Option UInt32
  aConnId : Option Uuid
  clientEncryptionAlgorithm : String
  deriving DecidableEq

/-- `PeerConnNoiseMsg2Pb`. -/
structure NoiseMsg2 where
  bNetworkName : String
  roleHint : UInt32
  action : SessionAction
  bSessionGeneration : UInt32
  rootKey32 : Option Key
  initialEpoch : UInt32
  bConnId : Option Uuid
  aConnIdEcho : Option Uuid
  secretProof32 : Option Bytes
  serverEncryptionAlgorithm : String
  deriving DecidableEq

/-- The fields of `PeerConnNoiseMsg3Pb` that `finish_msg3` reads. -/
structure NoiseMsg3 where
  aConnIdEcho : Option Uuid
  bConnIdEcho : Option Uuid
  secretProof32 : Option Bytes
  deriving DecidableEq

/-- The result of `normalized_algorithm`. -/
inductive Algorithm
  | aesGcm | aes256Gcm | chacha20
  deriving DecidableEq, Repr

/-- What the code takes from its dependencies: snow, prost, the RustCrypto ciphers and MAC,
x25519 and base64. `HS` is snow's `HandshakeState`. -/
structure SecureEnv (HS : Type) where
  buildResponder : Key → Except String HS
  readMessage : HS → Bytes → Except String Bytes × HS
  writeMessage : HS → Bytes → Except String Bytes × HS
  getHandshakeHash : HS → Bytes
  getRemoteStatic : HS → Option Bytes
  decodeMsg1 : Bytes → Except String NoiseMsg1
  encodeMsg2 : NoiseMsg2 → Bytes
  decodeMsg3 : Bytes → Except String NoiseMsg3
  hmacSha256 : Bytes → Bytes → Key
  encryptInPlace : Algorithm → Bytes → Bytes → Bytes → Option (Bytes × Bytes)
  decryptInPlace : Algorithm → Bytes → Bytes → Bytes → Bytes → Option Bytes
  x25519Public : Key → Key
  decodeBase64 : String → Option Bytes

structure SecurePeer (HS : Type) where
  localPrivate : Key
  localPublic : Key
  serverPeerId : UInt32
  peerId : Option UInt32
  networkName : Option String
  clientAlgorithm : Option String
  aSessionGeneration : Option UInt32
  aConnId : Option Uuid
  bConnId : Option Uuid
  handshake : Option HS
  proofChallenge : Option Bytes
  networkSecret : Option Bytes
  rootKey : Option Key
  sessionKey : Option SessionKey
  sessionAttached : Bool
  sendEpoch : UInt32
  sendSeq : Direction → UInt64
  sendEpochStartedMs : UInt64
  sendPacketsSinceEpoch : UInt64
  rxSlots : RxSlots
  syncRxGrace : SyncRxGrace
  decryptFailCount : UInt32
  authenticated : Bool

/-- One connection's object together with the thread-local `SESSION_STORE`. -/
structure Ctx (HS : Type) where
  peer : SecurePeer HS
  store : SessionStore

/-- A method call: an error keeps whatever was written before it. -/
abbrev SecureM (HS : Type) := EStateM JsError (Ctx HS)

structure Msg1Info where
  peerId : UInt32
  networkName : String
  clientEncryptionAlgorithm : String
  deriving DecidableEq

/-- The packet of message 2 and the protobuf it carries encrypted. -/
structure Msg2 where
  message : NoiseMsg2
  packet : Bytes
  deriving DecidableEq

structure AuthInfo where
  peerId : UInt32
  networkName : String
  remotePublicKey : Bytes
  authLevel : String
  deriving DecidableEq

variable {HS : Type}

/-! Helper functions outside the `impl` blocks. -/

def decodeKey (E : SecureEnv HS) (value label : String) : Except String Key :=
  match E.decodeBase64 value with
  | none => .error s!"local_{label}_key is not valid base64"
  | some decoded =>
    match keyOfBytes decoded with
    | some key => .ok key
    | none => .error s!"local_{label}_key must decode to 32 bytes, got {decoded.length}"

/-- `str::eq_ignore_ascii_case`. -/
def eqIgnoreAsciiCase (a b : String) : Bool :=
  a.toList.map Char.toLower == b.toList.map Char.toLower

def normalizedAlgorithm (value : String) : Except String Algorithm :=
  if eqIgnoreAsciiCase value "aes-gcm" then .ok .aesGcm
  else if eqIgnoreAsciiCase value "aes-256-gcm" then .ok .aes256Gcm
  else if eqIgnoreAsciiCase value "chacha20" || eqIgnoreAsciiCase value "chacha20-poly1305" then
    .ok .chacha20
  else .error "unsupported EasyTier encryption algorithm"

def validateAlgorithm (value : String) : Except String Unit := do
  let _ ← normalizedAlgorithm value
  return ()

def directionIndex (sender receiver : UInt32) : Direction := if sender ≥ receiver then 1 else 0

/-- The bytes of a Rust string literal. -/
def utf8 (s : String) : Bytes := s.toUTF8.data.toList

def secretProof (E : SecureEnv HS) (secret challenge : Bytes) : Bytes :=
  (E.hmacSha256 secret (utf8 "easytier secret proof" ++ challenge)).toList

/-- The key bytes the cipher is given: AES-128 takes the first half. -/
def cipherKey (algorithm : Algorithm) (key : Key) : Bytes :=
  match algorithm with
  | .aesGcm => key.toList.take 16
  | .aes256Gcm | .chacha20 => key.toList

def encryptionFailed : Algorithm → String
  | .aesGcm => "AES-128-GCM encryption failed"
  | .aes256Gcm => "AES-256-GCM encryption failed"
  | .chacha20 => "ChaCha20-Poly1305 encryption failed"

/-- `seal` of secure.rs. -/
def sealPayload (E : SecureEnv HS) (algorithm : String) (key : Key) (nonce plaintext : Bytes) :
    Except String (Bytes × Bytes) := do
  let algorithm ← normalizedAlgorithm algorithm
  match E.encryptInPlace algorithm (cipherKey algorithm key) nonce plaintext with
  | some sealed => return sealed
  | none => throw (encryptionFailed algorithm)

/-- `open` of secure.rs. -/
def openPayload (E : SecureEnv HS) (algorithm : String) (key : Key)
    (nonce ciphertext tag : Bytes) : Except String Bytes := do
  let algorithm ← normalizedAlgorithm algorithm
  match E.decryptInPlace algorithm (cipherKey algorithm key) nonce ciphertext tag with
  | some plaintext => return plaintext
  | none => throw "EasyTier session decryption failed"

/-- The traffic key of `(root_key, epoch, direction)`. -/
def trafficKey (E : SecureEnv HS) (rootKey : Key) (epoch : UInt32) (direction : Direction) : Key :=
  let prk := E.hmacSha256 (List.replicate 32 0) rootKey.toList
  E.hmacSha256 prk.toList
    (utf8 "et-traffic" ++ toBe 4 epoch.toNat ++ [UInt8.ofNat direction.val] ++ [1])

/-- The nonce bytes of `(epoch, sequence)`. -/
def nonceBytes (epoch : UInt32) (sequence : UInt64) : Bytes :=
  toBe 4 epoch.toNat ++ toBe 8 sequence.toNat

def nonceEpoch (nonce : Bytes) : UInt32 := UInt32.ofNat (ofBe (nonce.take 4))
def nonceSequence (nonce : Bytes) : UInt64 := UInt64.ofNat (ofBe (nonce.drop 4))

@[simp] theorem nonceBytes_length (epoch : UInt32) (sequence : UInt64) :
    (nonceBytes epoch sequence).length = aeadNonceSize := by
  simp [nonceBytes, aeadNonceSize]

theorem nonceEpoch_nonceBytes (epoch : UInt32) (sequence : UInt64) :
    nonceEpoch (nonceBytes epoch sequence) = epoch := by
  have head : (nonceBytes epoch sequence).take 4 = toBe 4 epoch.toNat := by
    rw [nonceBytes, List.take_left' (toBe_length 4 epoch.toNat)]
  have small : epoch.toNat % 256 ^ 4 = epoch.toNat := Nat.mod_eq_of_lt epoch.toNat_lt
  rw [nonceEpoch, head, ofBe_toBe, small]
  exact UInt32.ofNat_toNat

theorem nonceSequence_nonceBytes (epoch : UInt32) (sequence : UInt64) :
    nonceSequence (nonceBytes epoch sequence) = sequence := by
  have tail : (nonceBytes epoch sequence).drop 4 = toBe 8 sequence.toNat := by
    rw [nonceBytes, List.drop_left' (toBe_length 4 epoch.toNat)]
  have small : sequence.toNat % 256 ^ 8 = sequence.toNat := Nat.mod_eq_of_lt sequence.toNat_lt
  rw [nonceSequence, tail, ofBe_toBe, small]
  exact UInt64.ofNat_toNat

/-! Replay slots. -/

def evictSlot (currentMs : UInt64) (slot : EpochRxSlot) : EpochRxSlot :=
  if slot.valid && slot.lastRxMs != 0 && saturatingSub currentMs slot.lastRxMs > rxEpochIdleMs then
    slot.clear
  else slot

def evictSlots (slots : RxSlots) (currentMs : UInt64) : RxSlots :=
  fun d i => evictSlot currentMs (slots d i)

/-- Replace one slot of one direction. -/
def setSlot (slots : RxSlots) (d : Direction) (i : Fin 2) (slot : EpochRxSlot) : RxSlots :=
  Function.update slots d (Function.update (slots d) i slot)

/-- Stamp the slot and feed its window, as each accepting branch of `commit_replay` does. -/
def EpochRxSlot.receive (slot : EpochRxSlot) (sequence : UInt64) (receivedAtMs : UInt64) :
    Bool × EpochRxSlot :=
  let fed := slot.window.accept sequence
  (fed.1, { slot with lastRxMs := receivedAtMs, window := fed.2 })

/-- The slot a first packet of `epoch` starts from. -/
def EpochRxSlot.fresh (epoch : UInt32) (receivedAtMs : UInt64) : EpochRxSlot :=
  ⟨epoch, ReplayWindow256.default, receivedAtMs, true⟩

/-- The first slot of the grace copy that tracks `epoch`. -/
def graceSlot (grace : SyncRxGrace) (d : Direction) (epoch : UInt32) : Option (Fin 2) :=
  if grace.valid then
    ([0, 1] : List (Fin 2)).find? fun i =>
      (grace.slots d i).valid && (grace.slots d i).epoch == epoch
  else none

namespace SecurePeer

def new (E : SecureEnv HS) (localPrivateKeyBase64 localPublicKeyBase64 : String)
    (serverPeerId : UInt32) (nowMs : UInt64) : Except String (SecurePeer HS) := do
  if serverPeerId = 0 then
    throw "server peer id must not be zero"
  let localPrivate ← decodeKey E localPrivateKeyBase64 "private"
  let configuredPublic ← decodeKey E localPublicKeyBase64 "public"
  if E.x25519Public localPrivate ≠ configuredPublic then
    throw "local_public_key does not match local_private_key"
  return {
    localPrivate
    localPublic := configuredPublic
    serverPeerId
    peerId := none
    networkName := none
    clientAlgorithm := none
    aSessionGeneration := none
    aConnId := none
    bConnId := none
    handshake := none
    proofChallenge := none
    networkSecret := none
    rootKey := none
    sessionKey := none
    sessionAttached := false
    sendEpoch := 0
    sendSeq := fun _ => 0
    sendEpochStartedMs := nowMs
    sendPacketsSinceEpoch := 0
    rxSlots := RxSlots.default
    syncRxGrace := SyncRxGrace.default
    decryptFailCount := 0
    authenticated := false }

/-- The in-memory effect of `load_session_state`. -/
def loadFrom (p : SecurePeer HS) (s : StoredSession) : SecurePeer HS :=
  { p with
    rootKey := some s.rootKey
    sendEpoch := s.nextEpoch
    sendSeq := s.sendSeq
    sendEpochStartedMs := s.sendEpochStartedMs
    sendPacketsSinceEpoch := s.sendPacketsSinceEpoch
    rxSlots := s.rxSlots
    syncRxGrace := s.syncRxGrace
    decryptFailCount := s.decryptFailCount }

/-- What `persist_session_state` writes into the stored session. -/
def saveTo (p : SecurePeer HS) (s : StoredSession) (nowMs : UInt64) : StoredSession :=
  { s with
    nextEpoch := p.sendEpoch
    sendSeq := p.sendSeq
    sendEpochStartedMs := p.sendEpochStartedMs
    sendPacketsSinceEpoch := p.sendPacketsSinceEpoch
    rxSlots := p.rxSlots
    syncRxGrace := p.syncRxGrace
    decryptFailCount := p.decryptFailCount
    lastTouchMs := nowMs }

def maybeRotateEpoch (p : SecurePeer HS) (currentMs : UInt64) : SecurePeer HS :=
  let packets := saturatingAdd p.sendPacketsSinceEpoch 1
  if packets < rotateAfterPackets &&
      saturatingSub currentMs p.sendEpochStartedMs < rotateAfterMs then
    { p with sendPacketsSinceEpoch := packets }
  else
    { p with
      sendEpoch := p.sendEpoch + 1
      sendEpochStartedMs := currentMs
      sendPacketsSinceEpoch := 0 }

def evictOldRxSlots (p : SecurePeer HS) (currentMs : UInt64) : SecurePeer HS :=
  { p with
    rxSlots := evictSlots p.rxSlots currentMs
    syncRxGrace :=
      if p.syncRxGrace.valid && currentMs ≥ p.syncRxGrace.expiresAtMs then SyncRxGrace.default
      else if p.syncRxGrace.valid then
        { p.syncRxGrace with slots := evictSlots p.syncRxGrace.slots currentMs }
      else p.syncRxGrace }

def precheckReplay (p : SecurePeer HS) (epoch : UInt32) (sequence : UInt64) (d : Direction) :
    Bool :=
  match graceSlot p.syncRxGrace d epoch with
  | some i => (p.syncRxGrace.slots d i).window.canAccept sequence
  | none =>
    let slots := p.rxSlots d
    if !(slots 0).valid then true
    else if (slots 0).epoch = epoch then (slots 0).window.canAccept sequence
    else if (slots 1).valid && (slots 1).epoch = epoch then (slots 1).window.canAccept sequence
    else if epoch > (slots 0).epoch then
      let newest := max p.sendEpoch (slots 0).epoch
      let baselineEpoch := if (slots 1).valid then max newest (slots 1).epoch else newest
      epoch ≤ saturatingAdd32 baselineEpoch maxAcceptedRxEpochAhead
    else false

def commitReplay (p : SecurePeer HS) (epoch : UInt32) (sequence : UInt64) (d : Direction)
    (receivedAtMs : UInt64) : Bool × SecurePeer HS :=
  match graceSlot p.syncRxGrace d epoch with
  | some i =>
    let (accepted, slot) := EpochRxSlot.receive (p.syncRxGrace.slots d i) sequence receivedAtMs
    (accepted, { p with
      syncRxGrace := { p.syncRxGrace with slots := setSlot p.syncRxGrace.slots d i slot } })
  | none =>
    let newest :=
      if (p.rxSlots d 0).valid then p.rxSlots d 0 else EpochRxSlot.fresh epoch receivedAtMs
    let slots := setSlot p.rxSlots d 0 newest
    if newest.epoch = epoch then
      let (accepted, slot) := EpochRxSlot.receive newest sequence receivedAtMs
      (accepted, { p with rxSlots := setSlot slots d 0 slot })
    else if (slots d 1).valid && (slots d 1).epoch = epoch then
      let (accepted, slot) := EpochRxSlot.receive (slots d 1) sequence receivedAtMs
      (accepted, { p with rxSlots := setSlot slots d 1 slot })
    else if epoch > newest.epoch then
      let (accepted, slot) :=
        EpochRxSlot.receive (EpochRxSlot.fresh epoch receivedAtMs) sequence receivedAtMs
      (accepted, { p with rxSlots := setSlot (setSlot slots d 1 newest) d 0 slot })
    else (false, { p with rxSlots := slots })

end SecurePeer

/-! Access to the object's own fields. -/

def getPeer : SecureM HS (SecurePeer HS) := do
  return (← get).peer

def setPeer (p : SecurePeer HS) : SecureM HS Unit :=
  modify fun c => { c with peer := p }

/-- Run a session-store operation, keeping its writes also when it fails. -/
def onStore {α : Type} (op : EStateM JsError SessionStore α) : SecureM HS α := fun c =>
  match op c.store with
  | .ok a store => .ok a { c with store }
  | .error e store => .error e { c with store }

/-- `Option::ok_or_else`. -/
def okOr {α : Type} (o : Option α) (message : String) : SecureM HS α :=
  match o with
  | some a => pure a
  | none => throw (.message message)

/-- `?` on a result of this crate's own functions. -/
def orThrow {α : Type} (r : Except String α) : SecureM HS α :=
  match r with
  | .ok a => pure a
  | .error text => throw (.message text)

/-- `map_err(display_error)?` on a result of a dependency. -/
def orDisplay {α : Type} (r : Except String α) : SecureM HS α :=
  match r with
  | .ok a => pure a
  | .error text => throw (.dependency text)

section Methods

variable (E : SecureEnv HS)

/-- `read_msg1`. -/
def readMsg1 (packet : Bytes) : SecureM HS Msg1Info := do
  let p ← getPeer
  if p.handshake.isSome || p.authenticated then
    throw (.message "handshake already started")
  let (header, payload) ← orThrow (splitPacket packet)
  if header.packetType ≠ packetNoiseMsg1 ∨ header.flags &&& encryptedFlag ≠ 0 then
    throw (.message "secure mode requires an unencrypted NoiseHandshakeMsg1")
  if header.fromPeerId = 0 ∨ header.fromPeerId = p.serverPeerId then
    throw (.message "invalid or conflicting client peer id")
  let responder ← orDisplay (E.buildResponder p.localPrivate)
  let (decoded, handshake) := E.readMessage responder payload
  let decoded ← orDisplay decoded
  let message ← orDisplay (E.decodeMsg1 decoded)
  if message.version ≠ easytierProtocolVersion then
    throw (.message "unsupported EasyTier secure handshake version")
  if message.aNetworkName.isEmpty ∨ message.aNetworkName.utf8ByteSize > 255 then
    throw (.message "invalid network_name")
  orThrow (validateAlgorithm message.clientEncryptionAlgorithm)
  setPeer { p with
    peerId := some header.fromPeerId
    networkName := some message.aNetworkName
    clientAlgorithm := some message.clientEncryptionAlgorithm
    aSessionGeneration := message.aSessionGeneration
    aConnId := message.aConnId
    handshake := some handshake }
  return {
    peerId := header.fromPeerId
    networkName := message.aNetworkName
    clientEncryptionAlgorithm := message.clientEncryptionAlgorithm }

/-- `attach_session`. -/
def attachSession (nowMs : UInt64) : SecureM HS Unit := do
  let p ← getPeer
  let key ← okOr p.sessionKey "secure session key is missing"
  let c ← get
  let session ← okOr (c.store.lookup key)
    "secure session disappeared while attaching connection"
  if session.attachments.toNat + 1 ≥ 2 ^ 32 then
    throw (.message "secure session attachment count exhausted")
  set ({
    peer := { p with sessionAttached := true }
    store := c.store.insert key
      { session with attachments := session.attachments + 1, lastTouchMs := nowMs } } : Ctx HS)

/-- `load_session_state`. -/
def loadSessionState : SecureM HS Unit := do
  let c ← get
  let key ← okOr c.peer.sessionKey "secure session key is missing"
  let session ← okOr (c.store.lookup key) "secure session disappeared while loading state"
  setPeer (c.peer.loadFrom session)

/-- `persist_session_state`. -/
def persistSessionState (nowMs : UInt64) : SecureM HS Unit := do
  let c ← get
  let key ← okOr c.peer.sessionKey "secure session key is missing"
  let session ← okOr (c.store.lookup key) "secure session disappeared while saving state"
  set { c with store := c.store.insert key (c.peer.saveTo session nowMs) }

/-- What the first half of `build_msg2` hands to the second. -/
structure Msg2Selection (HS : Type) where
  peerId : UInt32
  networkName : String
  handshake : HS
  proof : Bytes
  sessionKey : SessionKey
  session : SessionSelection

/-- `build_msg2` up to and including `upsert_session`. -/
def selectSession (networkSecret : String) (random32 : Except String Key) (upsertMs : UInt64) :
    SecureM HS (Msg2Selection HS) := do
  if networkSecret.isEmpty then
    throw (.message "network_secret must not be empty")
  let p ← getPeer
  if p.sessionKey.isSome then
    throw (.message "message 2 was already built")
  let peerId ← okOr p.peerId "message 1 not received"
  let networkName ← okOr p.networkName "message 1 has no network"
  let handshake ← okOr p.handshake "message 1 not received"
  let proof := secretProof E (utf8 networkSecret) (E.getHandshakeHash handshake)
  let sessionKey : SessionKey := ⟨networkName, peerId, p.serverPeerId, p.localPublic⟩
  let clientAlgorithm ← okOr p.clientAlgorithm "message 1 has no encryption algorithm"
  let session ← onStore
    (upsertSession sessionKey p.aSessionGeneration clientAlgorithm random32 upsertMs)
  return { peerId, networkName, handshake, proof, sessionKey, session }

/-- `build_msg2` from the draw of the connection id on. -/
def answerMsg1 (networkSecret : String) (randomUuid : Except String Uuid) (attachMs : UInt64)
    (selected : Msg2Selection HS) : SecureM HS Msg2 := do
  let p ← getPeer
  let session := selected.session
  let bConnId ← orDisplay randomUuid
  let message : NoiseMsg2 := {
    bNetworkName := selected.networkName
    roleHint := 1
    action := session.action
    bSessionGeneration := session.generation
    rootKey32 := session.rootKeyForPeer
    initialEpoch := session.initialEpoch
    bConnId := some bConnId
    aConnIdEcho := p.aConnId
    secretProof32 := some selected.proof
    serverEncryptionAlgorithm := "aes-gcm" }
  let (written, handshake) := E.writeMessage selected.handshake (E.encodeMsg2 message)
  setPeer { p with handshake := some handshake }
  let noiseMessage ← orDisplay written
  setPeer { p with
    handshake := some handshake
    proofChallenge := some (E.getHandshakeHash handshake)
    networkSecret := some (utf8 networkSecret)
    rootKey := some session.sessionRootKey
    sessionKey := some selected.sessionKey }
  attachSession attachMs
  loadSessionState
  modify fun c => { c with peer := { c.peer with bConnId := some bConnId } }
  return {
    message
    packet := wrapPacket p.serverPeerId selected.peerId packetNoiseMsg2 0 noiseMessage }

/-- The random draws of one `build_msg2` call, each of which may fail. -/
structure Msg2Draws where
  random32 : Except String Key
  randomUuid : Except String Uuid

/-- `build_msg2`; the clock is read once for the selection and once for the attachment. -/
def buildMsg2 (networkSecret : String) (draws : Msg2Draws) (upsertMs attachMs : UInt64) :
    SecureM HS Msg2 := do
  let selected ← selectSession E networkSecret draws.random32 upsertMs
  answerMsg1 E networkSecret draws.randomUuid attachMs selected

/-- `finish_msg3`. -/
def finishMsg3 (packet : Bytes) (nowMs : UInt64) : SecureM HS AuthInfo := do
  let (header, payload) ← orThrow (splitPacket packet)
  let p ← getPeer
  let peerId ← okOr p.peerId "message 1 not received"
  if header.packetType ≠ packetNoiseMsg3 ∨ header.fromPeerId ≠ peerId ∨
      header.toPeerId ≠ p.serverPeerId ∨ header.flags &&& encryptedFlag ≠ 0 then
    throw (.message "invalid NoiseHandshakeMsg3 envelope")
  -- `take` empties the field before anything is verified
  setPeer { p with handshake := none }
  let handshake ← okOr p.handshake "message 2 not sent"
  let (decoded, handshake) := E.readMessage handshake payload
  let decoded ← orDisplay decoded
  let message ← orDisplay (E.decodeMsg3 decoded)
  if message.aConnIdEcho ≠ p.aConnId ∨ message.bConnIdEcho ≠ p.bConnId then
    throw (.message "Noise connection id echo mismatch")
  let proof ← okOr message.secretProof32 "client did not provide a network-secret proof"
  let secret ← okOr p.networkSecret "network secret is not selected"
  let challenge ← okOr p.proofChallenge "proof challenge is missing"
  if secretProof E secret challenge ≠ proof then
    throw (.message "network-secret proof verification failed")
  let remotePublic ← okOr (E.getRemoteStatic handshake)
    "client Noise static public key is missing"
  let remotePublicKey ← okOr (keyOfBytes remotePublic)
    "client Noise static public key is missing"
  let sessionKey ← okOr p.sessionKey "secure session key is missing"
  onStore (confirmSessionPublicKey sessionKey remotePublicKey nowMs)
  setPeer { p with handshake := none, authenticated := true }
  return {
    peerId
    networkName := p.networkName.getD ""
    remotePublicKey := remotePublic
    authLevel := "NetworkSecretConfirmed" }

/-- `ensure_authenticated`. -/
def ensureAuthenticated : SecureM HS Unit := do
  let p ← getPeer
  if !(p.authenticated && p.rootKey.isSome) then
    throw (.message "secure session is not authenticated")

/-- `encrypt_payload`. -/
def encryptPayload (algorithm : String) (direction : Direction) (plaintext : Bytes)
    (nowMs : UInt64) : SecureM HS Bytes := do
  let p := (← getPeer).maybeRotateEpoch nowMs
  setPeer p
  let epoch := p.sendEpoch
  let sequence := p.sendSeq direction
  if sequence.toNat + 1 ≥ 2 ^ 64 then
    throw (.message "secure packet sequence exhausted")
  setPeer { p with sendSeq := Function.update p.sendSeq direction (sequence + 1) }
  let nonce := nonceBytes epoch sequence
  let rootKey ← okOr p.rootKey "root key is missing"
  let key := trafficKey E rootKey epoch direction
  let (ciphertext, tag) ← orThrow (sealPayload E algorithm key nonce plaintext)
  return ciphertext ++ tag ++ nonce

/-- `decrypt_payload`. -/
def decryptPayload (algorithm : String) (direction : Direction) (payload : Bytes)
    (nowMs : UInt64) : SecureM HS (Option Bytes) := do
  if payload.length < aeadTailSize then
    throw (.message "encrypted EasyTier payload is too short")
  let textLen := payload.length - aeadTailSize
  let tag := slice payload textLen (textLen + aeadTagSize)
  let nonce := payload.drop (textLen + aeadTagSize)
  let epoch := nonceEpoch nonce
  let sequence := nonceSequence nonce
  let p := (← getPeer).evictOldRxSlots nowMs
  setPeer p
  if !p.precheckReplay epoch sequence direction then
    return none
  let rootKey ← okOr p.rootKey "root key is missing"
  let key := trafficKey E rootKey epoch direction
  match openPayload E algorithm key nonce (payload.take textLen) tag with
  | .error text =>
    let failures := saturatingAdd32 p.decryptFailCount 1
    setPeer { p with decryptFailCount := failures }
    if failures ≥ decryptFailThreshold then
      throw (.message text)
    return none
  | .ok plaintext =>
    let (accepted, committed) :=
      { p with decryptFailCount := 0 }.commitReplay epoch sequence direction nowMs
    setPeer committed
    return if accepted then some plaintext else none

/-- Keep the outcome of a call as a value, with the state it left. -/
def attempt {α : Type} (op : SecureM HS α) : SecureM HS (Except JsError α) := fun c =>
  match op c with
  | .ok a c' => .ok (.ok a) c'
  | .error e c' => .ok (.error e) c'

/-- `?` on a kept outcome. -/
def release {α : Type} (r : Except JsError α) : SecureM HS α :=
  match r with
  | .ok a => pure a
  | .error e => throw e

/-- `decrypt_packet`; the clock is read once on receipt and once when the state is saved. -/
def decryptPacket (packet : Bytes) (receivedMs persistMs : UInt64) : SecureM HS Bytes := do
  ensureAuthenticated
  loadSessionState
  let (header, payload) ← orThrow (splitPacket packet)
  let p ← getPeer
  let peerId ← okOr p.peerId "called Option::unwrap on a None value"
  if header.fromPeerId ≠ peerId ∨ header.toPeerId ≠ p.serverPeerId then
    throw (.message "packet is not addressed over this direct session")
  if header.flags &&& encryptedFlag = 0 then
    return packet
  let algorithm := p.clientAlgorithm.getD "aes-gcm"
  let direction := directionIndex header.fromPeerId header.toPeerId
  let result ← attempt (decryptPayload E algorithm direction payload receivedMs)
  persistSessionState persistMs
  match ← release result with
  | none => return []
  | some plaintext =>
    return joinHeaderPayload { header with flags := header.flags &&& ~~~encryptedFlag } plaintext

/-- `encrypt_packet`; the clock is read once for the rotation and once when saving. -/
def encryptPacket (packet : Bytes) (rotateMs persistMs : UInt64) : SecureM HS Bytes := do
  ensureAuthenticated
  loadSessionState
  let (header, payload) ← orThrow (splitPacket packet)
  let p ← getPeer
  let peerId ← okOr p.peerId "called Option::unwrap on a None value"
  if header.fromPeerId ≠ p.serverPeerId ∨ header.toPeerId ≠ peerId then
    throw (.message "packet is not addressed over this direct session")
  if header.flags &&& encryptedFlag ≠ 0 then
    throw (.message "packet is already encrypted")
  let direction := directionIndex header.fromPeerId header.toPeerId
  let result ← attempt (encryptPayload E "aes-gcm" direction payload rotateMs)
  persistSessionState persistMs
  let encrypted ← release result
  return joinHeaderPayload { header with flags := header.flags ||| encryptedFlag } encrypted

end Methods

/-- `Drop for SecurePeer`: what dropping the object does to the store. -/
def dropPeer (p : SecurePeer HS) (store : SessionStore) (nowMs : UInt64) : SessionStore :=
  if !p.sessionAttached then store
  else
    match p.sessionKey with
    | none => store
    | some key =>
      FMap.modify store key fun session =>
        { session with
          attachments := saturatingSub32 session.attachments 1
          lastTouchMs := nowMs }

end EasyTierEdge.Secure.Peer
