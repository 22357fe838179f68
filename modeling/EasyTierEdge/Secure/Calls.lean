/- module: EasyTierEdge/Secure/Calls
   source: cloudflare/wasm/src/secure.rs, the methods of SecurePeer
   digest: For each method, everything a call can do to the object and to the store. -/

import EasyTierEdge.Secure.Connections

set_option autoImplicit false
set_option relaxedAutoImplicit false

namespace EasyTierEdge.Secure.Calls

open Lib.Fallible Lib.FiniteMap
open Packet (Bytes PacketHeader splitPacket joinHeaderPayload wrapPacket encryptedFlag)
open Session Peer Connections

variable {HS : Type} {α : Type} {c : Ctx HS}

/-! Postconditions of the helpers of `SecureM`. -/

section Helpers

variable {ok : α → Ctx HS → Prop} {err : JsError → Ctx HS → Prop}

@[simp] theorem ensures_getPeer {ok : SecurePeer HS → Ctx HS → Prop} :
    Ensures getPeer c ok err ↔ ok c.peer c := by
  unfold getPeer
  simp only [ensures_bind, ensures_get, ensures_pure]

@[simp] theorem ensures_setPeer {ok : PUnit → Ctx HS → Prop} (p : SecurePeer HS) :
    Ensures (setPeer p) c ok err ↔ ok ⟨⟩ { c with peer := p } := by
  simp [setPeer]

@[simp] theorem ensures_onStore (op : EStateM JsError SessionStore α) :
    Ensures (onStore op) c ok err ↔
      Ensures op c.store (fun a store => ok a { c with store })
        (fun e store => err e { c with store }) := by
  unfold Ensures onStore
  cases op c.store with
  | ok a store => rfl
  | error e store => rfl

@[simp] theorem ensures_okOr (o : Option α) (message : String) :
    Ensures (okOr o message) c ok err ↔
      (∀ a, o = some a → ok a c) ∧ (o = none → err (.message message) c) := by
  cases o with
  | none => simp [okOr]
  | some a => simp [okOr]

@[simp] theorem ensures_orThrow (r : Except String α) :
    Ensures (orThrow r) c ok err ↔
      (∀ a, r = .ok a → ok a c) ∧ (∀ text, r = .error text → err (.message text) c) := by
  cases r with
  | error text => simp [orThrow]
  | ok a => simp [orThrow]

@[simp] theorem ensures_orDisplay (r : Except String α) :
    Ensures (orDisplay r) c ok err ↔
      (∀ a, r = .ok a → ok a c) ∧ (∀ text, r = .error text → err (.dependency text) c) := by
  cases r with
  | error text => simp [orDisplay]
  | ok a => simp [orDisplay]

@[simp] theorem ensures_attempt {ok : Except JsError α → Ctx HS → Prop} (op : SecureM HS α) :
    Ensures (attempt op) c ok err ↔
      Ensures op c (fun a c' => ok (.ok a) c') (fun e c' => ok (.error e) c') := by
  unfold Ensures attempt
  cases op c with
  | ok a c' => rfl
  | error e c' => rfl

end Helpers

/-! Errors that report a session missing from the store. -/

def disappeared (e : JsError) : Prop :=
  e ∈ [JsError.message "secure session disappeared while attaching connection",
    JsError.message "secure session disappeared while loading state",
    JsError.message "secure session disappeared while saving state",
    JsError.message "secure session disappeared during authentication"]

private theorem not_disappeared_of_head {text : String} (head : text.toList.head? ≠ some 's') :
    ¬ disappeared (.message text) := by
  intro h
  apply head
  simp only [disappeared, List.mem_cons, List.not_mem_nil, or_false,
    JsError.message.injEq] at h
  rcases h with rfl | rfl | rfl | rfl <;> rfl

theorem not_disappeared_dependency (text : String) : ¬ disappeared (.dependency text) := by
  simp [disappeared]

private theorem not_disappeared_split {bytes : Bytes} {text : String}
    (h : splitPacket bytes = .error text) : ¬ disappeared (.message text) := by
  apply not_disappeared_of_head
  rcases Packet.parsePacket_error (Packet.splitPacket_error h) with rfl | ⟨n, m, rfl⟩
  · simp [toString]
  · simp [toString]

private theorem not_disappeared_algorithm {value text : String}
    (h : normalizedAlgorithm value = .error text) : ¬ disappeared (.message text) := by
  unfold normalizedAlgorithm at h
  split at h
  · cases h
  split at h
  · cases h
  split at h
  · cases h
  cases h
  simp [disappeared]

private theorem not_disappeared_validate {value text : String}
    (h : validateAlgorithm value = .error text) : ¬ disappeared (.message text) := by
  unfold validateAlgorithm at h
  cases normalized : normalizedAlgorithm value with
  | ok algorithm => simp [normalized, bind, Except.bind, pure, Except.pure] at h
  | error e =>
    simp only [normalized, bind, Except.bind, Except.error.injEq] at h
    exact h ▸ not_disappeared_algorithm normalized

private theorem not_disappeared_seal {E : SecureEnv HS} {algorithm text : String} {key : Key}
    {nonce plaintext : Bytes} (h : sealPayload E algorithm key nonce plaintext = .error text) :
    ¬ disappeared (.message text) := by
  unfold sealPayload at h
  cases normalized : normalizedAlgorithm algorithm with
  | error e =>
    simp only [normalized, bind, Except.bind, Except.error.injEq] at h
    exact h ▸ not_disappeared_algorithm normalized
  | ok normal =>
    simp only [normalized, bind, Except.bind] at h
    split at h
    · simp [pure, Except.pure] at h
    · cases h
      cases normal <;> simp [disappeared, encryptionFailed]

private theorem not_disappeared_open {E : SecureEnv HS} {algorithm text : String} {key : Key}
    {nonce ciphertext tag : Bytes}
    (h : openPayload E algorithm key nonce ciphertext tag = .error text) :
    ¬ disappeared (.message text) := by
  unfold openPayload at h
  cases normalized : normalizedAlgorithm algorithm with
  | error e =>
    simp only [normalized, bind, Except.bind, Except.error.injEq] at h
    exact h ▸ not_disappeared_algorithm normalized
  | ok normal =>
    simp only [normalized, bind, Except.bind] at h
    split at h
    · simp [pure, Except.pure] at h
    · cases h
      simp [disappeared]

/-! `upsert_session` and `confirm_session_public_key`. -/

/-- The three selections `upsert_session` makes in the swept store, each with the session it
leaves under the key. -/
inductive Chosen (key : SessionKey) (aSessionGeneration : Option UInt32)
    (clientAlgorithm : String) (random32 : Except String Key) (currentMs : UInt64)
    (swept : SessionStore) : SessionSelection → StoredSession → Prop
  | join (s : StoredSession) (present : swept.lookup key = some s)
      (algorithm : s.clientAlgorithm = clientAlgorithm)
      (agreed : aSessionGeneration = some s.generation) :
      Chosen key aSessionGeneration clientAlgorithm random32 currentMs swept
        { action := .join
          generation := s.generation
          rootKeyForPeer := none
          sessionRootKey := s.rootKey
          initialEpoch := 0 }
        (s.joined currentMs)
  | sync (s : StoredSession) (present : swept.lookup key = some s)
      (algorithm : s.clientAlgorithm = clientAlgorithm)
      (differs : aSessionGeneration ≠ some s.generation) :
      Chosen key aSessionGeneration clientAlgorithm random32 currentMs swept
        { action := .sync
          generation := s.generation
          rootKeyForPeer := some s.rootKey
          sessionRootKey := s.rootKey
          initialEpoch := (s.synced currentMs).nextEpoch }
        (s.synced currentMs)
  | create (rootKey : Key) (absent : swept.lookup key = none)
      (room : FMap.size swept < maxStoredSessions) (drawn : random32 = .ok rootKey) :
      Chosen key aSessionGeneration clientAlgorithm random32 currentMs swept
        { action := .create
          generation := 1
          rootKeyForPeer := some rootKey
          sessionRootKey := rootKey
          initialEpoch := 0 }
        (StoredSession.created rootKey clientAlgorithm currentMs)

private theorem upsertSession_cases (key : SessionKey) (aSessionGeneration : Option UInt32)
    (clientAlgorithm : String) (random32 : Except String Key) (currentMs : UInt64)
    (store : SessionStore) :
    Ensures (upsertSession key aSessionGeneration clientAlgorithm random32 currentMs) store
      (fun session store' => ∃ s, store' = (sweep currentMs store).insert key s ∧
        Chosen key aSessionGeneration clientAlgorithm random32 currentMs (sweep currentMs store)
          session s)
      (fun e store' => store' = sweep currentMs store ∧ ¬ disappeared e) := by
  simp only [upsertSession, ensures_bind, ensures_modify, ensures_get]
  cases present : (sweep currentMs store).lookup key with
  | some s =>
    simp only [ensures_bind, ensures_ite, ensures_throw, ensures_set, ensures_pure]
    refine ⟨fun _ => ⟨trivial, by simp [disappeared]⟩, fun same => ?_⟩
    have algorithm : s.clientAlgorithm = clientAlgorithm := not_not.mp same
    refine ⟨fun agreed => ⟨_, rfl, .join s present algorithm agreed⟩, fun differs => ?_⟩
    exact ⟨_, rfl, .sync s present algorithm differs⟩
  | none =>
    simp only [ensures_bind, ensures_ite, ensures_throw, ensures_set, ensures_pure]
    refine ⟨fun _ => ⟨trivial, by simp [disappeared]⟩, fun full => ?_⟩
    cases drawn : random32 with
    | error e => exact ⟨rfl, not_disappeared_dependency e⟩
    | ok rootKey => exact ⟨_, rfl, .create rootKey present (Nat.lt_of_not_le full) rfl⟩

private theorem confirmSessionPublicKey_cases (key : SessionKey) (remotePublicKey : Key)
    (nowMs : UInt64) (store : SessionStore) :
    Ensures (confirmSessionPublicKey key remotePublicKey nowMs) store
      (fun _ store' => ∃ s, store.lookup key = some s ∧
        (s.remotePublicKey = none ∨ s.remotePublicKey = some remotePublicKey) ∧
        store' = store.insert key
          { s with remotePublicKey := some remotePublicKey, lastTouchMs := nowMs })
      (fun e store' => store' = store ∧ (disappeared e → store.lookup key = none)) := by
  simp only [confirmSessionPublicKey, ensures_bind, ensures_get]
  cases present : store.lookup key with
  | none =>
    rw [ensures_throw]
    exact ⟨rfl, fun _ => rfl⟩
  | some s =>
    simp only [ensures_bind, ensures_ite, ensures_throw, ensures_set]
    refine ⟨fun _ => ⟨trivial, by simp [disappeared]⟩, fun same => ?_⟩
    refine ⟨s, rfl, ?_, rfl⟩
    cases pinned : s.remotePublicKey with
    | none => exact Or.inl rfl
    | some current =>
      right
      simpa [pinned] using same

variable (E : SecureEnv HS)

/-! The constructor. -/

/-- A new object has no handshake, no session and no authentication. -/
structure Unused (p : SecurePeer HS) : Prop where
  peerId : p.peerId = none
  aSessionGeneration : p.aSessionGeneration = none
  handshake : p.handshake = none
  proofChallenge : p.proofChallenge = none
  networkSecret : p.networkSecret = none
  rootKey : p.rootKey = none
  sessionKey : p.sessionKey = none
  sessionAttached : p.sessionAttached = false
  authenticated : p.authenticated = false

theorem new_unused {privateKey publicKey : String} {serverPeerId : UInt32} {nowMs : UInt64}
    {p : SecurePeer HS} (made : SecurePeer.new E privateKey publicKey serverPeerId nowMs = .ok p) :
    Unused p := by
  simp only [SecurePeer.new, bind, Except.bind, pure, Except.pure] at made
  split at made
  · cases made
  split at made
  · cases made
  split at made
  · cases made
  split at made
  · cases made
  · cases made
    exact ⟨rfl, rfl, rfl, rfl, rfl, rfl, rfl, rfl, rfl⟩

/-! `read_msg1`. -/

inductive ReadMsg1 (packet : Bytes) (c : Ctx HS) :
    EStateM.Result JsError (Ctx HS) Msg1Info → Prop
  | refused (e : JsError) (other : ¬ disappeared e) : ReadMsg1 packet c (.error e c)
  | read (header : PacketHeader) (payload decoded : Bytes) (responder handshake : HS)
      (message : NoiseMsg1)
      (idle : c.peer.handshake = none) (unauthenticated : c.peer.authenticated = false)
      (split : splitPacket packet = .ok (header, payload))
      (built : E.buildResponder c.peer.localPrivate = .ok responder)
      (noise : E.readMessage responder payload = (.ok decoded, handshake))
      (parsed : E.decodeMsg1 decoded = .ok message) :
      ReadMsg1 packet c (.ok
        { peerId := header.fromPeerId
          networkName := message.aNetworkName
          clientEncryptionAlgorithm := message.clientEncryptionAlgorithm }
        { c with peer := { c.peer with
            peerId := some header.fromPeerId
            networkName := some message.aNetworkName
            clientAlgorithm := some message.clientEncryptionAlgorithm
            aSessionGeneration := message.aSessionGeneration
            aConnId := message.aConnId
            handshake := some handshake } })

theorem readMsg1_cases (packet : Bytes) (c : Ctx HS) :
    ReadMsg1 E packet c (Peer.readMsg1 E packet c) := by
  apply ensures_result
  simp only [Peer.readMsg1, ensures_bind, ensures_getPeer, ensures_ite, ensures_throw,
    ensures_pure, ensures_orThrow, ensures_orDisplay, ensures_setPeer]
  refine ⟨fun _ => .refused _ (by simp [disappeared]), fun fresh => ?_⟩
  have fresh : c.peer.handshake = none ∧ c.peer.authenticated = false := by simpa using fresh
  refine ⟨?_, fun text h => .refused _ (not_disappeared_split h)⟩
  rintro ⟨header, payload⟩ split
  refine ⟨fun _ => .refused _ (by simp [disappeared]), fun _ => ?_⟩
  refine ⟨fun _ => .refused _ (by simp [disappeared]), fun _ => ?_⟩
  refine ⟨fun responder built => ?_, fun text _ => .refused _ (not_disappeared_dependency text)⟩
  refine ⟨fun decoded noise => ?_, fun text _ => .refused _ (not_disappeared_dependency text)⟩
  refine ⟨fun message parsed => ?_, fun text _ => .refused _ (not_disappeared_dependency text)⟩
  refine ⟨fun _ => .refused _ (by simp [disappeared]), fun _ => ?_⟩
  refine ⟨fun _ => .refused _ (by simp [disappeared]), fun _ => ?_⟩
  refine ⟨fun _ _ => ?_, fun text h => .refused _ (not_disappeared_validate h)⟩
  exact .read header payload decoded responder _ message fresh.1 fresh.2 split built
    (Prod.ext noise rfl) parsed

/-! `attach_session`, `load_session_state` and `persist_session_state`. -/

/-- The session once another connection is attached. -/
def attachedSession (s : StoredSession) (nowMs : UInt64) : StoredSession :=
  { s with attachments := s.attachments + 1, lastTouchMs := nowMs }

private theorem attachSession_cases {key : SessionKey} {s : StoredSession} (nowMs : UInt64)
    (bound : c.peer.sessionKey = some key) (present : c.store.lookup key = some s) :
    Ensures (attachSession nowMs) c
      (fun _ c' => s.attachments.toNat + 1 < 2 ^ 32 ∧
        c' = ⟨{ c.peer with sessionAttached := true },
          c.store.insert key (attachedSession s nowMs)⟩)
      (fun e c' => s.attachments.toNat + 1 ≥ 2 ^ 32 ∧ c' = c ∧ ¬ disappeared e) := by
  simp only [attachSession, ensures_bind, ensures_getPeer, ensures_get, bound, present, okOr,
    ensures_pure, ensures_ite, ensures_throw, ensures_set]
  refine ⟨fun full => ⟨full, trivial, by simp [disappeared]⟩, fun room => ⟨?_, rfl⟩⟩
  exact Nat.lt_of_not_le room

private theorem loadSessionState_present {key : SessionKey} {s : StoredSession}
    (bound : c.peer.sessionKey = some key) (present : c.store.lookup key = some s) :
    Ensures loadSessionState c
      (fun _ c' => c' = { c with peer := c.peer.loadFrom s }) (fun _ _ => False) := by
  simp only [loadSessionState, ensures_bind, ensures_get, bound, present, okOr, ensures_pure,
    ensures_setPeer]

private theorem loadSessionState_absent {key : SessionKey} (bound : c.peer.sessionKey = some key)
    (absent : c.store.lookup key = none) :
    Ensures loadSessionState c (fun _ _ => False) (fun _ c' => c' = c) := by
  simp only [loadSessionState, ensures_bind, ensures_get, bound, absent, okOr, ensures_pure,
    ensures_throw]

private theorem loadSessionState_unbound (unbound : c.peer.sessionKey = none) :
    Ensures loadSessionState c (fun _ _ => False) (fun e c' => c' = c ∧ ¬ disappeared e) := by
  simp only [loadSessionState, ensures_bind, ensures_get, unbound, okOr, ensures_throw]
  exact ⟨trivial, by simp [disappeared]⟩

private theorem persistSessionState_present (p : SecurePeer HS) (store : SessionStore)
    {key : SessionKey} {s : StoredSession} (nowMs : UInt64) (bound : p.sessionKey = some key)
    (present : store.lookup key = some s) :
    Ensures (persistSessionState nowMs) ⟨p, store⟩
      (fun _ c' => c' = ⟨p, store.insert key (p.saveTo s nowMs)⟩) (fun _ _ => False) := by
  simp only [persistSessionState, ensures_bind, ensures_get, bound, present, okOr, ensures_pure,
    ensures_set]

/-! `build_msg2`. -/

/-- What `build_msg2` has settled once `upsert_session` has answered: every field it needs was
set by message 1, and `s` is the session now stored under the key. -/
structure Settled (networkSecret : String) (random32 : Except String Key) (upsertMs : UInt64)
    (c : Ctx HS) (sel : Msg2Selection HS) (s : StoredSession) : Prop where
  unbuilt : c.peer.sessionKey = none
  peerId : c.peer.peerId = some sel.peerId
  networkName : c.peer.networkName = some sel.networkName
  handshake : c.peer.handshake = some sel.handshake
  sessionKey : sel.sessionKey =
    ⟨sel.networkName, sel.peerId, c.peer.serverPeerId, c.peer.localPublic⟩
  chosen : ∃ clientAlgorithm, c.peer.clientAlgorithm = some clientAlgorithm ∧
    Chosen sel.sessionKey c.peer.aSessionGeneration clientAlgorithm random32 upsertMs
      (sweep upsertMs c.store) sel.session s

/-- The selection of one `build_msg2` call. -/
structure Selected (networkSecret : String) (random32 : Except String Key) (upsertMs : UInt64)
    (c : Ctx HS) (sel : Msg2Selection HS) (s : StoredSession) : Prop
    extends Settled networkSecret random32 upsertMs c sel s where
  ran : selectSession E networkSecret random32 upsertMs c =
    .ok sel { c with store := (sweep upsertMs c.store).insert sel.sessionKey s }

private theorem selectSession_settled (networkSecret : String) (random32 : Except String Key)
    (upsertMs : UInt64) (c : Ctx HS) :
    Ensures (selectSession E networkSecret random32 upsertMs) c
      (fun sel c' => ∃ s, Settled networkSecret random32 upsertMs c sel s ∧
        c' = { c with store := (sweep upsertMs c.store).insert sel.sessionKey s })
      (fun e c' => ¬ disappeared e ∧
        (c' = c ∨ c' = { c with store := sweep upsertMs c.store })) := by
  simp only [selectSession, ensures_bind, ensures_getPeer, ensures_ite, ensures_throw,
    ensures_pure, ensures_okOr, ensures_onStore]
  refine ⟨fun _ => ⟨by simp [disappeared], Or.inl trivial⟩, fun _ => ?_⟩
  refine ⟨fun _ => ⟨by simp [disappeared], Or.inl trivial⟩, fun unbuilt => ?_⟩
  refine ⟨fun peerId peerId_eq => ?_, fun _ => ⟨by simp [disappeared], Or.inl trivial⟩⟩
  refine ⟨fun networkName networkName_eq => ?_,
    fun _ => ⟨by simp [disappeared], Or.inl trivial⟩⟩
  refine ⟨fun handshake handshake_eq => ?_, fun _ => ⟨by simp [disappeared], Or.inl trivial⟩⟩
  refine ⟨fun algorithm algorithm_eq => ?_, fun _ => ⟨by simp [disappeared], Or.inl trivial⟩⟩
  refine (upsertSession_cases _ _ _ _ _ _).mono ?_ ?_
  · rintro session store' ⟨s, rfl, chosen⟩
    refine ⟨s, ⟨by simpa using unbuilt, peerId_eq, networkName_eq, handshake_eq, rfl, algorithm,
      algorithm_eq, chosen⟩, rfl⟩
  · rintro e store' ⟨rfl, other⟩
    exact ⟨other, Or.inr rfl⟩

theorem selectSession_cases (networkSecret : String) (random32 : Except String Key)
    (upsertMs : UInt64) (c : Ctx HS) :
    Ensures (selectSession E networkSecret random32 upsertMs) c
      (fun sel c' => ∃ s, Selected E networkSecret random32 upsertMs c sel s ∧
        c' = { c with store := (sweep upsertMs c.store).insert sel.sessionKey s })
      (fun e c' => ¬ disappeared e ∧
        (c' = c ∨ c' = { c with store := sweep upsertMs c.store })) := by
  refine (selectSession_settled E networkSecret random32 upsertMs c).ran.mono ?_ ?_
  · rintro sel c' ⟨⟨s, settled, rfl⟩, ran⟩
    exact ⟨s, ⟨settled, ran⟩, rfl⟩
  · rintro e c' ⟨why, _⟩
    exact why

/-- The plain text of message 2. -/
def msg2 (p : SecurePeer HS) (sel : Msg2Selection HS) (bConnId : Uuid) : NoiseMsg2 where
  bNetworkName := sel.networkName
  roleHint := 1
  action := sel.session.action
  bSessionGeneration := sel.session.generation
  rootKey32 := sel.session.rootKeyForPeer
  initialEpoch := sel.session.initialEpoch
  bConnId := some bConnId
  aConnIdEcho := p.aConnId
  secretProof32 := some sel.proof
  serverEncryptionAlgorithm := "aes-gcm"

/-- The object once message 2 is written. -/
def writtenPeer (p : SecurePeer HS) (networkSecret : String) (sel : Msg2Selection HS)
    (handshake : HS) : SecurePeer HS :=
  { p with
    handshake := some handshake
    proofChallenge := some (E.getHandshakeHash handshake)
    networkSecret := some (utf8 networkSecret)
    rootKey := some sel.session.sessionRootKey
    sessionKey := some sel.sessionKey }

/-- The object once message 2 is answered. -/
def answeredPeer (p : SecurePeer HS) (networkSecret : String) (sel : Msg2Selection HS)
    (handshake : HS) (bConnId : Uuid) (s : StoredSession) : SecurePeer HS :=
  { ({ writtenPeer E p networkSecret sel handshake with sessionAttached := true }.loadFrom s) with
    bConnId := some bConnId }

inductive BuildMsg2 (networkSecret : String) (draws : Msg2Draws) (upsertMs attachMs : UInt64)
    (c : Ctx HS) : EStateM.Result JsError (Ctx HS) Msg2 → Prop
  | refused (e : JsError) (other : ¬ disappeared e) :
      BuildMsg2 networkSecret draws upsertMs attachMs c (.error e c)
  | unselected (e : JsError) (other : ¬ disappeared e) :
      BuildMsg2 networkSecret draws upsertMs attachMs c
        (.error e { c with store := sweep upsertMs c.store })
  | unwritten (sel : Msg2Selection HS) (s : StoredSession) (handshake : HS) (text : String)
      (selected : Selected E networkSecret draws.random32 upsertMs c sel s)
      (turn : handshake = sel.handshake ∨ ∃ plaintext,
        E.writeMessage sel.handshake plaintext = (.error text, handshake)) :
      BuildMsg2 networkSecret draws upsertMs attachMs c (.error (.dependency text)
        ⟨{ c.peer with handshake := some handshake },
          (sweep upsertMs c.store).insert sel.sessionKey s⟩)
  | exhausted (sel : Msg2Selection HS) (s : StoredSession) (handshake : HS) (e : JsError)
      (selected : Selected E networkSecret draws.random32 upsertMs c sel s)
      (full : s.attachments.toNat + 1 ≥ 2 ^ 32) (other : ¬ disappeared e) :
      BuildMsg2 networkSecret draws upsertMs attachMs c (.error e
        ⟨writtenPeer E c.peer networkSecret sel handshake,
          (sweep upsertMs c.store).insert sel.sessionKey s⟩)
  | answered (sel : Msg2Selection HS) (s : StoredSession) (handshake : HS) (bConnId : Uuid)
      (noiseMessage : Bytes)
      (selected : Selected E networkSecret draws.random32 upsertMs c sel s)
      (room : s.attachments.toNat + 1 < 2 ^ 32)
      (drawn : draws.randomUuid = .ok bConnId)
      (written : E.writeMessage sel.handshake (E.encodeMsg2 (msg2 c.peer sel bConnId)) =
        (.ok noiseMessage, handshake)) :
      BuildMsg2 networkSecret draws upsertMs attachMs c (.ok
        { message := msg2 c.peer sel bConnId
          packet := wrapPacket c.peer.serverPeerId sel.peerId packetNoiseMsg2 0 noiseMessage }
        ⟨answeredPeer E c.peer networkSecret sel handshake bConnId (attachedSession s attachMs),
          (sweep upsertMs c.store).insert sel.sessionKey (attachedSession s attachMs)⟩)

theorem buildMsg2_cases (networkSecret : String) (draws : Msg2Draws) (upsertMs attachMs : UInt64)
    (c : Ctx HS) :
    BuildMsg2 E networkSecret draws upsertMs attachMs c
      (Peer.buildMsg2 E networkSecret draws upsertMs attachMs c) := by
  apply ensures_result
  unfold Peer.buildMsg2
  rw [ensures_bind]
  refine (selectSession_cases E networkSecret draws.random32 upsertMs c).mono ?_ ?_
  · rintro sel c' ⟨s, selected, rfl⟩
    simp only [answerMsg1, ensures_bind, ensures_getPeer, ensures_orDisplay, ensures_setPeer]
    refine ⟨fun bConnId drawn => ?_, fun text _ => ?_⟩
    · refine ⟨fun noiseMessage written => ?_, fun text failed => ?_⟩
      · have present : ((sweep upsertMs c.store).insert sel.sessionKey s).lookup
            sel.sessionKey = some s := Finmap.lookup_insert _
        refine (attachSession_cases attachMs rfl present).mono ?_ ?_
        · rintro _ _ ⟨room, rfl⟩
          refine (loadSessionState_present rfl (Finmap.lookup_insert _)).mono ?_ ?_
          · rintro _ _ rfl
            rw [ensures_modify, ensures_pure, Finmap.insert_insert]
            exact .answered sel s _ bConnId noiseMessage selected room drawn
              (Prod.ext written rfl)
          · intro _ _ never
            exact never.elim
        · rintro e _ ⟨full, rfl, other⟩
          exact .exhausted sel s _ e selected full other
      · exact .unwritten sel s _ text selected (Or.inr ⟨_, Prod.ext failed rfl⟩)
    · have kept : c.peer = { c.peer with handshake := some sel.handshake } := by
        rw [← selected.handshake]
      rw [kept]
      exact .unwritten sel s sel.handshake text selected (Or.inl rfl)
  · rintro e c' ⟨other, rfl | rfl⟩
    · exact .refused e other
    · exact .unselected e other

/-! `finish_msg3`. -/

inductive FinishMsg3 (packet : Bytes) (nowMs : UInt64) (c : Ctx HS) :
    EStateM.Result JsError (Ctx HS) AuthInfo → Prop
  | refused (e : JsError) (other : ¬ disappeared e) : FinishMsg3 packet nowMs c (.error e c)
  | failed (e : JsError)
      (unstored : disappeared e →
        ∃ key, c.peer.sessionKey = some key ∧ c.store.lookup key = none) :
      FinishMsg3 packet nowMs c (.error e { c with peer := { c.peer with handshake := none } })
  | finished (header : PacketHeader) (payload decoded : Bytes) (turn handshake : HS)
      (message : NoiseMsg3) (proof secret challenge remotePublic : Bytes)
      (remotePublicKey : Key) (key : SessionKey) (s : StoredSession)
      (split : splitPacket packet = .ok (header, payload))
      (sender : c.peer.peerId = some header.fromPeerId)
      (ready : c.peer.handshake = some turn)
      (noise : E.readMessage turn payload = (.ok decoded, handshake))
      (parsed : E.decodeMsg3 decoded = .ok message)
      (echoA : message.aConnIdEcho = c.peer.aConnId)
      (echoB : message.bConnIdEcho = c.peer.bConnId)
      (given : message.secretProof32 = some proof)
      (chosen : c.peer.networkSecret = some secret)
      (challenged : c.peer.proofChallenge = some challenge)
      (verified : secretProof E secret challenge = proof)
      (static : E.getRemoteStatic handshake = some remotePublic)
      (sized : keyOfBytes remotePublic = some remotePublicKey)
      (bound : c.peer.sessionKey = some key)
      (present : c.store.lookup key = some s)
      (pinned : s.remotePublicKey = none ∨ s.remotePublicKey = some remotePublicKey) :
      FinishMsg3 packet nowMs c (.ok
        { peerId := header.fromPeerId
          networkName := c.peer.networkName.getD ""
          remotePublicKey := remotePublic
          authLevel := "NetworkSecretConfirmed" }
        ⟨{ c.peer with handshake := none, authenticated := true },
          c.store.insert key
            { s with remotePublicKey := some remotePublicKey, lastTouchMs := nowMs }⟩)

theorem finishMsg3_cases (packet : Bytes) (nowMs : UInt64) (c : Ctx HS) :
    FinishMsg3 E packet nowMs c (Peer.finishMsg3 E packet nowMs c) := by
  apply ensures_result
  simp only [Peer.finishMsg3, ensures_bind, ensures_getPeer, ensures_ite, ensures_throw,
    ensures_pure, ensures_okOr, ensures_orThrow, ensures_orDisplay, ensures_setPeer,
    ensures_onStore]
  refine ⟨?_, fun text h => .refused _ (not_disappeared_split h)⟩
  rintro ⟨header, payload⟩ split
  refine ⟨fun peerId sender => ?_, fun _ => .refused _ (by simp [disappeared])⟩
  refine ⟨fun _ => .refused _ (by simp [disappeared]), fun envelope => ?_⟩
  have from_eq : header.fromPeerId = peerId := by
    by_contra differs
    exact envelope (Or.inr (Or.inl differs))
  -- the handshake is gone from here on
  refine ⟨fun turn ready => ?_, fun _ => .failed _ (by simp [disappeared])⟩
  refine ⟨fun decoded noise => ?_,
    fun text _ => .failed _ (fun h => absurd h (not_disappeared_dependency text))⟩
  refine ⟨fun message parsed => ?_,
    fun text _ => .failed _ (fun h => absurd h (not_disappeared_dependency text))⟩
  refine ⟨fun _ => .failed _ (by simp [disappeared]), fun echoes => ?_⟩
  have echoes : message.aConnIdEcho = c.peer.aConnId ∧ message.bConnIdEcho = c.peer.bConnId := by
    constructor
    · by_contra differs
      exact echoes (Or.inl differs)
    · by_contra differs
      exact echoes (Or.inr differs)
  refine ⟨fun proof given => ?_, fun _ => .failed _ (by simp [disappeared])⟩
  refine ⟨fun secret chosen => ?_, fun _ => .failed _ (by simp [disappeared])⟩
  refine ⟨fun challenge challenged => ?_, fun _ => .failed _ (by simp [disappeared])⟩
  refine ⟨fun _ => .failed _ (by simp [disappeared]), fun verified => ?_⟩
  refine ⟨fun remotePublic static => ?_, fun _ => .failed _ (by simp [disappeared])⟩
  refine ⟨fun remotePublicKey sized => ?_, fun _ => .failed _ (by simp [disappeared])⟩
  refine ⟨fun key bound => ?_, fun _ => .failed _ (by simp [disappeared])⟩
  refine (confirmSessionPublicKey_cases key remotePublicKey nowMs c.store).mono ?_ ?_
  · rintro _ _ ⟨s, present, pinned, rfl⟩
    subst from_eq
    exact .finished header payload decoded turn _ message proof secret challenge remotePublic
      remotePublicKey key s split sender ready (Prod.ext noise rfl) parsed echoes.1 echoes.2 given
      chosen challenged (not_not.mp verified) static sized bound present pinned
  · rintro e _ ⟨rfl, unstored⟩
    exact .failed e (fun h => ⟨key, bound, unstored h⟩)

/-! `encrypt_packet`. -/

/-- The object after the sequence counter of `d` has moved. -/
def advanced (p : SecurePeer HS) (d : Direction) : SecurePeer HS :=
  { p with sendSeq := Function.update p.sendSeq d (p.sendSeq d + 1) }

/-- Why a packet call stops before it works on the session: the object is untouched, or only
holds a fresh copy of the session it is bound to. -/
inductive Stopped (c : Ctx HS) : JsError → Ctx HS → Prop
  | refused (e : JsError) (other : ¬ disappeared e) : Stopped c e c
  | unstored (e : JsError) (key : SessionKey) (authenticated : c.peer.authenticated = true)
      (bound : c.peer.sessionKey = some key) (absent : c.store.lookup key = none) :
      Stopped c e c
  | loaded (e : JsError) (key : SessionKey) (s : StoredSession)
      (bound : c.peer.sessionKey = some key) (present : c.store.lookup key = some s)
      (other : ¬ disappeared e) :
      Stopped c e { c with peer := c.peer.loadFrom s }

/-- A packet call that has loaded session `s` of `key` and accepted the envelope. -/
structure Loaded (c : Ctx HS) (packet : Bytes) (key : SessionKey) (s : StoredSession)
    (header : PacketHeader) (payload : Bytes) : Prop where
  authenticated : c.peer.authenticated = true
  bound : c.peer.sessionKey = some key
  present : c.store.lookup key = some s
  split : splitPacket packet = .ok (header, payload)

/-- The part both packet calls share: either they stop, or the rest runs on the loaded object
with the header. -/
private theorem ensureAuthenticated_load {ok : α → Ctx HS → Prop} {err : JsError → Ctx HS → Prop}
    (packet : Bytes) (rest : PacketHeader × Bytes → SecureM HS α)
    (stops : ∀ e c', Stopped c e c' → err e c')
    (runs : ∀ key s header payload, Loaded c packet key s header payload →
      Ensures (rest (header, payload)) { c with peer := c.peer.loadFrom s } ok err) :
    Ensures (ensureAuthenticated >>= fun _ => loadSessionState >>= fun _ =>
      orThrow (splitPacket packet) >>= rest) c ok err := by
  simp only [ensures_bind, ensureAuthenticated, ensures_getPeer, ensures_ite, ensures_throw,
    ensures_pure]
  refine ⟨fun _ => stops _ _ (.refused _ (by simp [disappeared])), fun checked => ?_⟩
  have authenticated : c.peer.authenticated = true := by
    cases h : c.peer.authenticated with
    | true => rfl
    | false => simp [h] at checked
  cases bound : c.peer.sessionKey with
  | none =>
    refine (loadSessionState_unbound bound).mono (fun _ _ never => never.elim) ?_
    rintro e _ ⟨rfl, other⟩
    exact stops _ _ (.refused e other)
  | some key =>
    cases present : c.store.lookup key with
    | none =>
      refine (loadSessionState_absent bound present).mono (fun _ _ never => never.elim) ?_
      rintro e _ rfl
      exact stops _ _ (.unstored e key authenticated bound present)
    | some s =>
      refine (loadSessionState_present bound present).mono ?_ (fun _ _ never => never.elim)
      rintro _ _ rfl
      rw [ensures_orThrow]
      constructor
      · rintro ⟨header, payload⟩ split
        exact runs key s header payload ⟨authenticated, bound, present, split⟩
      · intro text h
        exact stops _ _ (.loaded _ key s bound present (not_disappeared_split h))

@[simp] theorem maybeRotateEpoch_rootKey (p : SecurePeer HS) (nowMs : UInt64) :
    (p.maybeRotateEpoch nowMs).rootKey = p.rootKey := by
  simp only [SecurePeer.maybeRotateEpoch]
  split <;> rfl

@[simp] theorem maybeRotateEpoch_sessionKey (p : SecurePeer HS) (nowMs : UInt64) :
    (p.maybeRotateEpoch nowMs).sessionKey = p.sessionKey := by
  simp only [SecurePeer.maybeRotateEpoch]
  split <;> rfl

@[simp] theorem maybeRotateEpoch_sessionAttached (p : SecurePeer HS) (nowMs : UInt64) :
    (p.maybeRotateEpoch nowMs).sessionAttached = p.sessionAttached := by
  simp only [SecurePeer.maybeRotateEpoch]
  split <;> rfl

/-- How far an `encrypt_packet` call takes the send state of the loaded session: the rotation,
and then the counter of the direction, unless it is exhausted. -/
def Sending (p : SecurePeer HS) (rotateMs : UInt64) (d : Direction) (p' : SecurePeer HS) : Prop :=
  p' = p.maybeRotateEpoch rotateMs ∨
    ((p.maybeRotateEpoch rotateMs).sendSeq d).toNat + 1 < 2 ^ 64 ∧
      p' = advanced (p.maybeRotateEpoch rotateMs) d

theorem encryptPayload_cases (rootKey : Key) (algorithm : String) (d : Direction)
    (plaintext : Bytes) (nowMs : UInt64) (keyed : c.peer.rootKey = some rootKey) :
    Ensures (encryptPayload E algorithm d plaintext nowMs) c
      (fun out c' => ((c.peer.maybeRotateEpoch nowMs).sendSeq d).toNat + 1 < 2 ^ 64 ∧
        (∃ sealed, sealPayload E algorithm
            (trafficKey E rootKey (c.peer.maybeRotateEpoch nowMs).sendEpoch d)
            (nonceBytes (c.peer.maybeRotateEpoch nowMs).sendEpoch
              ((c.peer.maybeRotateEpoch nowMs).sendSeq d)) plaintext = .ok sealed ∧
          out = sealed.1 ++ sealed.2 ++ nonceBytes (c.peer.maybeRotateEpoch nowMs).sendEpoch
            ((c.peer.maybeRotateEpoch nowMs).sendSeq d)) ∧
        c' = { c with peer := advanced (c.peer.maybeRotateEpoch nowMs) d })
      (fun e c' => ¬ disappeared e ∧
        (c' = { c with peer := c.peer.maybeRotateEpoch nowMs } ∨
          ((c.peer.maybeRotateEpoch nowMs).sendSeq d).toNat + 1 < 2 ^ 64 ∧
          c' = { c with peer := advanced (c.peer.maybeRotateEpoch nowMs) d })) := by
  have keyed' : (c.peer.maybeRotateEpoch nowMs).rootKey = some rootKey := by
    rw [maybeRotateEpoch_rootKey, keyed]
  simp only [encryptPayload, ensures_bind, ensures_getPeer, ensures_setPeer, ensures_ite,
    ensures_throw, ensures_pure, ensures_okOr, ensures_orThrow]
  refine ⟨fun _ => ⟨by simp [disappeared], Or.inl trivial⟩, fun room => ?_⟩
  refine ⟨fun rootKey' found => ?_, fun missing => ?_⟩
  · have same : rootKey' = rootKey := Option.some.inj (found.symm.trans keyed')
    subst same
    refine ⟨fun sealed sealed_eq => ?_, fun text h => ?_⟩
    · exact ⟨Nat.lt_of_not_le room, ⟨sealed, sealed_eq, rfl⟩, rfl⟩
    · exact ⟨not_disappeared_seal h, Or.inr ⟨Nat.lt_of_not_le room, rfl⟩⟩
  · exact absurd (missing.symm.trans keyed') (by simp)

inductive EncryptPacket (packet : Bytes) (rotateMs persistMs : UInt64) (c : Ctx HS) :
    EStateM.Result JsError (Ctx HS) Bytes → Prop
  | stopped (e : JsError) (c' : Ctx HS) (why : Stopped c e c') :
      EncryptPacket packet rotateMs persistMs c (.error e c')
  | failed (e : JsError) (key : SessionKey) (s : StoredSession) (header : PacketHeader)
      (payload : Bytes) (p : SecurePeer HS)
      (loaded : Loaded c packet key s header payload)
      (sender : header.fromPeerId = c.peer.serverPeerId)
      (receiver : c.peer.peerId = some header.toPeerId)
      (plain : header.flags &&& encryptedFlag = 0)
      (reached : Sending (c.peer.loadFrom s) rotateMs
        (directionIndex header.fromPeerId header.toPeerId) p)
      (other : ¬ disappeared e) :
      EncryptPacket packet rotateMs persistMs c
        (.error e ⟨p, c.store.insert key (p.saveTo s persistMs)⟩)
  | sealed (key : SessionKey) (s : StoredSession) (header : PacketHeader)
      (payload ciphertext tag : Bytes) (rotated : SecurePeer HS) (d : Direction)
      (loaded : Loaded c packet key s header payload)
      (sender : header.fromPeerId = c.peer.serverPeerId)
      (receiver : c.peer.peerId = some header.toPeerId)
      (plain : header.flags &&& encryptedFlag = 0)
      (rotated_eq : rotated = (c.peer.loadFrom s).maybeRotateEpoch rotateMs)
      (direction : d = directionIndex header.fromPeerId header.toPeerId)
      (room : (rotated.sendSeq d).toNat + 1 < 2 ^ 64)
      (ran : sealPayload E "aes-gcm" (trafficKey E s.rootKey rotated.sendEpoch d)
        (nonceBytes rotated.sendEpoch (rotated.sendSeq d)) payload = .ok (ciphertext, tag)) :
      EncryptPacket packet rotateMs persistMs c (.ok
        (joinHeaderPayload { header with flags := header.flags ||| encryptedFlag }
          (ciphertext ++ tag ++ nonceBytes rotated.sendEpoch (rotated.sendSeq d)))
        ⟨advanced rotated d, c.store.insert key ((advanced rotated d).saveTo s persistMs)⟩)

theorem encryptPacket_cases (packet : Bytes) (rotateMs persistMs : UInt64) (c : Ctx HS) :
    EncryptPacket E packet rotateMs persistMs c
      (Peer.encryptPacket E packet rotateMs persistMs c) := by
  apply ensures_result
  refine ensureAuthenticated_load packet _ (fun e c' why => .stopped e c' why) ?_
  intro key s header payload loaded
  simp only [ensures_bind, ensures_getPeer, ensures_ite, ensures_throw, ensures_pure,
    ensures_okOr, ensures_attempt]
  have stop {text : String} (other : ¬ disappeared (.message text)) :
      Stopped c (.message text) { c with peer := c.peer.loadFrom s } :=
    .loaded _ key s loaded.bound loaded.present other
  refine ⟨fun peerId receiver => ?_, fun _ => .stopped _ _ (stop (by simp [disappeared]))⟩
  refine ⟨fun _ => .stopped _ _ (stop (by simp [disappeared])), fun addressed => ?_⟩
  refine ⟨fun _ => .stopped _ _ (stop (by simp [disappeared])), fun plain => ?_⟩
  have sender : header.fromPeerId = c.peer.serverPeerId := by
    by_contra differs
    exact addressed (Or.inl differs)
  have receiver : c.peer.peerId = some header.toPeerId := by
    have same : header.toPeerId = peerId := by
      by_contra differs
      exact addressed (Or.inr differs)
    exact same ▸ receiver
  have plain : header.flags &&& encryptedFlag = 0 := not_not.mp plain
  have rotated_key : ((c.peer.loadFrom s).maybeRotateEpoch rotateMs).sessionKey =
      c.peer.sessionKey := by
    rw [maybeRotateEpoch_sessionKey]
    rfl
  refine (encryptPayload_cases E s.rootKey "aes-gcm" _ payload rotateMs rfl).mono ?_ ?_
  · rintro out _ ⟨room, ⟨⟨ciphertext, tag⟩, ran, rfl⟩, rfl⟩
    have bound : (advanced ((c.peer.loadFrom s).maybeRotateEpoch rotateMs)
        (directionIndex header.fromPeerId header.toPeerId)).sessionKey = some key :=
      rotated_key.trans loaded.bound
    refine (persistSessionState_present _ c.store persistMs bound loaded.present).mono ?_
      (fun _ _ never => never.elim)
    rintro _ _ rfl
    simp only [release, ensures_pure]
    exact .sealed key s header payload ciphertext tag _ _ loaded sender receiver plain rfl rfl
      room ran
  · rintro e c' ⟨other, reached⟩
    have shape : ∃ p, c' = { c with peer := p } ∧ p.sessionKey = c.peer.sessionKey ∧
        Sending (c.peer.loadFrom s) rotateMs
          (directionIndex header.fromPeerId header.toPeerId) p := by
      rcases reached with rfl | ⟨room, rfl⟩
      · exact ⟨_, rfl, rotated_key, Or.inl rfl⟩
      · exact ⟨_, rfl, rotated_key, Or.inr ⟨room, rfl⟩⟩
    obtain ⟨p, rfl, p_key, reached⟩ := shape
    refine (persistSessionState_present p c.store persistMs (p_key.trans loaded.bound)
      loaded.present).mono ?_
      (fun _ _ never => never.elim)
    rintro _ _ rfl
    simp only [release, ensures_throw]
    exact .failed e key s header payload p loaded sender receiver plain reached other

/-! `decrypt_packet`. -/

/-- The nonce at the end of an encrypted payload. -/
def payloadNonce (payload : Bytes) : Bytes :=
  payload.drop (payload.length - Packet.aeadTailSize + aeadTagSize)

def payloadEpoch (payload : Bytes) : UInt32 := nonceEpoch (payloadNonce payload)

def payloadSequence (payload : Bytes) : UInt64 := nonceSequence (payloadNonce payload)

/-- Opening a payload with the traffic key of its own epoch. -/
def openOwn (rootKey : Key) (algorithm : String) (d : Direction) (payload : Bytes) :
    Except String Bytes :=
  openPayload E algorithm (trafficKey E rootKey (payloadEpoch payload) d) (payloadNonce payload)
    (payload.take (payload.length - Packet.aeadTailSize))
    (Packet.slice payload (payload.length - Packet.aeadTailSize)
      (payload.length - Packet.aeadTailSize + aeadTagSize))

/-- What `decrypt_payload` does to the object when it works on one payload, and what it
delivers. -/
inductive Received (algorithm : String) (d : Direction) (payload : Bytes) (receivedMs : UInt64)
    (p : SecurePeer HS) : SecurePeer HS → Except JsError (Option Bytes) → Prop
  | short (e : JsError) (other : ¬ disappeared e) :
      Received algorithm d payload receivedMs p p (.error e)
  | replayed
      (stale : (p.evictOldRxSlots receivedMs).precheckReplay (payloadEpoch payload)
        (payloadSequence payload) d = false) :
      Received algorithm d payload receivedMs p (p.evictOldRxSlots receivedMs) (.ok none)
  | unopened (failures : UInt32) (r : Except JsError (Option Bytes))
      (quiet : r = .ok none ∨ ∃ e, r = .error e ∧ ¬ disappeared e) :
      Received algorithm d payload receivedMs p
        { p.evictOldRxSlots receivedMs with decryptFailCount := failures } r
  | opened (rootKey : Key) (plaintext : Bytes) (keyed : p.rootKey = some rootKey)
      (fresh : (p.evictOldRxSlots receivedMs).precheckReplay (payloadEpoch payload)
        (payloadSequence payload) d = true)
      (opens : openOwn E rootKey algorithm d payload = .ok plaintext) :
      Received algorithm d payload receivedMs p
        ({ p.evictOldRxSlots receivedMs with decryptFailCount := 0 }.commitReplay
          (payloadEpoch payload) (payloadSequence payload) d receivedMs).2
        (.ok (if ({ p.evictOldRxSlots receivedMs with decryptFailCount := 0 }.commitReplay
          (payloadEpoch payload) (payloadSequence payload) d receivedMs).1
          then some plaintext else none))

theorem decryptPayload_cases (c : Ctx HS) (rootKey : Key) (algorithm : String) (d : Direction)
    (payload : Bytes) (receivedMs : UInt64) (keyed : c.peer.rootKey = some rootKey) :
    Ensures (decryptPayload E algorithm d payload receivedMs) c
      (fun out c' => c'.store = c.store ∧
        Received E algorithm d payload receivedMs c.peer c'.peer (.ok out))
      (fun e c' => c'.store = c.store ∧
        Received E algorithm d payload receivedMs c.peer c'.peer (.error e)) := by
  simp only [decryptPayload, ensures_bind, ensures_getPeer, ensures_setPeer, ensures_ite,
    ensures_throw, ensures_pure, ensures_okOr]
  refine ⟨fun _ => ⟨trivial, .short _ (by simp [disappeared])⟩, fun _ => ?_⟩
  refine ⟨fun stale => ⟨trivial, .replayed (by
    simpa [payloadEpoch, payloadSequence, payloadNonce] using stale)⟩, fun fresh => ?_⟩
  refine ⟨fun rootKey' found => ?_, fun missing => ?_⟩
  · have same : rootKey' = rootKey := Option.some.inj (found.symm.trans keyed)
    subst same
    split
    · rename_i text failed
      simp only [ensures_bind, ensures_setPeer, ensures_ite, ensures_throw, ensures_pure]
      refine ⟨fun _ => ⟨trivial, .unopened _ _ (Or.inr ⟨_, rfl, not_disappeared_open failed⟩)⟩,
        fun _ => ⟨trivial, .unopened _ _ (Or.inl rfl)⟩⟩
    · rename_i plaintext opens
      simp only [ensures_bind, ensures_setPeer, ensures_pure]
      exact ⟨trivial, .opened rootKey' plaintext keyed (by
        simpa [payloadEpoch, payloadSequence, payloadNonce] using fresh) opens⟩
  · exact absurd (missing.symm.trans keyed) (by simp)

inductive DecryptPacket (packet : Bytes) (receivedMs persistMs : UInt64) (c : Ctx HS) :
    EStateM.Result JsError (Ctx HS) Bytes → Prop
  | stopped (e : JsError) (c' : Ctx HS) (why : Stopped c e c') :
      DecryptPacket packet receivedMs persistMs c (.error e c')
  | passed (key : SessionKey) (s : StoredSession) (header : PacketHeader) (payload : Bytes)
      (loaded : Loaded c packet key s header payload)
      (plain : header.flags &&& encryptedFlag = 0) :
      DecryptPacket packet receivedMs persistMs c
        (.ok packet { c with peer := c.peer.loadFrom s })
  | received (key : SessionKey) (s : StoredSession) (header : PacketHeader) (payload : Bytes)
      (p : SecurePeer HS) (out : Except JsError (Option Bytes))
      (r : EStateM.Result JsError (Ctx HS) Bytes)
      (loaded : Loaded c packet key s header payload)
      (sender : c.peer.peerId = some header.fromPeerId)
      (receiver : header.toPeerId = c.peer.serverPeerId)
      (encrypted : header.flags &&& encryptedFlag ≠ 0)
      (called : value (decryptPayload E (c.peer.clientAlgorithm.getD "aes-gcm")
          (directionIndex header.fromPeerId header.toPeerId) payload receivedMs
          { c with peer := c.peer.loadFrom s }) = out ∧
        final (decryptPayload E (c.peer.clientAlgorithm.getD "aes-gcm")
          (directionIndex header.fromPeerId header.toPeerId) payload receivedMs
          { c with peer := c.peer.loadFrom s }) = { c with peer := p })
      (ran : Received E (c.peer.clientAlgorithm.getD "aes-gcm")
        (directionIndex header.fromPeerId header.toPeerId) payload receivedMs
        (c.peer.loadFrom s) p out)
      (left : final r = ⟨p, c.store.insert key (p.saveTo s persistMs)⟩)
      (handed : value r = out.map fun delivered => delivered.elim [] fun plaintext =>
        joinHeaderPayload { header with flags := header.flags &&& ~~~encryptedFlag } plaintext) :
      DecryptPacket packet receivedMs persistMs c r

theorem commitReplay_frame (p : SecurePeer HS) (epoch : UInt32) (sequence : UInt64)
    (d : Direction) (receivedMs : UInt64) :
    ∃ rxSlots syncRxGrace, (p.commitReplay epoch sequence d receivedMs).2 =
      { p with rxSlots := rxSlots, syncRxGrace := syncRxGrace } := by
  simp only [SecurePeer.commitReplay]
  split
  · exact ⟨p.rxSlots, _, rfl⟩
  generalize (if (p.rxSlots d 0).valid = true then p.rxSlots d 0
    else EpochRxSlot.fresh epoch receivedMs) = newest
  split
  · exact ⟨_, p.syncRxGrace, rfl⟩
  split
  · exact ⟨_, p.syncRxGrace, rfl⟩
  split
  · exact ⟨_, p.syncRxGrace, rfl⟩
  · exact ⟨_, p.syncRxGrace, rfl⟩

theorem Received.frame {E : SecureEnv HS} {algorithm : String} {d : Direction} {payload : Bytes}
    {receivedMs : UInt64} {p p' : SecurePeer HS} {out : Except JsError (Option Bytes)}
    (h : Received E algorithm d payload receivedMs p p' out) :
    ∃ rxSlots syncRxGrace failures, p' =
      { p with
        rxSlots := rxSlots
        syncRxGrace := syncRxGrace
        decryptFailCount := failures } := by
  cases h with
  | short => exact ⟨p.rxSlots, p.syncRxGrace, p.decryptFailCount, rfl⟩
  | replayed => exact ⟨_, _, p.decryptFailCount, rfl⟩
  | unopened failures => exact ⟨_, _, failures, rfl⟩
  | opened =>
    obtain ⟨rxSlots, grace, eq⟩ := commitReplay_frame
      { p.evictOldRxSlots receivedMs with decryptFailCount := 0 } (payloadEpoch payload)
      (payloadSequence payload) d receivedMs
    rw [eq]
    exact ⟨rxSlots, grace, 0, rfl⟩

theorem Received.other {E : SecureEnv HS} {algorithm : String} {d : Direction} {payload : Bytes}
    {receivedMs : UInt64} {p p' : SecurePeer HS} {e : JsError}
    (h : Received E algorithm d payload receivedMs p p' (.error e)) : ¬ disappeared e := by
  cases h with
  | short _ other => exact other
  | unopened _ _ quiet =>
    rcases quiet with none | ⟨_, same, other⟩
    · cases none
    · cases same
      exact other

theorem decryptPacket_cases (packet : Bytes) (receivedMs persistMs : UInt64) (c : Ctx HS) :
    DecryptPacket E packet receivedMs persistMs c
      (Peer.decryptPacket E packet receivedMs persistMs c) := by
  apply ensures_result
  refine ensureAuthenticated_load packet _ (fun e c' why => .stopped e c' why) ?_
  intro key s header payload loaded
  simp only [ensures_bind, ensures_getPeer, ensures_ite, ensures_throw, ensures_pure,
    ensures_okOr, ensures_attempt]
  have stop {text : String} (other : ¬ disappeared (.message text)) :
      Stopped c (.message text) { c with peer := c.peer.loadFrom s } :=
    .loaded _ key s loaded.bound loaded.present other
  refine ⟨fun peerId sender => ?_, fun _ => .stopped _ _ (stop (by simp [disappeared]))⟩
  refine ⟨fun _ => .stopped _ _ (stop (by simp [disappeared])), fun addressed => ?_⟩
  refine ⟨fun plain => .passed key s header payload loaded plain, fun encrypted => ?_⟩
  have sender : c.peer.peerId = some header.fromPeerId := by
    have same : header.fromPeerId = peerId := by
      by_contra differs
      exact addressed (Or.inl differs)
    exact same ▸ sender
  have receiver : header.toPeerId = c.peer.serverPeerId := by
    by_contra differs
    exact addressed (Or.inr differs)
  refine (decryptPayload_cases E _ s.rootKey _ _ payload receivedMs rfl).ran.mono ?_ ?_
  · rintro out ⟨p, store⟩ ⟨⟨rfl, ran⟩, result⟩
    have bound : p.sessionKey = some key := (by
      obtain ⟨_, _, _, rfl⟩ := ran.frame
      exact loaded.bound)
    refine (persistSessionState_present p c.store persistMs bound loaded.present).mono ?_
      (fun _ _ never => never.elim)
    rintro _ _ rfl
    cases out with
    | none =>
      simp only [release, ensures_pure]
      exact .received key s header payload p _ _ loaded sender receiver encrypted
        ⟨congrArg value result, congrArg final result⟩ ran rfl rfl
    | some plaintext =>
      simp only [release, ensures_pure]
      exact .received key s header payload p _ _ loaded sender receiver encrypted
        ⟨congrArg value result, congrArg final result⟩ ran rfl rfl
  · rintro e ⟨p, store⟩ ⟨⟨rfl, ran⟩, result⟩
    have bound : p.sessionKey = some key := (by
      obtain ⟨_, _, _, rfl⟩ := ran.frame
      exact loaded.bound)
    refine (persistSessionState_present p c.store persistMs bound loaded.present).mono ?_
      (fun _ _ never => never.elim)
    rintro _ _ rfl
    simp only [release, ensures_throw]
    exact .received key s header payload p _ _ loaded sender receiver encrypted
        ⟨congrArg value result, congrArg final result⟩ ran rfl rfl

end EasyTierEdge.Secure.Calls
