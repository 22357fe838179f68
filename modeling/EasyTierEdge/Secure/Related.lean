/- module: EasyTierEdge/Secure/Related
   source: cloudflare/wasm/src/secure.rs, the methods of SecurePeer
   digest: A call sees of the store nothing but the state of the session it is bound to. -/

import EasyTierEdge.Lib.Relational
import EasyTierEdge.Secure.ObjectMoves

set_option autoImplicit false
set_option relaxedAutoImplicit false

namespace EasyTierEdge.Secure.Related

open Lib.Fallible Lib.FiniteMap Lib.Relational
open Packet (Bytes)
open Session Peer Connections Calls StoreInvariant SessionMoves ObjectMoves

variable {HS : Type}

/-! Two runs of the primitives of `SecureM`. -/

section Primitives

variable {α β : Type} {R : Ctx HS → Ctx HS → Prop} {c c' : Ctx HS}

private theorem agree_getPeer_bind {f g : SecurePeer HS → SecureM HS α}
    (next : Agree R (f c.peer c) (g c'.peer c')) :
    Agree R ((getPeer >>= f) c) ((getPeer >>= g) c') :=
  next

private theorem agree_setPeer_bind {p p' : SecurePeer HS} {f g : Unit → SecureM HS α}
    (next : Agree R (f () { c with peer := p }) (g () { c' with peer := p' })) :
    Agree R ((setPeer p >>= f) c) ((setPeer p' >>= g) c') :=
  next

private theorem agree_okOr_bind {o : Option β} {message : String} {f g : β → SecureM HS α}
    (stop : R c c') (next : ∀ b, o = some b → Agree R (f b c) (g b c')) :
    Agree R ((okOr o message >>= f) c) ((okOr o message >>= g) c') := by
  cases o with
  | none => exact ⟨rfl, stop⟩
  | some b => exact next b rfl

private theorem agree_orThrow_bind {r : Except String β} {f g : β → SecureM HS α} (stop : R c c')
    (next : ∀ b, r = .ok b → Agree R (f b c) (g b c')) :
    Agree R ((orThrow r >>= f) c) ((orThrow r >>= g) c') := by
  cases r with
  | error text => exact ⟨rfl, stop⟩
  | ok b => exact next b rfl

private theorem agree_orDisplay_bind {r : Except String β} {f g : β → SecureM HS α} (stop : R c c')
    (next : ∀ b, r = .ok b → Agree R (f b c) (g b c')) :
    Agree R ((orDisplay r >>= f) c) ((orDisplay r >>= g) c') := by
  cases r with
  | error text => exact ⟨rfl, stop⟩
  | ok b => exact next b rfl

private theorem agree_release_bind {r : Except JsError β} {f g : β → SecureM HS α} (stop : R c c')
    (next : ∀ b, r = .ok b → Agree R (f b c) (g b c')) :
    Agree R ((release r >>= f) c) ((release r >>= g) c') := by
  cases r with
  | error e => exact ⟨rfl, stop⟩
  | ok b => exact next b rfl

private theorem agree_guard {guard : Prop} [Decidable guard] {e : JsError} {f g : β → SecureM HS α}
    {x y : SecureM HS α} (stop : R c c') (next : ¬ guard → Agree R (x c) (y c')) :
    Agree R ((if guard then throw e >>= f else x) c) ((if guard then throw e >>= g else y) c') := by
  split
  · exact ⟨rfl, stop⟩
  · exact next ‹_›

private theorem agree_attempt {op op' : SecureM HS α} (h : Agree R (op c) (op' c')) :
    Agree R (attempt op c) (attempt op' c') := by
  obtain ⟨same, related⟩ := h
  unfold attempt
  cases ran : op c with
  | ok a d =>
    cases ran' : op' c' with
    | ok a' d' =>
      rw [ran, ran'] at same related
      cases same
      exact ⟨rfl, related⟩
    | error e d' =>
      rw [ran, ran'] at same
      cases same
  | error e d =>
    cases ran' : op' c' with
    | ok a d' =>
      rw [ran, ran'] at same
      cases same
    | error e' d' =>
      rw [ran, ran'] at same related
      cases same
      exact ⟨rfl, related⟩

end Primitives

/-! The relation: the same object, and the same state of the session under `key`. -/

/-- The sessions agree apart from `last_touch_ms` and `attachments`. -/
def SameState (s s' : StoredSession) : Prop :=
  ∃ lastTouchMs attachments, s' = retouched s lastTouchMs attachments

theorem SameState.refl (s : StoredSession) : SameState s s := ⟨s.lastTouchMs, s.attachments, rfl⟩

theorem SameState.symm {s s' : StoredSession} (same : SameState s s') : SameState s' s := by
  obtain ⟨_, _, rfl⟩ := same
  exact ⟨s.lastTouchMs, s.attachments, rfl⟩

theorem SameState.trans {s s' s'' : StoredSession} (same : SameState s s')
    (same' : SameState s' s'') : SameState s s'' := by
  obtain ⟨_, _, rfl⟩ := same
  obtain ⟨lastTouchMs, attachments, rfl⟩ := same'
  exact ⟨lastTouchMs, attachments, rfl⟩

/-- Both stores hold a session under `key`, in the same state. -/
def SameSession (key : SessionKey) (store store' : SessionStore) : Prop :=
  ∃ s s', store.lookup key = some s ∧ store'.lookup key = some s' ∧ SameState s s'

def Sees (key : SessionKey) (c c' : Ctx HS) : Prop :=
  c'.peer = c.peer ∧ SameSession key c.store c'.store

/-- If the object is bound to a session, then to the one under `key`. -/
def Bound (key : SessionKey) (p : SecurePeer HS) : Prop :=
  ∀ own, p.sessionKey = some own → own = key

private theorem SameSession.insert {key : SessionKey} {store store' : SessionStore}
    {s s' : StoredSession}
    (same : SameState s s') : SameSession key (store.insert key s) (store'.insert key s') :=
  ⟨s, s', Finmap.lookup_insert _, Finmap.lookup_insert _, same⟩

theorem SameSession.trans {key : SessionKey} {a b c : SessionStore} (first : SameSession key a b)
    (second : SameSession key b c) : SameSession key a c := by
  obtain ⟨s, t, present, found, same⟩ := first
  obtain ⟨t', u, found', present', same'⟩ := second
  have eq : t = t' := Option.some.inj (found.symm.trans found')
  subst eq
  exact ⟨s, u, present, present', same.trans same'⟩

theorem SameSession.symm {key : SessionKey} {a b : SessionStore} (h : SameSession key a b) :
    SameSession key b a := by
  obtain ⟨s, t, present, found, same⟩ := h
  exact ⟨t, s, found, present, same.symm⟩

section Calls

variable (E : SecureEnv HS) {key : SessionKey}

theorem readMsg1_agree (packet : Bytes) {c c' : Ctx HS} (sees : Sees key c c') :
    Agree (Sees key) (Peer.readMsg1 E packet c) (Peer.readMsg1 E packet c') := by
  obtain ⟨p, store⟩ := c
  obtain ⟨_, store'⟩ := c'
  obtain ⟨rfl, session⟩ := sees
  have stop (q : SecurePeer HS) : Sees key ⟨q, store⟩ ⟨q, store'⟩ := ⟨rfl, session⟩
  unfold Peer.readMsg1
  refine agree_getPeer_bind (agree_guard (stop _) fun _ => ?_)
  refine agree_orThrow_bind (stop _) fun split _ => ?_
  obtain ⟨header, payload⟩ := split
  refine agree_guard (stop _) fun _ => agree_guard (stop _) fun _ => ?_
  refine agree_orDisplay_bind (stop _) fun responder _ => ?_
  refine agree_orDisplay_bind (stop _) fun decoded _ => ?_
  refine agree_orDisplay_bind (stop _) fun message _ => ?_
  refine agree_guard (stop _) fun _ => agree_guard (stop _) fun _ => ?_
  refine agree_orThrow_bind (stop _) fun _ _ => ?_
  exact agree_setPeer_bind (agree_pure _ (stop _))

private theorem confirmSessionPublicKey_agree {store store' : SessionStore} (remotePublicKey : Key)
    (nowMs : UInt64) (same : SameSession key store store') :
    Agree (SameSession key) (confirmSessionPublicKey key remotePublicKey nowMs store)
      (confirmSessionPublicKey key remotePublicKey nowMs store') := by
  obtain ⟨s, _, present, present', ⟨lastTouchMs, attachments, rfl⟩⟩ := same
  unfold confirmSessionPublicKey
  refine agree_get_bind ?_
  simp only [present, present', retouched]
  split
  · exact ⟨rfl, s, _, present, present', lastTouchMs, attachments, rfl⟩
  · exact ⟨rfl, SameSession.insert ⟨nowMs, attachments, rfl⟩⟩

private theorem agree_onStore_bind {α β : Type} {R : Ctx HS → Ctx HS → Prop} {c c' : Ctx HS}
    {op op' : EStateM JsError SessionStore β} {f g : β → SecureM HS α}
    {M : SessionStore → SessionStore → Prop} (h : Agree M (op c.store) (op' c'.store))
    (stop : ∀ store store', M store store' → R ⟨c.peer, store⟩ ⟨c'.peer, store'⟩)
    (next : ∀ b store store', M store store' →
      Agree R (f b ⟨c.peer, store⟩) (g b ⟨c'.peer, store'⟩)) :
    Agree R ((onStore op >>= f) c) ((onStore op' >>= g) c') := by
  have lifted : Agree (fun d d' => d.peer = c.peer ∧ d'.peer = c'.peer ∧ M d.store d'.store)
      (onStore op c) (onStore op' c') := by
    obtain ⟨same, related⟩ := h
    unfold onStore
    cases ran : op c.store with
    | ok a d =>
      cases ran' : op' c'.store with
      | ok a' d' =>
        rw [ran, ran'] at same related
        exact ⟨same, rfl, rfl, related⟩
      | error e d' =>
        rw [ran, ran'] at same
        cases same
    | error e d =>
      cases ran' : op' c'.store with
      | ok a d' =>
        rw [ran, ran'] at same
        cases same
      | error e' d' =>
        rw [ran, ran'] at same related
        exact ⟨same, rfl, rfl, related⟩
  refine agree_bind lifted ?_ ?_
  · rintro ⟨_, store⟩ ⟨_, store'⟩ ⟨rfl, rfl, related⟩
    exact stop store store' related
  · rintro b ⟨_, store⟩ ⟨_, store'⟩ _ _ ⟨rfl, rfl, related⟩
    exact next b store store' related

theorem finishMsg3_agree (packet : Bytes) (nowMs : UInt64) {c c' : Ctx HS} (sees : Sees key c c')
    (own : Bound key c.peer) :
    Agree (Sees key) (Peer.finishMsg3 E packet nowMs c) (Peer.finishMsg3 E packet nowMs c') := by
  obtain ⟨p, store⟩ := c
  obtain ⟨p', store'⟩ := c'
  obtain ⟨same, session⟩ := sees
  have same : p' = p := same
  subst same
  have stop (q : SecurePeer HS) : Sees key ⟨q, store⟩ ⟨q, store'⟩ := ⟨rfl, session⟩
  unfold Peer.finishMsg3
  refine agree_orThrow_bind (stop _) fun split _ => ?_
  obtain ⟨header, payload⟩ := split
  refine agree_getPeer_bind (agree_okOr_bind (stop _) fun peerId _ => ?_)
  refine agree_guard (stop _) fun _ => agree_setPeer_bind ?_
  refine agree_okOr_bind (stop _) fun turn _ => ?_
  refine agree_orDisplay_bind (stop _) fun decoded _ => ?_
  refine agree_orDisplay_bind (stop _) fun message _ => ?_
  refine agree_guard (stop _) fun _ => ?_
  refine agree_okOr_bind (stop _) fun proof _ => ?_
  refine agree_okOr_bind (stop _) fun secret _ => ?_
  refine agree_okOr_bind (stop _) fun challenge _ => ?_
  refine agree_guard (stop _) fun _ => ?_
  refine agree_okOr_bind (stop _) fun remotePublic _ => ?_
  refine agree_okOr_bind (stop _) fun remotePublicKey _ => ?_
  refine agree_okOr_bind (stop _) fun held bound => ?_
  have held_eq : held = key := own held bound
  subst held_eq
  refine agree_onStore_bind (confirmSessionPublicKey_agree remotePublicKey nowMs session) ?_ ?_
  · intro t t' related
    exact ⟨rfl, related⟩
  · intro _ t t' related
    exact agree_setPeer_bind (agree_pure _ ⟨rfl, related⟩)

private theorem loadSessionState_agree {c c' : Ctx HS} (sees : Sees key c c')
    (own : Bound key c.peer) :
    Agree (fun d d' => Sees key d d' ∧ Bound key d.peer) (loadSessionState c)
      (loadSessionState c') := by
  obtain ⟨p, store⟩ := c
  obtain ⟨_, store'⟩ := c'
  obtain ⟨rfl, session⟩ := sees
  unfold loadSessionState
  refine agree_get_bind ?_
  refine agree_okOr_bind ⟨⟨rfl, session⟩, own⟩ fun held bound => ?_
  have held_eq : held = key := own held bound
  subst held_eq
  obtain ⟨s, _, present, present', lastTouchMs, attachments, rfl⟩ := session
  simp only [present, present', okOr, pure_bind]
  exact ⟨rfl, ⟨rfl, s, _, present, present', lastTouchMs, attachments, rfl⟩, own⟩

private theorem persistSessionState_agree (nowMs : UInt64) {c c' : Ctx HS} (sees : Sees key c c')
    (own : Bound key c.peer) :
    Agree (Sees key) (persistSessionState nowMs c) (persistSessionState nowMs c') := by
  obtain ⟨p, store⟩ := c
  obtain ⟨_, store'⟩ := c'
  obtain ⟨rfl, session⟩ := sees
  unfold persistSessionState
  refine agree_get_bind ?_
  refine agree_okOr_bind ⟨rfl, session⟩ fun held bound => ?_
  have held_eq : held = key := own held bound
  subst held_eq
  obtain ⟨s, _, present, present', lastTouchMs, attachments, rfl⟩ := session
  simp only [present, present', okOr, pure_bind]
  exact ⟨rfl, rfl, SameSession.insert ⟨nowMs, attachments, rfl⟩⟩

private theorem ensureAuthenticated_agree {c c' : Ctx HS} (sees : Sees key c c') :
    Agree (fun d d' => d = c ∧ d' = c') (ensureAuthenticated c) (ensureAuthenticated c') := by
  obtain ⟨p, store⟩ := c
  obtain ⟨_, store'⟩ := c'
  obtain ⟨rfl, session⟩ := sees
  unfold ensureAuthenticated
  refine agree_getPeer_bind ?_
  exact agree_ite (fun _ => agree_throw _ ⟨rfl, rfl⟩) (fun _ => agree_pure _ ⟨rfl, rfl⟩)

/-- What `encrypt_payload` and `decrypt_payload` may change: the copy in the object. -/
def OnlyCopy (p : SecurePeer HS) (store store' : SessionStore) (c c' : Ctx HS) : Prop :=
  c'.peer = c.peer ∧ c.store = store ∧ c'.store = store' ∧ withoutCopy c.peer = withoutCopy p

private theorem encryptPayload_agree (algorithm : String) (direction : Direction)
    (plaintext : Bytes) (nowMs : UInt64) (p : SecurePeer HS) (store store' : SessionStore) :
    Agree (OnlyCopy p store store')
      (encryptPayload E algorithm direction plaintext nowMs ⟨p, store⟩)
      (encryptPayload E algorithm direction plaintext nowMs ⟨p, store'⟩) := by
  have rotated : withoutCopy (p.maybeRotateEpoch nowMs) = withoutCopy p :=
    withoutCopy_sending (Or.inl rfl : Sending p nowMs direction _)
  have stop {q : SecurePeer HS} (same : withoutCopy q = withoutCopy p) :
      OnlyCopy p store store' ⟨q, store⟩ ⟨q, store'⟩ := ⟨rfl, rfl, rfl, same⟩
  unfold encryptPayload
  refine agree_getPeer_bind (agree_setPeer_bind ?_)
  refine agree_guard (stop rotated) fun _ => agree_setPeer_bind ?_
  refine agree_okOr_bind (stop rotated) fun rootKey _ => ?_
  refine agree_orThrow_bind (stop rotated) fun sealed _ => ?_
  exact agree_pure _ (stop rotated)

private theorem decryptPayload_agree (algorithm : String) (direction : Direction) (payload : Bytes)
    (nowMs : UInt64) (p : SecurePeer HS) (store store' : SessionStore) :
    Agree (OnlyCopy p store store') (decryptPayload E algorithm direction payload nowMs ⟨p, store⟩)
      (decryptPayload E algorithm direction payload nowMs ⟨p, store'⟩) := by
  have stop {q : SecurePeer HS} (same : withoutCopy q = withoutCopy p) :
      OnlyCopy p store store' ⟨q, store⟩ ⟨q, store'⟩ := ⟨rfl, rfl, rfl, same⟩
  unfold decryptPayload
  refine agree_guard (stop rfl) fun _ => agree_getPeer_bind (agree_setPeer_bind ?_)
  refine agree_ite (fun _ => agree_pure _ (stop rfl)) fun _ => ?_
  refine agree_okOr_bind (stop rfl) fun rootKey _ => ?_
  simp only
  generalize openPayload E algorithm _ _ _ _ = opened
  cases opened with
  | error text =>
    refine agree_setPeer_bind ?_
    refine agree_guard (stop rfl) fun _ => ?_
    exact agree_pure _ (stop rfl)
  | ok plaintext =>
    refine agree_setPeer_bind (agree_pure _ (stop ?_))
    obtain ⟨rxSlots, syncRxGrace, committed⟩ := commitReplay_frame
      { p.evictOldRxSlots nowMs with decryptFailCount := 0 }
      (nonceEpoch (payload.drop (payload.length - Packet.aeadTailSize + aeadTagSize)))
      (nonceSequence (payload.drop (payload.length - Packet.aeadTailSize + aeadTagSize)))
      direction nowMs
    show withoutCopy (SecurePeer.commitReplay _ _ _ _ _).2 = _
    rw [committed]
    rfl

private theorem OnlyCopy.seen {p : SecurePeer HS} {store store' : SessionStore} {c c' : Ctx HS}
    (copied : OnlyCopy p store store' c c') (session : SameSession key store store')
    (own : Bound key p) : Sees key c c' ∧ Bound key c.peer := by
  obtain ⟨peer, rfl, rfl, same⟩ := copied
  have key_eq : c.peer.sessionKey = p.sessionKey :=
    field_of_withoutCopy SecurePeer.sessionKey same fun _ => rfl
  exact ⟨⟨peer, session⟩, fun held bound => own held (key_eq ▸ bound)⟩

theorem encryptPacket_agree (packet : Bytes) (rotateMs persistMs : UInt64) {c c' : Ctx HS}
    (sees : Sees key c c') (own : Bound key c.peer) :
    Agree (Sees key) (Peer.encryptPacket E packet rotateMs persistMs c)
      (Peer.encryptPacket E packet rotateMs persistMs c') := by
  unfold Peer.encryptPacket
  refine agree_bind (ensureAuthenticated_agree sees) (by rintro _ _ ⟨rfl, rfl⟩; exact sees) ?_
  rintro _ _ _ _ _ ⟨rfl, rfl⟩
  refine agree_bind (loadSessionState_agree sees own) (fun _ _ h => h.1) ?_
  rintro _ ⟨p, store⟩ ⟨_, store'⟩ _ _ ⟨⟨rfl, session⟩, own⟩
  refine agree_orThrow_bind ⟨rfl, session⟩ fun split _ => ?_
  obtain ⟨header, payload⟩ := split
  refine agree_getPeer_bind (agree_okOr_bind ⟨rfl, session⟩ fun peerId _ => ?_)
  refine agree_guard ⟨rfl, session⟩ fun _ => agree_guard ⟨rfl, session⟩ fun _ => ?_
  refine agree_bind (agree_attempt (encryptPayload_agree E _ _ _ _ _ _ _)) ?_ ?_
  · intro d d' copied
    exact (copied.seen session own).1
  · intro result d d' _ _ copied
    obtain ⟨sees, own⟩ := copied.seen session own
    refine agree_bind (persistSessionState_agree persistMs sees own) (fun _ _ => id) ?_
    intro _ e e' _ _ sees
    exact agree_release_bind sees fun encrypted _ => agree_pure _ sees

theorem decryptPacket_agree (packet : Bytes) (receivedMs persistMs : UInt64) {c c' : Ctx HS}
    (sees : Sees key c c') (own : Bound key c.peer) :
    Agree (Sees key) (Peer.decryptPacket E packet receivedMs persistMs c)
      (Peer.decryptPacket E packet receivedMs persistMs c') := by
  unfold Peer.decryptPacket
  refine agree_bind (ensureAuthenticated_agree sees) (by rintro _ _ ⟨rfl, rfl⟩; exact sees) ?_
  rintro _ _ _ _ _ ⟨rfl, rfl⟩
  refine agree_bind (loadSessionState_agree sees own) (fun _ _ h => h.1) ?_
  rintro _ ⟨p, store⟩ ⟨_, store'⟩ _ _ ⟨⟨rfl, session⟩, own⟩
  refine agree_orThrow_bind ⟨rfl, session⟩ fun split _ => ?_
  obtain ⟨header, payload⟩ := split
  refine agree_getPeer_bind (agree_okOr_bind ⟨rfl, session⟩ fun peerId _ => ?_)
  refine agree_guard ⟨rfl, session⟩ fun _ => ?_
  refine agree_ite (fun _ => agree_pure _ ⟨rfl, session⟩) fun _ => ?_
  refine agree_bind (agree_attempt (decryptPayload_agree E _ _ _ _ _ _ _)) ?_ ?_
  · intro d d' copied
    exact (copied.seen session own).1
  · intro result d d' _ _ copied
    obtain ⟨sees, own⟩ := copied.seen session own
    refine agree_bind (persistSessionState_agree persistMs sees own) (fun _ _ => id) ?_
    intro _ e e' _ _ sees
    refine agree_release_bind sees fun delivered _ => ?_
    cases delivered with
    | none => exact agree_pure _ sees
    | some plaintext => exact agree_pure _ sees

/-- The session `build_msg2` will ask for on this object. -/
def asksFor (p : SecurePeer HS) : Option SessionKey :=
  p.networkName.bind fun networkName => p.peerId.map fun peerId =>
    ⟨networkName, peerId, p.serverPeerId, p.localPublic⟩

/-- The selection does not depend on who else holds the session, or since when. -/
private theorem upsertSession_agree {store store' : SessionStore}
    (aSessionGeneration : Option UInt32)
    (clientAlgorithm : String) (random32 : Except String Key) (currentMs : UInt64)
    (session : SameSession key (sweep currentMs store) (sweep currentMs store')) :
    Agree (SameSession key)
      (upsertSession key aSessionGeneration clientAlgorithm random32 currentMs store)
      (upsertSession key aSessionGeneration clientAlgorithm random32 currentMs store') := by
  unfold upsertSession
  refine agree_modify_bind (agree_get_bind ?_)
  obtain ⟨s, _, present, present', lastTouchMs, attachments, rfl⟩ := session
  simp only [present, present', retouched]
  have stop : SameSession key (sweep currentMs store) (sweep currentMs store') :=
    ⟨s, _, present, present', lastTouchMs, attachments, rfl⟩
  split
  · exact ⟨rfl, stop⟩
  · split
    · refine ⟨rfl, SameSession.insert ⟨currentMs, attachments, rfl⟩⟩
    · refine ⟨rfl, SameSession.insert ⟨currentMs, attachments, rfl⟩⟩

private theorem selectSession_agree (networkSecret : String) (random32 : Except String Key)
    (upsertMs : UInt64) (p : SecurePeer HS) {store store' : SessionStore}
    (asks : p.sessionKey = none → ∀ own, asksFor p = some own → own = key)
    (before : SameSession key store store')
    (session : SameSession key (sweep upsertMs store) (sweep upsertMs store')) :
    Agree (Sees key) (selectSession E networkSecret random32 upsertMs ⟨p, store⟩)
      (selectSession E networkSecret random32 upsertMs ⟨p, store'⟩) := by
  have stop : Sees key ⟨p, store⟩ ⟨p, store'⟩ := ⟨rfl, before⟩
  unfold selectSession
  refine agree_guard stop fun _ => agree_getPeer_bind (agree_guard stop fun unbuilt => ?_)
  have unbuilt : p.sessionKey = none := by simpa using unbuilt
  refine agree_okOr_bind stop fun peerId peerId_eq => ?_
  refine agree_okOr_bind stop fun networkName networkName_eq => ?_
  refine agree_okOr_bind stop fun handshake _ => agree_okOr_bind stop fun algorithm _ => ?_
  have own : (⟨networkName, peerId, p.serverPeerId, p.localPublic⟩ : SessionKey) = key := by
    apply asks unbuilt
    have peerId_eq : p.peerId = some peerId := peerId_eq
    have networkName_eq : p.networkName = some networkName := networkName_eq
    simp [asksFor, peerId_eq, networkName_eq]
  subst own
  refine agree_onStore_bind (upsertSession_agree _ _ _ _ session) ?_ ?_
  · intro t t' related
    exact ⟨rfl, related⟩
  · intro _ t t' related
    exact agree_pure _ ⟨rfl, related⟩

/-- Attaching to the session of `key` succeeds in both runs while neither count is exhausted. -/
private theorem attachSession_agree (nowMs : UInt64) {c c' : Ctx HS} (sees : Sees key c c')
    (bound : c.peer.sessionKey = some key) (room : attachmentsOf c.store key + 1 < 2 ^ 32)
    (room' : attachmentsOf c'.store key + 1 < 2 ^ 32) :
    Agree (fun d d' => Sees key d d' ∧ Bound key d.peer) (attachSession nowMs c)
      (attachSession nowMs c') := by
  obtain ⟨_, store⟩ := c
  obtain ⟨p, store'⟩ := c'
  obtain ⟨rfl, s, _, present, present', lastTouchMs, attachments, rfl⟩ := sees
  have bound : p.sessionKey = some key := bound
  rw [attachmentsOf_of_lookup present] at room
  rw [attachmentsOf_of_lookup present'] at room'
  unfold attachSession
  refine agree_getPeer_bind ?_
  simp only [bound, okOr, pure_bind]
  refine agree_get_bind ?_
  simp only [present, present', pure_bind]
  rw [if_neg (by omega), if_neg (by omega)]
  refine ⟨rfl, ⟨rfl, SameSession.insert ⟨nowMs, attachments + 1, rfl⟩⟩, ?_⟩
  intro held held_eq
  have held_eq : some key = some held := held_eq
  exact (Option.some.inj held_eq).symm

private theorem answerMsg1_agree (networkSecret : String) (randomUuid : Except String Uuid)
    (attachMs : UInt64) (sel : Msg2Selection HS) {c c' : Ctx HS}
    (sees : Sees sel.sessionKey c c') (room : attachmentsOf c.store sel.sessionKey + 1 < 2 ^ 32)
    (room' : attachmentsOf c'.store sel.sessionKey + 1 < 2 ^ 32) :
    Agree (Sees sel.sessionKey) (answerMsg1 E networkSecret randomUuid attachMs sel c)
      (answerMsg1 E networkSecret randomUuid attachMs sel c') := by
  obtain ⟨p, store⟩ := c
  obtain ⟨_, store'⟩ := c'
  obtain ⟨rfl, session⟩ := sees
  have stop (q : SecurePeer HS) : Sees sel.sessionKey ⟨q, store⟩ ⟨q, store'⟩ := ⟨rfl, session⟩
  unfold answerMsg1
  refine agree_getPeer_bind (agree_orDisplay_bind (stop _) fun bConnId _ => ?_)
  refine agree_setPeer_bind (agree_orDisplay_bind (stop _) fun noiseMessage _ => ?_)
  refine agree_setPeer_bind ?_
  refine agree_bind (attachSession_agree attachMs (stop _) rfl room room') (fun _ _ h => h.1) ?_
  rintro _ d d' _ _ ⟨sees, own⟩
  refine agree_bind (loadSessionState_agree sees own) (fun _ _ h => h.1) ?_
  rintro _ ⟨q, t⟩ ⟨_, t'⟩ _ _ ⟨⟨rfl, related⟩, _⟩
  exact agree_modify_bind (agree_pure _ ⟨rfl, related⟩)

private theorem selected_room {networkSecret : String} {random32 : Except String Key}
    {upsertMs : UInt64}
    {p : SecurePeer HS} {store : SessionStore} {sel : Msg2Selection HS} {c : Ctx HS}
    (ran : selectSession E networkSecret random32 upsertMs ⟨p, store⟩ = .ok sel c) :
    attachmentsOf c.store sel.sessionKey = attachmentsOf store sel.sessionKey := by
  obtain ⟨s, selected, rfl⟩ :=
    ensures_of_ok (selectSession_cases E networkSecret random32 upsertMs ⟨p, store⟩) ran
  obtain ⟨algorithm, _, chosen⟩ := selected.chosen
  show attachmentsOf ((sweep upsertMs store).insert sel.sessionKey s) sel.sessionKey = _
  rw [attachmentsOf_insert, if_pos rfl, chosen_attachments chosen]
  exact attachmentsOf_sweep upsertMs store sel.sessionKey

theorem buildMsg2_agree (networkSecret : String) (draws : Msg2Draws) (upsertMs attachMs : UInt64)
    (p : SecurePeer HS) {store store' : SessionStore}
    (asks : p.sessionKey = none → ∀ own, asksFor p = some own → own = key)
    (before : SameSession key store store')
    (session : SameSession key (sweep upsertMs store) (sweep upsertMs store'))
    (room : attachmentsOf store key + 1 < 2 ^ 32) (room' : attachmentsOf store' key + 1 < 2 ^ 32) :
    Agree (Sees key) (Peer.buildMsg2 E networkSecret draws upsertMs attachMs ⟨p, store⟩)
      (Peer.buildMsg2 E networkSecret draws upsertMs attachMs ⟨p, store'⟩) := by
  unfold Peer.buildMsg2
  refine agree_bind (selectSession_agree E networkSecret draws.random32 upsertMs p asks before
    session) (fun _ _ => id) ?_
  intro sel c c' ran ran' sees
  have own : sel.sessionKey = key := by
    obtain ⟨s, selected, _⟩ := ensures_of_ok
      (selectSession_cases E networkSecret draws.random32 upsertMs ⟨p, store⟩) ran
    apply asks selected.unbuilt
    have name : p.networkName = some sel.networkName := selected.networkName
    have peerId : p.peerId = some sel.peerId := selected.peerId
    rw [selected.sessionKey]
    simp [asksFor, name, peerId]
  subst own
  refine answerMsg1_agree E networkSecret draws.randomUuid attachMs sel sees ?_ ?_
  · rw [selected_room E ran]
    exact room
  · rw [selected_room E ran']
    exact room'

end Calls

theorem selected_asksFor {E : SecureEnv HS} {networkSecret : String}
    {random32 : Except String Key} {upsertMs : UInt64} {p : SecurePeer HS} {store : SessionStore}
    {sel : Msg2Selection HS}
    {s : StoredSession} (selected : Selected E networkSecret random32 upsertMs ⟨p, store⟩ sel s) :
    asksFor p = some sel.sessionKey := by
  have name : p.networkName = some sel.networkName := selected.networkName
  have peerId : p.peerId = some sel.peerId := selected.peerId
  rw [selected.sessionKey]
  simp [asksFor, name, peerId]

end EasyTierEdge.Secure.Related
