/- module: EasyTierEdge/Secure/SessionMoves
   source: cloudflare/wasm/src/secure.rs, every write to SESSION_STORE
   digest: What one step of the shared system can do to one stored session. -/

import EasyTierEdge.Secure.StoreInvariant

set_option autoImplicit false
set_option relaxedAutoImplicit false

namespace EasyTierEdge.Secure.SessionMoves

open Lib.Fallible Lib.FiniteMap
open Packet (Bytes PacketHeader encryptedFlag)
open Session Peer Connections Calls Steps

variable {HS : Type} (E : SecureEnv HS)

/-- A session whose bookkeeping of holders was updated. -/
def retouched (s : StoredSession) (lastTouchMs : UInt64) (attachments : UInt32) : StoredSession :=
  { s with lastTouchMs := lastTouchMs, attachments := attachments }

/-- The selection the Create branch returns. -/
def createSelection (rootKey : Key) : SessionSelection where
  action := .create
  generation := 1
  rootKeyForPeer := some rootKey
  sessionRootKey := rootKey
  initialEpoch := 0

/-- The selection the Sync branch returns. -/
def syncSelection (s : StoredSession) (currentMs : UInt64) : SessionSelection where
  action := .sync
  generation := s.generation
  rootKeyForPeer := some s.rootKey
  sessionRootKey := s.rootKey
  initialEpoch := (s.synced currentMs).nextEpoch

/-- How a step changes a session that stays stored. -/
inductive Moved (w : World HS) : Event → SessionKey → StoredSession → StoredSession → Prop
  | kept (e : Event) (key : SessionKey) (s : StoredSession) (lastTouchMs : UInt64)
      (attachments : UInt32) : Moved w e key s (retouched s lastTouchMs attachments)
  | synced (i : Nat) (networkSecret : String) (draws : Msg2Draws) (upsertMs attachMs : UInt64)
      (p : SecurePeer HS) (sel : Msg2Selection HS) (s : StoredSession) (lastTouchMs : UInt64)
      (attachments : UInt32) (live : w.peer? i = some p)
      (selected : Selected E networkSecret draws.random32 upsertMs ⟨p, w.store⟩ sel
        (s.synced upsertMs))
      (differs : p.aSessionGeneration ≠ some s.generation)
      (session : sel.session = syncSelection s upsertMs) :
      Moved w (.buildMsg2 i networkSecret draws upsertMs attachMs) sel.sessionKey s
        (retouched (s.synced upsertMs) lastTouchMs attachments)
  | pinned (i : Nat) (packet : Bytes) (nowMs : UInt64) (p : SecurePeer HS) (key : SessionKey)
      (s : StoredSession) (remotePublicKey : Key) (live : w.peer? i = some p)
      (bound : p.sessionKey = some key)
      (agreed : s.remotePublicKey = none ∨ s.remotePublicKey = some remotePublicKey) :
      Moved w (.finishMsg3 i packet nowMs) key s
        { s with remotePublicKey := some remotePublicKey, lastTouchMs := nowMs }
  | sent (i : Nat) (packet : Bytes) (rotateMs persistMs : UInt64) (p p' : SecurePeer HS)
      (key : SessionKey) (s : StoredSession) (header : PacketHeader) (payload : Bytes)
      (live : w.peer? i = some p) (loaded : Loaded ⟨p, w.store⟩ packet key s header payload)
      (sender : header.fromPeerId = p.serverPeerId)
      (receiver : p.peerId = some header.toPeerId)
      (plain : header.flags &&& encryptedFlag = 0)
      (reached : Sending (p.loadFrom s) rotateMs
        (directionIndex header.fromPeerId header.toPeerId) p') :
      Moved w (.encrypt i packet rotateMs persistMs) key s (p'.saveTo s persistMs)
  | received (i : Nat) (packet : Bytes) (receivedMs persistMs : UInt64) (p p' : SecurePeer HS)
      (key : SessionKey) (s : StoredSession) (header : PacketHeader) (payload : Bytes)
      (out : Except JsError (Option Bytes))
      (live : w.peer? i = some p) (loaded : Loaded ⟨p, w.store⟩ packet key s header payload)
      (sender : p.peerId = some header.fromPeerId)
      (receiver : header.toPeerId = p.serverPeerId)
      (encrypted : header.flags &&& encryptedFlag ≠ 0)
      (called : value (decryptPayload E (p.clientAlgorithm.getD "aes-gcm")
          (directionIndex header.fromPeerId header.toPeerId) payload receivedMs
          ⟨p.loadFrom s, w.store⟩) = out ∧
        final (decryptPayload E (p.clientAlgorithm.getD "aes-gcm")
          (directionIndex header.fromPeerId header.toPeerId) payload receivedMs
          ⟨p.loadFrom s, w.store⟩) = ⟨p', w.store⟩)
      (ran : Received E (p.clientAlgorithm.getD "aes-gcm")
        (directionIndex header.fromPeerId header.toPeerId) payload receivedMs
        (p.loadFrom s) p' out) :
      Moved w (.decrypt i packet receivedMs persistMs) key s (p'.saveTo s persistMs)

/-- A session made by the step. -/
inductive Created (w : World HS) : Event → SessionKey → StoredSession → Prop
  | create (i : Nat) (networkSecret : String) (draws : Msg2Draws) (upsertMs attachMs : UInt64)
      (p : SecurePeer HS) (sel : Msg2Selection HS) (rootKey : Key) (algorithm : String)
      (lastTouchMs : UInt64) (attachments : UInt32) (live : w.peer? i = some p)
      (selected : Selected E networkSecret draws.random32 upsertMs ⟨p, w.store⟩ sel
        (StoredSession.created rootKey algorithm upsertMs))
      (absent : (sweep upsertMs w.store).lookup sel.sessionKey = none)
      (session : sel.session = createSelection rootKey) :
      Created w (.buildMsg2 i networkSecret draws upsertMs attachMs) sel.sessionKey
        (retouched (StoredSession.created rootKey algorithm upsertMs) lastTouchMs attachments)

variable {E}

theorem Moved.refl (w : World HS) (e : Event) (key : SessionKey) (s : StoredSession) :
    Moved E w e key s s :=
  .kept e key s s.lastTouchMs s.attachments

section Selection

variable {w : World HS} {i : Nat} {p : SecurePeer HS} {networkSecret : String}
  {draws : Msg2Draws} {upsertMs attachMs : UInt64} {sel : Msg2Selection HS} {s : StoredSession}

private theorem selected_origin (live : w.peer? i = some p)
    (selected : Selected E networkSecret draws.random32 upsertMs ⟨p, w.store⟩ sel s)
    (lastTouchMs : UInt64) (attachments : UInt32) :
    (∃ s₀, w.store.lookup sel.sessionKey = some s₀ ∧
      Moved E w (.buildMsg2 i networkSecret draws upsertMs attachMs) sel.sessionKey s₀
        (retouched s lastTouchMs attachments)) ∨
    Created E w (.buildMsg2 i networkSecret draws upsertMs attachMs) sel.sessionKey
      (retouched s lastTouchMs attachments) := by
  obtain ⟨algorithm, _, chosen⟩ := selected.chosen
  generalize session : sel.session = session at chosen
  cases chosen with
  | join s₀ present _ _ =>
    left
    exact ⟨s₀, (FMap.lookup_of_lookup_retain present).1, .kept _ _ s₀ lastTouchMs attachments⟩
  | sync s₀ present _ differs =>
    left
    exact ⟨s₀, (FMap.lookup_of_lookup_retain present).1,
      .synced i networkSecret draws upsertMs attachMs p sel s₀ lastTouchMs attachments live
        selected differs session⟩
  | create rootKey absent _ _ =>
    right
    exact .create i networkSecret draws upsertMs attachMs p sel rootKey algorithm lastTouchMs
      attachments live selected absent session

private theorem selected_others {key : SessionKey} {s' s'' : StoredSession}
    (differs : key ≠ sel.sessionKey)
    (after : ((sweep upsertMs w.store).insert sel.sessionKey s').lookup key = some s'') :
    w.store.lookup key = some s'' := by
  rw [FMap.lookup_insert_eq_ite, if_neg differs] at after
  exact (FMap.lookup_of_lookup_retain after).1

end Selection

private theorem lookup_saved {w : World HS} {e : Event} {own key : SessionKey}
    {s s' s'' : StoredSession} (present : w.store.lookup own = some s)
    (moved : Moved E w e own s s')
    (after : (w.store.insert own s').lookup key = some s'') :
    ∃ s₀, w.store.lookup key = some s₀ ∧ Moved E w e key s₀ s'' := by
  rw [FMap.lookup_insert_eq_ite] at after
  split at after
  · rename_i same
    cases after
    exact ⟨s, same ▸ present, same ▸ moved⟩
  · exact ⟨s'', after, Moved.refl w e key s''⟩

/-- Every session stored after a step was moved or created by it. -/
theorem step_lookup {w : World HS} {e : Event} {key : SessionKey} {s' : StoredSession}
    (after : (w.step E e).store.lookup key = some s') :
    (∃ s, w.store.lookup key = some s ∧ Moved E w e key s s') ∨ Created E w e key s' := by
  have same (h : w.store.lookup key = some s') :
      (∃ s, w.store.lookup key = some s ∧ Moved E w e key s s') ∨ Created E w e key s' :=
    Or.inl ⟨s', h, Moved.refl w e key s'⟩
  have moved := perform_cases E w e
  unfold World.step at after
  generalize w.perform E e = out at moved after
  cases moved with
  | idle => exact same after
  | constructed => exact same after
  | readMsg1 i packet p r live ran =>
    cases ran with
    | refused => exact same after
    | read => exact same after
  | buildMsg2 i networkSecret draws upsertMs attachMs p r live ran =>
    -- the selected key has an origin, the others were only swept
    have selection {sel : Msg2Selection HS} {s : StoredSession} (lastTouchMs : UInt64)
        (attachments : UInt32)
        (selected : Selected E networkSecret draws.random32 upsertMs ⟨p, w.store⟩ sel s)
        (after : ((sweep upsertMs w.store).insert sel.sessionKey
          (retouched s lastTouchMs attachments)).lookup key = some s') :
        (∃ s, w.store.lookup key = some s ∧
          Moved E w (.buildMsg2 i networkSecret draws upsertMs attachMs) key s s') ∨
        Created E w (.buildMsg2 i networkSecret draws upsertMs attachMs) key s' := by
      by_cases own : key = sel.sessionKey
      · subst own
        rw [Finmap.lookup_insert] at after
        cases after
        exact selected_origin live selected lastTouchMs attachments
      · exact same (selected_others own after)
    cases ran with
    | refused => exact same after
    | unselected => exact same (FMap.lookup_of_lookup_retain after).1
    | unwritten sel s handshake text selected _ =>
      exact selection s.lastTouchMs s.attachments selected after
    | exhausted sel s handshake e selected _ _ =>
      exact selection s.lastTouchMs s.attachments selected after
    | answered sel s handshake bConnId noiseMessage selected _ _ _ =>
      exact selection attachMs (s.attachments + 1) selected after
  | finishMsg3 i packet nowMs p r live ran =>
    cases ran with
    | refused => exact same after
    | failed => exact same after
    | finished header payload decoded turn handshake message proof secret challenge remotePublic
        remotePublicKey own s split sender ready noise parsed echoA echoB given chosen challenged
        verified static sized bound present pinned =>
      exact Or.inl (lookup_saved present
        (.pinned i packet nowMs p own s remotePublicKey live bound pinned) after)
  | encrypt i packet rotateMs persistMs p r live ran =>
    cases ran with
    | stopped e c' why => cases why <;> exact same after
    | failed e own s header payload p' loaded sender receiver plain reached _ =>
      exact Or.inl (lookup_saved loaded.present
        (.sent i packet rotateMs persistMs p p' own s header payload live loaded sender receiver
          plain reached) after)
    | sealed own s header payload ciphertext tag rotated d loaded sender receiver plain rotated_eq
        direction room _ =>
      exact Or.inl (lookup_saved loaded.present
        (.sent i packet rotateMs persistMs p (advanced rotated d) own s header payload live loaded
          sender receiver plain (Or.inr (by
            rw [← direction, ← rotated_eq]
            exact ⟨room, rfl⟩))) after)
  | decrypt i packet receivedMs persistMs p r live ran =>
    cases ran with
    | stopped e c' why => cases why <;> exact same after
    | passed => exact same after
    | received own s header payload p' out r loaded sender receiver encrypted called received left
        _ =>
      rw [left] at after
      exact Or.inl (lookup_saved loaded.present
        (.received i packet receivedMs persistMs p p' own s header payload out live loaded sender
          receiver encrypted called received) after)
  | dropped i nowMs p live =>
    unfold dropPeer at after
    split at after
    · exact same after
    split at after
    · exact same after
    · rename_i own _
      simp only [FMap.lookup_modify] at after
      split at after
      · rename_i eq
        obtain ⟨s, present, moved⟩ := Option.map_eq_some_iff.mp after
        left
        exact ⟨s, present, moved ▸ .kept _ key s nowMs (saturatingSub32 s.attachments 1)⟩
      · exact same after

end EasyTierEdge.Secure.SessionMoves
