/- module: EasyTierEdge/Secure/StoreInvariant
   source: cloudflare/wasm/src/secure.rs, SESSION_STORE, attach_session and Drop for SecurePeer
   digest: Attachment counts equal the live holders, so an attached session is never evicted. -/

import EasyTierEdge.Secure.Steps

set_option autoImplicit false
set_option relaxedAutoImplicit false

namespace EasyTierEdge.Secure.StoreInvariant

open Lib.Fallible Lib.FiniteMap
open Packet (Bytes)
open Session Peer Connections Calls Steps

variable {HS : Type}

/-! Attachments of a store. -/

/-- The stored attachment count; an absent session has none. -/
def attachmentsOf (store : SessionStore) (key : SessionKey) : Nat :=
  (store.lookup key).elim 0 fun s => s.attachments.toNat

theorem attachmentsOf_insert (store : SessionStore) (key key' : SessionKey) (s : StoredSession) :
    attachmentsOf (store.insert key s) key' =
      if key' = key then s.attachments.toNat else attachmentsOf store key' := by
  unfold attachmentsOf
  rw [FMap.lookup_insert_eq_ite]
  split <;> rfl

theorem attachmentsOf_of_lookup {store : SessionStore} {key : SessionKey} {s : StoredSession}
    (present : store.lookup key = some s) : attachmentsOf store key = s.attachments.toNat := by
  unfold attachmentsOf
  rw [present]
  rfl

private theorem attachmentsOf_insert_same {store : SessionStore} {key : SessionKey}
    {s s' : StoredSession} (present : store.lookup key = some s)
    (same : s'.attachments = s.attachments) (key' : SessionKey) :
    attachmentsOf (store.insert key s') key' = attachmentsOf store key' := by
  rw [attachmentsOf_insert]
  split
  · rename_i eq
    rw [eq, attachmentsOf_of_lookup present, same]
  · rfl

theorem attachmentsOf_sweep (currentMs : UInt64) (store : SessionStore) (key : SessionKey) :
    attachmentsOf (sweep currentMs store) key = attachmentsOf store key := by
  unfold attachmentsOf sweep
  rw [FMap.lookup_retain]
  cases present : store.lookup key with
  | none => rfl
  | some s =>
    cases kept : s.retained currentMs with
    | true => rw [Option.filter_some, if_pos kept]
    | false =>
      have idle : s.attachments = 0 := by
        have not_held : ¬ s.attachments > 0 := by
          intro held
          simp [StoredSession.retained, held] at kept
        have zero : s.attachments.toNat = 0 := by
          rw [gt_iff_lt, UInt32.lt_iff_toNat_lt] at not_held
          simpa using not_held
        exact UInt32.toNat_inj.mp zero
      rw [Option.filter_some, if_neg (by simp [kept])]
      simp [idle]

private theorem size_insert_le {store : SessionStore} {key : SessionKey} {s s' : StoredSession}
    (present : store.lookup key = some s) :
    FMap.size (store.insert key s') = FMap.size store := by
  rw [FMap.size_insert, if_pos (Finmap.mem_iff.mpr ⟨s, present⟩)]

section Selection

variable {key : SessionKey} {generation : Option UInt32} {algorithm : String}
  {random32 : Except String Key} {nowMs : UInt64} {swept : SessionStore}
  {session : SessionSelection} {s : StoredSession}

theorem chosen_attachments (h : Chosen key generation algorithm random32 nowMs swept session s) :
    s.attachments.toNat = attachmentsOf swept key := by
  cases h with
  | join s present _ _ => exact (attachmentsOf_of_lookup present).symm
  | sync s present _ _ => exact (attachmentsOf_of_lookup present).symm
  | create rootKey absent _ _ =>
    unfold attachmentsOf
    rw [absent]
    rfl

private theorem chosen_size (h : Chosen key generation algorithm random32 nowMs swept session s)
    (s' : StoredSession) (bounded : FMap.size swept ≤ maxStoredSessions) :
    FMap.size (swept.insert key s') ≤ maxStoredSessions := by
  cases h with
  | join s present _ _ => rwa [size_insert_le present]
  | sync s present _ _ => rwa [size_insert_le present]
  | create rootKey absent room _ =>
    rw [FMap.size_insert]
    split
    · exact bounded
    · omega

end Selection

/-! The invariant. -/

structure Consistent (w : World HS) : Prop where
  /-- Every stored count is the number of live holders. -/
  counted : ∀ key, attachmentsOf w.store key = w.attachedPeers key
  /-- An object is attached exactly when it has a session key. -/
  bound : ∀ i p, w.peer? i = some p → p.sessionAttached = p.sessionKey.isSome
  bounded : FMap.size w.store ≤ maxStoredSessions
  live : w.livePeers ≤ maxLivePeers

private theorem consistent_empty : Consistent (World.empty : World HS) where
  counted := fun _ => rfl
  bound := by
    intro i p live
    rw [peer?_empty] at live
    cases live
  bounded := Nat.zero_le _
  live := Nat.zero_le _

theorem Consistent.stored {w : World HS} (inv : Consistent w) {i : Nat} {p : SecurePeer HS}
    {key : SessionKey} (live : w.peer? i = some p) (has : p.sessionKey = some key) :
    ∃ s, w.store.lookup key = some s ∧ 0 < s.attachments.toNat := by
  have attached : p.sessionAttached = true := by
    rw [inv.bound i p live, has]
    rfl
  have held : 0 < w.attachedPeers key := by
    apply attachedPeers_pos live
    simp [World.attachedTo, attached, has]
  rw [← inv.counted key] at held
  unfold attachmentsOf at held
  cases present : w.store.lookup key with
  | none => simp [present] at held
  | some s =>
    refine ⟨s, rfl, ?_⟩
    simpa [present] using held

/-- No count can reach the `u32` limit: there are not that many objects. -/
theorem Consistent.room {w : World HS} (inv : Consistent w) (key : SessionKey) :
    attachmentsOf w.store key + 1 < 2 ^ 32 := by
  have holders := attachedPeers_le_livePeers w key
  have live := inv.live
  rw [inv.counted key]
  simp only [maxLivePeers] at live
  omega

section Keep

variable {w : World HS} {i : Nat} {p : SecurePeer HS} {c : Ctx HS}

private theorem Consistent.put_same (inv : Consistent w) (live : w.peer? i = some p)
    (key_eq : c.peer.sessionKey = p.sessionKey)
    (attached_eq : c.peer.sessionAttached = p.sessionAttached)
    (counts : ∀ key, attachmentsOf c.store key = attachmentsOf w.store key)
    (bounded : FMap.size c.store ≤ maxStoredSessions) : Consistent (w.put i c) where
  counted := by
    intro key
    have holders := attachedPeers_set live c.store (some c.peer) key
    have same : World.attachedTo key (some c.peer) = World.attachedTo key (some p) := by
      simp [World.attachedTo, key_eq, attached_eq]
    rw [same] at holders
    show attachmentsOf c.store key = (w.put i c).attachedPeers key
    rw [counts key, inv.counted key]
    unfold World.put
    omega
  bound := by
    intro j q at_j
    rw [peer?_put live] at at_j
    split at at_j
    · cases at_j
      rw [key_eq, attached_eq]
      exact inv.bound i p live
    · exact inv.bound j q at_j
  bounded := bounded
  live := by
    have count := livePeers_set live c.store (some c.peer)
    have before := inv.live
    show (w.put i c).livePeers ≤ maxLivePeers
    unfold World.put
    simp only [Option.isSome_some, if_true] at count
    omega

private theorem Consistent.put_attached {key : SessionKey} {s : StoredSession} (inv : Consistent w)
    (live : w.peer? i = some p) (free : p.sessionKey = none)
    (key_eq : c.peer.sessionKey = some key) (attached : c.peer.sessionAttached = true)
    (present : c.store.lookup key = some s)
    (count : s.attachments.toNat = attachmentsOf w.store key + 1)
    (others : ∀ key', key' ≠ key → attachmentsOf c.store key' = attachmentsOf w.store key')
    (bounded : FMap.size c.store ≤ maxStoredSessions) : Consistent (w.put i c) where
  counted := by
    intro key'
    have holders := attachedPeers_set live c.store (some c.peer) key'
    have old : World.attachedTo key' (some p) = false := by
      simp [World.attachedTo, free]
    rw [old] at holders
    show attachmentsOf c.store key' = (w.put i c).attachedPeers key'
    unfold World.put
    by_cases same : key' = key
    · have new : World.attachedTo key' (some c.peer) = true := by
        simp [World.attachedTo, attached, key_eq, same]
      rw [new] at holders
      rw [same, attachmentsOf_of_lookup present, count, ← same, inv.counted key']
      simpa using holders.symm
    · have new : World.attachedTo key' (some c.peer) = false := by
        simp [World.attachedTo, attached, key_eq, Ne.symm same]
      rw [new] at holders
      rw [others key' same, inv.counted key']
      simpa using holders.symm
  bound := by
    intro j q at_j
    rw [peer?_put live] at at_j
    split at at_j
    · cases at_j
      rw [key_eq, attached]
      rfl
    · exact inv.bound j q at_j
  bounded := bounded
  live := by
    have count := livePeers_set live c.store (some c.peer)
    have before := inv.live
    show (w.put i c).livePeers ≤ maxLivePeers
    unfold World.put
    simp only [Option.isSome_some, if_true] at count
    omega

end Keep

private theorem Consistent.dropped {w : World HS} {i : Nat} {p : SecurePeer HS} (inv : Consistent w)
    (live : w.peer? i = some p) (nowMs : UInt64) :
    Consistent (⟨dropPeer p w.store nowMs, w.peers.set i none⟩ : World HS) where
  counted := by
    intro key
    have holders := attachedPeers_set live (dropPeer p w.store nowMs) none key
    have gone : World.attachedTo key (none : Option (SecurePeer HS)) = false := rfl
    rw [gone] at holders
    have bound := inv.bound i p live
    show attachmentsOf (dropPeer p w.store nowMs) key = _
    cases has : p.sessionKey with
    | none =>
      have free : p.sessionAttached = false := by
        rw [bound, has]
        rfl
      have old : World.attachedTo key (some p) = false := by
        simp [World.attachedTo, free]
      rw [old] at holders
      have untouched : dropPeer p w.store nowMs = w.store := by
        simp [dropPeer, free]
      rw [untouched, inv.counted key]
      rw [untouched] at holders
      simpa using holders.symm
    | some own =>
      have attached : p.sessionAttached = true := by
        rw [bound, has]
        rfl
      obtain ⟨s, present, held⟩ := inv.stored live has
      have dropped : dropPeer p w.store nowMs = FMap.modify w.store own fun session =>
          { session with
            attachments := saturatingSub32 session.attachments 1
            lastTouchMs := nowMs } := by
        simp [dropPeer, attached, has]
      have one_less : (saturatingSub32 s.attachments 1).toNat = s.attachments.toNat - 1 := by
        have enough : (1 : UInt32) ≤ s.attachments := by
          rw [UInt32.le_iff_toNat_le]
          exact held
        simp only [saturatingSub32, enough, if_true]
        rw [UInt32.toNat_sub_of_le _ _ enough]
        rfl
      have counted := inv.counted key
      have counts : attachmentsOf (dropPeer p w.store nowMs) key =
          attachmentsOf w.store key - if own = key then 1 else 0 := by
        rw [dropped]
        unfold attachmentsOf
        rw [FMap.lookup_modify]
        by_cases same : own = key
        · subst same
          rw [if_pos rfl, if_pos rfl, present]
          exact one_less
        · rw [if_neg (fun h => same h.symm), if_neg same]
          rfl
      by_cases same : own = key
      · have old : World.attachedTo key (some p) = true := by
          simp [World.attachedTo, attached, has, same]
        simp only [old, same, if_true, Bool.false_eq_true, if_false] at holders counts
        omega
      · have old : World.attachedTo key (some p) = false := by
          simp [World.attachedTo, has, same]
        simp only [old, same, Bool.false_eq_true, if_false] at holders counts
        omega
  bound := by
    intro j q at_j
    rw [peer?_set live] at at_j
    split at at_j
    · cases at_j
    · exact inv.bound j q at_j
  bounded := by
    have same : FMap.size (dropPeer p w.store nowMs) = FMap.size w.store := by
      unfold dropPeer
      split
      · rfl
      split
      · rfl
      · exact FMap.size_modify _ _ _
    rw [same]
    exact inv.bounded
  live := by
    have count := livePeers_set live (dropPeer p w.store nowMs) none
    have before := inv.live
    simp only [Option.isSome_none, Bool.false_eq_true, if_false] at count
    omega

section Calls

variable {E : SecureEnv HS} {w : World HS} {i : Nat} {p : SecurePeer HS}

private theorem Consistent.readMsg1 {packet : Bytes} {r : EStateM.Result JsError (Ctx HS) Msg1Info}
    (inv : Consistent w) (live : w.peer? i = some p) (ran : ReadMsg1 E packet ⟨p, w.store⟩ r) :
    Consistent (w.put i (final r)) := by
  cases ran with
  | refused => exact inv.put_same live rfl rfl (fun _ => rfl) inv.bounded
  | read => exact inv.put_same live rfl rfl (fun _ => rfl) inv.bounded

private theorem size_sweep_le {w : World HS} (inv : Consistent w) (currentMs : UInt64) :
    FMap.size (sweep currentMs w.store) ≤ maxStoredSessions :=
  (FMap.size_retain_le _ _).trans inv.bounded

private theorem Consistent.buildMsg2 {networkSecret : String} {draws : Msg2Draws}
    {upsertMs attachMs : UInt64} {r : EStateM.Result JsError (Ctx HS) Msg2}
    (inv : Consistent w) (live : w.peer? i = some p)
    (ran : BuildMsg2 E networkSecret draws upsertMs attachMs ⟨p, w.store⟩ r) :
    Consistent (w.put i (final r)) := by
  -- after the selection every count is what it was before
  have selection {sel : Msg2Selection HS} {s : StoredSession}
      (selected : Selected E networkSecret draws.random32 upsertMs ⟨p, w.store⟩ sel s) :
      s.attachments.toNat = attachmentsOf w.store sel.sessionKey ∧
      ∀ s' : StoredSession,
        FMap.size ((sweep upsertMs w.store).insert sel.sessionKey s') ≤ maxStoredSessions := by
    obtain ⟨algorithm, _, chosen⟩ := selected.chosen
    constructor
    · rw [chosen_attachments chosen]
      exact attachmentsOf_sweep upsertMs w.store sel.sessionKey
    · intro s'
      exact chosen_size chosen s' (size_sweep_le inv upsertMs)
  cases ran with
  | refused => exact inv.put_same live rfl rfl (fun _ => rfl) inv.bounded
  | unselected =>
    exact inv.put_same live rfl rfl (attachmentsOf_sweep upsertMs w.store)
      (size_sweep_le inv upsertMs)
  | unwritten sel s handshake text selected _ =>
    obtain ⟨count, bounded⟩ := selection selected
    refine inv.put_same live rfl rfl ?_ (bounded s)
    intro key
    show attachmentsOf ((sweep upsertMs w.store).insert sel.sessionKey s) key = _
    rw [attachmentsOf_insert]
    split
    · rename_i same
      rw [same, count]
    · exact attachmentsOf_sweep upsertMs w.store key
  | exhausted sel s handshake e selected full _ =>
    obtain ⟨count, _⟩ := selection selected
    have room := inv.room sel.sessionKey
    omega
  | answered sel s handshake bConnId noiseMessage selected room _ _ =>
    obtain ⟨count, bounded⟩ := selection selected
    refine inv.put_attached live selected.unbuilt rfl rfl (Finmap.lookup_insert _) ?_ ?_
      (bounded _)
    · have sum : (attachedSession s attachMs).attachments.toNat = s.attachments.toNat + 1 := by
        simp only [attachedSession, UInt32.toNat_add]
        exact Nat.mod_eq_of_lt room
      rw [sum, count]
    · intro key differs
      show attachmentsOf ((sweep upsertMs w.store).insert sel.sessionKey _) key = _
      rw [attachmentsOf_insert, if_neg differs]
      exact attachmentsOf_sweep upsertMs w.store key

private theorem Consistent.finishMsg3 {packet : Bytes} {nowMs : UInt64}
    {r : EStateM.Result JsError (Ctx HS) AuthInfo} (inv : Consistent w)
    (live : w.peer? i = some p) (ran : FinishMsg3 E packet nowMs ⟨p, w.store⟩ r) :
    Consistent (w.put i (final r)) := by
  cases ran with
  | refused => exact inv.put_same live rfl rfl (fun _ => rfl) inv.bounded
  | failed => exact inv.put_same live rfl rfl (fun _ => rfl) inv.bounded
  | finished header payload decoded turn handshake message proof secret challenge remotePublic
      remotePublicKey key s =>
    rename_i present _
    refine inv.put_same live rfl rfl (attachmentsOf_insert_same present rfl) ?_
    exact (size_insert_le present).trans_le inv.bounded

private theorem Consistent.stopped {e : JsError} {c' : Ctx HS} (inv : Consistent w)
    (live : w.peer? i = some p) (why : Stopped ⟨p, w.store⟩ e c') : Consistent (w.put i c') := by
  cases why with
  | refused => exact inv.put_same live rfl rfl (fun _ => rfl) inv.bounded
  | unstored => exact inv.put_same live rfl rfl (fun _ => rfl) inv.bounded
  | loaded => exact inv.put_same live rfl rfl (fun _ => rfl) inv.bounded

private theorem Consistent.saved {key : SessionKey} {s : StoredSession} (p' : SecurePeer HS)
    (inv : Consistent w) (live : w.peer? i = some p) (present : w.store.lookup key = some s)
    (key_eq : p'.sessionKey = p.sessionKey) (attached_eq : p'.sessionAttached = p.sessionAttached)
    (nowMs : UInt64) :
    Consistent (w.put i ⟨p', w.store.insert key (p'.saveTo s nowMs)⟩) := by
  refine inv.put_same live key_eq attached_eq (attachmentsOf_insert_same present rfl) ?_
  exact (size_insert_le present).trans_le inv.bounded

private theorem Consistent.encryptPacket {packet : Bytes} {rotateMs persistMs : UInt64}
    {r : EStateM.Result JsError (Ctx HS) Bytes} (inv : Consistent w) (live : w.peer? i = some p)
    (ran : EncryptPacket E packet rotateMs persistMs ⟨p, w.store⟩ r) :
    Consistent (w.put i (final r)) := by
  cases ran with
  | stopped e c' why => exact inv.stopped live why
  | failed e key s header payload p' loaded _ _ _ reached _ =>
    have frame : p'.sessionKey = p.sessionKey ∧ p'.sessionAttached = p.sessionAttached := by
      rcases reached with rfl | ⟨_, rfl⟩
      · exact ⟨maybeRotateEpoch_sessionKey _ _, maybeRotateEpoch_sessionAttached _ _⟩
      · exact ⟨maybeRotateEpoch_sessionKey _ _, maybeRotateEpoch_sessionAttached _ _⟩
    exact inv.saved p' live loaded.present frame.1 frame.2 persistMs
  | sealed key s header payload ciphertext tag rotated d loaded _ _ _ rotated_eq _ _ _ =>
    have frame : rotated.sessionKey = p.sessionKey ∧
        rotated.sessionAttached = p.sessionAttached := by
      rw [rotated_eq]
      exact ⟨maybeRotateEpoch_sessionKey _ _, maybeRotateEpoch_sessionAttached _ _⟩
    exact inv.saved (advanced rotated d) live loaded.present frame.1 frame.2 persistMs

private theorem Consistent.decryptPacket {packet : Bytes} {receivedMs persistMs : UInt64}
    {r : EStateM.Result JsError (Ctx HS) Bytes} (inv : Consistent w) (live : w.peer? i = some p)
    (ran : DecryptPacket E packet receivedMs persistMs ⟨p, w.store⟩ r) :
    Consistent (w.put i (final r)) := by
  cases ran with
  | stopped e c' why => exact inv.stopped live why
  | passed => exact inv.put_same live rfl rfl (fun _ => rfl) inv.bounded
  | received key s header payload p' out r loaded _ _ _ _ received left _ =>
    have frame : p'.sessionKey = p.sessionKey ∧ p'.sessionAttached = p.sessionAttached := by
      obtain ⟨_, _, _, rfl⟩ := received.frame
      exact ⟨rfl, rfl⟩
    rw [left]
    exact inv.saved p' live loaded.present frame.1 frame.2 persistMs

end Calls

theorem consistent_step (E : SecureEnv HS) (w : World HS) (e : Event) (inv : Consistent w) :
    Consistent (w.step E e) := by
  have moved := perform_cases E w e
  unfold World.step
  generalize w.perform E e = out at moved
  cases moved with
  | idle => exact inv
  | constructed privateKey publicKey serverPeerId nowMs p room made =>
    have unused := new_unused E made
    constructor
    · intro key
      have free : World.attachedTo key (some p) = false := by
        simp [World.attachedTo, unused.sessionAttached]
      rw [inv.counted key]
      simp [World.attachedPeers, List.countP_append, free]
    · intro j q at_j
      rw [peer?_append] at at_j
      split at at_j
      · cases at_j
        rw [unused.sessionAttached, unused.sessionKey]
        rfl
      · exact inv.bound j q at_j
    · exact inv.bounded
    · simp only [World.livePeers, List.countP_append] at room ⊢
      simpa using room
  | readMsg1 i packet p r live ran => exact inv.readMsg1 live ran
  | buildMsg2 i networkSecret draws upsertMs attachMs p r live ran => exact inv.buildMsg2 live ran
  | finishMsg3 i packet nowMs p r live ran => exact inv.finishMsg3 live ran
  | encrypt i packet rotateMs persistMs p r live ran => exact inv.encryptPacket live ran
  | decrypt i packet receivedMs persistMs p r live ran => exact inv.decryptPacket live ran
  | dropped i nowMs p live => exact inv.dropped live nowMs

theorem consistent_after (E : SecureEnv HS) (es : List Event) : Consistent (World.after E es) :=
  Lib.Machine.run_invariant (consistent_step E) consistent_empty es

private theorem not_disappeared_outcome {E : SecureEnv HS} {w : World HS} {e : Event}
    {error : JsError} (inv : Consistent w) (failed : (w.outcome E e).error? = some error) :
    ¬ disappeared error := by
  have moved := perform_cases E w e
  unfold World.outcome at failed
  generalize w.perform E e = out at moved failed
  have stopped {i : Nat} {p : SecurePeer HS} {c' : Ctx HS} (live : w.peer? i = some p)
      (why : Stopped ⟨p, w.store⟩ error c') : ¬ disappeared error := by
    cases why with
    | refused other => exact other
    | unstored key _ bound absent =>
      obtain ⟨s, present, _⟩ := inv.stored live bound
      exact absurd (present.symm.trans absent) (by simp)
    | loaded key s _ _ other => exact other
  cases moved with
  | idle _ _ quiet =>
    rcases quiet with rfl | ⟨text, rfl⟩
    · cases failed
    · cases failed
  | constructed => cases failed
  | readMsg1 i packet p r live ran =>
    cases ran with
    | refused e other =>
      cases failed
      exact other
    | read => cases failed
  | buildMsg2 i networkSecret draws upsertMs attachMs p r live ran =>
    cases ran with
    | refused e other =>
      cases failed
      exact other
    | unselected e other =>
      cases failed
      exact other
    | unwritten sel s handshake text =>
      cases failed
      exact not_disappeared_dependency text
    | exhausted sel s handshake e _ _ other =>
      cases failed
      exact other
    | answered => cases failed
  | finishMsg3 i packet nowMs p r live ran =>
    cases ran with
    | refused e other =>
      cases failed
      exact other
    | failed e unstored =>
      cases failed
      intro gone
      obtain ⟨key, bound, absent⟩ := unstored gone
      obtain ⟨s, present, _⟩ := inv.stored live bound
      exact absurd (present.symm.trans absent) (by simp)
    | finished => cases failed
  | encrypt i packet rotateMs persistMs p r live ran =>
    cases ran with
    | stopped e c' why =>
      cases failed
      exact stopped live why
    | failed =>
      cases failed
      assumption
    | sealed => cases failed
  | decrypt i packet receivedMs persistMs p r live ran =>
    cases ran with
    | stopped e c' why =>
      cases failed
      exact stopped live why
    | passed => cases failed
    | received key s header payload p' out r loaded _ _ _ _ received left handed =>
      cases out with
      | ok delivered =>
        rw [handed] at failed
        cases failed
      | error e' =>
        rw [handed] at failed
        cases failed
        exact received.other
  | dropped => cases failed

/-- After every run: stored counts are the numbers of live attached objects; the session of an
attached object is stored with at least its own attachment, so `Drop` never saturates; no next
call reports a disappeared session; and the store is within its capacity. -/
theorem session_store_consistent (E : SecureEnv HS) (es : List Event) :
    (∀ key s, (World.after E es).store.lookup key = some s →
      s.attachments.toNat = (World.after E es).attachedPeers key) ∧
    (∀ i p, (World.after E es).peer? i = some p → p.sessionAttached = true →
      ∃ key s, p.sessionKey = some key ∧ (World.after E es).store.lookup key = some s ∧
        1 ≤ s.attachments) ∧
    (∀ e error, ((World.after E es).outcome E e).error? = some error → ¬ disappeared error) ∧
    FMap.size (World.after E es).store ≤ maxStoredSessions := by
  have inv := consistent_after E es
  refine ⟨?_, ?_, ?_, inv.bounded⟩
  · intro key s present
    rw [← inv.counted key, attachmentsOf_of_lookup present]
  · intro i p live attached
    rw [inv.bound i p live] at attached
    obtain ⟨key, has⟩ := Option.isSome_iff_exists.mp attached
    obtain ⟨s, present, held⟩ := inv.stored live has
    refine ⟨key, s, has, present, ?_⟩
    rw [UInt32.le_iff_toNat_le]
    exact held
  · intro e error failed
    exact not_disappeared_outcome inv failed

end EasyTierEdge.Secure.StoreInvariant
