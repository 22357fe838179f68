/- module: EasyTierEdge/Secure/ObjectMoves
   source: cloudflare/wasm/src/secure.rs, every live SecurePeer
   digest: What one step of the shared system can do to one object and to the session it holds. -/

import EasyTierEdge.Secure.SessionMoves

set_option autoImplicit false
set_option relaxedAutoImplicit false

namespace EasyTierEdge.Secure.ObjectMoves

open Lib.Fallible Lib.FiniteMap Lib.Machine
open Packet (Bytes)
open Session Peer Connections Calls Steps StoreInvariant SessionMoves

variable {HS : Type} (E : SecureEnv HS)

/-! One object. -/

/-- A method call on object `i`, which was `p`: what it returned and what it left behind. -/
inductive Acted (w : World HS) (i : Nat) (p : SecurePeer HS) : Event → Outcome → Ctx HS → Prop
  | readMsg1 (packet : Bytes) (r : EStateM.Result JsError (Ctx HS) Msg1Info)
      (ran : ReadMsg1 E packet ⟨p, w.store⟩ r) :
      Acted w i p (.readMsg1 i packet) (.msg1 (value r)) (final r)
  | buildMsg2 (networkSecret : String) (draws : Msg2Draws) (upsertMs attachMs : UInt64)
      (r : EStateM.Result JsError (Ctx HS) Msg2)
      (ran : BuildMsg2 E networkSecret draws upsertMs attachMs ⟨p, w.store⟩ r) :
      Acted w i p (.buildMsg2 i networkSecret draws upsertMs attachMs) (.msg2 (value r)) (final r)
  | finishMsg3 (packet : Bytes) (nowMs : UInt64) (r : EStateM.Result JsError (Ctx HS) AuthInfo)
      (ran : FinishMsg3 E packet nowMs ⟨p, w.store⟩ r) :
      Acted w i p (.finishMsg3 i packet nowMs) (.auth (value r)) (final r)
  | encrypt (packet : Bytes) (rotateMs persistMs : UInt64)
      (r : EStateM.Result JsError (Ctx HS) Bytes)
      (ran : EncryptPacket E packet rotateMs persistMs ⟨p, w.store⟩ r) :
      Acted w i p (.encrypt i packet rotateMs persistMs) (.data (value r)) (final r)
  | decrypt (packet : Bytes) (receivedMs persistMs : UInt64)
      (r : EStateM.Result JsError (Ctx HS) Bytes)
      (ran : DecryptPacket E packet receivedMs persistMs ⟨p, w.store⟩ r) :
      Acted w i p (.decrypt i packet receivedMs persistMs) (.data (value r)) (final r)

variable {E}

theorem step_peer {w : World HS} {e : Event} {i : Nat} {p' : SecurePeer HS}
    (after : (w.step E e).peer? i = some p') :
    (i = w.peers.length ∧ Unused p') ∨
      ∃ p, w.peer? i = some p ∧ (p' = p ∨ ∃ c, Acted E w i p e (w.outcome E e) c ∧
        c.peer = p' ∧ w.step E e = w.put i c) := by
  have moved := perform_cases E w e
  unfold World.step at after ⊢
  unfold World.outcome
  generalize w.perform E e = out at moved after ⊢
  -- a call on `j` is either this object's own or leaves it alone
  have called {j : Nat} {p : SecurePeer HS} {o : Outcome} {c : Ctx HS} (live : w.peer? j = some p)
      (acted : Acted E w j p e o c) (after : (w.put j c).peer? i = some p') :
      ∃ p, w.peer? i = some p ∧ (p' = p ∨ ∃ c', Acted E w i p e o c' ∧
        c'.peer = p' ∧ w.put j c = w.put i c') := by
    rw [peer?_put live] at after
    by_cases own : i = j
    · subst own
      rw [if_pos rfl] at after
      exact ⟨p, live, Or.inr ⟨c, acted, Option.some.inj after, rfl⟩⟩
    · rw [if_neg own] at after
      exact ⟨p', after, Or.inl rfl⟩
  cases moved with
  | idle => exact Or.inr ⟨p', after, Or.inl rfl⟩
  | constructed privateKey publicKey serverPeerId nowMs p room made =>
    simp only at after
    rw [peer?_append] at after
    split at after
    · rename_i new
      exact Or.inl ⟨new, Option.some.inj after ▸ new_unused E made⟩
    · exact Or.inr ⟨p', after, Or.inl rfl⟩
  | readMsg1 j packet p r live ran =>
    exact Or.inr (called live (.readMsg1 packet r ran) after)
  | buildMsg2 j networkSecret draws upsertMs attachMs p r live ran =>
    exact Or.inr (called live (.buildMsg2 networkSecret draws upsertMs attachMs r ran) after)
  | finishMsg3 j packet nowMs p r live ran =>
    exact Or.inr (called live (.finishMsg3 packet nowMs r ran) after)
  | encrypt j packet rotateMs persistMs p r live ran =>
    exact Or.inr (called live (.encrypt packet rotateMs persistMs r ran) after)
  | decrypt j packet receivedMs persistMs p r live ran =>
    exact Or.inr (called live (.decrypt packet receivedMs persistMs r ran) after)
  | dropped j nowMs p live =>
    simp only at after
    rw [peer?_set live] at after
    split at after
    · cases after
    · exact Or.inr ⟨p', after, Or.inl rfl⟩

theorem length_step (w : World HS) (e : Event) :
    w.peers.length ≤ (w.step E e).peers.length := by
  have moved := perform_cases E w e
  unfold World.step
  generalize w.perform E e = out at moved ⊢
  cases moved with
  | idle => exact le_refl _
  | constructed => simp
  | readMsg1 => simp [World.put]
  | buildMsg2 => simp [World.put]
  | finishMsg3 => simp [World.put]
  | encrypt => simp [World.put]
  | decrypt => simp [World.put]
  | dropped => simp

private theorem length_run (w : World HS) (es : List Event) :
    w.peers.length ≤ (run (World.step E) w es).peers.length := by
  induction es generalizing w with
  | nil => exact le_refl _
  | cons e es ih => exact (length_step w e).trans (ih (w.step E e))

theorem run_peer (P : World HS → SecurePeer HS → Prop) {w : World HS} {i : Nat}
    (old : i < w.peers.length) (start : ∀ p, w.peer? i = some p → P w p)
    (keep : ∀ es e p p', (run (World.step E) w es).peer? i = some p →
      ((run (World.step E) w es).step E e).peer? i = some p' →
      (p' = p ∨ ∃ c, Acted E (run (World.step E) w es) i p e
        ((run (World.step E) w es).outcome E e) c ∧ c.peer = p' ∧
        (run (World.step E) w es).step E e = (run (World.step E) w es).put i c) →
      P (run (World.step E) w es) p → P ((run (World.step E) w es).step E e) p')
    (es : List Event) {p' : SecurePeer HS} (live' : (run (World.step E) w es).peer? i = some p') :
    P (run (World.step E) w es) p' := by
  induction es using List.reverseRecOn generalizing p' with
  | nil => exact start p' live'
  | append_singleton es e ih =>
    rw [run_snoc] at live' ⊢
    rcases step_peer live' with ⟨new, _⟩ | ⟨p, live, how⟩
    · have grown : w.peers.length ≤ (run (World.step E) w es).peers.length := length_run w es
      omega
    · exact keep es e p p' live live' how (ih live)

/-- The object without its copy of the stored session. -/
def withoutCopy (p : SecurePeer HS) : SecurePeer HS :=
  { p with
    rootKey := none
    sendEpoch := 0
    sendSeq := fun _ => 0
    sendEpochStartedMs := 0
    sendPacketsSinceEpoch := 0
    rxSlots := RxSlots.default
    syncRxGrace := SyncRxGrace.default
    decryptFailCount := 0 }

theorem field_of_withoutCopy {α : Type} (field : SecurePeer HS → α) {p p' : SecurePeer HS}
    (same : withoutCopy p' = withoutCopy p) (apart : ∀ q, field (withoutCopy q) = field q) :
    field p' = field p := by
  rw [← apart p', same, apart p]

theorem withoutCopy_sending {p p' : SecurePeer HS} {rotateMs : UInt64} {d : Direction}
    (reached : Sending p rotateMs d p') : withoutCopy p' = withoutCopy p := by
  have rotated : withoutCopy (p.maybeRotateEpoch rotateMs) = withoutCopy p := by
    simp only [SecurePeer.maybeRotateEpoch]
    split <;> rfl
  rcases reached with rfl | ⟨_, rfl⟩
  · exact rotated
  · exact rotated

private theorem withoutCopy_stopped {c c' : Ctx HS} {e : JsError} (why : Stopped c e c') :
    withoutCopy c'.peer = withoutCopy c.peer := by
  cases why <;> rfl

theorem withoutCopy_encrypt {packet : Bytes} {rotateMs persistMs : UInt64} {c : Ctx HS}
    {r : EStateM.Result JsError (Ctx HS) Bytes}
    (ran : EncryptPacket E packet rotateMs persistMs c r) :
    withoutCopy (final r).peer = withoutCopy c.peer := by
  cases ran with
  | stopped e c' why => exact withoutCopy_stopped why
  | failed e key s header payload p loaded _ _ _ reached =>
    have sent : withoutCopy p = withoutCopy (c.peer.loadFrom s) := withoutCopy_sending reached
    exact sent
  | sealed key s header payload ciphertext tag rotated d loaded _ _ _ rotated_eq _ room =>
    subst rotated_eq
    have reached : Sending (c.peer.loadFrom s) rotateMs d
        (advanced ((c.peer.loadFrom s).maybeRotateEpoch rotateMs) d) := Or.inr ⟨room, rfl⟩
    have sent := withoutCopy_sending reached
    exact sent

theorem withoutCopy_decrypt {packet : Bytes} {receivedMs persistMs : UInt64} {c : Ctx HS}
    {r : EStateM.Result JsError (Ctx HS) Bytes}
    (ran : DecryptPacket E packet receivedMs persistMs c r) :
    withoutCopy (final r).peer = withoutCopy c.peer := by
  cases ran with
  | stopped e c' why => exact withoutCopy_stopped why
  | passed => rfl
  | received key s header payload p out r loaded _ _ _ _ ran left _ =>
    rw [left]
    obtain ⟨_, _, _, rfl⟩ := ran.frame
    rfl

/-! The session an object holds. -/

section Held

variable {w : World HS} {e : Event} {i : Nat} {p : SecurePeer HS} {key : SessionKey}

theorem held_retained (inv : Consistent w) (live : w.peer? i = some p)
    (bound : p.sessionKey = some key) (currentMs : UInt64) :
    ∃ s, w.store.lookup key = some s ∧ (sweep currentMs w.store).lookup key = some s := by
  obtain ⟨s, present, held⟩ := inv.stored live bound
  refine ⟨s, present, ?_⟩
  have kept : s.retained currentMs = true := by
    have positive : s.attachments > 0 := by
      rw [gt_iff_lt, UInt32.lt_iff_toNat_lt]
      exact held
    simp [StoredSession.retained, positive]
  unfold sweep
  rw [FMap.lookup_retain, present, Option.filter_some, if_pos kept]

/-- A session that is held before a step is moved by it, never created anew. -/
theorem held_moved {s' : StoredSession} (inv : Consistent w) (live : w.peer? i = some p)
    (bound : p.sessionKey = some key) (after : (w.step E e).store.lookup key = some s') :
    ∃ s, w.store.lookup key = some s ∧ Moved E w e key s s' := by
  rcases step_lookup after with moved | created
  · exact moved
  · cases created with
    | create _ _ _ upsertMs _ _ sel rootKey algorithm _ _ _ selected absent =>
      obtain ⟨s, _, kept⟩ := held_retained inv live bound upsertMs
      exact absurd (kept.symm.trans absent) (by simp)

theorem moved_remotePublicKey {s s' : StoredSession} {remotePublicKey : Key}
    (moved : Moved E w e key s s') (recorded : s.remotePublicKey = some remotePublicKey) :
    s'.remotePublicKey = some remotePublicKey := by
  cases moved with
  | kept => exact recorded
  | synced => exact recorded
  | pinned _ _ _ _ _ _ current _ _ agreed =>
    rcases agreed with none | same
    · exact absurd (none.symm.trans recorded) (by simp)
    · exact same.symm.trans recorded
  | sent => exact recorded
  | received => exact recorded

/-- The session of `key` is stored and bound to this remote static key. -/
def PinnedTo (w : World HS) (key : SessionKey) (remotePublicKey : Key) : Prop :=
  ∃ s, w.store.lookup key = some s ∧ s.remotePublicKey = some remotePublicKey

theorem pinnedTo_step {p' : SecurePeer HS} {remotePublicKey : Key} (inv : Consistent w)
    (live : w.peer? i = some p) (bound : p.sessionKey = some key)
    (live' : (w.step E e).peer? i = some p') (bound' : p'.sessionKey = some key)
    (pinned : PinnedTo w key remotePublicKey) : PinnedTo (w.step E e) key remotePublicKey := by
  obtain ⟨s, present, recorded⟩ := pinned
  obtain ⟨s', present', _⟩ := (consistent_step E w e inv).stored live' bound'
  obtain ⟨t, before, moved⟩ := held_moved inv live bound present'
  have same : s = t := Option.some.inj (present.symm.trans before)
  subst same
  exact ⟨s', present', moved_remotePublicKey moved recorded⟩

end Held

end EasyTierEdge.Secure.ObjectMoves
