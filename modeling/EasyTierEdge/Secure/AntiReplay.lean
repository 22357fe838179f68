/- module: EasyTierEdge/Secure/AntiReplay
   source: cloudflare/wasm/src/secure.rs, decrypt_payload and upsert_session over one session
   digest: Runs over one stored session deliver nothing twice while its slots do not forget. -/

import EasyTierEdge.Secure.ReplaySlots
import EasyTierEdge.Secure.RootKeys

set_option autoImplicit false
set_option relaxedAutoImplicit false

namespace EasyTierEdge.Secure.AntiReplay

open Lib.Fallible Lib.FiniteMap Lib.Machine
open Packet (Bytes)
open Session Peer Connections Calls Steps SessionMoves ReplaySlots

variable {HS : Type}

/-! Runs over one stored session. -/

/-- What the connections sharing a session do to it. `receive` is `decrypt_payload` on the
connection of `c`, between the load and the store of the shared state; `send` stands for the send
state an `encrypt_packet` call leaves. -/
inductive SessionOp (HS : Type)
  | receive (c : Ctx HS) (algorithm : String) (d : Direction) (payload : Bytes)
      (receivedMs persistMs : UInt64)
  | sync (currentMs : UInt64)
  | send (nextEpoch : UInt32) (sendSeq : Direction → UInt64)
      (startedMs packets persistMs : UInt64)
  | pin (remotePublicKey : Key) (nowMs : UInt64)
  | touch (lastTouchMs : UInt64) (attachments : UInt32)

namespace SessionOp

def apply (E : SecureEnv HS) (s : StoredSession) : SessionOp HS → StoredSession
  | receive c algorithm d payload receivedMs persistMs =>
    (final (decryptPayload E algorithm d payload receivedMs
      { c with peer := c.peer.loadFrom s })).peer.saveTo s persistMs
  | sync currentMs => s.synced currentMs
  | send nextEpoch sendSeq startedMs packets persistMs =>
    { s with
      nextEpoch := nextEpoch
      sendSeq := sendSeq
      sendEpochStartedMs := startedMs
      sendPacketsSinceEpoch := packets
      lastTouchMs := persistMs }
  | pin remotePublicKey nowMs =>
    { s with remotePublicKey := some remotePublicKey, lastTouchMs := nowMs }
  | touch lastTouchMs attachments => retouched s lastTouchMs attachments

/-- The triple of a `decrypt_payload` call that returned a plaintext. -/
def delivered (E : SecureEnv HS) (s : StoredSession) :
    SessionOp HS → Option (Direction × UInt32 × UInt64)
  | receive c algorithm d payload receivedMs _ =>
    match value (decryptPayload E algorithm d payload receivedMs
      { c with peer := c.peer.loadFrom s }) with
    | .ok (some _) => some (d, payloadEpoch payload, payloadSequence payload)
    | _ => none
  | _ => none

/-- The clock readings of an operation, in their order. -/
def clock : SessionOp HS → List UInt64
  | receive _ _ _ _ receivedMs persistMs => [receivedMs, persistMs]
  | sync currentMs => [currentMs]
  | send _ _ _ _ persistMs => [persistMs]
  | pin _ nowMs => [nowMs]
  | touch lastTouchMs _ => [lastTouchMs]

end SessionOp

def deliveries (E : SecureEnv HS) (s : StoredSession) (ops : List (SessionOp HS)) :
    List (Direction × UInt32 × UInt64) :=
  log (SessionOp.apply E) (SessionOp.delivered E) s ops

/-- What was delivered in one direction. -/
def deliveredIn (triples : List (Direction × UInt32 × UInt64)) (d : Direction) :
    Set (UInt32 × UInt64) :=
  { pair | (d, pair) ∈ triples }

/-- The condition on one operation, after `pre` from the session `start`: an authentic packet
that passes the replay check is judged by a window that its distance does not deceive, or opens a
fresh window for an epoch from which its direction has not delivered anything. -/
def JudgedOp (E : SecureEnv HS) (start : StoredSession) (pre : List (SessionOp HS))
    (s : StoredSession) : SessionOp HS → Prop
  | .receive c algorithm d payload receivedMs _ =>
    ((c.peer.loadFrom s).evictOldRxSlots receivedMs).precheckReplay (payloadEpoch payload)
        (payloadSequence payload) d = true →
      (openOwn E s.rootKey algorithm d payload).isOk = true →
      Judged (deliveredIn (deliveries E start pre) d)
        ((c.peer.loadFrom s).evictOldRxSlots receivedMs) d (payloadEpoch payload)
        (payloadSequence payload)
  | _ => True

section Runs

variable {E : SecureEnv HS} {start : StoredSession}

private theorem deliveredIn_snoc (triples : List (Direction × UInt32 × UInt64)) (d : Direction)
    (pair : UInt32 × UInt64) :
    deliveredIn (triples ++ [(d, pair)]) =
      Function.update (deliveredIn triples) d (insert pair (deliveredIn triples d)) := by
  funext d'
  ext pair'
  by_cases same : d' = d
  · subst same
    rw [Function.update_self]
    simp only [deliveredIn, Set.mem_ofPred_eq, List.mem_append, List.mem_singleton,
      Prod.mk.injEq, true_and, Set.mem_insert_iff]
    exact or_comm
  · rw [Function.update_of_ne same]
    simp [deliveredIn, same]

theorem receive_cases (E : SecureEnv HS) (s : StoredSession) (c : Ctx HS) (algorithm : String)
    (d : Direction) (payload : Bytes) (receivedMs : UInt64) :
    Received E algorithm d payload receivedMs (c.peer.loadFrom s)
      (final (decryptPayload E algorithm d payload receivedMs
        { c with peer := c.peer.loadFrom s })).peer
      (value (decryptPayload E algorithm d payload receivedMs
        { c with peer := c.peer.loadFrom s })) := by
  have spec := decryptPayload_cases E { c with peer := c.peer.loadFrom s } s.rootKey algorithm d
    payload receivedMs rfl
  cases result : decryptPayload E algorithm d payload receivedMs
      { c with peer := c.peer.loadFrom s } with
  | ok out c' => exact (ensures_of_ok spec result).2
  | error e c' => exact (ensures_of_error spec result).2

private theorem remembers_op (pre : List (SessionOp HS)) (s : StoredSession) (op : SessionOp HS)
    (inv : RemembersAll (deliveredIn (deliveries E start pre)) s.rxSlots s.syncRxGrace)
    (judged : JudgedOp E start pre s op) :
    (∀ t, op.delivered E s = some t → t ∉ deliveries E start pre) ∧
    RemembersAll (deliveredIn (deliveries E start pre ++ (op.delivered E s).toList))
      (op.apply E s).rxSlots (op.apply E s).syncRxGrace := by
  cases op with
  | sync currentMs =>
    simp only [SessionOp.delivered, Option.toList_none, List.append_nil]
    exact ⟨by simp, synced_remembers inv currentMs⟩
  | send =>
    simp only [SessionOp.delivered, Option.toList_none, List.append_nil]
    exact ⟨by simp, inv⟩
  | pin =>
    simp only [SessionOp.delivered, Option.toList_none, List.append_nil]
    exact ⟨by simp, inv⟩
  | touch =>
    simp only [SessionOp.delivered, Option.toList_none, List.append_nil]
    exact ⟨by simp, inv⟩
  | receive c algorithm d payload receivedMs persistMs =>
    have received := receive_cases E s c algorithm d payload receivedMs
    have loaded : RemembersAll (deliveredIn (deliveries E start pre)) (c.peer.loadFrom s).rxSlots
        (c.peer.loadFrom s).syncRxGrace := inv
    have evicted := evictOldRxSlots_remembers loaded receivedMs
    simp only [SessionOp.delivered, SessionOp.apply]
    generalize (final (decryptPayload E algorithm d payload receivedMs
      { c with peer := c.peer.loadFrom s })).peer = p' at received
    generalize value (decryptPayload E algorithm d payload receivedMs
      { c with peer := c.peer.loadFrom s }) = out at received
    show _ ∧ RemembersAll _ p'.rxSlots p'.syncRxGrace
    cases received with
    | short =>
      simp only [Option.toList_none, List.append_nil]
      exact ⟨by simp, loaded⟩
    | replayed =>
      simp only [Option.toList_none, List.append_nil]
      exact ⟨by simp, evicted⟩
    | unopened failures r quiet =>
      have nothing : (match out with
          | .ok (some _) => some (d, payloadEpoch payload, payloadSequence payload)
          | _ => none) = none := by
        rcases quiet with rfl | ⟨e, rfl, _⟩
        · rfl
        · rfl
      rw [nothing]
      simp only [Option.toList_none, List.append_nil]
      exact ⟨by simp, evicted⟩
    | opened rootKey plaintext keyed fresh opens =>
      have same_key : rootKey = s.rootKey := (Option.some.inj keyed).symm
      subst same_key
      have condition := judged fresh (by rw [opens]; rfl)
      have outcome := commitReplay_remembers
        { (c.peer.loadFrom s).evictOldRxSlots receivedMs with decryptFailCount := 0 } receivedMs
        evicted condition
      generalize { (c.peer.loadFrom s).evictOldRxSlots receivedMs with
        decryptFailCount := 0 }.commitReplay (payloadEpoch payload) (payloadSequence payload) d
        receivedMs = result at outcome
      cases accepted : result.1 with
      | true =>
        obtain ⟨new, remembered⟩ := outcome.1 accepted
        simp only [if_true, Option.toList_some]
        refine ⟨?_, ?_⟩
        · intro t delivered
          cases delivered
          exact new
        · rw [deliveredIn_snoc]
          exact remembered
      | false =>
        simp only [Bool.false_eq_true, if_false, Option.toList_none, List.append_nil]
        exact ⟨by simp, outcome.2 accepted⟩

private theorem deliveries_snoc (pre : List (SessionOp HS)) (op : SessionOp HS) :
    deliveries E start (pre ++ [op]) = deliveries E start pre ++
      (op.delivered E (run (SessionOp.apply E) start pre)).toList :=
  log_snoc (SessionOp.apply E) (SessionOp.delivered E) start pre op

/-- The slots of the session remember everything delivered since `start`. -/
def SlotsRemember (E : SecureEnv HS) (start : StoredSession) (pre : List (SessionOp HS))
    (s : StoredSession) : Prop :=
  RemembersAll (deliveredIn (deliveries E start pre)) s.rxSlots s.syncRxGrace

private theorem slotsRemember_created (rootKey : Key) (algorithm : String) (createdMs : UInt64) :
    SlotsRemember E (StoredSession.created rootKey algorithm createdMs) []
      (StoredSession.created rootKey algorithm createdMs) := by
  intro d
  apply Remembers.of_empty
  intro copy i
  cases copy <;> rfl

private theorem slotsRemember_op (pre : List (SessionOp HS)) (op : SessionOp HS)
    (inv : SlotsRemember E start pre (run (SessionOp.apply E) start pre))
    (judged : JudgedOp E start pre (run (SessionOp.apply E) start pre) op) :
    SlotsRemember E start (pre ++ [op])
      (op.apply E (run (SessionOp.apply E) start pre)) := by
  unfold SlotsRemember
  rw [deliveries_snoc]
  exact (remembers_op pre _ op inv judged).2

/-- Over a session that starts empty, in any order of receiving, sending and Sync at any clock
readings, in which every authentic packet is judged as `JudgedOp` says, no triple of direction,
epoch and sequence is delivered twice. -/
theorem no_replay (rootKey : Key) (algorithm : String) (createdMs : UInt64)
    {ops : List (SessionOp HS)}
    (judged : AllSteps (SessionOp.apply E)
      (JudgedOp E (StoredSession.created rootKey algorithm createdMs))
      (StoredSession.created rootKey algorithm createdMs) ops) :
    (deliveries E (StoredSession.created rootKey algorithm createdMs) ops).Nodup := by
  refine log_nodup (slotsRemember_created rootKey algorithm createdMs) slotsRemember_op ?_ judged
  intro pre op t inv condition delivered
  exact (remembers_op pre _ op inv condition).1 t delivered

end Runs

/-! The shared system runs these operations on each stored session. -/

section Refinement

variable {E : SecureEnv HS} {w : World HS} {e : Event} {key : SessionKey} {s s' : StoredSession}

/-- The triple of an encrypted packet that `decrypt_packet` delivered on the session of `key`; a
refused packet gives an empty result. -/
def deliveredAt (E : SecureEnv HS) (key : SessionKey) (w : World HS) (e : Event) :
    Option (Direction × UInt32 × UInt64) :=
  match e, w.outcome E e with
  | .decrypt i packet _ _, .data (.ok out) => do
    let p ← w.peer? i
    let (header, payload) ← (Packet.splitPacket packet).toOption
    if p.sessionKey = some key ∧ header.flags &&& Packet.encryptedFlag ≠ 0 ∧ out ≠ [] then
      some (directionIndex header.fromPeerId header.toPeerId, payloadEpoch payload,
        payloadSequence payload)
    else none
  | _, _ => none

private theorem moved_quiet (moved : Moved E w e key s s')
    (other : ∀ i packet receivedMs persistMs, e ≠ .decrypt i packet receivedMs persistMs) :
    ∃ ops : List (SessionOp HS), run (SessionOp.apply E) s ops = s' ∧ deliveries E s ops = [] := by
  cases moved with
  | kept _ _ _ lastTouchMs attachments => exact ⟨[.touch lastTouchMs attachments], rfl, rfl⟩
  | synced i networkSecret draws upsertMs attachMs p sel s lastTouchMs attachments =>
    exact ⟨[.sync upsertMs, .touch lastTouchMs attachments], rfl, rfl⟩
  | pinned i packet nowMs p key s remotePublicKey =>
    exact ⟨[.pin remotePublicKey nowMs], rfl, rfl⟩
  | received i packet receivedMs persistMs => exact absurd rfl (other i packet receivedMs persistMs)
  | sent i packet rotateMs persistMs p p' _ s header payload live loaded sender receiver plain
      reached =>
    refine ⟨[.send p'.sendEpoch p'.sendSeq p'.sendEpochStartedMs p'.sendPacketsSinceEpoch
      persistMs], ?_, rfl⟩
    have replay : p'.rxSlots = s.rxSlots ∧ p'.syncRxGrace = s.syncRxGrace ∧
        p'.decryptFailCount = s.decryptFailCount := by
      have rotated : ((p.loadFrom s).maybeRotateEpoch rotateMs).rxSlots = s.rxSlots ∧
          ((p.loadFrom s).maybeRotateEpoch rotateMs).syncRxGrace = s.syncRxGrace ∧
          ((p.loadFrom s).maybeRotateEpoch rotateMs).decryptFailCount = s.decryptFailCount := by
        simp only [SecurePeer.maybeRotateEpoch]
        split <;> exact ⟨rfl, rfl, rfl⟩
      rcases reached with rfl | ⟨_, rfl⟩
      · exact rotated
      · exact rotated
    obtain ⟨rxSlots, grace, failures⟩ := replay
    simp only [run_cons, run_nil, SessionOp.apply, SecurePeer.saveTo, rxSlots, grace, failures]

/-- A session that a step leaves stored went through session operations which delivered what the
step delivered on it. -/
private theorem step_refines (before : w.store.lookup key = some s)
    (after : (w.step E e).store.lookup key = some s') (stays : ¬ Created E w e key s') :
    ∃ ops : List (SessionOp HS), run (SessionOp.apply E) s ops = s' ∧
      deliveries E s ops = (deliveredAt E key w e).toList := by
  by_cases packet_event :
      ∃ i packet receivedMs persistMs, e = .decrypt i packet receivedMs persistMs
  · obtain ⟨i, packet, receivedMs, persistMs, rfl⟩ := packet_event
    have moved := perform_cases E w (.decrypt i packet receivedMs persistMs)
    unfold deliveredAt World.outcome
    unfold World.step at after
    generalize w.perform E (.decrypt i packet receivedMs persistMs) = out at moved after
    have same (h : w.store.lookup key = some s') : s = s' :=
      Option.some.inj (before.symm.trans h)
    cases moved with
    | idle _ o quiet =>
      refine ⟨[], same after, ?_⟩
      rcases quiet with rfl | ⟨text, rfl⟩
      · rfl
      · rfl
    | decrypt _ _ _ _ p r live ran =>
      cases ran with
      | stopped e c' why => exact ⟨[], same (by cases why <;> exact after), rfl⟩
      | passed own s₀ header payload loaded plain =>
        refine ⟨[], same after, ?_⟩
        have split : Packet.splitPacket packet = .ok (header, payload) := loaded.split
        simp [live, split, Except.toOption, plain, deliveries]
      | received own s₀ header payload p' out r loaded sender receiver encrypted called received
          left handed =>
        have split : Packet.splitPacket packet = .ok (header, payload) := loaded.split
        have bound : p.sessionKey = some own := loaded.bound
        simp only [handed]
        rw [left] at after
        change (w.store.insert own (p'.saveTo s₀ persistMs)).lookup key = some s' at after
        rw [FMap.lookup_insert_eq_ite] at after
        by_cases own_key : key = own
        · subst own_key
          have loaded_s : s₀ = s := Option.some.inj (loaded.present.symm.trans before)
          subst loaded_s
          rw [if_pos rfl] at after
          cases after
          refine ⟨[.receive ⟨p, w.store⟩ (p.clientAlgorithm.getD "aes-gcm")
            (directionIndex header.fromPeerId header.toPeerId) payload receivedMs persistMs],
            ?_, ?_⟩
          · simp only [run_cons, run_nil, SessionOp.apply, called.2]
          · simp only [deliveries, log, List.append_nil, SessionOp.delivered, called.1]
            cases out with
            | error e => rfl
            | ok delivered =>
              cases delivered with
              | none => simp [Except.map]
              | some plaintext =>
                have nonempty : Packet.joinHeaderPayload
                    { header with flags := header.flags &&& ~~~Packet.encryptedFlag }
                    plaintext ≠ [] := by
                  intro empty
                  have length := congrArg List.length empty
                  simp [Packet.joinHeaderPayload, Packet.headerSize] at length
                simp [Except.map, Except.toOption, live, split, bound, encrypted, nonempty]
        · rw [if_neg own_key] at after
          refine ⟨[], same after, ?_⟩
          cases out with
          | error e => rfl
          | ok delivered =>
            simp [Except.map, Except.toOption, live, split, bound, Ne.symm own_key, deliveries]
  · have quiet : deliveredAt E key w e = none := by
      unfold deliveredAt
      split
      · exact absurd ⟨_, _, _, _, rfl⟩ packet_event
      · rfl
    rw [quiet]
    rcases step_lookup after with ⟨s₀, present, moved⟩ | created
    · have origin : s₀ = s := Option.some.inj (present.symm.trans before)
      subst origin
      exact moved_quiet moved (fun i packet receivedMs persistMs eq =>
        packet_event ⟨i, packet, receivedMs, persistMs, eq⟩)
    · exact absurd created stays

/-- A run of the shared system is, on a session that stays stored, a run of session operations
with the same deliveries. -/
theorem run_refines {es : List Event} (before : w.store.lookup key = some s)
    (stays : AllSteps (World.step E)
      (fun _ w e => ∃ s', (w.step E e).store.lookup key = some s' ∧ ¬ Created E w e key s') w es) :
    ∃ ops : List (SessionOp HS),
      (run (World.step E) w es).store.lookup key = some (run (SessionOp.apply E) s ops) ∧
      deliveries E s ops = log (World.step E) (deliveredAt E key) w es := by
  induction es using List.reverseRecOn with
  | nil => exact ⟨[], before, rfl⟩
  | append_singleton es e ih =>
    obtain ⟨ops, reached, same⟩ := ih stays.init
    obtain ⟨s', after, kept⟩ := stays.last
    obtain ⟨next, next_eq, next_same⟩ := step_refines reached after kept
    refine ⟨ops ++ next, ?_, ?_⟩
    · rw [run_snoc, run_append, next_eq]
      exact after
    · rw [log_snoc]
      unfold deliveries at *
      rw [log_append, same, next_same]

end Refinement

/-- The clock readings of a run never go back. -/
def Chronological (ops : List (SessionOp HS)) : Prop :=
  (ops.flatMap SessionOp.clock).Pairwise (· ≤ ·)

instance (ops : List (SessionOp HS)) : Decidable (Chronological ops) :=
  inferInstanceAs (Decidable (List.Pairwise _ _))

instance (triples : List (Direction × UInt32 × UInt64)) (p : SecurePeer HS) (d : Direction)
    (epoch : UInt32) (sequence : UInt64) :
    Decidable (Judged (deliveredIn triples d) p d epoch sequence) :=
  match tracks : trackingSlot p.rxSlots p.syncRxGrace d epoch with
  | some (copy, i) =>
    decidable_of_iff
      (¬ (slotAt p.rxSlots p.syncRxGrace d copy i).window.Aliased sequence)
      (by simp only [Judged, tracks])
  | none =>
    -- a list is searched; the triples are a finite type too
    have : Decidable (∀ t ∈ triples, t.1 = d → t.2.1 ≠ epoch) := List.decidableBAll _ triples
    decidable_of_iff (∀ t ∈ triples, t.1 = d → t.2.1 ≠ epoch) (by
      simp only [Judged, tracks]
      constructor
      · intro h n member
        exact h (d, epoch, n) member rfl rfl
      · rintro h ⟨d', epoch', n⟩ member rfl rfl
        exact h n member)

instance (E : SecureEnv HS) (start : StoredSession) (pre : List (SessionOp HS))
    (s : StoredSession) (op : SessionOp HS) : Decidable (JudgedOp E start pre s op) :=
  match op with
  | .receive _ _ _ _ _ _ => inferInstanceAs (Decidable (_ → _ → Judged _ _ _ _ _))
  | .sync _ => isTrue trivial
  | .send _ _ _ _ _ => isTrue trivial
  | .pin _ _ => isTrue trivial
  | .touch _ _ => isTrue trivial

/-- A session of the transparent dependencies, and packets received on it. -/
def plainSession : StoredSession := StoredSession.created (Vector.replicate 32 1) "aes-gcm" 1000

def plainReceive (epoch : UInt32) (sequence nowMs : UInt64) : SessionOp Turn :=
  .receive ⟨plainPeer, ∅⟩ "aes-gcm" 0 (plainPayload epoch sequence) nowMs nowMs

/-- Two packets, a Sync, a late packet of the old epoch and one of the new epoch. -/
def orderlyOps : List (SessionOp Turn) :=
  [plainReceive 0 0 1000, plainReceive 0 1 1001, .sync 1002, plainReceive 0 2 1003,
    plainReceive 1 0 1004]

theorem no_replay_orderlyOps : (deliveries plainEnv plainSession orderlyOps).Nodup :=
  no_replay _ _ _ (allSteps_of_check
    (fun pre s op => decide (JudgedOp plainEnv plainSession pre s op))
    (fun _ _ _ => of_decide_eq_true) (by decide +kernel))

/-- A packet, a pause of more than 30 seconds, and the same packet again. -/
def pausedOps : List (SessionOp Turn) := [plainReceive 0 0 1000, plainReceive 0 0 40_000]

/-- The idle eviction forgets the window, and the empty slot takes the replayed packet. -/
theorem replay_after_pause :
    Chronological pausedOps ∧ ¬ (deliveries plainEnv plainSession pausedOps).Nodup := by
  have twice : deliveries plainEnv plainSession pausedOps = [(0, 0, 0), (0, 0, 0)] := by
    decide +kernel
  rw [twice]
  exact ⟨by decide +kernel, by simp⟩

end EasyTierEdge.Secure.AntiReplay
