/- module: EasyTierEdge/Secure/ForgedPackets
   source: cloudflare/wasm/src/secure.rs, decrypt_payload and evict_old_rx_slots
   digest: Packets whose tag does not verify leave no trace in what happens to the others. -/

import EasyTierEdge.Secure.Calls
import EasyTierEdge.Secure.Connections

set_option autoImplicit false
set_option relaxedAutoImplicit false

namespace EasyTierEdge.Secure.ForgedPackets

open Lib.Fallible Lib.Machine
open Lib.Saturating (saturatingSub_mono)
open Packet (Bytes aeadTailSize)
open Session Peer Calls

variable {HS : Type}

/-- One call of `decrypt_payload`, with the time it reads. -/
structure Call where
  algorithm : String
  direction : Direction
  payload : Bytes
  nowMs : UInt64
  deriving DecidableEq

section Machine

variable (E : SecureEnv HS)

def receive (c : Ctx HS) (k : Call) : EStateM.Result JsError (Ctx HS) (Option Bytes) :=
  decryptPayload E k.algorithm k.direction k.payload k.nowMs c

def step (c : Ctx HS) (k : Call) : Ctx HS := final (receive E c k)

/-- The payload is long enough and its tag verifies under the root key of the session. -/
def genuine (rootKey : Option Key) (k : Call) : Bool :=
  k.payload.length ≥ aeadTailSize &&
    rootKey.any fun key => (openOwn E key k.algorithm k.direction k.payload).isOk

/-- What the genuine calls hand back, in their order. -/
def results (rootKey : Option Key) (c : Ctx HS) (ks : List Call) :
    List (Except JsError (Option Bytes)) :=
  log (step E) (fun c k => if genuine E rootKey k then some (value (receive E c k)) else none) c ks

end Machine

/-! Eviction. -/

/-- The object once its slots are evicted, with the failures not counted. -/
def settled (nowMs : UInt64) (p : SecurePeer HS) : SecurePeer HS :=
  { p.evictOldRxSlots nowMs with decryptFailCount := 0 }

section Eviction

variable {p : SecurePeer HS} {t T : UInt64}

private theorem evictSlot_evictSlot (later : t ≤ T) (slot : EpochRxSlot) :
    evictSlot T (evictSlot t slot) = evictSlot T slot := by
  have grows := @saturatingSub_mono t T slot.lastRxMs later
  by_cases dropped : (slot.valid && slot.lastRxMs != 0 &&
      saturatingSub t slot.lastRxMs > rxEpochIdleMs) = true
  · have also : (slot.valid && slot.lastRxMs != 0 &&
        saturatingSub T slot.lastRxMs > rxEpochIdleMs) = true := by
      rw [Bool.and_eq_true] at dropped ⊢
      refine ⟨dropped.1, decide_eq_true ?_⟩
      exact UInt64.lt_of_lt_of_le (of_decide_eq_true dropped.2) grows
    have now : evictSlot t slot = slot.clear := if_pos dropped
    have then_ : evictSlot T slot = slot.clear := if_pos also
    rw [now, then_]
    rfl
  · have now : evictSlot t slot = slot := if_neg dropped
    rw [now]

private theorem evictSlots_evictSlots (later : t ≤ T) (slots : RxSlots) :
    evictSlots (evictSlots slots t) T = evictSlots slots T := by
  funext d i
  exact evictSlot_evictSlot later (slots d i)

/-- The grace copy after an eviction. -/
def evictGrace (nowMs : UInt64) (grace : SyncRxGrace) : SyncRxGrace :=
  if grace.valid && nowMs ≥ grace.expiresAtMs then SyncRxGrace.default
  else if grace.valid then { grace with slots := evictSlots grace.slots nowMs }
  else grace

private theorem evictGrace_default (nowMs : UInt64) :
    evictGrace nowMs SyncRxGrace.default = SyncRxGrace.default := rfl

private theorem evictGrace_evictGrace (later : t ≤ T) (grace : SyncRxGrace) :
    evictGrace T (evictGrace t grace) = evictGrace T grace := by
  cases valid : grace.valid with
  | false =>
    have same : evictGrace t grace = grace := by simp [evictGrace, valid]
    rw [same]
  | true =>
    by_cases expired : t ≥ grace.expiresAtMs
    · have expired_then : T ≥ grace.expiresAtMs := UInt64.le_trans expired later
      have now : evictGrace t grace = SyncRxGrace.default := by simp [evictGrace, valid, expired]
      have after : evictGrace T grace = SyncRxGrace.default := by
        simp [evictGrace, valid, expired_then]
      rw [now, after, evictGrace_default]
    · have now : evictGrace t grace = { grace with slots := evictSlots grace.slots t } := by
        simp [evictGrace, valid, expired]
      rw [now]
      by_cases expired_then : T ≥ grace.expiresAtMs
      · simp [evictGrace, valid, expired_then]
      · simp [evictGrace, valid, expired_then, evictSlots_evictSlots later]

/-- An eviction leaves no trace in what a later one leaves. -/
private theorem settled_evict (later : t ≤ T) (failures : UInt32) :
    settled T { p.evictOldRxSlots t with decryptFailCount := failures } = settled T p := by
  have slots : evictSlots (evictSlots p.rxSlots t) T = evictSlots p.rxSlots T :=
    evictSlots_evictSlots later p.rxSlots
  have grace : evictGrace T (evictGrace t p.syncRxGrace) = evictGrace T p.syncRxGrace :=
    evictGrace_evictGrace later p.syncRxGrace
  show { p with
      rxSlots := evictSlots (evictSlots p.rxSlots t) T
      syncRxGrace := evictGrace T (evictGrace t p.syncRxGrace)
      decryptFailCount := 0 } = { p with
      rxSlots := evictSlots p.rxSlots T
      syncRxGrace := evictGrace T p.syncRxGrace
      decryptFailCount := 0 }
  rw [slots, grace]

end Eviction

/-! Single calls. -/

section Calls

variable {E : SecureEnv HS} {c : Ctx HS} {k : Call} {T : UInt64}

private theorem forged_step (forged : genuine E c.peer.rootKey k = false) (later : k.nowMs ≤ T) :
    settled T (step E c k).peer = settled T c.peer := by
  suffices spec : Ensures (decryptPayload E k.algorithm k.direction k.payload k.nowMs) c
      (fun _ c' => settled T c'.peer = settled T c.peer)
      (fun _ c' => settled T c'.peer = settled T c.peer) from ensures_final spec
  have evicted (failures : UInt32) : settled T { c.peer.evictOldRxSlots k.nowMs with
      decryptFailCount := failures } = settled T c.peer := settled_evict later failures
  have plain : settled T (c.peer.evictOldRxSlots k.nowMs) = settled T c.peer :=
    evicted c.peer.decryptFailCount
  simp only [decryptPayload, ensures_bind, ensures_getPeer, ensures_setPeer, ensures_ite,
    ensures_throw, ensures_pure, ensures_okOr]
  refine ⟨fun _ => trivial, fun long => ⟨fun _ => plain, fun _ => ⟨fun rootKey keyed => ?_,
    fun _ => plain⟩⟩⟩
  split
  · rename_i text failed
    simp only [ensures_bind, ensures_setPeer, ensures_ite, ensures_throw, ensures_pure]
    exact ⟨fun _ => evicted _, fun _ => evicted _⟩
  · rename_i plaintext opened
    have verifies : openOwn E rootKey k.algorithm k.direction k.payload = .ok plaintext := opened
    have keyed : c.peer.rootKey = some rootKey := keyed
    rw [genuine, keyed, Option.any_some, verifies, decide_eq_true (not_lt.mp long)] at forged
    cases forged

/-- What a genuine call hands back and the object it leaves, from the settled object. -/
def judged (k : Call) (plaintext : Bytes) (p : SecurePeer HS) : Option Bytes × SecurePeer HS :=
  if p.precheckReplay (payloadEpoch k.payload) (payloadSequence k.payload) k.direction then
    let (accepted, committed) :=
      p.commitReplay (payloadEpoch k.payload) (payloadSequence k.payload) k.direction k.nowMs
    (if accepted then some plaintext else none, committed)
  else (none, p)

private theorem genuine_step {rootKey : Key} {plaintext : Bytes}
    (keyed : c.peer.rootKey = some rootKey) (long : aeadTailSize ≤ k.payload.length)
    (opens : openOwn E rootKey k.algorithm k.direction k.payload = .ok plaintext) :
    value (receive E c k) = .ok (judged k plaintext (settled k.nowMs c.peer)).1 ∧
      ∀ T, k.nowMs ≤ T → settled T (step E c k).peer =
        settled T (judged k plaintext (settled k.nowMs c.peer)).2 := by
  have plain (T : UInt64) (later : k.nowMs ≤ T) :
      settled T (c.peer.evictOldRxSlots k.nowMs) = settled T (settled k.nowMs c.peer) :=
    (settled_evict later c.peer.decryptFailCount).trans (settled_evict later 0).symm
  have spec : Ensures (decryptPayload E k.algorithm k.direction k.payload k.nowMs) c
      (fun out c' => out = (judged k plaintext (settled k.nowMs c.peer)).1 ∧
        ∀ T, k.nowMs ≤ T → settled T c'.peer =
          settled T (judged k plaintext (settled k.nowMs c.peer)).2) (fun _ _ => False) := by
    simp only [decryptPayload, ensures_bind, ensures_getPeer, ensures_setPeer, ensures_ite,
      ensures_throw, ensures_pure, ensures_okOr]
    refine ⟨fun short => absurd long (not_le.mpr short), fun _ =>
      ⟨fun stale => ?_, fun fresh => ?_⟩⟩
    · rw [Bool.not_eq_true'] at stale
      have stopped : (settled k.nowMs c.peer).precheckReplay (payloadEpoch k.payload)
          (payloadSequence k.payload) k.direction = false := stale
      rw [judged, stopped]
      exact ⟨rfl, plain⟩
    · refine ⟨fun rootKey' found => ?_, fun missing => ?_⟩
      · cases found.symm.trans keyed
        have passed : (settled k.nowMs c.peer).precheckReplay (payloadEpoch k.payload)
            (payloadSequence k.payload) k.direction = true := by
          rw [Bool.not_eq_true'] at fresh
          exact Bool.not_eq_false _ ▸ fresh
        split
        · rename_i text failed
          have other := opens.symm.trans failed
          cases other
        · rename_i plaintext' opened
          have same := opens.symm.trans opened
          cases same
          simp only [ensures_bind, ensures_setPeer, ensures_pure]
          rw [judged, passed]
          exact ⟨rfl, fun _ _ => rfl⟩
      · cases missing.symm.trans keyed
  cases ran : decryptPayload E k.algorithm k.direction k.payload k.nowMs c with
  | ok out c' =>
    obtain ⟨same, kept⟩ := ensures_of_ok spec ran
    rw [receive, step, receive, ran, ← same]
    exact ⟨rfl, kept⟩
  | error e c' => exact (ensures_of_error spec ran).elim

private theorem genuine_opens {rootKey : Option Key} (verified : genuine E rootKey k = true) :
    aeadTailSize ≤ k.payload.length ∧ ∃ key plaintext, rootKey = some key ∧
      openOwn E key k.algorithm k.direction k.payload = .ok plaintext := by
  rw [genuine, Bool.and_eq_true, decide_eq_true_eq, Option.any_eq_true] at verified
  obtain ⟨long, key, keyed, opens⟩ := verified
  refine ⟨long, key, ?_⟩
  cases result : openOwn E key k.algorithm k.direction k.payload with
  | ok plaintext => exact ⟨plaintext, keyed, rfl⟩
  | error text =>
    rw [result] at opens
    cases opens

private theorem judged_rootKey (k : Call) (plaintext : Bytes) (p : SecurePeer HS) :
    (judged k plaintext p).2.rootKey = p.rootKey := by
  rw [judged]
  split
  · obtain ⟨rxSlots, syncRxGrace, committed⟩ := commitReplay_frame p (payloadEpoch k.payload)
      (payloadSequence k.payload) k.direction k.nowMs
    simp only [committed]
  · rfl

private theorem step_rootKey (E : SecureEnv HS) (c : Ctx HS) (k : Call) :
    (step E c k).peer.rootKey = c.peer.rootKey := by
  have now : k.nowMs ≤ k.nowMs := UInt64.le_refl k.nowMs
  cases verified : genuine E c.peer.rootKey k with
  | false =>
    have same : settled k.nowMs (step E c k).peer = settled k.nowMs c.peer :=
      forged_step verified now
    have root : (settled k.nowMs (step E c k).peer).rootKey = (settled k.nowMs c.peer).rootKey :=
      congrArg SecurePeer.rootKey same
    exact root
  | true =>
    obtain ⟨long, key, plaintext, keyed, opens⟩ := genuine_opens verified
    have left := (genuine_step keyed long opens).2 k.nowMs now
    have root : (settled k.nowMs (step E c k).peer).rootKey =
        (settled k.nowMs (judged k plaintext (settled k.nowMs c.peer)).2).rootKey :=
      congrArg SecurePeer.rootKey left
    exact root.trans (judged_rootKey k plaintext _)

end Calls

/-! Two runs. -/

/-- From `now` on, the two objects look the same once their slots are evicted. -/
def Alike (now : UInt64) (p q : SecurePeer HS) : Prop :=
  ∀ T, now ≤ T → settled T p = settled T q

section Runs

variable {E : SecureEnv HS} {now : UInt64} {c c' : Ctx HS} {k : Call}

private theorem Alike.rootKey {p q : SecurePeer HS} (alike : Alike now p q) :
    q.rootKey = p.rootKey := by
  have same : (settled now p).rootKey = (settled now q).rootKey :=
    congrArg SecurePeer.rootKey (alike now (UInt64.le_refl now))
  exact same.symm

private theorem Alike.forged (alike : Alike now c.peer c'.peer) (later : now ≤ k.nowMs)
    (forged : genuine E c.peer.rootKey k = false) : Alike k.nowMs (step E c k).peer c'.peer := by
  intro T after
  rw [forged_step forged after]
  exact alike T (UInt64.le_trans later after)

private theorem Alike.genuine (alike : Alike now c.peer c'.peer) (later : now ≤ k.nowMs)
    (verified : genuine E c.peer.rootKey k = true) :
    value (receive E c k) = value (receive E c' k) ∧
      Alike k.nowMs (step E c k).peer (step E c' k).peer := by
  obtain ⟨long, key, plaintext, keyed, opens⟩ := genuine_opens verified
  have same := alike k.nowMs later
  obtain ⟨handed, left⟩ := genuine_step keyed long opens
  obtain ⟨handed', left'⟩ := genuine_step (alike.rootKey.trans keyed) long opens
  rw [← same] at handed' left'
  refine ⟨handed.trans handed'.symm, ?_⟩
  intro T after
  rw [left T after, left' T after]

/-- Deleting the forged calls of a run keeps the results of the others and the settled object. -/
private theorem alike_run {rootKey : Option Key} (keyed : c.peer.rootKey = rootKey)
    (alike : Alike now c.peer c'.peer) {ks : List Call}
    (ordered : (ks.map Call.nowMs).Pairwise (· ≤ ·)) (later : ∀ k ∈ ks, now ≤ k.nowMs) :
    results E rootKey c ks = results E rootKey c' (ks.filter (genuine E rootKey)) ∧
      ∀ T, now ≤ T → (∀ k ∈ ks, k.nowMs ≤ T) →
        settled T (run (step E) c ks).peer =
          settled T (run (step E) c' (ks.filter (genuine E rootKey))).peer := by
  induction ks generalizing now c c' with
  | nil => exact ⟨rfl, fun T after _ => alike T after⟩
  | cons k ks ih =>
    subst keyed
    obtain ⟨least, ordered⟩ := List.pairwise_cons.mp ordered
    have least : ∀ k' ∈ ks, k.nowMs ≤ k'.nowMs := fun k' member =>
      least k'.nowMs (List.mem_map_of_mem member)
    have here := later k List.mem_cons_self
    cases verified : genuine E c.peer.rootKey k with
    | false =>
      have rest := ih (step_rootKey E c k) (alike.forged here verified) ordered least
      rw [List.filter_cons_of_neg (by rw [verified]; exact Bool.false_ne_true)]
      refine ⟨?_, ?_⟩
      · rw [← rest.1, results, log, verified]
        rfl
      · intro T after last
        exact rest.2 T (last k List.mem_cons_self)
          fun k' member => last k' (List.mem_cons_of_mem k member)
    | true =>
      obtain ⟨same, alike'⟩ := alike.genuine here verified
      have rest := ih (step_rootKey E c k) alike' ordered least
      rw [List.filter_cons_of_pos verified]
      refine ⟨?_, ?_⟩
      · rw [results, results, log, log, verified, if_pos rfl, if_pos rfl, same]
        exact congrArg _ rest.1
      · intro T after last
        exact rest.2 T (last k List.mem_cons_self)
          fun k' member => last k' (List.mem_cons_of_mem k member)

end Runs

/-- For every session state and every sequence of calls in the order of their times: without the
calls whose payload is too short or does not verify, every other call hands back the same, and
after an eviction at any later time the slots and the grace copy are the same. -/
theorem forged_packets_inert (E : SecureEnv HS) (c : Ctx HS) {ks : List Call}
    (ordered : (ks.map Call.nowMs).Pairwise (· ≤ ·)) :
    results E c.peer.rootKey c ks =
        results E c.peer.rootKey c (ks.filter (genuine E c.peer.rootKey)) ∧
      ∀ T, (∀ k ∈ ks, k.nowMs ≤ T) →
        ((run (step E) c ks).peer.evictOldRxSlots T).rxSlots =
          ((run (step E) c (ks.filter (genuine E c.peer.rootKey))).peer.evictOldRxSlots T).rxSlots ∧
        ((run (step E) c ks).peer.evictOldRxSlots T).syncRxGrace =
          ((run (step E) c
            (ks.filter (genuine E c.peer.rootKey))).peer.evictOldRxSlots T).syncRxGrace := by
  have start : Alike 0 c.peer c.peer := fun _ _ => rfl
  have two_runs := @alike_run _ E 0 c c _ rfl start ks ordered fun k _ => UInt64.zero_le
  refine ⟨two_runs.1, ?_⟩
  intro T last
  have same := two_runs.2 T UInt64.zero_le last
  have slots : (settled T (run (step E) c ks).peer).rxSlots = (settled T (run (step E) c
      (ks.filter (genuine E c.peer.rootKey))).peer).rxSlots := congrArg SecurePeer.rxSlots same
  have grace : (settled T (run (step E) c ks).peer).syncRxGrace = (settled T (run (step E) c
      (ks.filter (genuine E c.peer.rootKey))).peer).syncRxGrace :=
    congrArg SecurePeer.syncRxGrace same
  exact ⟨slots, grace⟩

/-! A run of the transparent dependencies. -/

def keyedCtx : Ctx Connections.Turn :=
  ⟨{ Connections.plainPeer with rootKey := some (Vector.replicate 32 1) }, ∅⟩

def plainCall (sequence nowMs : UInt64) : Call :=
  ⟨"aes-gcm", 0, Connections.plainPayload 0 sequence, nowMs⟩

/-- Between two packets a payload that is too short and one that no algorithm opens, which evicts
the slot of the first packet. -/
def disturbedRun : List Call :=
  [plainCall 0 1000, ⟨"aes-gcm", 0, [1, 2], 1500⟩, { plainCall 7 32_000 with algorithm := "none" },
    plainCall 1 40_000]

theorem forged_packets_inert_disturbed :
    results Connections.plainEnv keyedCtx.peer.rootKey keyedCtx disturbedRun =
        [.ok (some [42]), .ok (some [42])] ∧
      results Connections.plainEnv keyedCtx.peer.rootKey keyedCtx
        [plainCall 0 1000, plainCall 1 40_000] =
        [.ok (some [42]), .ok (some [42])] := by
  have kept : disturbedRun.filter (genuine Connections.plainEnv keyedCtx.peer.rootKey) =
      [plainCall 0 1000, plainCall 1 40_000] := by
    decide +kernel
  have handed : results Connections.plainEnv keyedCtx.peer.rootKey keyedCtx disturbedRun =
      [.ok (some [42]), .ok (some [42])] := by
    decide +kernel
  have same := (forged_packets_inert Connections.plainEnv keyedCtx (show
    (disturbedRun.map Call.nowMs).Pairwise (· ≤ ·) by decide +kernel)).1
  rw [kept] at same
  exact ⟨handed, same.symm.trans handed⟩

end EasyTierEdge.Secure.ForgedPackets
