/- module: EasyTierEdge/Secure/SlotOrder
   source: cloudflare/wasm/src/secure.rs, evict_slots, precheck_replay and commit_replay
   digest: Slot 0 holds the newest epoch as long as eviction takes the slots in their order. -/

import EasyTierEdge.Secure.AntiReplay

set_option autoImplicit false
set_option relaxedAutoImplicit false

namespace EasyTierEdge.Secure.SlotOrder

open Lib.Fallible Lib.Machine
open Packet (aeadTailSize)
open Session Peer Connections Calls ReplaySlots AntiReplay

variable {HS : Type}

/-- The two slots of one direction: slot 1 is used only behind a newer epoch in slot 0. -/
def Ordered (slots : Fin 2 → EpochRxSlot) : Prop :=
  (slots 1).valid = true → (slots 0).valid = true ∧ (slots 1).epoch < (slots 0).epoch

/-- All pairs of a session, those of the grace copy included. -/
def SlotsOrdered (rxSlots : RxSlots) (grace : SyncRxGrace) : Prop :=
  ∀ d, Ordered (rxSlots d) ∧ Ordered (grace.slots d)

/-- The slot has received nothing for too long. -/
def idle (currentMs : UInt64) (slot : EpochRxSlot) : Bool :=
  slot.lastRxMs != 0 && saturatingSub currentMs slot.lastRxMs > rxEpochIdleMs

/-- If slot 0 goes, a valid slot 1 goes with it. -/
def LeavesInOrder (currentMs : UInt64) (slots : Fin 2 → EpochRxSlot) : Prop :=
  idle currentMs (slots 0) = true → (slots 1).valid = true → idle currentMs (slots 1) = true

instance instDecidableLeavesInOrder (currentMs : UInt64) (slots : Fin 2 → EpochRxSlot) :
    Decidable (LeavesInOrder currentMs slots) :=
  inferInstanceAs (Decidable (_ → _ → _))

/-- The condition on one operation: the eviction of a `decrypt_payload` call leaves no slot 1
without its slot 0. -/
def EvictsInOrder (s : StoredSession) : SessionOp HS → Prop
  | .receive _ _ _ payload receivedMs _ => aeadTailSize ≤ payload.length →
      (∀ d, LeavesInOrder receivedMs (s.rxSlots d)) ∧
      (s.syncRxGrace.valid = true → receivedMs < s.syncRxGrace.expiresAtMs →
        ∀ d, LeavesInOrder receivedMs (s.syncRxGrace.slots d))
  | _ => True

instance instDecidableEvictsInOrder (s : StoredSession) (op : SessionOp HS) :
    Decidable (EvictsInOrder s op) :=
  match op with
  | .receive _ _ _ _ _ _ => inferInstanceAs (Decidable (_ → _ ∧ (_ → _ → _)))
  | .sync _ => isTrue trivial
  | .send _ _ _ _ _ => isTrue trivial
  | .pin _ _ => isTrue trivial
  | .touch _ _ => isTrue trivial

/-! The pairs. -/

section Pairs

variable {slots : Fin 2 → EpochRxSlot} {currentMs : UInt64}

private theorem ordered_of_empty (empty : (slots 1).valid = false) : Ordered slots := by
  intro valid
  rw [empty] at valid
  cases valid

private theorem ordered_default : Ordered fun _ => EpochRxSlot.default :=
  ordered_of_empty rfl

private theorem evictSlot_eq (currentMs : UInt64) (slot : EpochRxSlot) :
    evictSlot currentMs slot =
      if slot.valid && idle currentMs slot then EpochRxSlot.default else slot := by
  rw [evictSlot, idle, Bool.and_assoc]
  rfl

private theorem ordered_evict_iff (ordered : Ordered slots) :
    Ordered (fun i => evictSlot currentMs (slots i)) ↔ LeavesInOrder currentMs slots := by
  simp only [Ordered, LeavesInOrder, evictSlot_eq]
  cases second : (slots 1).valid with
  | false => simp [second]
  | true =>
    obtain ⟨first, lower⟩ := ordered second
    cases gone : idle currentMs (slots 1) with
    | true => simp [EpochRxSlot.default]
    | false =>
      cases left : idle currentMs (slots 0) with
      | true => simp [first, EpochRxSlot.default, second]
      | false => simp [first, lower, second]

end Pairs

/-! The operations. -/

section Operations

variable {p : SecurePeer HS} {d : Direction} {epoch : UInt32} {sequence receivedMs : UInt64}

private theorem ordered_evict (ordered : SlotsOrdered p.rxSlots p.syncRxGrace)
    (live : ∀ d, LeavesInOrder receivedMs (p.rxSlots d))
    (copies : p.syncRxGrace.valid = true → receivedMs < p.syncRxGrace.expiresAtMs →
      ∀ d, LeavesInOrder receivedMs (p.syncRxGrace.slots d)) :
    SlotsOrdered (p.evictOldRxSlots receivedMs).rxSlots
      (p.evictOldRxSlots receivedMs).syncRxGrace := by
  intro d
  refine ⟨(ordered_evict_iff (ordered d).1).mpr (live d), ?_⟩
  simp only [SecurePeer.evictOldRxSlots]
  cases valid : p.syncRxGrace.valid with
  | false =>
    simp only [Bool.false_and, Bool.false_eq_true, if_false]
    exact (ordered d).2
  | true =>
    by_cases expired : receivedMs ≥ p.syncRxGrace.expiresAtMs
    · simp only [Bool.true_and, expired, decide_true, if_true]
      exact ordered_default
    · simp only [Bool.true_and, expired, decide_false, Bool.false_eq_true, if_false, if_true]
      exact (ordered_evict_iff (ordered d).2).mpr (copies valid (UInt64.not_le.mp expired) d)

private theorem ordered_receive {slots slots' : Fin 2 → EpochRxSlot} (ordered : Ordered slots)
    (same : ∀ i, (slots' i).valid = (slots i).valid ∧ (slots' i).epoch = (slots i).epoch) :
    Ordered slots' := by
  intro valid
  rw [(same 1).1] at valid
  rw [(same 0).1, (same 0).2, (same 1).2]
  exact ordered valid

private theorem ordered_setSlot {slots : RxSlots} {i : Fin 2} {slot : EpochRxSlot}
    (ordered : ∀ d', Ordered (slots d')) (here : Ordered (Function.update (slots d) i slot))
    (d' : Direction) : Ordered (setSlot slots d i slot d') := by
  by_cases same : d' = d
  · subst same
    rw [setSlot, Function.update_self]
    exact here
  · rw [setSlot, Function.update_of_ne same]
    exact ordered d'

private theorem ordered_setSlot_receive {slots : RxSlots} (ordered : ∀ d', Ordered (slots d'))
    (i : Fin 2) (d' : Direction) :
    Ordered (setSlot slots d i (EpochRxSlot.receive (slots d i) sequence receivedMs).2 d') := by
  refine ordered_setSlot ordered (ordered_receive (ordered d) ?_) d'
  intro j
  by_cases same : j = i
  · subst same
    rw [Function.update_self]
    exact ⟨rfl, rfl⟩
  · rw [Function.update_of_ne same]
    exact ⟨rfl, rfl⟩

/-- Committing a packet keeps the order: a fresh slot 0 is opened in front of an empty slot 1, or
for an epoch above the one that moves behind it. -/
private theorem ordered_commit (ordered : SlotsOrdered p.rxSlots p.syncRxGrace) :
    SlotsOrdered (p.commitReplay epoch sequence d receivedMs).2.rxSlots
      (p.commitReplay epoch sequence d receivedMs).2.syncRxGrace := by
  have live : ∀ d', Ordered (p.rxSlots d') := fun d' => (ordered d').1
  have copies : ∀ d', Ordered (p.syncRxGrace.slots d') := fun d' => (ordered d').2
  rw [SecurePeer.commitReplay]
  cases graceSlot p.syncRxGrace d epoch with
  | some i => exact fun d' => ⟨live d', ordered_setSlot_receive copies i d'⟩
  | none =>
    dsimp only
    generalize newest_eq : (if (p.rxSlots d 0).valid then p.rxSlots d 0
      else EpochRxSlot.fresh epoch receivedMs) = newest
    have opened : ∀ d', Ordered (setSlot p.rxSlots d 0 newest d') := by
      refine ordered_setSlot live ?_
      intro second
      have kept : Function.update (p.rxSlots d) 0 newest 1 = p.rxSlots d 1 :=
        Function.update_of_ne (by decide) _ _
      rw [kept] at second ⊢
      obtain ⟨first, lower⟩ := live d second
      rw [if_pos first] at newest_eq
      rw [Function.update_self, ← newest_eq]
      exact ⟨first, lower⟩
    have front : setSlot p.rxSlots d 0 newest d 0 = newest := by
      rw [setSlot, Function.update_self, Function.update_self]
    split
    · have stored := @ordered_setSlot_receive d sequence receivedMs _ opened 0
      rw [front] at stored
      exact fun d' => ⟨stored d', copies d'⟩
    · split
      · have stored := @ordered_setSlot_receive d sequence receivedMs _ opened 1
        exact fun d' => ⟨stored d', copies d'⟩
      · split
        · rename_i newer
          refine fun d' => ⟨?_, copies d'⟩
          show Ordered (setSlot (setSlot (setSlot p.rxSlots d 0 newest) d 1 newest) d 0 _ d')
          by_cases same : d' = d
          · subst same
            rw [setSlot, Function.update_self, setSlot, Function.update_self]
            intro _
            exact ⟨rfl, newer⟩
          · rw [setSlot, Function.update_of_ne same, setSlot, Function.update_of_ne same]
            exact opened d'
        · exact fun d' => ⟨opened d', copies d'⟩

end Operations

/-! The run. -/

section Runs

variable {E : SecureEnv HS}

private theorem ordered_op {s : StoredSession} {op : SessionOp HS}
    (ordered : SlotsOrdered s.rxSlots s.syncRxGrace) (evicts : EvictsInOrder s op) :
    SlotsOrdered (op.apply E s).rxSlots (op.apply E s).syncRxGrace := by
  cases op with
  | sync currentMs => exact fun d => ⟨ordered_default, (ordered d).1⟩
  | send => exact ordered
  | pin => exact ordered
  | touch => exact ordered
  | receive c algorithm d payload receivedMs persistMs =>
    have loaded : SlotsOrdered (c.peer.loadFrom s).rxSlots (c.peer.loadFrom s).syncRxGrace :=
      ordered
    by_cases short : payload.length < aeadTailSize
    · have untouched : decryptPayload E algorithm d payload receivedMs
          { c with peer := c.peer.loadFrom s } =
            .error (.message "encrypted EasyTier payload is too short")
            { c with peer := c.peer.loadFrom s } := by
        rw [decryptPayload, if_pos short]
        rfl
      simp only [SessionOp.apply, untouched]
      exact loaded
    · obtain ⟨live, copies⟩ := evicts (not_lt.mp short)
      have evicted : SlotsOrdered ((c.peer.loadFrom s).evictOldRxSlots receivedMs).rxSlots
          ((c.peer.loadFrom s).evictOldRxSlots receivedMs).syncRxGrace :=
        ordered_evict loaded live copies
      have received := receive_cases E s c algorithm d payload receivedMs
      simp only [SessionOp.apply]
      generalize (final (decryptPayload E algorithm d payload receivedMs
        { c with peer := c.peer.loadFrom s })).peer = p' at received
      generalize value (decryptPayload E algorithm d payload receivedMs
        { c with peer := c.peer.loadFrom s }) = out at received
      show SlotsOrdered p'.rxSlots p'.syncRxGrace
      cases received with
      | short => exact loaded
      | replayed => exact evicted
      | unopened => exact evicted
      | opened => exact ordered_commit evicted

/-- As long as every eviction takes the slots of a pair in their order, slot 1 is used only behind
a newer epoch in slot 0, in both directions and in the grace copy. -/
theorem slots_ordered (rootKey : Key) (algorithm : String) (createdMs : UInt64)
    {ops : List (SessionOp HS)}
    (evicts : AllSteps (SessionOp.apply E) (fun _ => EvictsInOrder)
      (StoredSession.created rootKey algorithm createdMs) ops) :
    SlotsOrdered (run (SessionOp.apply E) (StoredSession.created rootKey algorithm createdMs)
        ops).rxSlots
      (run (SessionOp.apply E) (StoredSession.created rootKey algorithm createdMs)
        ops).syncRxGrace := by
  refine @history_invariant _ _ (SessionOp.apply E) (fun _ => EvictsInOrder) _
    (fun _ s => SlotsOrdered s.rxSlots s.syncRxGrace) ?_ ?_ ops evicts
  · exact fun d => ⟨ordered_default, ordered_default⟩
  · intro pre op ordered condition
    exact ordered_op ordered condition

end Runs

/-! Two epochs in use, a Sync and a pause that empties everything. -/

def rotatedOps : List (SessionOp Turn) :=
  [plainReceive 0 0 1_000, plainReceive 1 0 2_000, plainReceive 0 1 3_000, .sync 4_000,
    plainReceive 2 0 5_000, plainReceive 2 1 60_000]

theorem slots_ordered_rotatedOps :
    SlotsOrdered (run (SessionOp.apply plainEnv) plainSession rotatedOps).rxSlots
      (run (SessionOp.apply plainEnv) plainSession rotatedOps).syncRxGrace :=
  slots_ordered _ _ _ (allSteps_of_check (fun _ s op => decide (EvictsInOrder s op))
    (fun _ _ _ => of_decide_eq_true) (by decide +kernel))

/-- A late packet of epoch 0 keeps slot 1 alive while slot 0 with epoch 1 falls idle. -/
def lateOps : List (SessionOp Turn) :=
  [plainReceive 0 0 1_000, plainReceive 1 0 2_000, plainReceive 0 1 20_000,
    plainReceive 0 2 33_000]

/-- Slot 0 is evicted alone and taken by epoch 0 again: one epoch in two windows. -/
theorem slots_disordered : Chronological lateOps ∧
    ¬ SlotsOrdered (run (SessionOp.apply plainEnv) plainSession lateOps).rxSlots
      (run (SessionOp.apply plainEnv) plainSession lateOps).syncRxGrace := by
  refine ⟨by decide +kernel, fun ordered => ?_⟩
  have second : ((run (SessionOp.apply plainEnv) plainSession lateOps).rxSlots 0 1).valid =
    true := by
    decide +kernel
  have same : ((run (SessionOp.apply plainEnv) plainSession lateOps).rxSlots 0 1).epoch =
      ((run (SessionOp.apply plainEnv) plainSession lateOps).rxSlots 0 0).epoch := by
    decide +kernel
  obtain ⟨_, lower⟩ := (ordered 0).1 second
  rw [same] at lower
  exact absurd lower (UInt32.lt_irrefl _)

end EasyTierEdge.Secure.SlotOrder
