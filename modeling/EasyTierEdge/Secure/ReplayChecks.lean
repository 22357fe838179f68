/- module: EasyTierEdge/Secure/ReplayChecks
   source: cloudflare/wasm/src/secure.rs, precheck_replay and commit_replay
   digest: The replay check before a packet is opened and the one after it agree. -/

import EasyTierEdge.Secure.ReplaySlots
import EasyTierEdge.Secure.Calls

set_option autoImplicit false
set_option relaxedAutoImplicit false

namespace EasyTierEdge.Secure.ReplayChecks

open Lib.Fallible
open Packet (Bytes aeadTailSize)
open ReplayWindow (ReplayWindow256)
open Session Peer Calls ReplaySlots

variable {HS : Type}

/-- The largest of the send epoch and the epochs of the valid slots. -/
def baseline (p : SecurePeer HS) (d : Direction) : UInt32 :=
  ([0, 1] : List (Fin 2)).foldl (fun newest i =>
    if (p.rxSlots d i).valid then max newest (p.rxSlots d i).epoch else newest) p.sendEpoch

/-- A newer epoch that no slot tracks, too far ahead of everything known. -/
structure TooFarAhead (p : SecurePeer HS) (d : Direction) (epoch : UInt32) : Prop where
  occupied : (p.rxSlots d 0).valid = true
  untracked : ∀ i, (p.rxSlots d i).valid = true → (p.rxSlots d i).epoch ≠ epoch
  uncopied : p.syncRxGrace.valid = true → ∀ i, (p.syncRxGrace.slots d i).valid = true →
    (p.syncRxGrace.slots d i).epoch ≠ epoch
  newer : (p.rxSlots d 0).epoch < epoch
  beyond : saturatingAdd32 (baseline p d) maxAcceptedRxEpochAhead < epoch

section Checks

variable {p : SecurePeer HS} {d : Direction} {epoch : UInt32} {sequence receivedMs : UInt64}

private theorem graceSlot_eq_none (none_found : graceSlot p.syncRxGrace d epoch = none)
    (valid : p.syncRxGrace.valid = true) (i : Fin 2)
    (used : (p.syncRxGrace.slots d i).valid = true) :
    (p.syncRxGrace.slots d i).epoch ≠ epoch := by
  rw [graceSlot, if_pos valid, List.find?_eq_none] at none_found
  have listed : ∀ i : Fin 2, i ∈ ([0, 1] : List (Fin 2)) := by decide
  have here := none_found i (listed i)
  rw [used, Bool.true_and] at here
  exact fun same => here (beq_iff_eq.mpr same)

private theorem checks_tracked (tracked : trackingSlot p.rxSlots p.syncRxGrace d epoch ≠ none) :
    p.precheckReplay epoch sequence d = (p.commitReplay epoch sequence d receivedMs).1 := by
  obtain ⟨⟨copy, i⟩, tracks⟩ := Option.ne_none_iff_exists'.mp tracked
  obtain ⟨_, _, verdict, _⟩ := commitReplay_tracked sequence receivedMs tracks
  rw [verdict, ← ReplayWindow256.canAccept_eq_accept]
  rw [trackingSlot] at tracks
  rw [SecurePeer.precheckReplay]
  cases found : graceSlot p.syncRxGrace d epoch with
  | some g =>
    rw [found] at tracks
    cases tracks
    simp only [slotAt, (graceSlot_eq_some found).1, if_true]
  | none =>
    rw [found] at tracks
    dsimp only at tracks ⊢
    split at tracks
    · cases tracks
    · rename_i first
      rw [if_neg first]
      split at tracks
      · rename_i same
        cases tracks
        rw [if_pos same]
        rfl
      · rename_i other
        rw [if_neg other]
        split at tracks
        · rename_i second
          cases tracks
          rw [if_pos second]
          rfl
        · cases tracks

/-- Without a slot for the epoch, an empty slot 0 takes it, and a used one only a newer epoch. -/
private theorem precheck_untracked
    (untracked : trackingSlot p.rxSlots p.syncRxGrace d epoch = none) :
    p.precheckReplay epoch sequence d = (!(p.rxSlots d 0).valid ||
      decide ((p.rxSlots d 0).epoch < epoch) &&
        decide (epoch ≤ saturatingAdd32 (baseline p d) maxAcceptedRxEpochAhead)) := by
  rw [trackingSlot] at untracked
  rw [SecurePeer.precheckReplay]
  cases found : graceSlot p.syncRxGrace d epoch with
  | some g =>
    rw [found] at untracked
    cases untracked
  | none =>
    rw [found] at untracked
    dsimp only at untracked ⊢
    cases first : (p.rxSlots d 0).valid with
    | false => rfl
    | true =>
      rw [first] at untracked
      simp only [Bool.not_true, Bool.false_eq_true, if_false] at untracked ⊢
      split at untracked
      · cases untracked
      · rename_i other
        rw [if_neg other]
        split at untracked
        · cases untracked
        · rename_i second
          rw [if_neg second, Bool.false_or]
          by_cases newer : (p.rxSlots d 0).epoch < epoch
          · have base : (if (p.rxSlots d 1).valid = true then
                max (max p.sendEpoch (p.rxSlots d 0).epoch) (p.rxSlots d 1).epoch
                else max p.sendEpoch (p.rxSlots d 0).epoch) = baseline p d := by
              simp only [baseline, List.foldl_cons, List.foldl_nil, first, if_true]
            rw [if_pos newer, base, decide_eq_true newer, Bool.true_and]
          · rw [if_neg newer, decide_eq_false newer, Bool.false_and]

private theorem commit_untracked (untracked : trackingSlot p.rxSlots p.syncRxGrace d epoch = none) :
    (p.commitReplay epoch sequence d receivedMs).1 =
      (!(p.rxSlots d 0).valid || decide ((p.rxSlots d 0).epoch < epoch)) := by
  rw [trackingSlot] at untracked
  rw [SecurePeer.commitReplay]
  cases found : graceSlot p.syncRxGrace d epoch with
  | some g =>
    rw [found] at untracked
    cases untracked
  | none =>
    rw [found] at untracked
    dsimp only at untracked ⊢
    cases first : (p.rxSlots d 0).valid with
    | false =>
      have own : (EpochRxSlot.fresh epoch receivedMs).epoch = epoch := rfl
      simp only [Bool.false_eq_true, if_false, own, if_true, Bool.not_false, Bool.true_or]
      rfl
    | true =>
      have kept : setSlot p.rxSlots d 0 (p.rxSlots d 0) = p.rxSlots := by
        rw [setSlot, Function.update_eq_self, Function.update_eq_self]
      rw [first] at untracked
      simp only [Bool.not_true, Bool.false_eq_true, if_false, if_true, kept, Bool.false_or]
        at untracked ⊢
      split at untracked
      · cases untracked
      · rename_i other
        rw [if_neg other]
        split at untracked
        · cases untracked
        · rename_i second
          rw [if_neg second]
          by_cases newer : (p.rxSlots d 0).epoch < epoch
          · rw [if_pos newer, decide_eq_true newer]
            rfl
          · rw [if_neg newer, decide_eq_false newer]

private theorem untracked_iff : trackingSlot p.rxSlots p.syncRxGrace d epoch = none ↔
    graceSlot p.syncRxGrace d epoch = none ∧ ((p.rxSlots d 0).valid = true →
      (p.rxSlots d 0).epoch ≠ epoch ∧
        ((p.rxSlots d 1).valid = true → (p.rxSlots d 1).epoch ≠ epoch)) := by
  rw [trackingSlot]
  cases graceSlot p.syncRxGrace d epoch with
  | some g => simp
  | none =>
    dsimp only
    cases first : (p.rxSlots d 0).valid with
    | false => simp
    | true =>
      by_cases same : (p.rxSlots d 0).epoch = epoch
      · simp [same]
      · cases second : (p.rxSlots d 1).valid with
        | false => simp [same]
        | true => simp [same]

private theorem commit_of_precheck (p : SecurePeer HS) (d : Direction) (epoch : UInt32)
    (sequence receivedMs : UInt64) :
    (p.precheckReplay epoch sequence d = true →
      (p.commitReplay epoch sequence d receivedMs).1 = true) ∧
    (p.precheckReplay epoch sequence d = false →
      ((p.commitReplay epoch sequence d receivedMs).1 = true ↔ TooFarAhead p d epoch)) := by
  by_cases tracked : trackingSlot p.rxSlots p.syncRxGrace d epoch = none
  · rw [precheck_untracked tracked, commit_untracked tracked]
    obtain ⟨no_copy, no_slot⟩ := untracked_iff.mp tracked
    cases first : (p.rxSlots d 0).valid with
    | false => simp
    | true =>
      obtain ⟨other, second⟩ := no_slot first
      rw [Bool.not_true, Bool.false_or, Bool.false_or, Bool.and_eq_true, decide_eq_true_eq,
        decide_eq_true_eq, Bool.and_eq_false_iff, decide_eq_false_iff_not, decide_eq_false_iff_not]
      refine ⟨fun passed => passed.1, fun stopped => ⟨?_, fun ahead => ahead.newer⟩⟩
      intro newer
      refine ⟨first, ?_, fun valid i => graceSlot_eq_none no_copy valid i, newer, ?_⟩
      · intro i used
        have which : i = 0 ∨ i = 1 := by omega
        rcases which with rfl | rfl
        · exact other
        · exact second used
      · exact UInt32.not_le.mp (stopped.resolve_left (not_not.mpr newer))
  · rw [← @checks_tracked _ p d epoch sequence receivedMs tracked]
    refine ⟨id, fun stopped => ?_⟩
    rw [stopped]
    constructor
    · intro impossible
      cases impossible
    · intro ahead
      refine absurd (untracked_iff.mpr ⟨?_, fun _ => ⟨ahead.untracked 0 ahead.occupied, ?_⟩⟩)
        tracked
      · cases found : graceSlot p.syncRxGrace d epoch with
        | none => rfl
        | some i =>
          obtain ⟨valid, used, same⟩ := graceSlot_eq_some found
          exact absurd same (ahead.uncopied valid i used)
      · exact ahead.untracked 1

end Checks

theorem delivered_of_precheck (E : SecureEnv HS) (c : Ctx HS) (rootKey : Key) (algorithm : String)
    (d : Direction) (payload plaintext : Bytes) (receivedMs : UInt64)
    (long : aeadTailSize ≤ payload.length) (keyed : c.peer.rootKey = some rootKey)
    (passed : (c.peer.evictOldRxSlots receivedMs).precheckReplay (payloadEpoch payload)
      (payloadSequence payload) d = true)
    (opens : openOwn E rootKey algorithm d payload = .ok plaintext) :
    value (decryptPayload E algorithm d payload receivedMs c) = .ok (some plaintext) := by
  refine value_of_ensures ?_
  simp only [decryptPayload, ensures_bind, ensures_getPeer, ensures_setPeer, ensures_ite,
    ensures_throw, ensures_pure, ensures_okOr]
  refine ⟨fun short => absurd long (not_le.mpr short), fun _ => ⟨fun stale => ?_, fun _ => ?_⟩⟩
  · rw [Bool.not_eq_true'] at stale
    exact absurd (passed.symm.trans stale) (by decide)
  · refine ⟨fun rootKey' found => ?_, fun missing => ?_⟩
    · cases found.symm.trans keyed
      split
      · rename_i text failed
        have other := opens.symm.trans failed
        cases other
      · rename_i plaintext' opened
        have same := opens.symm.trans opened
        cases same
        simp only [ensures_bind, ensures_setPeer, ensures_pure]
        have kept : { c.peer.evictOldRxSlots receivedMs with decryptFailCount := 0 }.precheckReplay
            (payloadEpoch payload) (payloadSequence payload) d = true := passed
        have committed := (commit_of_precheck _ d _ _ receivedMs).1 kept
        exact if_pos committed
    · cases missing.symm.trans keyed

/-- The two checks agree in every state, so an authentic packet that passed the first one is
delivered; a packet that was stopped would be committed only from an epoch too far ahead. -/
theorem replay_checks_agree (p : SecurePeer HS) (d : Direction) (epoch : UInt32)
    (sequence receivedMs : UInt64) :
    (p.precheckReplay epoch sequence d = true →
      (p.commitReplay epoch sequence d receivedMs).1 = true) ∧
    (p.precheckReplay epoch sequence d = false →
      ((p.commitReplay epoch sequence d receivedMs).1 = true ↔ TooFarAhead p d epoch)) ∧
    ∀ (E : SecureEnv HS) (c : Ctx HS) (rootKey : Key) (algorithm : String)
      (payload plaintext : Bytes), aeadTailSize ≤ payload.length → c.peer.rootKey = some rootKey →
      (c.peer.evictOldRxSlots receivedMs).precheckReplay (payloadEpoch payload)
        (payloadSequence payload) d = true →
      openOwn E rootKey algorithm d payload = .ok plaintext →
      value (decryptPayload E algorithm d payload receivedMs c) = .ok (some plaintext) := by
  obtain ⟨passed, stopped⟩ := commit_of_precheck p d epoch sequence receivedMs
  refine ⟨passed, stopped, ?_⟩
  intro E c rootKey algorithm payload plaintext long keyed fresh opens
  exact delivered_of_precheck E c rootKey algorithm d payload plaintext receivedMs long keyed fresh
    opens

end EasyTierEdge.Secure.ReplayChecks
