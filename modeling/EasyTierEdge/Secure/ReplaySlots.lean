/- module: EasyTierEdge/Secure/ReplaySlots
   source: cloudflare/wasm/src/secure.rs, commit_replay, evict_old_rx_slots, Sync in upsert_session
   digest: What the replay slots of one session remember of the packets delivered through them. -/

import EasyTierEdge.Secure.Peer

set_option autoImplicit false
set_option relaxedAutoImplicit false

namespace EasyTierEdge.Secure.ReplaySlots

open ReplayWindow (ReplayWindow256)
open Session Peer

variable {HS : Type}

/-! The slots of one direction. -/

/-- All replay slots of direction `d`: the grace copy is `true`, the live slots are `false`. -/
def slotAt (rxSlots : RxSlots) (grace : SyncRxGrace) (d : Direction) (copy : Bool)
    (i : Fin 2) : EpochRxSlot :=
  match copy with
  | true => if grace.valid then grace.slots d i else EpochRxSlot.default
  | false => rxSlots d i

/-- The slots remember the delivered pairs of epoch and sequence: a valid slot covers everything
delivered in its epoch, something was delivered in it, and no two valid slots share an epoch. -/
structure Remembers (delivered : Set (UInt32 × UInt64)) (slot : Bool → Fin 2 → EpochRxSlot) :
    Prop where
  covers : ∀ copy i, (slot copy i).valid = true →
    (slot copy i).window.Covers { sequence | ((slot copy i).epoch, sequence) ∈ delivered }
  used : ∀ copy i, (slot copy i).valid = true →
    ∃ sequence, ((slot copy i).epoch, sequence) ∈ delivered
  distinct : ∀ copy i copy' i', (slot copy i).valid = true → (slot copy' i').valid = true →
    (slot copy i).epoch = (slot copy' i').epoch → copy = copy' ∧ i = i'

section Slots

variable {delivered : Set (UInt32 × UInt64)} {slot slot' : Bool → Fin 2 → EpochRxSlot}

theorem Remembers.of_empty (empty : ∀ copy i, (slot copy i).valid = false) :
    Remembers delivered slot where
  covers := by
    intro copy i valid
    rw [empty copy i] at valid
    cases valid
  used := by
    intro copy i valid
    rw [empty copy i] at valid
    cases valid
  distinct := by
    intro copy i copy' i' valid
    rw [empty copy i] at valid
    cases valid

private theorem Remembers.forget (inv : Remembers delivered slot)
    (subset : ∀ copy i, (slot' copy i).valid = true →
      (slot copy i).valid = true ∧ (slot' copy i).epoch = (slot copy i).epoch ∧
        (slot' copy i).window = (slot copy i).window) : Remembers delivered slot' where
  covers := by
    intro copy i valid
    obtain ⟨old, epoch, window⟩ := subset copy i valid
    rw [epoch, window]
    exact inv.covers copy i old
  used := by
    intro copy i valid
    obtain ⟨old, epoch, _⟩ := subset copy i valid
    rw [epoch]
    exact inv.used copy i old
  distinct := by
    intro copy i copy' i' valid valid' same
    obtain ⟨old, epoch, _⟩ := subset copy i valid
    obtain ⟨old', epoch', _⟩ := subset copy' i' valid'
    rw [epoch, epoch'] at same
    exact inv.distinct copy i copy' i' old old' same

private theorem Remembers.receive {copy : Bool} {i : Fin 2} {epoch : UInt32} {sequence : UInt64}
    (inv : Remembers delivered slot) (valid : (slot copy i).valid = true)
    (tracks : (slot copy i).epoch = epoch)
    (valid' : (slot' copy i).valid = true) (tracks' : (slot' copy i).epoch = epoch)
    (covers' : (slot' copy i).window.Covers
      (insert sequence { n | (epoch, n) ∈ delivered }))
    (others : ∀ copy' i', (copy', i') ≠ (copy, i) → slot' copy' i' = slot copy' i') :
    Remembers (insert (epoch, sequence) delivered) slot' := by
  have elsewhere (copy' : Bool) (i' : Fin 2) (differs : (copy', i') ≠ (copy, i))
      (holds : (slot' copy' i').valid = true) :
      (slot copy' i').valid = true ∧ (slot' copy' i').epoch ≠ epoch := by
    have same := others copy' i' differs
    rw [same] at holds ⊢
    refine ⟨holds, fun eq => differs ?_⟩
    obtain ⟨rfl, rfl⟩ := inv.distinct copy' i' copy i holds valid (eq.trans tracks.symm)
    rfl
  constructor
  · intro copy' i' holds
    by_cases here : (copy', i') = (copy, i)
    · obtain ⟨rfl, rfl⟩ := Prod.mk.inj here
      apply covers'.mono
      intro n member
      rw [Set.mem_ofPred_eq, tracks'] at member
      rcases member with new | old
      · exact Or.inl (Prod.mk.inj new).2
      · exact Or.inr old
    · obtain ⟨old, not_epoch⟩ := elsewhere copy' i' here holds
      rw [others copy' i' here] at not_epoch ⊢
      apply (inv.covers copy' i' old).mono
      intro n member
      rcases member with new | before
      · exact absurd (Prod.mk.inj new).1 not_epoch
      · exact before
  · intro copy' i' holds
    by_cases here : (copy', i') = (copy, i)
    · obtain ⟨rfl, rfl⟩ := Prod.mk.inj here
      exact ⟨sequence, Or.inl (by rw [tracks'])⟩
    · obtain ⟨old, _⟩ := elsewhere copy' i' here holds
      rw [others copy' i' here]
      obtain ⟨n, member⟩ := inv.used copy' i' old
      exact ⟨n, Or.inr member⟩
  · intro copy₁ i₁ copy₂ i₂ holds₁ holds₂ same
    have back (copy' : Bool) (i' : Fin 2) (holds : (slot' copy' i').valid = true) :
        (slot copy' i').valid = true ∧ (slot copy' i').epoch = (slot' copy' i').epoch := by
      by_cases here : (copy', i') = (copy, i)
      · obtain ⟨rfl, rfl⟩ := Prod.mk.inj here
        exact ⟨valid, tracks.trans tracks'.symm⟩
      · rw [others copy' i' here] at holds ⊢
        exact ⟨holds, rfl⟩
    obtain ⟨old₁, epoch₁⟩ := back copy₁ i₁ holds₁
    obtain ⟨old₂, epoch₂⟩ := back copy₂ i₂ holds₂
    exact inv.distinct copy₁ i₁ copy₂ i₂ old₁ old₂ (by rw [epoch₁, epoch₂, same])

/-- A fresh window is opened in slot 0 for an epoch from which nothing was delivered; slot 1 keeps
its content or takes over slot 0's. -/
private theorem Remembers.open_slot {epoch : UInt32} {sequence : UInt64}
    (inv : Remembers delivered slot) (unused : ∀ n, (epoch, n) ∉ delivered)
    (tracks' : (slot' false 0).epoch = epoch)
    (covers' : (slot' false 0).window.Covers {sequence})
    (copies : ∀ i, slot' true i = slot true i)
    (second : slot' false 1 = slot false 1 ∨ slot' false 1 = slot false 0) :
    Remembers (insert (epoch, sequence) delivered) slot' := by
  -- every other slot holds the content of an old one, and no two hold the same one
  have origin (copy : Bool) (i : Fin 2) (differs : (copy, i) ≠ (false, 0)) :
      ∃ j, slot' copy i = slot copy j ∧ (copy = true → j = i) := by
    cases copy with
    | true => exact ⟨i, copies i, fun _ => rfl⟩
    | false =>
      have one : i = 1 := by
        have : i ≠ 0 := fun zero => differs (by rw [zero])
        omega
      subst one
      rcases second with same | moved
      · exact ⟨1, same, by simp⟩
      · exact ⟨0, moved, by simp⟩
  have not_epoch (copy : Bool) (j : Fin 2) (holds : (slot copy j).valid = true) :
      (slot copy j).epoch ≠ epoch := by
    intro eq
    obtain ⟨n, member⟩ := inv.used copy j holds
    exact unused n (eq ▸ member)
  constructor
  · intro copy i holds
    by_cases here : (copy, i) = (false, 0)
    · obtain ⟨rfl, rfl⟩ := Prod.mk.inj here
      apply covers'.mono
      intro n member
      rw [Set.mem_ofPred_eq, tracks'] at member
      rcases member with new | old
      · exact (Prod.mk.inj new).2
      · exact absurd old (unused n)
    · obtain ⟨j, eq, _⟩ := origin copy i here
      rw [eq] at holds ⊢
      apply (inv.covers copy j holds).mono
      intro n member
      rcases member with new | before
      · exact absurd (Prod.mk.inj new).1 (not_epoch copy j holds)
      · exact before
  · intro copy i holds
    by_cases here : (copy, i) = (false, 0)
    · obtain ⟨rfl, rfl⟩ := Prod.mk.inj here
      exact ⟨sequence, Or.inl (by rw [tracks'])⟩
    · obtain ⟨j, eq, _⟩ := origin copy i here
      rw [eq] at holds ⊢
      obtain ⟨n, member⟩ := inv.used copy j holds
      exact ⟨n, Or.inr member⟩
  · intro copy₁ i₁ copy₂ i₂ holds₁ holds₂ same
    by_cases here₁ : (copy₁, i₁) = (false, 0)
    · by_cases here₂ : (copy₂, i₂) = (false, 0)
      · exact Prod.mk.inj (here₁.trans here₂.symm)
      · obtain ⟨j, eq, _⟩ := origin copy₂ i₂ here₂
        obtain ⟨rfl, rfl⟩ := Prod.mk.inj here₁
        rw [eq] at holds₂ same
        exact absurd (same.symm.trans tracks') (not_epoch copy₂ j holds₂)
    · obtain ⟨j₁, eq₁, fixed₁⟩ := origin copy₁ i₁ here₁
      by_cases here₂ : (copy₂, i₂) = (false, 0)
      · obtain ⟨rfl, rfl⟩ := Prod.mk.inj here₂
        rw [eq₁] at holds₁ same
        exact absurd (same.trans tracks') (not_epoch copy₁ j₁ holds₁)
      · obtain ⟨j₂, eq₂, fixed₂⟩ := origin copy₂ i₂ here₂
        rw [eq₁] at holds₁ same
        rw [eq₂] at holds₂ same
        obtain ⟨rfl, index⟩ := inv.distinct copy₁ j₁ copy₂ j₂ holds₁ holds₂ same
        refine ⟨rfl, ?_⟩
        cases copy₁ with
        | true => rw [← fixed₁ rfl, ← fixed₂ rfl, index]
        | false =>
          have : i₁ ≠ 0 := fun zero => here₁ (by rw [zero])
          have : i₂ ≠ 0 := fun zero => here₂ (by rw [zero])
          omega

end Slots

/-! The two functions that write the slots. -/

section Writes

variable {p : SecurePeer HS} {d : Direction} {epoch : UInt32} {sequence receivedMs : UInt64}

private theorem slotAt_setSlot (rxSlots : RxSlots) (grace : SyncRxGrace) (d : Direction) (i : Fin 2)
    (slot : EpochRxSlot) (d' : Direction) (copy : Bool) (j : Fin 2) :
    slotAt (setSlot rxSlots d i slot) grace d' copy j =
      if copy = false ∧ d' = d ∧ j = i then slot else slotAt rxSlots grace d' copy j := by
  cases copy with
  | true => simp [slotAt]
  | false =>
    simp only [slotAt, setSlot, Function.update_apply, true_and]
    by_cases same : d' = d
    · subst same
      by_cases index : j = i
      · simp [index]
      · simp [index]
    · simp [same]

private theorem slotAt_grace (rxSlots : RxSlots) (grace : SyncRxGrace) (valid : grace.valid = true)
    (d : Direction) (i : Fin 2) (slot : EpochRxSlot) (d' : Direction) (copy : Bool) (j : Fin 2) :
    slotAt rxSlots { grace with slots := setSlot grace.slots d i slot } d' copy j =
      if copy = true ∧ d' = d ∧ j = i then slot else slotAt rxSlots grace d' copy j := by
  cases copy with
  | false => simp [slotAt]
  | true =>
    simp only [slotAt, valid, if_true, setSlot, Function.update_apply, true_and]
    by_cases same : d' = d
    · subst same
      by_cases index : j = i
      · simp [index]
      · simp [index]
    · simp [same]

/-- The slot whose window judges a packet of `epoch`; without one a fresh window is opened, or
the packet is refused. -/
def trackingSlot (rxSlots : RxSlots) (grace : SyncRxGrace) (d : Direction) (epoch : UInt32) :
    Option (Bool × Fin 2) :=
  match graceSlot grace d epoch with
  | some i => some (true, i)
  | none =>
    if !(rxSlots d 0).valid then none
    else if (rxSlots d 0).epoch = epoch then some (false, 0)
    else if (rxSlots d 1).valid && (rxSlots d 1).epoch = epoch then some (false, 1)
    else none

theorem graceSlot_eq_some {grace : SyncRxGrace} {i : Fin 2}
    (found : graceSlot grace d epoch = some i) :
    grace.valid = true ∧ (grace.slots d i).valid = true ∧ (grace.slots d i).epoch = epoch := by
  unfold graceSlot at found
  split at found
  · rename_i valid
    have test := List.find?_some found
    simp only [Bool.and_eq_true, beq_iff_eq] at test
    exact ⟨valid, test.1, test.2⟩
  · cases found

theorem commitReplay_tracked (sequence receivedMs : UInt64) {copy : Bool} {i : Fin 2}
    (tracks : trackingSlot p.rxSlots p.syncRxGrace d epoch = some (copy, i)) :
    (slotAt p.rxSlots p.syncRxGrace d copy i).valid = true ∧
    (slotAt p.rxSlots p.syncRxGrace d copy i).epoch = epoch ∧
    (p.commitReplay epoch sequence d receivedMs).1 =
      ((slotAt p.rxSlots p.syncRxGrace d copy i).window.accept sequence).1 ∧
    ∀ d' copy' j, slotAt (p.commitReplay epoch sequence d receivedMs).2.rxSlots
        (p.commitReplay epoch sequence d receivedMs).2.syncRxGrace d' copy' j =
      if copy' = copy ∧ d' = d ∧ j = i then
        (EpochRxSlot.receive (slotAt p.rxSlots p.syncRxGrace d copy i) sequence receivedMs).2
      else slotAt p.rxSlots p.syncRxGrace d' copy' j := by
  unfold trackingSlot at tracks
  cases found : graceSlot p.syncRxGrace d epoch with
  | some g =>
    simp only [found, Option.some.injEq, Prod.mk.injEq] at tracks
    obtain ⟨rfl, rfl⟩ := tracks
    obtain ⟨valid, slot_valid, slot_epoch⟩ := graceSlot_eq_some found
    have at_slot : slotAt p.rxSlots p.syncRxGrace d true g = p.syncRxGrace.slots d g := by
      simp [slotAt, valid]
    rw [at_slot]
    refine ⟨slot_valid, slot_epoch, ?_, ?_⟩
    · simp only [SecurePeer.commitReplay, found]
      rfl
    · intro d' copy' j
      simp only [SecurePeer.commitReplay, found]
      exact slotAt_grace p.rxSlots p.syncRxGrace valid d g _ d' copy' j
  | none =>
    simp only [found] at tracks
    split at tracks
    · cases tracks
    rename_i first_valid
    have first_valid : (p.rxSlots d 0).valid = true := by simpa using first_valid
    have unchanged : setSlot p.rxSlots d 0 (p.rxSlots d 0) = p.rxSlots := by
      unfold setSlot
      rw [Function.update_eq_self, Function.update_eq_self]
    split at tracks
    · rename_i first_epoch
      cases tracks
      refine ⟨first_valid, first_epoch, ?_, ?_⟩
      · simp only [SecurePeer.commitReplay, found, first_valid, if_true, first_epoch]
        rfl
      · intro d' copy' j
        simp only [SecurePeer.commitReplay, found, first_valid, if_true, first_epoch, unchanged]
        exact slotAt_setSlot p.rxSlots p.syncRxGrace d 0 _ d' copy' j
    · rename_i first_epoch
      split at tracks
      · rename_i second
        cases tracks
        obtain ⟨second_valid, second_epoch⟩ : (p.rxSlots d 1).valid = true ∧
            (p.rxSlots d 1).epoch = epoch := by simpa using second
        refine ⟨second_valid, second_epoch, ?_, ?_⟩
        · simp only [SecurePeer.commitReplay, found, first_valid, if_true, first_epoch, if_false,
            unchanged, second_valid, second_epoch, decide_true, Bool.and_self]
          rfl
        · intro d' copy' j
          simp only [SecurePeer.commitReplay, found, first_valid, if_true, first_epoch, if_false,
            unchanged, second_valid, second_epoch, decide_true, Bool.and_self]
          exact slotAt_setSlot p.rxSlots p.syncRxGrace d 1 _ d' copy' j
      · cases tracks

/-- The slot a fresh window is opened in, after its first packet. -/
def openedSlot (epoch : UInt32) (sequence receivedMs : UInt64) : EpochRxSlot :=
  (EpochRxSlot.receive (EpochRxSlot.fresh epoch receivedMs) sequence receivedMs).2

/-- A packet of an untracked epoch opens slot 0 afresh, after slot 0 may have moved to slot 1, or
is refused and changes nothing. -/
private theorem commitReplay_untracked (sequence receivedMs : UInt64)
    (untracked : trackingSlot p.rxSlots p.syncRxGrace d epoch = none) :
    ((p.commitReplay epoch sequence d receivedMs).1 = true ∧
      (p.commitReplay epoch sequence d receivedMs).2.syncRxGrace = p.syncRxGrace ∧
      ∃ second, (second = p.rxSlots d 1 ∨ second = p.rxSlots d 0) ∧
        (p.commitReplay epoch sequence d receivedMs).2.rxSlots =
          setSlot (setSlot p.rxSlots d 1 second) d 0 (openedSlot epoch sequence receivedMs)) ∨
    ((p.commitReplay epoch sequence d receivedMs).1 = false ∧
      (p.commitReplay epoch sequence d receivedMs).2 = p) := by
  have keep_first : setSlot p.rxSlots d 0 (p.rxSlots d 0) = p.rxSlots := by
    unfold setSlot
    rw [Function.update_eq_self, Function.update_eq_self]
  have keep_second : setSlot p.rxSlots d 1 (p.rxSlots d 1) = p.rxSlots := by
    unfold setSlot
    rw [Function.update_eq_self, Function.update_eq_self]
  unfold trackingSlot at untracked
  cases found : graceSlot p.syncRxGrace d epoch with
  | some g => simp [found] at untracked
  | none =>
    simp only [found] at untracked
    cases first_valid : (p.rxSlots d 0).valid with
    | false =>
      left
      have shape : p.commitReplay epoch sequence d receivedMs =
          ((EpochRxSlot.receive (EpochRxSlot.fresh epoch receivedMs) sequence receivedMs).1,
            { p with
              rxSlots := setSlot (setSlot p.rxSlots d 0 (EpochRxSlot.fresh epoch receivedMs)) d 0
                (openedSlot epoch sequence receivedMs) }) := by
        have own_epoch : (EpochRxSlot.fresh epoch receivedMs).epoch = epoch := rfl
        simp only [SecurePeer.commitReplay, found, first_valid, Bool.false_eq_true, if_false,
          own_epoch, if_true]
        rfl
      rw [shape]
      refine ⟨rfl, rfl, p.rxSlots d 1, Or.inl rfl, ?_⟩
      rw [keep_second]
      unfold setSlot
      simp only [Function.update_self, Function.update_idem]
    | true =>
      simp only [first_valid, Bool.not_true, Bool.false_eq_true, if_false] at untracked
      split at untracked
      · cases untracked
      rename_i first_epoch
      split at untracked
      · cases untracked
      rename_i second
      by_cases newer : epoch > (p.rxSlots d 0).epoch
      · left
        have shape : p.commitReplay epoch sequence d receivedMs =
            ((EpochRxSlot.receive (EpochRxSlot.fresh epoch receivedMs) sequence receivedMs).1,
              { p with
                rxSlots := setSlot (setSlot p.rxSlots d 1 (p.rxSlots d 0)) d 0
                  (openedSlot epoch sequence receivedMs) }) := by
          simp only [SecurePeer.commitReplay, found, first_valid, if_true, first_epoch, if_false,
            keep_first, second, newer]
          rfl
        rw [shape]
        exact ⟨rfl, rfl, p.rxSlots d 0, Or.inr rfl, rfl⟩
      · right
        have shape : p.commitReplay epoch sequence d receivedMs = (false, p) := by
          simp only [SecurePeer.commitReplay, found, first_valid, if_true, first_epoch, if_false,
            keep_first, second, newer, Bool.false_eq_true]
        rw [shape]
        exact ⟨rfl, rfl⟩

/-- What must not happen when an authentic packet is committed: its own window is not deceived by
the truncated distance, and no fresh window is opened for an epoch already delivered from. -/
def Judged (delivered : Set (UInt32 × UInt64)) (p : SecurePeer HS) (d : Direction)
    (epoch : UInt32) (sequence : UInt64) : Prop :=
  match trackingSlot p.rxSlots p.syncRxGrace d epoch with
  | some (copy, i) => ¬ (slotAt p.rxSlots p.syncRxGrace d copy i).window.Aliased sequence
  | none => ∀ n, (epoch, n) ∉ delivered

/-- Every direction remembers what it delivered. -/
def RemembersAll (delivered : Direction → Set (UInt32 × UInt64)) (rxSlots : RxSlots)
    (grace : SyncRxGrace) : Prop :=
  ∀ d, Remembers (delivered d) (slotAt rxSlots grace d)

private theorem commitReplay_tracked_remembers {copy : Bool} {i : Fin 2} (receivedMs : UInt64)
    {delivered : Direction → Set (UInt32 × UInt64)}
    (inv : RemembersAll delivered p.rxSlots p.syncRxGrace)
    (tracks : trackingSlot p.rxSlots p.syncRxGrace d epoch = some (copy, i))
    (judged : ¬ (slotAt p.rxSlots p.syncRxGrace d copy i).window.Aliased sequence) :
    ((p.commitReplay epoch sequence d receivedMs).1 = true →
      (epoch, sequence) ∉ delivered d ∧
      RemembersAll (Function.update delivered d (insert (epoch, sequence) (delivered d)))
        (p.commitReplay epoch sequence d receivedMs).2.rxSlots
        (p.commitReplay epoch sequence d receivedMs).2.syncRxGrace) ∧
    ((p.commitReplay epoch sequence d receivedMs).1 = false →
      RemembersAll delivered (p.commitReplay epoch sequence d receivedMs).2.rxSlots
        (p.commitReplay epoch sequence d receivedMs).2.syncRxGrace) := by
  obtain ⟨valid, slot_epoch, verdict, slots⟩ := commitReplay_tracked sequence receivedMs tracks
  generalize p.commitReplay epoch sequence d receivedMs = out at verdict slots
  have covers := (inv d).covers copy i valid
  rw [slot_epoch] at covers
  have elsewhere (d' : Direction) (differs : d' ≠ d) :
      slotAt out.2.rxSlots out.2.syncRxGrace d' = slotAt p.rxSlots p.syncRxGrace d' := by
    funext copy' j
    rw [slots d' copy' j, if_neg (fun h => differs h.2.1)]
  have judge_slot : slotAt out.2.rxSlots out.2.syncRxGrace d copy i =
      (EpochRxSlot.receive (slotAt p.rxSlots p.syncRxGrace d copy i) sequence receivedMs).2 := by
    rw [slots d copy i, if_pos ⟨rfl, rfl, rfl⟩]
  have other_slots (copy' : Bool) (j : Fin 2) (differs : (copy', j) ≠ (copy, i)) :
      slotAt out.2.rxSlots out.2.syncRxGrace d copy' j =
        slotAt p.rxSlots p.syncRxGrace d copy' j := by
    rw [slots d copy' j, if_neg]
    rintro ⟨rfl, _, rfl⟩
    exact differs rfl
  constructor
  · intro accepted
    rw [accepted] at verdict
    obtain ⟨new, covers'⟩ := ReplayWindow256.accept_true covers judged verdict.symm
    refine ⟨new, fun d' => ?_⟩
    by_cases same : d' = d
    · subst same
      rw [Function.update_self]
      refine (inv d').receive valid slot_epoch ?_ ?_ ?_ other_slots
      · rw [judge_slot]
        exact valid
      · rw [judge_slot]
        exact slot_epoch
      · rw [judge_slot]
        exact covers'
    · rw [Function.update_of_ne same, elsewhere d' same]
      exact inv d'
  · intro refused d'
    rw [refused] at verdict
    have window := ReplayWindow256.accept_false verdict.symm
    by_cases same : d' = d
    · subst same
      refine (inv d').forget ?_
      intro copy' j holds
      by_cases here : (copy', j) = (copy, i)
      · obtain ⟨rfl, rfl⟩ := Prod.mk.inj here
        rw [judge_slot]
        exact ⟨valid, rfl, window⟩
      · rw [other_slots copy' j here] at holds ⊢
        exact ⟨holds, rfl, rfl⟩
    · rw [elsewhere d' same]
      exact inv d'

private theorem commitReplay_untracked_remembers (receivedMs : UInt64)
    {delivered : Direction → Set (UInt32 × UInt64)}
    (inv : RemembersAll delivered p.rxSlots p.syncRxGrace)
    (tracks : trackingSlot p.rxSlots p.syncRxGrace d epoch = none)
    (judged : ∀ n, (epoch, n) ∉ delivered d) :
    ((p.commitReplay epoch sequence d receivedMs).1 = true →
      (epoch, sequence) ∉ delivered d ∧
      RemembersAll (Function.update delivered d (insert (epoch, sequence) (delivered d)))
        (p.commitReplay epoch sequence d receivedMs).2.rxSlots
        (p.commitReplay epoch sequence d receivedMs).2.syncRxGrace) ∧
    ((p.commitReplay epoch sequence d receivedMs).1 = false →
      RemembersAll delivered (p.commitReplay epoch sequence d receivedMs).2.rxSlots
        (p.commitReplay epoch sequence d receivedMs).2.syncRxGrace) := by
  rcases commitReplay_untracked sequence receivedMs tracks with
    ⟨accepted, grace, second, second_eq, rxSlots⟩ | ⟨refused, same⟩
  · refine ⟨fun _ => ⟨judged sequence, fun d' => ?_⟩, fun refused => ?_⟩
    · rw [grace, rxSlots]
      by_cases same : d' = d
      · subst same
        rw [Function.update_self]
        have first : slotAt (setSlot (setSlot p.rxSlots d' 1 second) d' 0
            (openedSlot epoch sequence receivedMs)) p.syncRxGrace d' false 0 =
            openedSlot epoch sequence receivedMs := by
          rw [slotAt_setSlot, if_pos ⟨rfl, rfl, rfl⟩]
        refine (inv d').open_slot judged ?_ ?_ ?_ ?_
        · rw [first]
          rfl
        · rw [first]
          have empty := ReplayWindow256.covers_empty ReplayWindow256.default
          have opened := ReplayWindow256.accept_true empty
            (fun aliased => Bool.noConfusion aliased.1) (rfl : (ReplayWindow256.accept
              ReplayWindow256.default sequence).1 = true)
          rw [← LawfulSingleton.insert_empty_eq]
          exact opened.2
        · intro i
          rw [slotAt_setSlot, slotAt_setSlot]
          simp
        · have moved : slotAt (setSlot (setSlot p.rxSlots d' 1 second) d' 0
              (openedSlot epoch sequence receivedMs)) p.syncRxGrace d' false 1 = second := by
            rw [slotAt_setSlot, if_neg (by simp), slotAt_setSlot, if_pos ⟨rfl, rfl, rfl⟩]
          rw [moved]
          exact second_eq
      · rw [Function.update_of_ne same]
        have kept : slotAt (setSlot (setSlot p.rxSlots d 1 second) d 0
            (openedSlot epoch sequence receivedMs)) p.syncRxGrace d' =
            slotAt p.rxSlots p.syncRxGrace d' := by
          funext copy j
          rw [slotAt_setSlot, if_neg (fun h => same h.2.1), slotAt_setSlot,
            if_neg (fun h => same h.2.1)]
        rw [kept]
        exact inv d'
    · rw [accepted] at refused
      cases refused
  · refine ⟨fun accepted => ?_, fun _ => ?_⟩
    · rw [refused] at accepted
      cases accepted
    · rw [same]
      exact inv

theorem commitReplay_remembers (p : SecurePeer HS) (receivedMs : UInt64)
    {delivered : Direction → Set (UInt32 × UInt64)}
    (inv : RemembersAll delivered p.rxSlots p.syncRxGrace)
    (judged : Judged (delivered d) p d epoch sequence) :
    ((p.commitReplay epoch sequence d receivedMs).1 = true →
      (epoch, sequence) ∉ delivered d ∧
      RemembersAll (Function.update delivered d (insert (epoch, sequence) (delivered d)))
        (p.commitReplay epoch sequence d receivedMs).2.rxSlots
        (p.commitReplay epoch sequence d receivedMs).2.syncRxGrace) ∧
    ((p.commitReplay epoch sequence d receivedMs).1 = false →
      RemembersAll delivered (p.commitReplay epoch sequence d receivedMs).2.rxSlots
        (p.commitReplay epoch sequence d receivedMs).2.syncRxGrace) := by
  unfold Judged at judged
  cases tracks : trackingSlot p.rxSlots p.syncRxGrace d epoch with
  | some judge =>
    rw [tracks] at judged
    exact commitReplay_tracked_remembers receivedMs inv tracks judged
  | none =>
    rw [tracks] at judged
    exact commitReplay_untracked_remembers receivedMs inv tracks judged

private theorem evictSlot_valid {currentMs : UInt64} {slot : EpochRxSlot}
    (holds : (evictSlot currentMs slot).valid = true) : evictSlot currentMs slot = slot := by
  unfold evictSlot at holds ⊢
  split at holds
  · cases holds
  · rename_i kept
    rw [if_neg kept]

theorem evictOldRxSlots_remembers {delivered : Direction → Set (UInt32 × UInt64)}
    (inv : RemembersAll delivered p.rxSlots p.syncRxGrace) (currentMs : UInt64) :
    RemembersAll delivered (p.evictOldRxSlots currentMs).rxSlots
      (p.evictOldRxSlots currentMs).syncRxGrace := by
  intro d
  refine (inv d).forget ?_
  intro copy i holds
  suffices same : slotAt (p.evictOldRxSlots currentMs).rxSlots
      (p.evictOldRxSlots currentMs).syncRxGrace d copy i =
      slotAt p.rxSlots p.syncRxGrace d copy i by
    rw [same] at holds ⊢
    exact ⟨holds, rfl, rfl⟩
  cases copy with
  | false => exact evictSlot_valid holds
  | true =>
    have idle : EpochRxSlot.default.valid ≠ true := by decide
    simp only [SecurePeer.evictOldRxSlots, slotAt] at holds ⊢
    by_cases expired : (p.syncRxGrace.valid &&
        decide (currentMs ≥ p.syncRxGrace.expiresAtMs)) = true
    · simp only [expired, if_true] at holds
      exact absurd holds idle
    · simp only [expired, Bool.false_eq_true, if_false] at holds ⊢
      cases valid : p.syncRxGrace.valid with
      | false =>
        simp only [valid, Bool.false_eq_true, if_false] at holds
        exact absurd holds idle
      | true =>
        simp only [valid, if_true] at holds ⊢
        exact evictSlot_valid holds

theorem synced_remembers {delivered : Direction → Set (UInt32 × UInt64)} {s : StoredSession}
    (inv : RemembersAll delivered s.rxSlots s.syncRxGrace) (currentMs : UInt64) :
    RemembersAll delivered (s.synced currentMs).rxSlots (s.synced currentMs).syncRxGrace := by
  intro d
  have moved (i : Fin 2) : slotAt (s.synced currentMs).rxSlots (s.synced currentMs).syncRxGrace d
      true i = slotAt s.rxSlots s.syncRxGrace d false i := rfl
  have empty (i : Fin 2) (holds : (slotAt (s.synced currentMs).rxSlots
      (s.synced currentMs).syncRxGrace d false i).valid = true) : False :=
    Bool.noConfusion holds
  constructor
  · intro copy i holds
    cases copy with
    | false => exact (empty i holds).elim
    | true =>
      rw [moved] at holds ⊢
      exact (inv d).covers false i holds
  · intro copy i holds
    cases copy with
    | false => exact (empty i holds).elim
    | true =>
      rw [moved] at holds ⊢
      exact (inv d).used false i holds
  · intro copy i copy' i' holds holds' same
    cases copy with
    | false => exact (empty i holds).elim
    | true =>
      cases copy' with
      | false => exact (empty i' holds').elim
      | true =>
        rw [moved] at holds holds' same
        rw [moved] at same
        exact ⟨rfl, ((inv d).distinct false i false i' holds holds' same).2⟩

end Writes

end EasyTierEdge.Secure.ReplaySlots
