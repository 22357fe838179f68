/- module: EasyTierEdge/Rpc/SchedulerDebt
   source: cloudflare/src/core/rpc.ts
   digest: Which requested updates the scheduler still remembers. -/

import EasyTierEdge.Rpc.SchedulerRules

set_option autoImplicit false
set_option relaxedAutoImplicit false

namespace EasyTierEdge.Rpc.SchedulerDebt

open Lib.Fallible Lib.Machine Lib.OrderedMap
open Packet (Bytes)
open Scheduler SchedulerRules

/-- Requests not yet answered by a packet, `some true` when one of them was forced: `owed` counts
from where the last packet that was sent began to be built, `since` from where any building last
began. -/
structure Debt where
  owed : Option Bool
  since : Option Bool
  deriving DecidableEq

def Debt.none : Debt := ⟨Option.none, Option.none⟩

/-- One more request. -/
def another (forced : Bool) (requests : Option Bool) : Option Bool :=
  some (requests.getD false || forced)

/-- A deleted entry takes what it owed with it. -/
def Debt.after (key : RouteSyncKey) (debt : Debt) : Note → Debt
  | .requested k forced =>
    if k = key then ⟨another forced debt.owed, another forced debt.since⟩ else debt
  | .retried k => if k = key then ⟨another true debt.owed, another true debt.since⟩ else debt
  | .building k => if k = key then ⟨debt.owed, Option.none⟩ else debt
  | .refused _ => debt
  | .sent k => if k = key then ⟨debt.since, debt.since⟩ else debt
  | .forgot k => if k = key then Debt.none else debt

def debtOf (key : RouteSyncKey) (notes : List Note) : Debt :=
  notes.foldl (Debt.after key) Debt.none

@[simp] theorem debtOf_snoc (key : RouteSyncKey) (notes : List Note) (n : Note) :
    debtOf key (notes ++ [n]) = (debtOf key notes).after key n :=
  List.foldl_append

/-- The flags of an entry cover what is owed. -/
def Remembers (state : RouteSyncState) (owed : Option Bool) : Prop :=
  ∀ forced, owed = some forced →
    (state.dirty = true ∨ state.forceFull = true) ∧ (forced = true → state.forceFull = true)

/-- Nothing is owed without an entry, and an entry remembers what is owed. -/
def Covers (entry : Option RouteSyncState) (owed : Option Bool) : Prop :=
  (entry = none → owed = none) ∧ ∀ state, entry = some state → Remembers state owed

variable {σ : Type}

def Kept (r : EasyTierRpc σ) : Prop :=
  ∀ key, Covers (r.routeSyncStates.lookup key) (debtOf key r.notes).owed

/-- A call of `build_route_update` threw. -/
def Refused (r : EasyTierRpc σ) : Prop := ∃ key, Note.refused key ∈ r.notes

def Sound (r : EasyTierRpc σ) : Prop := Refused r ∨ Kept r

private theorem remembers_none (state : RouteSyncState) : Remembers state none := by
  intro forced impossible
  cases impossible

private theorem covers_nothing (entry : Option RouteSyncState) : Covers entry none :=
  ⟨fun _ => rfl, fun state _ => remembers_none state⟩

/-- A forced flag covers anything, a dirty one every request that was not forced. -/
private theorem remembers_another {state : RouteSyncState} {owed : Option Bool} {forced : Bool}
    (dirty : state.dirty = true) (full : forced = true → state.forceFull = true)
    (before : owed = some true → state.forceFull = true) :
    Remembers state (another forced owed) := by
  intro all total
  refine ⟨.inl dirty, ?_⟩
  intro isForced
  subst isForced
  simp only [another, Option.some.injEq, Bool.or_eq_true] at total
  rcases total with earlier | now
  · apply before
    cases owed with
    | none => cases earlier
    | some b =>
      have same : b = true := earlier
      rw [same]
  · exact full now

private theorem kept_of_local {r r' : EasyTierRpc σ} (key : RouteSyncKey) (kept : Kept r)
    (states : ∀ k, k ≠ key → r'.routeSyncStates.lookup k = r.routeSyncStates.lookup k)
    (debts : ∀ k, k ≠ key → debtOf k r'.notes = debtOf k r.notes)
    (here : Covers (r'.routeSyncStates.lookup key) (debtOf key r'.notes).owed) : Kept r' := by
  intro k
  by_cases same : k = key
  · rw [same]
    exact here
  · rw [states k same, debts k same]
    exact kept k

variable {H : RpcHost σ}

private theorem sound_host {r : EasyTierRpc σ} (sound : Sound r) (host : σ) :
    Sound { r with host } :=
  sound

private theorem refused_historic : Historic (Refused : EasyTierRpc σ → Prop) where
  host := fun _ refused _ => refused
  states := fun _ refused _ => refused
  notes := by
    intro r refused n
    obtain ⟨key, member⟩ := refused
    exact ⟨key, List.mem_append_left _ member⟩

/-- The entry being flushed while its packet is built and sent: its flags are cleared, and `owed`
was covered by the flags it had before. -/
structure Flushing (key : RouteSyncKey) (forceFull : Bool) (r : EasyTierRpc σ) : Prop where
  others : ∀ k, k ≠ key → Covers (r.routeSyncStates.lookup k) (debtOf k r.notes).owed
  present : ∃ state, r.routeSyncStates.lookup key = some state
  full : (debtOf key r.notes).owed = some true → forceFull = true

private theorem Flushing.restored {key : RouteSyncKey} {forceFull : Bool} {r : EasyTierRpc σ}
    (flushing : Flushing key forceFull r) :
    Kept { r with
      routeSyncStates := OMap.modify r.routeSyncStates key fun state =>
        { state with inFlight := false, dirty := true, forceFull := state.forceFull || forceFull } }
    := by
  obtain ⟨state, found⟩ := flushing.present
  intro k
  show Covers ((OMap.modify r.routeSyncStates key _).lookup k) _
  rw [OMap.lookup_modify]
  by_cases same : k = key
  · subst same
    rw [if_pos rfl, found]
    constructor
    · intro impossible
      cases impossible
    · intro state' entry
      cases entry
      intro forced owed
      refine ⟨.inl rfl, ?_⟩
      intro isForced
      subst isForced
      simp [flushing.full owed]
  · rw [if_neg same]
    exact flushing.others k same

private theorem Flushing.assigned {key : RouteSyncKey} {forceFull : Bool} {r : EasyTierRpc σ}
    (flushing : Flushing key forceFull r) (f : RouteSyncState → RouteSyncState) :
    Flushing key forceFull
      { r with routeSyncStates := OMap.modify r.routeSyncStates key f } where
  others := by
    intro k other
    show Covers ((OMap.modify r.routeSyncStates key f).lookup k) _
    rw [OMap.lookup_modify, if_neg other]
    exact flushing.others k other
  present := by
    obtain ⟨state, found⟩ := flushing.present
    refine ⟨f state, ?_⟩
    show (OMap.modify r.routeSyncStates key f).lookup key = _
    rw [OMap.lookup_modify, if_pos rfl, found]
    rfl
  full := flushing.full

private theorem Flushing.host {key : RouteSyncKey} {forceFull : Bool} {r : EasyTierRpc σ}
    (flushing : Flushing key forceFull r) (host : σ) : Flushing key forceFull { r with host } :=
  ⟨flushing.others, flushing.present, flushing.full⟩

private theorem debtOf_other {key k : RouteSyncKey} (other : k ≠ key) (notes : List Note) {n : Note}
    (about : n = .building key ∨ n = .sent key) : debtOf k (notes ++ [n]) = debtOf k notes := by
  rw [debtOf_snoc]
  rcases about with rfl | rfl
  · exact if_neg (Ne.symm other)
  · exact if_neg (Ne.symm other)

/-- A building begins: what is owed stays owed until a packet is sent, `since` starts anew. -/
private theorem Flushing.building {key : RouteSyncKey} {forceFull : Bool} {r : EasyTierRpc σ}
    (flushing : Flushing key forceFull r) :
    Flushing key forceFull { r with notes := r.notes ++ [.building key] } ∧
      (debtOf key (r.notes ++ [.building key])).since = none := by
  have here : debtOf key (r.notes ++ [.building key]) = ⟨(debtOf key r.notes).owed, none⟩ := by
    rw [debtOf_snoc]
    exact if_pos rfl
  refine ⟨⟨?_, flushing.present, ?_⟩, ?_⟩
  · intro k other
    show Covers _ (debtOf k (r.notes ++ [.building key])).owed
    rw [debtOf_other other r.notes (.inl rfl)]
    exact flushing.others k other
  · intro owed
    apply flushing.full
    have owedHere : (debtOf key (r.notes ++ [.building key])).owed = some true := owed
    rw [here] at owedHere
    exact owedHere
  · rw [here]

/-- A packet that was built after the last request leaves nothing owed once it is sent. -/
private theorem Flushing.sent {key : RouteSyncKey} {forceFull : Bool} {r : EasyTierRpc σ}
    (flushing : Flushing key forceFull r) (nothing : (debtOf key r.notes).since = none) :
    Kept { r with notes := r.notes ++ [.sent key] } := by
  intro k
  show Covers _ (debtOf k (r.notes ++ [.sent key])).owed
  by_cases same : k = key
  · subst same
    have here : debtOf k (r.notes ++ [.sent k]) = ⟨none, none⟩ := by
      rw [debtOf_snoc, ← nothing]
      exact if_pos rfl
    rw [here]
    exact covers_nothing _
  · rw [debtOf_other same r.notes (.inr rfl)]
    exact flushing.others k same

private theorem sendUpdate_keeps {key : RouteSyncKey} {peer : RpcPeer} {forceFull : Bool}
    {packet : Bytes} {r : EasyTierRpc σ} (flushing : Flushing key forceFull r)
    (nothing : (debtOf key r.notes).since = none) :
    Ensures (EasyTierRpc.sendUpdate H key peer forceFull packet) r (fun _ r' => Kept r')
      (fun _ r' => Kept r') := by
  simp only [EasyTierRpc.sendUpdate, ensures_tryCatch, ensures_bind, ensures_note, ensures_assign,
    ensures_throw]
  apply sendControl_frame.mono
  · rintro _ r' ⟨host, rfl⟩
    exact (flushing.host host).sent nothing
  · rintro _ r' ⟨host, rfl⟩
    exact (flushing.host host).restored

private theorem flush_keeps {key : RouteSyncKey} {now : Nat} {r : EasyTierRpc σ} (kept : Kept r) :
    Ensures (EasyTierRpc.flushRouteUpdate H key now) r (fun _ r' => Sound r')
      (fun _ r' => Sound r') := by
  simp only [EasyTierRpc.flushRouteUpdate, ensures_bind, ensures_get]
  cases found : r.routeSyncStates.lookup key with
  | none => exact .inr kept
  | some state =>
    simp only [ensures_ite]
    refine ⟨fun _ => .inr kept, fun _ => ?_⟩
    have covers := (kept key).2 state found
    have start : Flushing key state.forceFull r := by
      refine ⟨fun k _ => kept k, ⟨state, found⟩, ?_⟩
      intro owed
      exact (covers true owed).2 rfl
    have cleared := (start.assigned fun state => { state with dirty := false, forceFull := false })
    obtain ⟨building, nothing⟩ := cleared.building
    simp only [EasyTierRpc.buildUpdate, ensures_bind, ensures_assign, ensures_note,
      ensures_tryCatch, ensures_throw, ensures_onHost]
    apply ensures_of_forall
    · intro packet host
      have sending := (building.host host).assigned fun state =>
        { state with inFlight := true, sentAt := now }
      exact (sendUpdate_keeps sending nothing).mono (fun _ _ kept' => .inr kept')
        fun _ _ kept' => .inr kept'
    · intro e host
      exact .inl ⟨key, by simp⟩

private theorem keeps_flush {key : RouteSyncKey} {now : Nat} :
    Keeps Sound (EasyTierRpc.flushRouteUpdate H key now) := by
  intro r sound
  rcases sound with refused | kept
  · exact (refused_historic.flush key now r refused).mono (fun _ _ refused' => .inl refused')
      fun _ _ refused' => .inl refused'
  · exact flush_keeps kept

private theorem kept_of_request {r : EasyTierRpc σ} (key : RouteSyncKey) (forced : Bool) {n : Note}
    {states : OMap RouteSyncKey RouteSyncState} (state : RouteSyncState) (kept : Kept r)
    (noted : ∀ k debt, Debt.after k debt n =
      if key = k then ⟨another forced debt.owed, another forced debt.since⟩ else debt)
    (others : ∀ k, k ≠ key → states.lookup k = r.routeSyncStates.lookup k)
    (here : states.lookup key = some state) (dirty : state.dirty = true)
    (full : forced = true → state.forceFull = true)
    (before : (debtOf key r.notes).owed = some true → state.forceFull = true) :
    Kept { r with routeSyncStates := states, notes := r.notes ++ [n] } := by
  have there : ∀ k, k ≠ key → debtOf k (r.notes ++ [n]) = debtOf k r.notes := by
    intro k other
    rw [debtOf_snoc, noted, if_neg (Ne.symm other)]
  refine kept_of_local key kept others there ?_
  have owed : (debtOf key (r.notes ++ [n])).owed = another forced (debtOf key r.notes).owed := by
    rw [debtOf_snoc, noted, if_pos rfl]
  show Covers (states.lookup key) (debtOf key (r.notes ++ [n])).owed
  rw [here, owed]
  constructor
  · intro impossible
    cases impossible
  · intro state' entry
    cases entry
    exact remembers_another dirty full before

/-- The entry of a peer once `sendRouteUpdate` has raised its flags. -/
def raised (peer : RpcPeer) (forceFull : Bool) (state : RouteSyncState) : RouteSyncState :=
  { state with peer, dirty := true, forceFull := state.forceFull || forceFull }

private theorem keeps_sendRouteUpdate {peer : RpcPeer} {forceFull : Bool} :
    Keeps Sound (EasyTierRpc.sendRouteUpdate H peer forceFull) := by
  intro r sound
  -- Both ways into the flush end with an entry whose flags are raised.
  have entry : ∀ states : OMap RouteSyncKey RouteSyncState, ∀ state : RouteSyncState,
      (∀ k, k ≠ routeSyncKey peer → states.lookup k = r.routeSyncStates.lookup k) →
      states.lookup (routeSyncKey peer) = some state →
      ((debtOf (routeSyncKey peer) r.notes).owed = some true → Kept r →
        state.forceFull = true) →
      Sound { r with
        routeSyncStates := OMap.modify states (routeSyncKey peer) (raised peer forceFull)
        notes := r.notes ++ [.requested (routeSyncKey peer) forceFull] } := by
    intro states state others here before
    rcases sound with refused | kept
    · exact .inl (refused_historic.notes r refused _)
    · refine .inr (kept_of_request (routeSyncKey peer) forceFull (raised peer forceFull state) kept
        ?_ ?_ ?_ ?_ ?_ ?_)
      · intro k debt
        rfl
      · intro k other
        rw [OMap.lookup_modify, if_neg other]
        exact others k other
      · rw [OMap.lookup_modify, if_pos rfl, here]
        rfl
      · rfl
      · intro forced
        simp [raised, forced]
      · intro owed
        simp [raised, before owed kept]
  simp only [EasyTierRpc.sendRouteUpdate, ensures_bind, ensures_note, ensures_get, ensures_ite,
    ensures_set, ensures_assign, ensures_dateNow]
  constructor
  · intro missing
    have absent : r.routeSyncStates.lookup (routeSyncKey peer) = none :=
      Option.isNone_iff_eq_none.mp missing
    have sound' := entry (OMap.set r.routeSyncStates (routeSyncKey peer)
      (EasyTierRpc.freshState peer)) (EasyTierRpc.freshState peer) ?_ ?_ ?_
    · exact keeps_flush _ (sound_host sound' _)
    · intro k other
      rw [OMap.lookup_set, if_neg other]
    · rw [OMap.lookup_set, if_pos rfl]
    · intro owed kept
      have nothing := (kept (routeSyncKey peer)).1 absent
      rw [nothing] at owed
      cases owed
  · intro present
    have there : (r.routeSyncStates.lookup (routeSyncKey peer)).isSome = true :=
      Option.isSome_iff_ne_none.mpr (by simpa using present)
    obtain ⟨state, found⟩ := Option.isSome_iff_exists.mp there
    have sound' := entry r.routeSyncStates state ?_ found ?_
    · exact keeps_flush _ (sound_host sound' _)
    · intro k _
      rfl
    · intro owed kept
      exact ((kept (routeSyncKey peer)).2 state found true owed).2 rfl

private theorem keeps_forget (key : RouteSyncKey) : Keeps Sound (forget key : RpcM σ Unit) := by
  intro r sound
  simp only [forget, ensures_bind, ensures_modify, ensures_note]
  rcases sound with refused | kept
  · exact .inl (refused_historic.notes r refused _)
  · refine .inr (kept_of_local key kept ?_ ?_ ?_)
    · intro k other
      exact AList.lookup_erase_ne other
    · intro k other
      show debtOf k (r.notes ++ [.forgot key]) = _
      rw [debtOf_snoc]
      exact if_neg (Ne.symm other)
    · have here : debtOf key (r.notes ++ [.forgot key]) = Debt.none := by
        rw [debtOf_snoc]
        exact if_pos rfl
      show Covers _ (debtOf key (r.notes ++ [.forgot key])).owed
      rw [here]
      exact covers_nothing _

private theorem keeps_assign (key : RouteSyncKey) (f : RouteSyncState → RouteSyncState)
    (dirty : ∀ state, (f state).dirty = state.dirty)
    (forceFull : ∀ state, (f state).forceFull = state.forceFull) :
    Keeps Sound (assign key f : RpcM σ Unit) := by
  intro r sound
  rw [ensures_assign]
  rcases sound with refused | kept
  · exact .inl refused
  · refine .inr (kept_of_local key kept ?_ (fun _ _ => rfl) ?_)
    · intro k other
      show (OMap.modify r.routeSyncStates key f).lookup k = _
      rw [OMap.lookup_modify, if_neg other]
    · show Covers ((OMap.modify r.routeSyncStates key f).lookup key) _
      rw [OMap.lookup_modify, if_pos rfl]
      have before := kept key
      cases found : r.routeSyncStates.lookup key with
      | none =>
        rw [found] at before
        exact before
      | some state =>
        constructor
        · intro impossible
          cases impossible
        · intro state' entry
          cases entry
          have covers := before.2 state found
          intro forced owed
          rw [dirty, forceFull]
          exact covers forced owed

private theorem keeps_retryExpired {now : Nat} {key : RouteSyncKey} :
    Keeps Sound (EasyTierRpc.retryExpired H now key) := by
  apply keeps_get_bind
  intro r sound
  cases found : r.routeSyncStates.lookup key with
  | none => exact sound
  | some state =>
    simp only [ensures_ite, ensures_pure, ensures_bind, ensures_note, ensures_assign,
      ensures_tryCatch]
    refine ⟨fun _ => sound, fun _ => ?_⟩
    have scheduled : Sound { r with
        notes := r.notes ++ [.retried key]
        routeSyncStates := OMap.modify r.routeSyncStates key fun state =>
          { state with inFlight := false, dirty := true, forceFull := true } } := by
      rcases sound with refused | kept
      · exact .inl (refused_historic.notes r refused _)
      · refine .inr (kept_of_request key true
          { state with inFlight := false, dirty := true, forceFull := true } kept
          (fun _ _ => rfl) ?_ ?_ rfl (fun _ => rfl) fun _ => rfl)
        · intro k other
          rw [OMap.lookup_modify, if_neg other]
        · rw [OMap.lookup_modify, if_pos rfl, found]
          rfl
    exact keeps_flush _ scheduled

private theorem sound_new (serverPeerId : UInt32) (host : σ) :
    Sound (EasyTierRpc.new serverPeerId host) := by
  right
  intro key
  exact covers_nothing _

def refusal : Note → Bool
  | .refused _ => true
  | _ => false

/-- During `op` no call of `build_route_update` throws. -/
def Builds (H : RpcHost σ) (r : EasyTierRpc σ) (op : RpcOp) : Prop :=
  ∀ n ∈ (step H r op).notes.drop r.notes.length, refusal n = false

private theorem sound_blocks : Blocks H Sound where
  blind := fun _ sound host => sound_host sound host
  forget := keeps_forget
  complete := fun key completedAt =>
    keeps_assign key (EasyTierRpc.completed completedAt) (fun _ => rfl) fun _ => rfl
  flush := fun _ _ => keeps_flush
  request := fun _ _ => keeps_sendRouteUpdate
  retry := fun _ _ => keeps_retryExpired

private theorem unrefused {r : EasyTierRpc σ} {ops : List RpcOp} (start : ¬ Refused r)
    (builds : AllSteps (step H) (fun _ r op => Builds H r op) r ops) :
    ¬ Refused (run (step H) r ops) := by
  induction ops using List.reverseRecOn with
  | nil => exact start
  | append_singleton ops op ih =>
    have before := ih builds.init
    have last := builds.last
    rw [run_snoc]
    rintro ⟨key, member⟩
    obtain ⟨fresh, grew⟩ := @notes_grow _ H (run (step H) r ops) op
    rw [← grew] at member
    rcases List.mem_append.mp member with old | new
    · exact before ⟨key, old⟩
    · have fine := last (.refused key)
      rw [← grew, List.drop_left] at fine
      cases fine new

/-- As long as `build_route_update` never throws, every entry remembers what was requested since the
last packet that was sent began to be built, whatever `encrypt` and `send` do. -/
theorem requests_remembered (H : RpcHost σ) (serverPeerId : UInt32) (host : σ) (ops : List RpcOp)
    (builds : AllSteps (step H) (fun _ r op => Builds H r op) (EasyTierRpc.new serverPeerId host)
      ops)
    (key : RouteSyncKey) (state : RouteSyncState)
    (found : (run (step H) (EasyTierRpc.new serverPeerId host) ops).routeSyncStates.lookup key =
      some state) :
    Remembers state
      (debtOf key (run (step H) (EasyTierRpc.new serverPeerId host) ops).notes).owed := by
  have start : ¬ Refused (EasyTierRpc.new serverPeerId host) := by
    rintro ⟨k, member⟩
    cases member
  have sound := (@sound_blocks _ H).keeps_run ops (sound_new serverPeerId host)
  rcases sound with refused | kept
  · exact absurd refused (unrefused start builds)
  · exact (kept key).2 state found

/-- `Builds` as a check on runs. -/
def checkBuilds (H : RpcHost σ) (_ : List RpcOp) (r : EasyTierRpc σ) (op : RpcOp) : Bool :=
  ((step H r op).notes.drop r.notes.length).all fun n => !refusal n

private theorem builds_of_check {pre : List RpcOp} {r : EasyTierRpc σ} {op : RpcOp}
    (checked : checkBuilds H pre r op = true) : Builds H r op := by
  intro n fresh
  simpa using List.all_eq_true.mp checked n fresh

section Runs

/-- A host whose core builds as `build` says and whose sockets take packets as `send` says. -/
def plainHost (build : Except String Bytes) (send : Except String Unit) : RpcHost Unit where
  addPeer _ _ _ := pure ()
  removePeer _ _ := pure ()
  cleanExpired _ := pure ()
  handleRequest _ _ _ _ := pure [0]
  handleResponse _ _ _ _ := pure true
  buildRouteUpdate _ _ _ _ _ := MonadExcept.ofExcept build
  encrypt _ packet := pure packet
  send _ _ := MonadExcept.ofExcept send
  dateNow _ := (5_000, ())

def alice : RpcPeer := ⟨7, "lab", 1, [], 0⟩

/-- Two requests whose packets the socket refuses, the second of them forced. -/
theorem requests_remembered_refused_sends :
    ∃ state, (run (step (plainHost (.ok [1]) (.error "WebSocket is not open")))
        (EasyTierRpc.new 10_000_001 ())
        [.addPeer alice, .sendRouteUpdate alice false, .sendRouteUpdate alice true]
        ).routeSyncStates.lookup ("lab", 7) = some state ∧ state.forceFull = true := by
  refine ⟨⟨alice, false, true, true, 5_000, 0⟩, by decide +kernel, ?_⟩
  have remembers := requests_remembered (plainHost (.ok [1]) (.error "WebSocket is not open"))
    10_000_001 () [.addPeer alice, .sendRouteUpdate alice false, .sendRouteUpdate alice true]
    (allSteps_of_check (checkBuilds _) (fun _ _ _ checked => builds_of_check checked)
      (by decide +kernel))
    ("lab", 7) ⟨alice, false, true, true, 5_000, 0⟩ (by decide +kernel)
  exact (remembers true (by decide +kernel)).2 rfl

/-- The core throws while it builds a forced update: nothing is remembered of the request. -/
theorem forgotten_request :
    ∃ state, (run (step (plainHost (.error "system time") (.ok ())))
        (EasyTierRpc.new 10_000_001 ()) [.addPeer alice, .sendRouteUpdate alice true]
        ).routeSyncStates.lookup ("lab", 7) = some state ∧
      ¬ Remembers state (debtOf ("lab", 7)
        (run (step (plainHost (.error "system time") (.ok ())))
          (EasyTierRpc.new 10_000_001 ()) [.addPeer alice, .sendRouteUpdate alice true]).notes
        ).owed := by
  refine ⟨⟨alice, false, false, false, 0, 0⟩, by decide +kernel, ?_⟩
  intro remembers
  have flags := (remembers true (by decide +kernel)).2 rfl
  cases flags

end Runs

end EasyTierEdge.Rpc.SchedulerDebt
