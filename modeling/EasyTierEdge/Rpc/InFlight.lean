/- module: EasyTierEdge/Rpc/InFlight
   source: cloudflare/src/core/rpc.ts over cloudflare/wasm/src/rpc.rs
   digest: The scheduler and the core agree on the update that is in flight. -/

import EasyTierEdge.Rpc.CoreHost
import EasyTierEdge.Rpc.SchedulerRules
import EasyTierEdge.Wire

set_option autoImplicit false
set_option relaxedAutoImplicit false

namespace EasyTierEdge.Rpc.InFlight

open Lib.Fallible Lib.FiniteMap Lib.Machine Lib.OrderedMap Lib.Saturating
open Packet (Bytes)
open Routes Fragments Rpc.Core CoreMoves CoreHost SchedulerRules
open Scheduler hiding perform step

/-- The largest time a `Date` can show. -/
def maxDate : Nat := 8_640_000_000_000_000

/-- The transaction is one of the peer's. -/
def Owned (key : RouteSyncKey) (k : RpcKey) : Prop := k.network = key.1 ∧ k.peerId = key.2

instance ownedDecidable (key : RouteSyncKey) (k : RpcKey) : Decidable (Owned key k) :=
  inferInstanceAs (Decidable (k.network = key.1 ∧ k.peerId = key.2))

def Idle (c : WasmRpcCore) (key : RouteSyncKey) : Prop :=
  ∀ k, Owned key k → c.outstandingRoutes.lookup k = none

/-- The core's side of an update in flight since `sentAt`. -/
structure Pending (time : Nat) (c : WasmRpcCore) (key : RouteSyncKey) (sentAt : Nat) : Prop where
  past : sentAt ≤ time
  unique : ∀ k k', Owned key k → Owned key k' → c.outstandingRoutes.lookup k ≠ none →
    c.outstandingRoutes.lookup k' ≠ none → k = k'
  deadline : ∀ k route, Owned key k → c.outstandingRoutes.lookup k = some route →
    route.deadlineMs = UInt64.ofNat (sentAt + routeSyncTimeoutMs)
  waits : time ≤ sentAt + routeSyncTimeoutMs →
    ∃ k, Owned key k ∧ c.outstandingRoutes.lookup k ≠ none

/-- Both sides of the update to one peer at a time. -/
structure Agrees (time : Nat) (c : WasmRpcCore) (key : RouteSyncKey)
    (entry : Option RouteSyncState) : Prop where
  flying : ∀ state, entry = some state → state.inFlight = true → Pending time c key state.sentAt
  idle : (∀ state, entry = some state → state.inFlight = false) → Idle c key

/-- No transaction of the peer survives a sweep. -/
def Stale (now : Nat) (c : WasmRpcCore) (key : RouteSyncKey) : Prop :=
  ∀ k route, Owned key k → c.outstandingRoutes.lookup k = some route →
    route.deadlineMs < toBigInt now

private theorem Pending.later {time time' : Nat} {c : WasmRpcCore} {key : RouteSyncKey}
    {sentAt : Nat}
    (pending : Pending time c key sentAt) (le : time ≤ time') : Pending time' c key sentAt where
  past := Nat.le_trans pending.past le
  unique := pending.unique
  deadline := pending.deadline
  waits := fun soon => pending.waits (Nat.le_trans le soon)

private theorem Agrees.later {time time' : Nat} {c : WasmRpcCore} {key : RouteSyncKey}
    {entry : Option RouteSyncState} (agrees : Agrees time c key entry) (le : time ≤ time') :
    Agrees time' c key entry where
  flying := fun state found flying => (agrees.flying state found flying).later le
  idle := agrees.idle

private theorem toNat_toBigInt {now : Nat} (small : now ≤ maxDate) :
    (toBigInt now).toNat = now := by
  have bound : maxDate = 8640000000000000 := rfl
  show (UInt64.ofNat now).toNat = now
  rw [UInt64.toNat_ofNat']
  omega

private theorem toNat_deadline {sentAt : Nat} (small : sentAt ≤ maxDate) :
    (UInt64.ofNat (sentAt + routeSyncTimeoutMs)).toNat = sentAt + routeSyncTimeoutMs := by
  have bound : maxDate = 8640000000000000 := rfl
  have timeout : routeSyncTimeoutMs = 3000 := rfl
  rw [UInt64.toNat_ofNat']
  omega

/-- The deadline the core records is the one the scheduler waits for. -/
private theorem deadline_eq {now : Nat} (small : now ≤ maxDate) :
    saturatingAdd (toBigInt now) routeRpcTimeoutMs = UInt64.ofNat (now + routeSyncTimeoutMs) := by
  have bound : maxDate = 8640000000000000 := rfl
  have exact := toNat_toBigInt small
  have timeout : routeRpcTimeoutMs.toNat = 3000 := rfl
  have sum : (toBigInt now + routeRpcTimeoutMs).toNat = now + 3000 := by
    rw [UInt64.toNat_add, exact, timeout]
    omega
  have fits : toBigInt now ≤ toBigInt now + routeRpcTimeoutMs := by
    rw [UInt64.le_iff_toNat_le, exact, sum]
    omega
  rw [saturatingAdd, if_pos fits]
  apply UInt64.toNat.inj
  rw [sum, toNat_deadline small]
  rfl

private theorem swept_lookup {nowMs : UInt64} {routes : FMap RpcKey OutstandingRoute} {k : RpcKey}
    {route : OutstandingRoute} :
    (FMap.retain (fun _ route => decide (nowMs ≤ route.deadlineMs)) routes).lookup k =
        some route ↔
      routes.lookup k = some route ∧ nowMs ≤ route.deadlineMs := by
  constructor
  · intro found
    obtain ⟨before, kept⟩ := FMap.lookup_of_lookup_retain found
    exact ⟨before, of_decide_eq_true kept⟩
  · rintro ⟨before, kept⟩
    exact FMap.lookup_retain_of_true before (decide_eq_true kept)

private theorem lookup_ne_none {K V : Type} [DecidableEq K] {m : FMap K V} {k : K} :
    m.lookup k ≠ none ↔ ∃ v, m.lookup k = some v :=
  Option.ne_none_iff_exists'

private theorem Agrees.swept {time time' now : Nat} {c c' : WasmRpcCore} {key : RouteSyncKey}
    {entry : Option RouteSyncState} (agrees : Agrees time c key entry) (le : time ≤ time')
    (read : now ≤ time') (small : time' ≤ maxDate)
    (kept : ∀ k route, Owned key k → (c'.outstandingRoutes.lookup k = some route ↔
      c.outstandingRoutes.lookup k = some route ∧ toBigInt now ≤ route.deadlineMs)) :
    Agrees time' c' key entry where
  idle := by
    intro still k owned
    have before := agrees.idle still k owned
    cases found : c'.outstandingRoutes.lookup k with
    | none => rfl
    | some route =>
      have earlier := ((kept k route owned).mp found).1
      rw [before] at earlier
      cases earlier
  flying := by
    intro state found flying
    have pending := agrees.flying state found flying
    have open_before : ∀ k, Owned key k → c'.outstandingRoutes.lookup k ≠ none →
        c.outstandingRoutes.lookup k ≠ none := by
      intro k owned still
      obtain ⟨route, found⟩ := lookup_ne_none.mp still
      exact lookup_ne_none.mpr ⟨route, ((kept k route owned).mp found).1⟩
    refine ⟨Nat.le_trans pending.past le, ?_, ?_, ?_⟩
    · intro k k' owned owned' still still'
      exact pending.unique k k' owned owned' (open_before k owned still)
        (open_before k' owned' still')
    · intro k route owned found
      exact pending.deadline k route owned ((kept k route owned).mp found).1
    · intro soon
      obtain ⟨k, owned, still⟩ := pending.waits (Nat.le_trans le soon)
      obtain ⟨route, found⟩ := lookup_ne_none.mp still
      refine ⟨k, owned, lookup_ne_none.mpr ⟨route, (kept k route owned).mpr ⟨found, ?_⟩⟩⟩
      have sent : state.sentAt ≤ maxDate := Nat.le_trans (Nat.le_trans pending.past le) small
      rw [pending.deadline k route owned found, UInt64.le_iff_toNat_le,
        toNat_toBigInt (Nat.le_trans read small), toNat_deadline sent]
      omega

private theorem Agrees.taken {time : Nat} {c c' : WasmRpcCore} {key : RouteSyncKey}
    {entry : Option RouteSyncState} (agrees : Agrees time c key entry) {taken : RpcKey}
    (owned : Owned key taken) (there : c.outstandingRoutes.lookup taken ≠ none)
    (erased : ∀ k, c'.outstandingRoutes.lookup k =
      if k = taken then none else c.outstandingRoutes.lookup k) : Idle c' key := by
  have flies : ∃ state, entry = some state ∧ state.inFlight = true := by
    by_contra nothing
    refine there (agrees.idle ?_ taken owned)
    intro state found
    rw [← Bool.not_eq_true]
    exact fun flying => nothing ⟨state, found, flying⟩
  obtain ⟨state, found, flying⟩ := flies
  have pending := agrees.flying state found flying
  intro k own
  rw [erased]
  by_cases same : k = taken
  · rw [if_pos same]
  · rw [if_neg same]
    by_contra still
    exact same (pending.unique k taken own owned still there)

private theorem Agrees.same {time : Nat} {c c' : WasmRpcCore} {key : RouteSyncKey}
    {entry : Option RouteSyncState} (agrees : Agrees time c key entry)
    (same : ∀ k, Owned key k → c'.outstandingRoutes.lookup k = c.outstandingRoutes.lookup k) :
    Agrees time c' key entry where
  idle := by
    intro still k owned
    rw [same k owned]
    exact agrees.idle still k owned
  flying := by
    intro state found flying
    have pending := agrees.flying state found flying
    refine ⟨pending.past, ?_, ?_, ?_⟩
    · intro k k' owned owned'
      rw [same k owned, same k' owned']
      exact pending.unique k k' owned owned'
    · intro k route owned
      rw [same k owned]
      exact pending.deadline k route owned
    · intro soon
      obtain ⟨k, owned, still⟩ := pending.waits soon
      refine ⟨k, owned, ?_⟩
      rw [same k owned]
      exact still

private theorem agrees_of_idle {time : Nat} {c : WasmRpcCore} {key : RouteSyncKey}
    {entry : Option RouteSyncState} (idle : Idle c key)
    (still : ∀ state, entry = some state → state.inFlight = false) : Agrees time c key entry where
  idle := fun _ => idle
  flying := by
    intro state found flying
    rw [still state found] at flying
    cases flying

/-- A sweep at `now`. -/
def Swept (now : Nat) (c c' : WasmRpcCore) : Prop :=
  ∀ k route, c'.outstandingRoutes.lookup k = some route ↔
    c.outstandingRoutes.lookup k = some route ∧ toBigInt now ≤ route.deadlineMs

/-- A sweep at `now` and a new transaction of the peer. -/
structure Opened (now : Nat) (key : RouteSyncKey) (c c' : WasmRpcCore) (opened : RpcKey) :
    Prop where
  owned : Owned key opened
  others : ∀ k route, k ≠ opened → (c'.outstandingRoutes.lookup k = some route ↔
    c.outstandingRoutes.lookup k = some route ∧ toBigInt now ≤ route.deadlineMs)
  fresh : ∃ route, c'.outstandingRoutes.lookup opened = some route ∧
    route.deadlineMs = saturatingAdd (toBigInt now) routeRpcTimeoutMs

private theorem swept_cleanRpcState (now : Nat) (c : WasmRpcCore) :
    Swept now c (c.cleanRpcState (toBigInt now)) :=
  fun _ _ => swept_lookup

private theorem Opened.pending {time now : Nat} {key : RouteSyncKey} {c c' : WasmRpcCore}
    {opened : RpcKey}
    (spec : Opened now key c c' opened) (stale : Stale now c key) (read : now ≤ time)
    (small : time ≤ maxDate) : Pending time c' key now := by
  have only : ∀ k, Owned key k → c'.outstandingRoutes.lookup k ≠ none → k = opened := by
    intro k owned still
    by_contra other
    obtain ⟨route, found⟩ := lookup_ne_none.mp still
    obtain ⟨before, kept⟩ := (spec.others k route other).mp found
    exact UInt64.not_lt.mpr kept (stale k route owned before)
  obtain ⟨fresh, there, deadline⟩ := spec.fresh
  refine ⟨read, ?_, ?_, ?_⟩
  · intro k k' owned owned' still still'
    rw [only k owned still, only k' owned' still']
  · intro k route owned found
    have same := only k owned (lookup_ne_none.mpr ⟨route, found⟩)
    subst same
    rw [there] at found
    cases found
    rw [deadline, deadline_eq (Nat.le_trans read small)]
  · intro _
    exact ⟨opened, spec.owned, lookup_ne_none.mpr ⟨fresh, there⟩⟩

private theorem stale_of_idle {now : Nat} {c : WasmRpcCore} {key : RouteSyncKey}
    (idle : Idle c key) :
    Stale now c key := by
  intro k route owned found
  rw [idle k owned] at found
  cases found

variable {τ : Type} {E : Env} {A : Ambient τ} {time : τ → Nat}

/-- What holds between any two calls: `failed` are the peers for which an operation threw, `unknown`
those without an operation. -/
structure Consistent (time : τ → Nat) (failed unknown : Set RouteSyncKey)
    (r : EasyTierRpc (Hosted τ)) : Prop where
  agrees : time r.host.ambient ≤ maxDate → ∀ key, key ∉ failed →
    Agrees (time r.host.ambient) r.host.core key (r.routeSyncStates.lookup key)
  keyed : ∀ key state, r.routeSyncStates.lookup key = some state → routeSyncKey state.peer = key
  absent : ∀ key, key ∈ unknown → r.routeSyncStates.lookup key = none

section Consistent

variable {failed failed' unknown : Set RouteSyncKey} {r : EasyTierRpc (Hosted τ)}
  {key : RouteSyncKey}

private theorem Consistent.weaken (consistent : Consistent time failed unknown r)
    (more : failed ⊆ failed') : Consistent time failed' unknown r where
  agrees := fun small key fine => consistent.agrees small key fun inside => fine (more inside)
  keyed := consistent.keyed
  absent := consistent.absent

private theorem Consistent.except (consistent : Consistent time failed unknown r)
    (key : RouteSyncKey) :
    Consistent time (insert key failed) unknown r :=
  consistent.weaken (Set.subset_insert key failed)

private theorem Consistent.of_except (others : Consistent time (insert key failed) unknown r)
    (own : time r.host.ambient ≤ maxDate → key ∉ failed →
      Agrees (time r.host.ambient) r.host.core key (r.routeSyncStates.lookup key)) :
    Consistent time failed unknown r where
  agrees := by
    intro small k fine
    by_cases same : k = key
    · subst same
      exact own small fine
    · refine others.agrees small k ?_
      rw [Set.mem_insert_iff]
      rintro (again | inside)
      · exact same again
      · exact fine inside
  keyed := others.keyed
  absent := others.absent

private theorem Consistent.called (consistent : Consistent time failed unknown r) {host : Hosted τ}
    (later : time r.host.ambient ≤ time host.ambient)
    (keeps : time host.ambient ≤ maxDate → ∀ key entry, key ∉ failed →
      Agrees (time r.host.ambient) r.host.core key entry →
        Agrees (time host.ambient) host.core key entry) :
    Consistent time failed unknown { r with host } where
  agrees := by
    intro small key fine
    exact keeps small key _ fine (consistent.agrees (Nat.le_trans later small) key fine)
  keyed := consistent.keyed
  absent := consistent.absent

private theorem Consistent.passed (consistent : Consistent time failed unknown r) {ambient : τ}
    (later : time r.host.ambient ≤ time ambient) :
    Consistent time failed unknown { r with host := { r.host with ambient } } :=
  consistent.called later fun _ _ _ _ agrees => agrees.later later

private theorem Consistent.assigned (others : Consistent time (insert key failed) unknown r)
    (f : RouteSyncState → RouteSyncState)
    (keyed : ∀ state, routeSyncKey state.peer = key → routeSyncKey (f state).peer = key)
    (own : time r.host.ambient ≤ maxDate → key ∉ failed →
      Agrees (time r.host.ambient) r.host.core key ((r.routeSyncStates.lookup key).map f)) :
    Consistent time failed unknown
      { r with routeSyncStates := OMap.modify r.routeSyncStates key f } where
  agrees := by
    intro small k fine
    show Agrees _ _ k ((OMap.modify r.routeSyncStates key f).lookup k)
    rw [OMap.lookup_modify]
    by_cases same : k = key
    · subst same
      rw [if_pos rfl]
      exact own small fine
    · rw [if_neg same]
      refine others.agrees small k ?_
      rw [Set.mem_insert_iff]
      rintro (again | inside)
      · exact same again
      · exact fine inside
  keyed := by
    intro k state found
    have found : (OMap.modify r.routeSyncStates key f).lookup k = some state := found
    rw [OMap.lookup_modify] at found
    by_cases same : k = key
    · subst same
      rw [if_pos rfl, Option.map_eq_some_iff] at found
      obtain ⟨before, there, rfl⟩ := found
      exact keyed before (others.keyed k before there)
    · rw [if_neg same] at found
      exact others.keyed k state found
  absent := by
    intro k inside
    show (OMap.modify r.routeSyncStates key f).lookup k = none
    rw [OMap.lookup_modify]
    by_cases same : k = key
    · subst same
      rw [if_pos rfl, others.absent k inside]
      rfl
    · rw [if_neg same]
      exact others.absent k inside

private theorem Consistent.disturbed (others : Consistent time (insert key failed) unknown r)
    (f : RouteSyncState → RouteSyncState)
    (keyed : ∀ state, routeSyncKey state.peer = key → routeSyncKey (f state).peer = key) :
    Consistent time (insert key failed) unknown
      { r with routeSyncStates := OMap.modify r.routeSyncStates key f } := by
  refine (others.except key).assigned f keyed ?_
  intro _ fine
  exact absurd (Set.mem_insert key failed) fine

end Consistent

/-! The operations. -/

section Operations

variable {failed unknown : Set RouteSyncKey} {r : EasyTierRpc (Hosted τ)} {key : RouteSyncKey}

private theorem sendControl_ambient (clock : Clock A time) {peer : RpcPeer} {packetType : UInt8}
    {payload : Bytes} :
    Ensures (EasyTierRpc.sendControl (coreHost E A) peer packetType payload) r
      (fun _ r' => ∃ ambient, time r.host.ambient ≤ time ambient ∧
        r' = { r with host := { r.host with ambient } })
      (fun _ r' => ∃ ambient, time r.host.ambient ≤ time ambient ∧
        r' = { r with host := { r.host with ambient } }) := by
  simp only [EasyTierRpc.sendControl, ensures_bind, ensures_get]
  cases Packet.buildPacket r.serverPeerId peer.peerId packetType payload with
  | error e => exact ⟨r.host.ambient, Nat.le_refl _, rfl⟩
  | ok clear =>
    simp only [ensures_bind, ensures_onHost, coreHost, ensures_onAmbient]
    refine (ensures_self _ _).mono ?_ ?_
    · rintro packet _ rfl
      have sealed := clock.encrypt peer clear r.host.ambient
      refine (ensures_self _ _).mono ?_ ?_
      · rintro _ _ rfl
        exact ⟨_, Nat.le_trans sealed (clock.send peer packet _), rfl⟩
      · rintro _ _ rfl
        exact ⟨_, Nat.le_trans sealed (clock.send peer packet _), rfl⟩
    · rintro _ _ rfl
      exact ⟨_, clock.encrypt peer clear r.host.ambient, rfl⟩

private theorem buildUpdate_spec (clock : Clock A time) {peer : RpcPeer} {forceFull : Bool}
    {now : Nat} (keyed : routeSyncKey peer = key) :
    Ensures (EasyTierRpc.buildUpdate (coreHost E A) key peer forceFull now) r
      (fun _ r' => ∃ host notes opened, time r.host.ambient ≤ time host.ambient ∧
        Opened now key r.host.core host.core opened ∧ r' = { r with notes, host })
      (fun _ r' => ∃ host notes, time r.host.ambient ≤ time host.ambient ∧
        Swept now r.host.core host.core ∧ r' = { r with notes, host }) := by
  simp only [EasyTierRpc.buildUpdate, ensures_bind, ensures_note, ensures_tryCatch, ensures_throw,
    ensures_onHost, coreHost, ensures_onCore]
  have later := clock.supply r.host.ambient
  refine (buildRouteUpdate_cases peer.serverSessionId forceFull (toBigInt now)).mono ?_ ?_
  · rintro payload core ⟨transactionId, update, move⟩
    refine ⟨_, _, rpcKey peer.networkName peer.peerId transactionId false, later, ?_, rfl⟩
    have lookups : core.outstandingRoutes =
        (r.host.core.cleanRpcState (toBigInt now)).outstandingRoutes.insert
          (rpcKey peer.networkName peer.peerId transactionId false)
          ⟨saturatingAdd (toBigInt now) routeRpcTimeoutMs, update.peerInfoVersions,
            update.topologyVersion⟩ := by
      rw [move.after]
    refine ⟨?_, ?_, ?_⟩
    · rw [← keyed]
      exact ⟨rfl, rfl⟩
    · intro k route other
      rw [Hosted.called_core, lookups, FMap.lookup_insert_eq_ite, if_neg other]
      exact swept_cleanRpcState now r.host.core k route
    · refine ⟨⟨saturatingAdd (toBigInt now) routeRpcTimeoutMs, update.peerInfoVersions,
        update.topologyVersion⟩, ?_, rfl⟩
      rw [Hosted.called_core, lookups, FMap.lookup_insert_eq_ite, if_pos rfl]
  · rintro e core rfl
    refine ⟨_, _, later, ?_, rfl⟩
    exact swept_cleanRpcState now r.host.core

/-- What a flush needs to know about the peer it is for. -/
def Flushable (time : τ → Nat) (now : Nat) (key : RouteSyncKey) (r : EasyTierRpc (Hosted τ)) :
    Prop :=
  Agrees (time r.host.ambient) r.host.core key (r.routeSyncStates.lookup key) ∨
    Stale now r.host.core key ∧
      ∃ state, r.routeSyncStates.lookup key = some state ∧ state.inFlight = false ∧
        state.dirty = true

private theorem sendUpdate_consistent (clock : Clock A time) {peer : RpcPeer} {forceFull : Bool}
    {packet : Bytes} (consistent : Consistent time failed unknown r) :
    Ensures (EasyTierRpc.sendUpdate (coreHost E A) key peer forceFull packet) r
      (fun _ r' => Consistent time failed unknown r')
      (fun _ r' => Consistent time (insert key failed) unknown r') := by
  simp only [EasyTierRpc.sendUpdate, ensures_tryCatch, ensures_bind, ensures_note, ensures_assign,
    ensures_throw]
  apply (sendControl_ambient clock).mono
  · rintro _ r' ⟨ambient, later, rfl⟩
    have passed := consistent.passed later
    exact ⟨passed.agrees, passed.keyed, passed.absent⟩
  · rintro _ r' ⟨ambient, later, rfl⟩
    exact ((consistent.passed later).except key).disturbed _ fun _ keyed => keyed

private theorem flush_consistent (clock : Clock A time) {now : Nat}
    (others : Consistent time (insert key failed) unknown r)
    (own : time r.host.ambient ≤ maxDate → key ∉ failed → Flushable time now key r)
    (read : now ≤ time r.host.ambient) :
    Ensures (EasyTierRpc.flushRouteUpdate (coreHost E A) key now) r
      (fun _ r' => Consistent time failed unknown r')
      (fun _ r' => Consistent time (insert key failed) unknown r') := by
  simp only [EasyTierRpc.flushRouteUpdate, ensures_bind, ensures_get]
  cases found : r.routeSyncStates.lookup key with
  | none =>
    refine others.of_except fun small fine => ?_
    rcases own small fine with agrees | ⟨_, state, there, _⟩
    · exact agrees
    · rw [found] at there
      cases there
  | some state =>
    simp only [ensures_ite]
    constructor
    · intro early
      refine others.of_except fun small fine => ?_
      rcases own small fine with agrees | ⟨_, state', there, grounded, dirty⟩
      · exact agrees
      · rw [found] at there
        cases there
        simp [grounded, dirty] at early
    · intro flush
      have grounded : state.inFlight = false := by
        simp only [not_or] at flush
        simpa using flush.1
      have stale : time r.host.ambient ≤ maxDate → key ∉ failed → Stale now r.host.core key := by
        intro small fine
        rcases own small fine with agrees | ⟨stale, _⟩
        · refine stale_of_idle (agrees.idle ?_)
          intro state' there
          rw [found] at there
          cases there
          exact grounded
        · exact stale
      have cleared := others.disturbed
        (fun state => { state with dirty := false, forceFull := false }) fun _ keyed => keyed
      simp only [ensures_bind, ensures_assign]
      apply (buildUpdate_spec clock (others.keyed key state found)).mono
      · rintro packet r' ⟨host, notes, opened, later, spec, rfl⟩
        -- The other peers only see the sweep; this one gets the new transaction.
        have swept := @Consistent.called _ time _ _ _ cleared host later
          (fun small k entry fine agrees => by
            refine agrees.swept later (Nat.le_trans read later) small ?_
            intro k' route owned
            refine spec.others k' route ?_
            rintro rfl
            have same : k = key := by
              obtain ⟨network, peerId⟩ := owned
              obtain ⟨network', peerId'⟩ := spec.owned
              exact Prod.ext (network.symm.trans network') (peerId.symm.trans peerId')
            exact fine (Set.mem_insert_iff.mpr (Or.inl same)))
        have flying : Consistent time failed unknown { r with
            notes
            host
            routeSyncStates := OMap.modify
              (OMap.modify r.routeSyncStates key fun state =>
                { state with dirty := false, forceFull := false }) key
              fun state => { state with inFlight := true, sentAt := now } } := by
          refine @Consistent.assigned _ time _ _ { r with
            notes
            host
            routeSyncStates := OMap.modify r.routeSyncStates key fun state =>
              { state with dirty := false, forceFull := false } } key
            ⟨swept.agrees, swept.keyed, swept.absent⟩
            (fun state => { state with inFlight := true, sentAt := now }) (fun _ keyed => keyed) ?_
          intro small fine
          have small : time host.ambient ≤ maxDate := small
          have pending := spec.pending (stale (Nat.le_trans later small) fine)
            (Nat.le_trans read later) small
          rw [OMap.lookup_modify, if_pos rfl, found]
          constructor
          · intro state' there _
            cases there
            exact pending
          · intro still
            have grounded' := still _ rfl
            cases grounded'
        exact sendUpdate_consistent clock flying
      · rintro e r' ⟨host, notes, later, spec, rfl⟩
        have swept := @Consistent.called _ time _ _ _ cleared host later
          (fun small k entry _ agrees =>
            agrees.swept later (Nat.le_trans read later) small fun k' route _ => spec k' route)
        exact ⟨swept.agrees, swept.keyed, swept.absent⟩

private theorem Consistent.raised (consistent : Consistent time failed unknown r) {peer : RpcPeer}
    (f : RouteSyncState → RouteSyncState) (own : ∀ state, (f state).peer = peer)
    (inFlight : ∀ state, (f state).inFlight = state.inFlight)
    (sentAt : ∀ state, (f state).sentAt = state.sentAt) :
    Consistent time failed unknown { r with
      routeSyncStates := OMap.modify r.routeSyncStates (routeSyncKey peer) f } := by
  refine (consistent.except (routeSyncKey peer)).assigned f ?_ ?_
  · intro state _
    rw [own]
  · intro small fine
    have agrees := consistent.agrees small (routeSyncKey peer) fine
    constructor
    · intro state there flying
      obtain ⟨before, found, rfl⟩ := Option.map_eq_some_iff.mp there
      rw [inFlight] at flying
      rw [sentAt]
      exact agrees.flying before found flying
    · intro still
      apply agrees.idle
      intro state found
      rw [← inFlight]
      apply still
      rw [found]
      rfl

private theorem Consistent.entered (consistent : Consistent time failed unknown r) {peer : RpcPeer}
    (known : routeSyncKey peer ∉ unknown)
    (missing : r.routeSyncStates.lookup (routeSyncKey peer) = none) :
    Consistent time failed unknown { r with
      routeSyncStates := OMap.set r.routeSyncStates (routeSyncKey peer)
        (EasyTierRpc.freshState peer) } where
  agrees := by
    intro small k fine
    have agrees := consistent.agrees small k fine
    show Agrees _ _ k ((OMap.set r.routeSyncStates (routeSyncKey peer) _).lookup k)
    rw [OMap.lookup_set]
    by_cases same : k = routeSyncKey peer
    · rw [if_pos same]
      apply agrees_of_idle
      · apply agrees.idle
        intro state found
        rw [same, missing] at found
        cases found
      · intro state there
        cases there
        rfl
    · rw [if_neg same]
      exact agrees
  keyed := by
    intro k state found
    have found : (OMap.set r.routeSyncStates (routeSyncKey peer) _).lookup k = some state := found
    rw [OMap.lookup_set] at found
    by_cases same : k = routeSyncKey peer
    · rw [if_pos same] at found
      cases found
      exact same.symm
    · rw [if_neg same] at found
      exact consistent.keyed k state found
  absent := by
    intro k inside
    show (OMap.set r.routeSyncStates (routeSyncKey peer) _).lookup k = none
    have other : k ≠ routeSyncKey peer := by
      rintro rfl
      exact known inside
    rw [OMap.lookup_set, if_neg other]
    exact consistent.absent k inside

private theorem Consistent.flushable (consistent : Consistent time failed unknown r) (now : Nat)
    (key : RouteSyncKey) :
    time r.host.ambient ≤ maxDate → key ∉ failed → Flushable time now key r :=
  fun small fine => .inl (consistent.agrees small key fine)

private theorem flush_now (clock : Clock A time) (consistent : Consistent time failed unknown r) :
    Ensures (do
        let now ← dateNow (coreHost E A)
        EasyTierRpc.flushRouteUpdate (coreHost E A) key now) r
      (fun _ r' => Consistent time failed unknown r')
      (fun _ r' => Consistent time (insert key failed) unknown r') := by
  simp only [ensures_bind, ensures_dateNow]
  have passed := consistent.passed (clock.advances r.host.ambient)
  refine flush_consistent clock (passed.except key) (passed.flushable _ key) ?_
  exact Nat.le_of_eq (clock.reads r.host.ambient)

private theorem sendRouteUpdate_consistent (clock : Clock A time) {peer : RpcPeer}
    {forceFull : Bool}
    (consistent : Consistent time failed unknown r) (known : routeSyncKey peer ∉ unknown) :
    Ensures (EasyTierRpc.sendRouteUpdate (coreHost E A) peer forceFull) r
      (fun _ r' => Consistent time failed unknown r')
      (fun _ r' => Consistent time (insert (routeSyncKey peer) failed) unknown r') := by
  rw [EasyTierRpc.sendRouteUpdate]
  simp only [ensures_bind, ensures_note, ensures_get, ensures_ite, ensures_set, ensures_assign]
  have noted : Consistent time failed unknown { r with
      notes := r.notes ++ [.requested (routeSyncKey peer) forceFull] } :=
    ⟨consistent.agrees, consistent.keyed, consistent.absent⟩
  constructor
  · intro missing
    have missing := Option.isNone_iff_eq_none.mp missing
    have raised := (noted.entered known missing).raised (fun state : RouteSyncState =>
      { state with peer, dirty := true, forceFull := state.forceFull || forceFull })
      (fun _ => rfl) (fun _ => rfl) fun _ => rfl
    have flushed := @flush_now _ E _ _ _ _ _ (routeSyncKey peer) clock raised
    simp only [ensures_bind] at flushed
    exact flushed
  · intro _
    have raised := noted.raised (fun state : RouteSyncState =>
      { state with peer, dirty := true, forceFull := state.forceFull || forceFull })
      (fun _ => rfl) (fun _ => rfl) fun _ => rfl
    have flushed := @flush_now _ E _ _ _ _ _ (routeSyncKey peer) clock raised
    simp only [ensures_bind] at flushed
    exact flushed

private theorem maintainPeer_consistent (clock : Clock A time) {peer : RpcPeer} {now : Nat}
    (consistent : Consistent time failed unknown r) (known : routeSyncKey peer ∉ unknown) :
    Ensures (EasyTierRpc.maintainPeer (coreHost E A) peer now) r
      (fun _ r' => Consistent time failed unknown r')
      (fun _ r' => Consistent time (insert (routeSyncKey peer) failed) unknown r') := by
  simp only [EasyTierRpc.maintainPeer, ensures_bind, ensures_get]
  cases r.routeSyncStates.lookup (routeSyncKey peer) with
  | none => exact consistent
  | some state =>
    simp only [ensures_ite]
    exact ⟨fun _ => consistent, fun _ => sendRouteUpdate_consistent clock consistent known⟩

private theorem handleResponse_pending {host : Host} {network : String} {peerId : UInt32}
    {c : WasmRpcCore} (payload : Bytes) (nowMs : UInt64) :
    Ensures (WasmRpcCore.handleResponse E host network peerId payload nowMs) c
      (fun done c' => done = false → c'.outstandingRoutes = c.outstandingRoutes)
      (fun _ _ => True) := by
  rw [WasmRpcCore.handleResponse]
  cases E.codec.decodeRpcPacket payload with
  | error e => exact trivial
  | ok packet =>
    simp only [ensures_bind]
    refine (validateEnvelope_cases false).mono ?_ fun _ _ _ => trivial
    rintro _ _ ⟨same, _⟩
    rw [same]
    simp only [ensures_get]
    cases c.outstandingRoutes.lookup (rpcKey network peerId packet.transactionId false) with
    | none => exact trivial
    | some route =>
      simp only [ensures_bind, ensures_ite, ensures_set, ensures_throw, ensures_onFragments]
      refine ⟨fun _ => trivial, fun _ => ?_⟩
      refine ensures_of_forall ?_ fun _ _ => trivial
      intro merged fragments
      cases merged with
      | pending => exact fun _ => rfl
      | complete whole =>
        simp only [ensures_bind, ensures_pure]
        refine ensures_of_forall (fun _ _ => ?_) fun _ _ => trivial
        refine ensures_of_forall (fun _ _ impossible => ?_) fun _ _ => trivial
        cases impossible

/-- What a response does to the transactions: a complete one takes one of the peer's out, and no
response touches another peer's. -/
private theorem handleResponse_transactions {host : Host} {peer : RpcPeer} {c : WasmRpcCore}
    (payload : Bytes) (nowMs : UInt64) :
    Ensures (WasmRpcCore.handleResponse E host peer.networkName peer.peerId payload nowMs) c
      (fun done c' => if done = true then
          ∃ taken, Owned (routeSyncKey peer) taken ∧ c.outstandingRoutes.lookup taken ≠ none ∧
            ∀ k, c'.outstandingRoutes.lookup k =
              if k = taken then none else c.outstandingRoutes.lookup k
        else c'.outstandingRoutes = c.outstandingRoutes)
      (fun _ c' => ∀ k, ¬ Owned (routeSyncKey peer) k →
        c'.outstandingRoutes.lookup k = c.outstandingRoutes.lookup k) := by
  have moves := @handleResponse_cases E host peer.networkName peer.peerId c payload nowMs
  have pending := @handleResponse_pending E host peer.networkName peer.peerId c payload nowMs
  cases ran : WasmRpcCore.handleResponse E host peer.networkName peer.peerId payload nowMs c with
  | ok done c' =>
    have move := ensures_of_ok moves ran
    have same := ensures_of_ok pending ran
    have effect : if done = true then
          ∃ taken, Owned (routeSyncKey peer) taken ∧ c.outstandingRoutes.lookup taken ≠ none ∧
            ∀ k, c'.outstandingRoutes.lookup k =
              if k = taken then none else c.outstandingRoutes.lookup k
        else c'.outstandingRoutes = c.outstandingRoutes := by
      cases done with
      | false => exact same rfl
      | true =>
        obtain ⟨packet, route, sessionId, accepted⟩ := move
        refine ⟨rpcKey peer.networkName peer.peerId packet.transactionId false, ⟨rfl, rfl⟩, ?_, ?_⟩
        · rw [accepted.outstanding]
          exact Option.some_ne_none route
        · intro k
          obtain ⟨whole, fragments, _, _, rfl⟩ := accepted.merged
          exact FMap.lookup_erase_eq_ite _ _ _
    simpa only [Ensures, ran] using effect
  | error e c' =>
    have move := ensures_of_error moves ran
    have effect : ∀ k, ¬ Owned (routeSyncKey peer) k →
        c'.outstandingRoutes.lookup k = c.outstandingRoutes.lookup k := by
      intro k foreign
      cases move with
      | rejected => rfl
      | merged => rfl
      | late packet decoded envelope route outstanding late =>
        show (c.outstandingRoutes.erase _).lookup k = _
        rw [FMap.lookup_erase_eq_ite, if_neg]
        rintro rfl
        exact foreign ⟨rfl, rfl⟩
    simpa only [Ensures, ran] using effect

private theorem owned_unique {key' : RouteSyncKey} {k : RpcKey} (owned : Owned key k)
    (owned' : Owned key' k) : key = key' :=
  Prod.ext (owned.1.symm.trans owned'.1) (owned.2.symm.trans owned'.2)

private theorem handleResponse_consistent (clock : Clock A time) {peer : RpcPeer} {payload : Bytes}
    (consistent : Consistent time failed unknown r) :
    Ensures (EasyTierRpc.handleResponse (coreHost E A) peer payload) r
      (fun _ r' => Consistent time failed unknown r')
      (fun _ r' => Consistent time (insert (routeSyncKey peer) failed) unknown r') := by
  simp only [EasyTierRpc.handleResponse, ensures_bind, ensures_dateNow, ensures_onHost]
  have started := consistent.passed (clock.advances r.host.ambient)
  simp only [coreHost, ensures_onCore]
  have later := clock.supply (A.dateNow r.host.ambient).2
  generalize CoreRuns.CoreCall.handleResponse _ _ _ _ = call
  apply (handleResponse_transactions payload _).mono
  · intro done core effect
    cases done with
    | false =>
      have same : core.outstandingRoutes = r.host.core.outstandingRoutes := effect
      exact @Consistent.called _ time _ _ _ started _ later
        (fun _ k entry _ agrees =>
          (agrees.later later).same fun k' _ => by rw [Hosted.called_core, same])
    | true =>
      obtain ⟨taken, owned, there, erased⟩ := effect
      -- The entry of the peer is settled once its transaction is gone, whatever it said before.
      have others := @Consistent.called _ time _ _ _ (started.except (routeSyncKey peer))
        (Hosted.called A call { r.host with ambient := (A.dateNow r.host.ambient).2 } core) later
        (fun _ k entry fine agrees => (agrees.later later).same fun k' own => by
          rw [Hosted.called_core, erased, if_neg]
          rintro rfl
          exact fine (Set.mem_insert_iff.mpr (Or.inl (owned_unique own owned))))
      have idle : time (A.supply (A.dateNow r.host.ambient).2).2 ≤ maxDate →
          routeSyncKey peer ∉ failed → Idle core (routeSyncKey peer) := by
        intro small fine
        exact (started.agrees (Nat.le_trans later small) _ fine).taken owned there erased
      simp only [Bool.not_true, Bool.false_eq_true, if_false, ensures_bind, ensures_get]
      cases found : r.routeSyncStates.lookup (routeSyncKey peer) with
      | none =>
        refine others.of_except fun small fine => agrees_of_idle (idle small fine) ?_
        intro state impossible
        have impossible : r.routeSyncStates.lookup (routeSyncKey peer) = some state := impossible
        rw [found] at impossible
        cases impossible
      | some state =>
        simp only [ensures_bind, ensures_assign, ensures_ite, ensures_pure]
        have settled : Consistent time failed unknown { r with
            host := { Hosted.called A call { r.host with ambient := (A.dateNow r.host.ambient).2 }
                core with ambient := (A.dateNow (A.supply (A.dateNow r.host.ambient).2).2).2 }
            routeSyncStates := OMap.modify r.routeSyncStates (routeSyncKey peer)
              (EasyTierRpc.completed
                (A.dateNow (A.supply (A.dateNow r.host.ambient).2).2).1) } := by
          have advanced := clock.advances (A.supply (A.dateNow r.host.ambient).2).2
          refine (others.passed advanced).assigned _ (fun _ keyed => keyed) ?_
          intro small fine
          refine agrees_of_idle (idle (Nat.le_trans advanced small) fine) ?_
          intro state' there
          obtain ⟨before, _, rfl⟩ := Option.map_eq_some_iff.mp there
          rfl
        refine ⟨fun _ => ?_, fun _ => settled⟩
        have flushed := @flush_now _ E _ _ _ _ _ (routeSyncKey peer) clock settled
        simp only [ensures_bind] at flushed
        exact flushed
  · intro e core effect
    exact @Consistent.called _ time _ _ _ (started.except (routeSyncKey peer)) _ later
      (fun _ k entry fine agrees => (agrees.later later).same fun k' own => by
        refine effect k' ?_
        intro owned
        exact fine (Set.mem_insert_iff.mpr (Or.inl (owned_unique own owned))))

private theorem handleRequest_transactions {host : Host} {network : String} {peerId : UInt32}
    {c : WasmRpcCore} (payload : Bytes) (nowMs : UInt64) :
    Ensures (WasmRpcCore.handleRequest E host network peerId payload nowMs) c
      (fun _ c' => c'.outstandingRoutes = c.outstandingRoutes)
      (fun _ c' => c'.outstandingRoutes = c.outstandingRoutes) := by
  have kept : ∀ c', RequestMove E host network peerId payload nowMs c c' →
      c'.outstandingRoutes = c.outstandingRoutes := by
    intro c' move
    cases move with
    | rejected => rfl
    | merged packet decoded envelope r fragments move _ served =>
      cases served with
      | nothing => rfl
      | synced => rfl
      | centered => rfl
  exact (handleRequest_cases payload nowMs).mono (fun _ c' move => kept c' move)
    fun _ c' move => kept c' move

private theorem sendControl_consistent (clock : Clock A time) {peer : RpcPeer} {packetType : UInt8}
    {payload : Bytes} (consistent : Consistent time failed unknown r) :
    Ensures (EasyTierRpc.sendControl (coreHost E A) peer packetType payload) r
      (fun _ r' => Consistent time failed unknown r')
      (fun _ r' => Consistent time failed unknown r') := by
  apply (sendControl_ambient clock).mono
  · rintro _ r' ⟨ambient, later, rfl⟩
    exact consistent.passed later
  · rintro _ r' ⟨ambient, later, rfl⟩
    exact consistent.passed later

private theorem handleRequest_consistent (clock : Clock A time) {peer : RpcPeer} {payload : Bytes}
    (consistent : Consistent time failed unknown r) (known : routeSyncKey peer ∉ unknown) :
    Ensures (EasyTierRpc.handleRequest (coreHost E A) peer payload) r
      (fun _ r' => Consistent time failed unknown r')
      (fun _ r' => Consistent time (insert (routeSyncKey peer) failed) unknown r') := by
  simp only [EasyTierRpc.handleRequest, ensures_bind, ensures_dateNow, ensures_onHost]
  have started := consistent.passed (clock.advances r.host.ambient)
  have later := clock.supply (A.dateNow r.host.ambient).2
  simp only [coreHost, ensures_onCore]
  generalize CoreRuns.CoreCall.handleRequest _ _ _ _ = call
  have served : ∀ core : WasmRpcCore,
      core.outstandingRoutes = r.host.core.outstandingRoutes →
      Consistent time failed unknown { r with
        host := Hosted.called A call
          { r.host with ambient := (A.dateNow r.host.ambient).2 } core } := by
    intro core same
    exact @Consistent.called _ time _ _ _ started _ later
      (fun _ k entry _ agrees =>
        (agrees.later later).same fun k' _ => by rw [Hosted.called_core, same])
  apply (handleRequest_transactions payload _).mono
  · intro result core same
    have consistent' := served core same
    cases result with
    | nil =>
      simp only [ensures_bind, ensures_throw]
      exact (sendControl_consistent clock consistent').mono (fun _ _ sent => sent.except _)
        fun _ _ sent => sent.except _
    | cons result response =>
      simp only [ensures_ite, ensures_pure, ensures_throw, ensures_bind]
      refine ⟨fun _ => consistent', fun _ => ⟨fun _ => consistent'.except _, fun _ => ?_⟩⟩
      apply (sendControl_consistent clock consistent').mono
      · intro _ r' sent
        have updated := @sendRouteUpdate_consistent _ E _ _ _ _ _ clock peer false sent known
        refine ⟨fun _ => updated, fun _ =>
          ⟨fun _ => updated, fun _ => ⟨fun _ => sent, fun _ => ?_⟩⟩⟩
        exact sent.except _
      · intro e r' sent
        exact sent.except _
  · intro e core same
    exact (served core same).except _

private theorem flush_later (clock : Clock A time) {start now : Nat} :
    Keeps (fun r : EasyTierRpc (Hosted τ) => start ≤ time r.host.ambient)
      (EasyTierRpc.flushRouteUpdate (coreHost E A) key now) := by
  apply keeps_get_bind
  intro r late
  cases found : r.routeSyncStates.lookup key with
  | none => exact late
  | some state =>
    simp only [ensures_ite, ensures_pure, ensures_bind, ensures_assign, EasyTierRpc.sendUpdate,
      EasyTierRpc.buildUpdate, ensures_note, ensures_tryCatch, ensures_throw, ensures_onHost,
      coreHost, ensures_onCore]
    refine ⟨fun _ => late, fun _ => ?_⟩
    have supplied := Nat.le_trans late (clock.supply r.host.ambient)
    refine ensures_of_forall ?_ fun _ _ => supplied
    intro packet core
    apply (sendControl_ambient clock).mono
    · rintro _ r' ⟨ambient, later, rfl⟩
      exact Nat.le_trans supplied later
    · rintro _ r' ⟨ambient, later, rfl⟩
      exact Nat.le_trans supplied later

private theorem retryExpired_consistent (clock : Clock A time) {now : Nat}
    (consistent : Consistent time failed unknown r) (read : now ≤ time r.host.ambient) :
    Ensures (EasyTierRpc.retryExpired (coreHost E A) now key) r
      (fun failure r' =>
        Consistent time (failed ∪ { k | ∃ f ∈ failure, routeSyncKey f.peer = k }) unknown r' ∧
          now ≤ time r'.host.ambient)
      (fun _ _ => False) := by
  simp only [EasyTierRpc.retryExpired, ensures_bind, ensures_get]
  cases found : r.routeSyncStates.lookup key with
  | none => exact ⟨consistent.weaken Set.subset_union_left, read⟩
  | some state =>
    simp only [ensures_ite, ensures_pure, ensures_bind, ensures_note, ensures_assign,
      ensures_tryCatch]
    refine ⟨fun _ => ⟨consistent.weaken Set.subset_union_left, read⟩, fun expired => ?_⟩
    simp only [not_or, Bool.not_eq_true, Nat.not_le] at expired
    obtain ⟨flying, overdue⟩ := expired
    have noted : Consistent time failed unknown { r with
        notes := r.notes ++ [.retried key] } :=
      ⟨consistent.agrees, consistent.keyed, consistent.absent⟩
    have others := (noted.except key).disturbed
      (fun state => { state with inFlight := false, dirty := true, forceFull := true })
      fun _ keyed => keyed
    -- The transaction of an overdue entry is past its deadline, so the building sweeps it away.
    have stale : time r.host.ambient ≤ maxDate → key ∉ failed → Stale now r.host.core key := by
      intro small fine k route owned there
      have pending := (consistent.agrees small key fine).flying state found (by simpa using flying)
      rw [pending.deadline k route owned there, UInt64.lt_iff_toNat_lt,
        toNat_toBigInt (Nat.le_trans read small),
        toNat_deadline (Nat.le_trans pending.past small)]
      omega
    have flushed := (@flush_consistent _ E _ _ failed unknown _ key clock now others ?_ read).and
      (flush_later clock _ read)
    · refine flushed.mono ?_ ?_
      · rintro _ r' ⟨consistent', late⟩
        exact ⟨consistent'.weaken Set.subset_union_left, late⟩
      · rintro e r' ⟨consistent', late⟩
        refine ⟨consistent'.weaken ?_, late⟩
        rw [Set.insert_subset_iff]
        refine ⟨Or.inr ⟨⟨state.peer, e⟩, rfl, consistent.keyed key state found⟩, ?_⟩
        exact Set.subset_union_left
    · intro small fine
      refine .inr ⟨stale small fine,
        { state with inFlight := false, dirty := true, forceFull := true }, ?_, rfl, rfl⟩
      show (OMap.modify r.routeSyncStates key _).lookup key = _
      rw [OMap.lookup_modify, if_pos rfl, found]
      rfl

private theorem retryAll_consistent (clock : Clock A time) {now : Nat} (keys : List RouteSyncKey)
    (consistent : Consistent time failed unknown r) (read : now ≤ time r.host.ambient) :
    Ensures (EasyTierRpc.retryAll (coreHost E A) now keys) r
      (fun failures r' => Consistent time
        (failed ∪ { k | ∃ f ∈ failures, routeSyncKey f.peer = k }) unknown r')
      (fun _ _ => False) := by
  induction keys generalizing r failed with
  | nil => exact consistent.weaken Set.subset_union_left
  | cons key keys ih =>
    simp only [EasyTierRpc.retryAll, ensures_bind, ensures_pure]
    refine (retryExpired_consistent clock consistent read).mono ?_ fun _ _ impossible => impossible
    rintro failure r' ⟨consistent', late⟩
    refine (ih consistent' late).mono ?_ fun _ _ impossible => impossible
    intro failures r'' all
    apply all.weaken
    rintro k ((before | ⟨f, here, same⟩) | ⟨f, later, same⟩)
    · exact Or.inl before
    · refine Or.inr ⟨f, List.mem_append_left _ ?_, same⟩
      rw [Option.mem_toList]
      exact here
    · exact Or.inr ⟨f, List.mem_append_right _ later, same⟩

private theorem cleanExpired_consistent (clock : Clock A time) {now : Nat}
    (consistent : Consistent time failed unknown r) (read : now ≤ time r.host.ambient) :
    Ensures (EasyTierRpc.cleanExpired (coreHost E A) now) r
      (fun failures r' => Consistent time
        (failed ∪ { k | ∃ f ∈ failures, routeSyncKey f.peer = k }) unknown r')
      (fun _ _ => False) := by
  simp only [EasyTierRpc.cleanExpired, ensures_bind, ensures_onHost, coreHost, ensures_onCore,
    WasmRpcCore.cleanExpired, ensures_modify, ensures_get]
  have later := clock.supply r.host.ambient
  refine retryAll_consistent clock _ ?_ (Nat.le_trans read later)
  refine @Consistent.called _ time _ _ _ consistent _ later fun small k entry _ agrees =>
    agrees.swept later (Nat.le_trans read later) small fun k' route _ => ?_
  exact swept_cleanRpcState now r.host.core k' route

private theorem Consistent.forgotten (others : Consistent time (insert key failed) unknown r)
    (idle : time r.host.ambient ≤ maxDate → key ∉ failed → Idle r.host.core key) :
    Ensures (forget key) r
      (fun _ r' => Consistent time failed (insert key unknown) r')
      (fun _ _ => False) := by
  simp only [forget, ensures_bind, ensures_modify, ensures_note]
  have erased : ∀ k, (r.routeSyncStates.erase key).lookup k =
      if k = key then none else r.routeSyncStates.lookup k := OMap.lookup_erase_eq_ite _ _
  refine ⟨?_, ?_, ?_⟩
  · intro small k fine
    show Agrees _ _ k ((r.routeSyncStates.erase key).lookup k)
    rw [erased]
    by_cases same : k = key
    · subst same
      rw [if_pos rfl]
      apply agrees_of_idle (idle small fine)
      intro state impossible
      cases impossible
    · rw [if_neg same]
      refine others.agrees small k ?_
      rw [Set.mem_insert_iff]
      rintro (again | inside)
      · exact same again
      · exact fine inside
  · intro k state found
    have found : (r.routeSyncStates.erase key).lookup k = some state := found
    rw [erased] at found
    by_cases same : k = key
    · rw [if_pos same] at found
      cases found
    · rw [if_neg same] at found
      exact others.keyed k state found
  · intro k inside
    show (r.routeSyncStates.erase key).lookup k = none
    rw [erased]
    by_cases same : k = key
    · rw [if_pos same]
    · rw [if_neg same]
      exact others.absent k ((Set.mem_insert_iff.mp inside).resolve_left same)

private theorem joined_transactions {host : Host} {network : String} {peerId : UInt32}
    {publicKey : Bytes} {c c' : WasmRpcCore} {peerInitiator : FMap (String × UInt32) Bool}
    (joined : Joined E host network peerId publicKey c c' peerInitiator) :
    c'.outstandingRoutes = c.outstandingRoutes := by
  obtain ⟨calls, groups, _, _, rfl⟩ := joined.after
  rfl

private theorem addPeer_consistent (clock : Clock A time) {peer : RpcPeer}
    (consistent : Consistent time failed unknown r)
    (absent : r.routeSyncStates.lookup (routeSyncKey peer) = none) :
    Ensures (EasyTierRpc.addPeer (coreHost E A) peer) r
      (fun _ r' => Consistent time failed unknown r')
      (fun _ r' => Consistent time (insert (routeSyncKey peer) failed) unknown r') := by
  simp only [EasyTierRpc.addPeer, ensures_bind, ensures_onHost, coreHost, ensures_onCore]
  have later := clock.supply r.host.ambient
  generalize CoreRuns.CoreCall.addPeer _ _ _ = call
  have joined : ∀ core : WasmRpcCore,
      core.outstandingRoutes = r.host.core.outstandingRoutes →
      Consistent time failed unknown { r with host := r.host.called A call core } := by
    intro core same
    exact @Consistent.called _ time _ _ _ consistent _ later
      (fun _ k entry _ agrees =>
        (agrees.later later).same fun k' _ => by rw [Hosted.called_core, same])
  refine (@addPeer_cases E _ _ _ _ peer.remotePublicKey).mono ?_ ?_
  · rintro _ core ⟨_, spec⟩
    have consistent' := joined core (joined_transactions spec)
    refine (Consistent.forgotten (consistent'.except (routeSyncKey peer)) ?_).mono
      (fun _ _ forgotten => ?_) fun _ _ impossible => impossible.elim
    · intro small fine
      refine (consistent'.agrees small _ fine).idle ?_
      intro state impossible
      have impossible : r.routeSyncStates.lookup (routeSyncKey peer) = some state := impossible
      rw [absent] at impossible
      cases impossible
    · exact ⟨forgotten.agrees, forgotten.keyed,
        fun k inside => forgotten.absent k (Set.mem_insert_of_mem _ inside)⟩
  · intro e core spec
    exact (joined core (joined_transactions spec)).except (routeSyncKey peer)

/-- Whatever the operations for a peer did, nothing is left of it once it is removed. -/
private theorem removePeer_consistent (clock : Clock A time) {peer : RpcPeer}
    (consistent : Consistent time (insert (routeSyncKey peer) failed) unknown r) :
    Ensures (EasyTierRpc.removePeer (coreHost E A) peer) r
      (fun _ r' => Consistent time failed (insert (routeSyncKey peer) unknown) r')
      (fun _ _ => False) := by
  simp only [EasyTierRpc.removePeer, ensures_bind, ensures_onHost, coreHost, ensures_onCore]
  have later := clock.supply r.host.ambient
  refine (@removePeer_cases E _ _ _ _).mono ?_ fun _ _ impossible => impossible
  rintro _ core rfl
  have lookups : ∀ k, (leaving E (A.supply r.host.ambient).1 peer.networkName peer.peerId
      r.host.core).outstandingRoutes.lookup k =
        if Owned (routeSyncKey peer) k then none else r.host.core.outstandingRoutes.lookup k := by
    intro k
    show (FMap.retain _ r.host.core.outstandingRoutes).lookup k = _
    rw [FMap.lookup_retain]
    by_cases owned : Owned (routeSyncKey peer) k
    · rw [if_pos owned]
      obtain ⟨network, peerId⟩ := owned
      have dropped : (k.network != peer.networkName || k.peerId != peer.peerId) = false := by
        simp [network, peerId, routeSyncKey]
      rw [dropped]
      cases r.host.core.outstandingRoutes.lookup k with
      | none => rfl
      | some route => rfl
    · rw [if_neg owned]
      have stays : (k.network != peer.networkName || k.peerId != peer.peerId) = true := by
        simp only [Bool.or_eq_true, bne_iff_ne, ← not_and_or]
        exact owned
      rw [stays]
      cases r.host.core.outstandingRoutes.lookup k with
      | none => rfl
      | some route => rfl
  have left := @Consistent.called _ time _ _ _ consistent
    (r.host.called A (.removePeer peer.networkName peer.peerId)
      (leaving E (A.supply r.host.ambient).1 peer.networkName peer.peerId r.host.core)) later
    (fun _ k entry fine agrees => (agrees.later later).same fun k' own => by
      rw [Hosted.called_core, lookups, if_neg]
      intro owned
      exact fine (Set.mem_insert_iff.mpr (Or.inl (owned_unique own owned))))
  refine Consistent.forgotten left ?_
  intro _ _ k owned
  show (leaving E _ _ _ r.host.core).outstandingRoutes.lookup k = none
  rw [lookups, if_pos owned]

end Operations

/-! Runs. -/

/-- The scheduler, and which of its peers wait for `removePeer`: those with an operation since they
were last removed, and those for which an operation threw. -/
structure Driven (τ : Type) where
  rpc : EasyTierRpc (Hosted τ)
  known : List RouteSyncKey
  failed : List RouteSyncKey

/-- An operation, and the surroundings it finds. -/
structure DriveEvent (τ : Type) where
  op : RpcOp
  ambient : τ

/-- The peer an operation is for. -/
def subject : RpcOp → Option RouteSyncKey
  | .addPeer peer => some (routeSyncKey peer)
  | .removePeer peer => some (routeSyncKey peer)
  | .sendRouteUpdate peer _ => some (routeSyncKey peer)
  | .handleRequest peer _ => some (routeSyncKey peer)
  | .handleResponse peer _ => some (routeSyncKey peer)
  | .maintainPeer peer _ => some (routeSyncKey peer)
  | .cleanExpired _ => none

/-- The peers for which an operation threw. -/
def failures (op : RpcOp) : Except String RpcReply → List RouteSyncKey
  | .error _ => (subject op).toList
  | .ok (.failures fs) => fs.map fun f => routeSyncKey f.peer
  | .ok _ => []

/-- The peer an operation removes. -/
def removed : RpcOp → Option RouteSyncKey
  | .removePeer peer => some (routeSyncKey peer)
  | _ => none

def arriving (d : Driven τ) (e : DriveEvent τ) : EasyTierRpc (Hosted τ) :=
  { d.rpc with host := { d.rpc.host with ambient := e.ambient } }

def step (E : Env) (A : Ambient τ) (d : Driven τ) (e : DriveEvent τ) : Driven τ where
  rpc := final (Scheduler.perform (coreHost E A) e.op (arriving d e))
  known := ((subject e.op).toList ++ d.known).filter fun key => removed e.op ≠ some key
  failed := failures e.op (value (Scheduler.perform (coreHost E A) e.op (arriving d e))) ++
    d.failed.filter fun key => removed e.op ≠ some key

def start (core : WasmRpcCore) (serverPeerId : UInt32) (ambient : τ) : Driven τ where
  rpc := EasyTierRpc.new serverPeerId ⟨core, ambient, []⟩
  known := []
  failed := []

/-- How the server drives the scheduler: the clock does not go back, a peer is removed before it is
added again, and a sweep is for a time that was read from the clock. -/
structure Drives (time : τ → Nat) (d : Driven τ) (e : DriveEvent τ) : Prop where
  later : time d.rpc.host.ambient ≤ time e.ambient
  joins : ∀ peer, e.op = .addPeer peer → routeSyncKey peer ∉ d.known
  sweeps : ∀ now, e.op = .cleanExpired now → now ≤ time e.ambient

/-- The scheduler's books along a run. -/
def Booked (time : τ → Nat) (d : Driven τ) : Prop :=
  Consistent time { key | key ∈ d.failed } { key | key ∉ d.known } d.rpc

private theorem booked_start (core : WasmRpcCore) (serverPeerId : UInt32) (ambient : τ)
    (fresh : core.outstandingRoutes = ∅) : Booked time (start core serverPeerId ambient) where
  agrees := by
    intro _ key _
    refine agrees_of_idle ?_ ?_
    · intro k _
      show core.outstandingRoutes.lookup k = none
      rw [fresh]
      exact Finmap.lookup_empty k
    · intro state impossible
      cases impossible
  keyed := by
    intro key state impossible
    cases impossible
  absent := fun key _ => rfl

private theorem perform_consistent (clock : Clock A time) {failed unknown : Set RouteSyncKey}
    {r : EasyTierRpc (Hosted τ)} (op : RpcOp) (key : RouteSyncKey) (own : subject op = some key)
    (stays : removed op = none) (consistent : Consistent time failed unknown r)
    (known : key ∉ unknown)
    (joins : ∀ peer, op = .addPeer peer → r.routeSyncStates.lookup (routeSyncKey peer) = none) :
    Ensures (Scheduler.perform (coreHost E A) op) r
      (fun reply r' => Consistent time failed unknown r' ∧ failures op (.ok reply) = [])
      (fun _ r' => Consistent time (insert key failed) unknown r') := by
  cases op with
  | addPeer peer =>
    cases own
    simp only [Scheduler.perform, ensures_bind, ensures_pure]
    exact (addPeer_consistent clock consistent (joins peer rfl)).mono
      (fun _ _ consistent' => ⟨consistent', rfl⟩) fun _ _ consistent' => consistent'
  | removePeer peer => cases stays
  | sendRouteUpdate peer forceFull =>
    cases own
    simp only [Scheduler.perform, ensures_bind, ensures_pure]
    exact (sendRouteUpdate_consistent clock consistent known).mono
      (fun _ _ consistent' => ⟨consistent', rfl⟩) fun _ _ consistent' => consistent'
  | handleRequest peer payload =>
    cases own
    simp only [Scheduler.perform, ensures_bind, ensures_pure]
    exact (handleRequest_consistent clock consistent known).mono
      (fun _ _ consistent' => ⟨consistent', rfl⟩) fun _ _ consistent' => consistent'
  | handleResponse peer payload =>
    cases own
    simp only [Scheduler.perform, ensures_bind, ensures_pure]
    exact (handleResponse_consistent clock consistent).mono
      (fun _ _ consistent' => ⟨consistent', rfl⟩) fun _ _ consistent' => consistent'
  | maintainPeer peer now =>
    cases own
    simp only [Scheduler.perform, ensures_bind, ensures_pure]
    exact (maintainPeer_consistent clock consistent known).mono
      (fun _ _ consistent' => ⟨consistent', rfl⟩) fun _ _ consistent' => consistent'
  | cleanExpired now => cases own

private theorem Consistent.narrow {failed unknown unknown' : Set RouteSyncKey}
    {r : EasyTierRpc (Hosted τ)} (consistent : Consistent time failed unknown r)
    (fewer : unknown' ⊆ unknown) : Consistent time failed unknown' r where
  agrees := consistent.agrees
  keyed := consistent.keyed
  absent := fun key inside => consistent.absent key (fewer inside)

/-- The books after an operation, by what it answers. -/
def BookedAfter (time : τ → Nat) (d : Driven τ) (op : RpcOp) (answer : Except String RpcReply)
    (r : EasyTierRpc (Hosted τ)) : Prop :=
  Consistent time
    { key | key ∈ failures op answer ∨ key ∈ d.failed ∧ removed op ≠ some key }
    { key | (subject op ≠ some key ∧ key ∉ d.known) ∨ removed op = some key } r

private theorem booked_of_after {d : Driven τ} {e : DriveEvent τ}
    (after : BookedAfter time d e.op (value (Scheduler.perform (coreHost E A) e.op (arriving d e)))
      (final (Scheduler.perform (coreHost E A) e.op (arriving d e)))) :
    Booked time (step E A d e) := by
  refine (after.weaken ?_).narrow ?_
  · rintro key (failure | ⟨before, stays⟩)
    · exact List.mem_append_left _ failure
    · exact List.mem_append_right _ (by simpa [before] using stays)
  · intro key fresh
    have fresh : key ∉ ((subject e.op).toList ++ d.known).filter
      fun key => removed e.op ≠ some key := fresh
    by_cases removal : removed e.op = some key
    · exact Or.inr removal
    · left
      constructor
      · intro own
        apply fresh
        rw [List.mem_filter]
        refine ⟨List.mem_append_left _ ?_, decide_eq_true removal⟩
        rw [own]
        exact List.mem_singleton.mpr rfl
      · intro known
        apply fresh
        rw [List.mem_filter]
        exact ⟨List.mem_append_right _ known, decide_eq_true removal⟩

private theorem booked_step (clock : Clock A time) {d : Driven τ} {e : DriveEvent τ}
    (booked : Booked time d) (drives : Drives time d e) : Booked time (step E A d e) := by
  have arrived : Consistent time { key | key ∈ d.failed } { key | key ∉ d.known }
      (arriving d e) := booked.passed drives.later
  obtain ⟨op, ambient⟩ := e
  refine booked_of_after (@ensures_result _ _ _ _ _
    (fun x => BookedAfter time d op (value x) (final x)) ?_)
  -- Operations that neither remove a peer nor sweep only concern the peer they are for.
  have plain : ∀ key, subject op = some key → removed op = none →
      (∀ peer, op = .addPeer peer → routeSyncKey peer ∉ d.known) →
      Ensures (Scheduler.perform (coreHost E A) op) (arriving d ⟨op, ambient⟩)
        (fun reply r' => BookedAfter time d op (.ok reply) r')
        (fun e r' => BookedAfter time d op (.error e) r') := by
    intro key own stays joins
    have known : key ∉ { k | key ≠ k ∧ k ∉ d.known } := fun inside => inside.1 rfl
    refine (perform_consistent clock op key own stays (arrived.narrow ?_) known ?_).mono ?_ ?_
    · exact fun k inside => inside.2
    · intro peer add
      exact arrived.absent _ (joins peer add)
    · rintro reply r' ⟨consistent', none_failed⟩
      refine (consistent'.weaken ?_).narrow ?_
      · intro k before
        refine Or.inr ⟨before, ?_⟩
        rw [stays]
        exact (Option.some_ne_none k).symm
      · rintro k (⟨other, fresh⟩ | removal)
        · refine ⟨?_, fresh⟩
          rintro rfl
          exact other own
        · rw [stays] at removal
          cases removal
    · intro e r' consistent'
      refine (consistent'.weaken ?_).narrow ?_
      · intro k inside
        rcases Set.mem_insert_iff.mp inside with rfl | before
        · left
          simp [failures, own]
        · refine Or.inr ⟨before, ?_⟩
          rw [stays]
          exact (Option.some_ne_none k).symm
      · rintro k (⟨other, fresh⟩ | removal)
        · refine ⟨?_, fresh⟩
          rintro rfl
          exact other own
        · rw [stays] at removal
          cases removal
  cases op with
  | addPeer peer => exact plain _ rfl rfl drives.joins
  | sendRouteUpdate peer forceFull => exact plain _ rfl rfl fun _ impossible => by cases impossible
  | handleRequest peer payload => exact plain _ rfl rfl fun _ impossible => by cases impossible
  | handleResponse peer payload => exact plain _ rfl rfl fun _ impossible => by cases impossible
  | maintainPeer peer now => exact plain _ rfl rfl fun _ impossible => by cases impossible
  | removePeer peer =>
    simp only [Scheduler.perform, ensures_bind, ensures_pure]
    have before : Consistent time
        (insert (routeSyncKey peer) { k | k ∈ d.failed ∧ k ≠ routeSyncKey peer })
        { k | k ∉ d.known } (arriving d ⟨.removePeer peer, ambient⟩) := by
      apply arrived.weaken
      intro k failed
      by_cases same : k = routeSyncKey peer
      · exact Set.mem_insert_iff.mpr (Or.inl same)
      · exact Set.mem_insert_of_mem _ ⟨failed, same⟩
    refine (removePeer_consistent clock before).mono ?_ fun _ _ impossible => impossible.elim
    intro _ r' consistent'
    refine (consistent'.weaken ?_).narrow ?_
    · rintro k ⟨failed, other⟩
      exact Or.inr ⟨failed, fun same => other (Option.some.inj same).symm⟩
    · rintro k (⟨_, fresh⟩ | removal)
      · exact Set.mem_insert_of_mem _ fresh
      · exact Set.mem_insert_iff.mpr (Or.inl (Option.some.inj removal).symm)
  | cleanExpired now =>
    simp only [Scheduler.perform, ensures_bind, ensures_pure]
    refine (cleanExpired_consistent clock arrived (drives.sweeps now rfl)).mono ?_
      fun _ _ impossible => impossible.elim
    intro fs r' consistent'
    refine (consistent'.weaken ?_).narrow ?_
    · rintro k (before | ⟨f, inside, same⟩)
      · exact Or.inr ⟨before, (Option.some_ne_none k).symm⟩
      · left
        exact List.mem_map.mpr ⟨f, inside, same⟩
    · rintro k (⟨_, fresh⟩ | removal)
      · exact fresh
      · cases removal

private theorem booked_run (clock : Clock A time) {d : Driven τ} {es : List (DriveEvent τ)}
    (booked : Booked time d)
    (driven : AllSteps (step E A) (fun _ d e => Drives time d e) d es) :
    Booked time (run (step E A) d es) := by
  induction es using List.reverseRecOn with
  | nil => exact booked
  | append_singleton es e ih =>
    rw [run_snoc]
    exact booked_step clock (ih driven.init) driven.last

/-- The two views of the update in flight to a peer at `now`. -/
structure ViewsAgree (now : Nat) (c : WasmRpcCore) (key : RouteSyncKey)
    (entry : Option RouteSyncState) : Prop where
  atMostOne : ∀ k k', Owned key k → Owned key k' → c.outstandingRoutes.lookup k ≠ none →
    c.outstandingRoutes.lookup k' ≠ none → k = k'
  none_idle : (∀ state, entry = some state → state.inFlight = false) →
    ∀ k, Owned key k → c.outstandingRoutes.lookup k = none
  one_flying : ∀ state, entry = some state → state.inFlight = true →
    now ≤ state.sentAt + routeSyncTimeoutMs →
      ∃ k route, Owned key k ∧ c.outstandingRoutes.lookup k = some route ∧
        route.deadlineMs.toNat = state.sentAt + routeSyncTimeoutMs

private theorem Agrees.views {time now : Nat} {c : WasmRpcCore} {key : RouteSyncKey}
    {entry : Option RouteSyncState} (agrees : Agrees time c key entry) (small : time ≤ maxDate)
    (current : time ≤ now) : ViewsAgree now c key entry where
  none_idle := agrees.idle
  atMostOne := by
    intro k k' owned owned' there there'
    by_cases flies : ∃ state, entry = some state ∧ state.inFlight = true
    · obtain ⟨state, found, flying⟩ := flies
      exact (agrees.flying state found flying).unique k k' owned owned' there there'
    · refine absurd (agrees.idle ?_ k owned) there
      intro state found
      rw [← Bool.not_eq_true]
      exact fun flying => flies ⟨state, found, flying⟩
  one_flying := by
    intro state found flying soon
    have pending := agrees.flying state found flying
    obtain ⟨k, owned, there⟩ := pending.waits (Nat.le_trans current soon)
    obtain ⟨route, there⟩ := lookup_ne_none.mp there
    refine ⟨k, route, owned, there, ?_⟩
    rw [pending.deadline k route owned there, toNat_deadline (Nat.le_trans pending.past small)]

/-- Between events, with every peer removed for which an operation threw, the scheduler and the core
agree on what is in flight to every peer. -/
theorem views_agree (E : Env) (A : Ambient τ) (time : τ → Nat) (clock : Clock A time)
    (publicKey : Bytes) (hostname : String) (serverPeerId : UInt32) (core : WasmRpcCore)
    (created : WasmRpcCore.new publicKey hostname serverPeerId = .ok core) (ambient : τ)
    (events : List (DriveEvent τ))
    (driven : AllSteps (step E A) (fun _ d e => Drives time d e) (start core serverPeerId ambient)
      events)
    (dates : time (run (step E A) (start core serverPeerId ambient) events).rpc.host.ambient ≤
      maxDate)
    (key : RouteSyncKey)
    (settled : key ∉ (run (step E A) (start core serverPeerId ambient) events).failed) (now : Nat)
    (current : time (run (step E A) (start core serverPeerId ambient) events).rpc.host.ambient ≤
      now) :
    ViewsAgree now (run (step E A) (start core serverPeerId ambient) events).rpc.host.core key
      ((run (step E A) (start core serverPeerId
        ambient) events).rpc.routeSyncStates.lookup key) := by
  have fresh : core.outstandingRoutes = ∅ := by
    rw [WasmRpcCore.new] at created
    split at created
    · cases created
    · split at created
      · cases created
      · cases created
        rfl
  have booked := booked_run clock (booked_start core serverPeerId ambient fresh) driven
  exact (booked.agrees dates key settled).views dates current

/-! A peer joins and is sent an update. -/

section Runs

/-- Surroundings that only know the time. -/
def quietAmbient : Ambient Nat where
  supply time := (⟨fun _ => 1_000, ⟨1, 2, 3, 4⟩, 9, fun _ => .ok 9⟩, time)
  encrypt _ packet := pure packet
  send _ _ := pure ()
  dateNow time := (time, time)

private theorem quietAmbient_clock : Clock quietAmbient id where
  supply := fun time => Nat.le_refl time
  encrypt := fun _ _ time => Nat.le_refl time
  send := fun _ _ time => Nat.le_refl time
  advances := fun time => Nat.le_refl time
  reads := fun _ => rfl

def silentEnv : Env := ⟨Wire.codec ⟨[], [], [], [], [], [], []⟩, fun _ => 0⟩

def bob : RpcPeer := ⟨5, "net", 3, List.replicate 32 2, 0⟩

def joinAndUpdate : List (DriveEvent Nat) :=
  [⟨.addPeer bob, 900⟩, ⟨.sendRouteUpdate bob false, 1_000⟩]

def checkDrives (_ : List (DriveEvent Nat)) (d : Driven Nat) (e : DriveEvent Nat) : Bool :=
  decide (d.rpc.host.ambient ≤ e.ambient) &&
    match e.op with
    | .addPeer peer => decide (routeSyncKey peer ∉ d.known)
    | .cleanExpired now => decide (now ≤ e.ambient)
    | _ => true

private theorem drives_of_check {pre : List (DriveEvent Nat)} {d : Driven Nat} {e : DriveEvent Nat}
    (checked : checkDrives pre d e = true) : Drives id d e := by
  obtain ⟨op, ambient⟩ := e
  obtain ⟨later, rest⟩ := Bool.and_eq_true_iff.mp checked
  refine ⟨of_decide_eq_true later, ?_, ?_⟩
  · rintro peer rfl
    exact of_decide_eq_true rest
  · rintro now rfl
    exact of_decide_eq_true rest

theorem views_agree_joinAndUpdate : ∃ core,
    WasmRpcCore.new (List.replicate 32 1) "edge" 1 = .ok core ∧
      ∃ k route, Owned ("net", 5) k ∧
        (run (step silentEnv quietAmbient) (start core 1 900)
          joinAndUpdate).rpc.host.core.outstandingRoutes.lookup k = some route ∧
        route.deadlineMs.toNat = 4_000 :=
  ⟨_, rfl, (views_agree silentEnv quietAmbient id quietAmbient_clock (List.replicate 32 1) "edge"
    1 _ rfl 900 joinAndUpdate
    (allSteps_of_check checkDrives (fun _ _ _ checked => drives_of_check checked)
      (by decide +kernel)) (by decide +kernel) ("net", 5) (by decide +kernel) 2_000
    (by decide +kernel)).one_flying ⟨bob, true, false, false, 1_000, 0⟩ (by decide +kernel) rfl
      (by decide)⟩

end Runs

end EasyTierEdge.Rpc.InFlight
