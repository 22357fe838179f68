/- module: EasyTierEdge/Rpc/SchedulerRules
   source: cloudflare/src/core/rpc.ts
   digest: Invariants of the scheduler from invariants of its building blocks. -/

import EasyTierEdge.Lib.Machine
import EasyTierEdge.Rpc.Scheduler

set_option autoImplicit false
set_option relaxedAutoImplicit false

namespace EasyTierEdge.Rpc.SchedulerRules

open Lib.Fallible Lib.Machine Lib.OrderedMap
open Packet (Bytes)
open Scheduler

variable {σ : Type} {H : RpcHost σ} {I : EasyTierRpc σ → Prop}

theorem sendControl_frame {peer : RpcPeer} {packetType : UInt8} {payload : Bytes}
    {r : EasyTierRpc σ} :
    Ensures (EasyTierRpc.sendControl H peer packetType payload) r
      (fun _ r' => ∃ host, r' = { r with host }) (fun _ r' => ∃ host, r' = { r with host }) := by
  simp only [EasyTierRpc.sendControl, ensures_bind, ensures_get]
  cases Packet.buildPacket r.serverPeerId peer.peerId packetType payload with
  | error e => exact ⟨r.host, rfl⟩
  | ok clear =>
    simp only [ensures_bind, ensures_onHost]
    refine ensures_of_forall ?_ fun _ host => ⟨host, rfl⟩
    intro packet host
    exact ensures_of_forall (fun _ host' => ⟨host', rfl⟩) fun _ host' => ⟨host', rfl⟩

/-- `I` does not look at the host. -/
def HostBlind (I : EasyTierRpc σ → Prop) : Prop := ∀ r, I r → ∀ host, I { r with host }

private theorem HostBlind.onHost {α : Type} (blind : HostBlind I) (op : EStateM String σ α) :
    Keeps I (onHost op) := by
  intro r held
  rw [ensures_onHost]
  exact ensures_of_forall (fun _ host => blind r held host) fun _ host => blind r held host

private theorem HostBlind.dateNow (blind : HostBlind I) : Keeps I (dateNow H) := by
  intro r held
  rw [ensures_dateNow]
  exact blind r held _

private theorem HostBlind.sendControl (blind : HostBlind I) {peer : RpcPeer} {packetType : UInt8}
    {payload : Bytes} : Keeps I (EasyTierRpc.sendControl H peer packetType payload) := by
  intro r held
  apply sendControl_frame.mono
  · rintro _ r' ⟨host, rfl⟩
    exact blind r held host
  · rintro _ r' ⟨host, rfl⟩
    exact blind r held host

/-- `I` is kept by what the operations on peers that satisfy `P` are made of. -/
structure Parts (H : RpcHost σ) (I : EasyTierRpc σ → Prop) (P : RpcPeer → Prop) : Prop where
  dateNow : Keeps I (dateNow H)
  swept : ∀ nowMs, Keeps I (onHost (H.cleanExpired nowMs))
  requested : ∀ peer, P peer → ∀ payload nowMs,
    Keeps I (onHost (H.handleRequest peer.networkName peer.peerId payload nowMs))
  responded : ∀ peer, P peer → ∀ payload nowMs,
    Keeps I (onHost (H.handleResponse peer.networkName peer.peerId payload nowMs))
  control : ∀ peer, P peer → ∀ packetType payload,
    Keeps I (EasyTierRpc.sendControl H peer packetType payload)
  complete : ∀ key completedAt, Keeps I (assign key (EasyTierRpc.completed completedAt))
  flush : ∀ key now, Keeps I (EasyTierRpc.flushRouteUpdate H key now)
  request : ∀ peer, P peer → ∀ forceFull, Keeps I (EasyTierRpc.sendRouteUpdate H peer forceFull)
  retry : ∀ now key, Keeps I (EasyTierRpc.retryExpired H now key)

namespace Parts

variable {P : RpcPeer → Prop} (parts : Parts H I P)

include parts

theorem keeps_maintainPeer {peer : RpcPeer} (chosen : P peer) (now : Nat) :
    Keeps I (EasyTierRpc.maintainPeer H peer now) := by
  apply keeps_get_bind
  intro r held
  cases r.routeSyncStates.lookup (routeSyncKey peer) with
  | none => exact held
  | some state =>
    exact Keeps.ite (fun _ => keeps_pure _) (fun _ => parts.request peer chosen false) r held

theorem keeps_handleResponse {peer : RpcPeer} (chosen : P peer) (payload : Bytes) :
    Keeps I (EasyTierRpc.handleResponse H peer payload) := by
  apply parts.dateNow.bind
  intro now
  apply (parts.responded peer chosen _ _).bind
  intro complete
  apply Keeps.ite (fun _ => keeps_pure _)
  intro _
  apply keeps_get_bind
  intro r held
  cases r.routeSyncStates.lookup (routeSyncKey peer) with
  | none => exact held
  | some state =>
    have rest : Keeps I (do
        let completedAt ← Scheduler.dateNow H
        assign (routeSyncKey peer) (EasyTierRpc.completed completedAt)
        if state.dirty = true ∨ state.forceFull = true then
          let now ← Scheduler.dateNow H
          EasyTierRpc.flushRouteUpdate H (routeSyncKey peer) now) := by
      apply parts.dateNow.bind
      intro completedAt
      apply (parts.complete _ _).bind
      intro _
      apply Keeps.ite
      · intro _
        exact parts.dateNow.bind fun now => parts.flush _ now
      · intro _
        exact keeps_pure _
    exact rest r held

theorem keeps_handleRequest {peer : RpcPeer} (chosen : P peer) (payload : Bytes) :
    Keeps I (EasyTierRpc.handleRequest H peer payload) := by
  apply parts.dateNow.bind
  intro now
  apply (parts.requested peer chosen _ _).bind
  intro result
  cases result with
  | nil => exact (parts.control peer chosen _ _).bind fun _ => keeps_throw _
  | cons result response =>
    apply Keeps.ite (fun _ => keeps_pure _)
    intro _
    apply Keeps.ite (fun _ => keeps_throw _)
    intro _
    apply (parts.control peer chosen _ _).bind
    intro _
    apply Keeps.ite
    · intro _
      exact (parts.request peer chosen false).bind fun _ => keeps_pure _
    · intro _
      apply Keeps.ite
      · intro _
        exact (parts.request peer chosen false).bind fun _ => keeps_pure _
      · intro _
        exact Keeps.ite (fun _ => keeps_pure _) fun _ => keeps_throw _

private theorem keeps_retryAll (now : Nat) (keys : List RouteSyncKey) :
    Keeps I (EasyTierRpc.retryAll H now keys) := by
  induction keys with
  | nil => exact keeps_pure _
  | cons key keys ih =>
    apply (parts.retry now key).bind
    intro failure
    exact ih.bind fun _ => keeps_pure _

theorem keeps_cleanExpired (now : Nat) : Keeps I (EasyTierRpc.cleanExpired H now) := by
  apply (parts.swept _).bind
  intro _
  apply keeps_get_bind
  intro r held
  exact parts.keeps_retryAll now _ r held

end Parts

/-- `I` is kept by what the operations are made of. -/
structure Blocks (H : RpcHost σ) (I : EasyTierRpc σ → Prop) : Prop where
  blind : HostBlind I
  forget : ∀ key, Keeps I (forget key : RpcM σ Unit)
  complete : ∀ key completedAt, Keeps I (assign key (EasyTierRpc.completed completedAt))
  flush : ∀ key now, Keeps I (EasyTierRpc.flushRouteUpdate H key now)
  request : ∀ peer forceFull, Keeps I (EasyTierRpc.sendRouteUpdate H peer forceFull)
  retry : ∀ now key, Keeps I (EasyTierRpc.retryExpired H now key)

namespace Blocks

variable (blocks : Blocks H I)

include blocks

private theorem parts : Parts H I fun _ => True where
  dateNow := blocks.blind.dateNow
  swept := fun _ => blocks.blind.onHost _
  requested := fun _ _ _ _ => blocks.blind.onHost _
  responded := fun _ _ _ _ => blocks.blind.onHost _
  control := fun _ _ _ _ => blocks.blind.sendControl
  complete := blocks.complete
  flush := blocks.flush
  request := fun peer _ forceFull => blocks.request peer forceFull
  retry := blocks.retry

private theorem keeps_perform (op : RpcOp) : Keeps I (perform H op) := by
  have parts := blocks.parts
  cases op with
  | addPeer peer =>
    have added := (blocks.blind.onHost
      (H.addPeer peer.networkName peer.peerId peer.remotePublicKey)).bind
      fun _ => blocks.forget (routeSyncKey peer)
    exact added.bind fun _ => keeps_pure _
  | removePeer peer =>
    have removed := (blocks.blind.onHost (H.removePeer peer.networkName peer.peerId)).bind
      fun _ => blocks.forget (routeSyncKey peer)
    exact removed.bind fun _ => keeps_pure _
  | sendRouteUpdate peer forceFull =>
    exact (blocks.request peer forceFull).bind fun _ => keeps_pure _
  | handleRequest peer payload =>
    exact (parts.keeps_handleRequest trivial payload).bind fun _ => keeps_pure _
  | handleResponse peer payload =>
    exact (parts.keeps_handleResponse trivial payload).bind fun _ => keeps_pure _
  | maintainPeer peer now =>
    exact (parts.keeps_maintainPeer trivial now).bind fun _ => keeps_pure _
  | cleanExpired now => exact (parts.keeps_cleanExpired now).bind fun _ => keeps_pure _

private theorem keeps_step {r : EasyTierRpc σ} (op : RpcOp) (held : I r) : I (step H r op) :=
  (blocks.keeps_perform op).final held

theorem keeps_run {r : EasyTierRpc σ} (ops : List RpcOp) (held : I r) :
    I (run (step H) r ops) := by
  induction ops generalizing r with
  | nil => exact held
  | cons op ops ih =>
    rw [run_cons]
    exact ih (blocks.keeps_step op held)

end Blocks

/-- The scheduler after an entry was written. -/
def entered (key : RouteSyncKey) (state : RouteSyncState) (r : EasyTierRpc σ) : EasyTierRpc σ :=
  { r with routeSyncStates := OMap.set r.routeSyncStates key state }

/-- `I` is kept by every single write and by every call; the peers of entries satisfy `P`, and only
they are asked for. -/
structure Atoms (H : RpcHost σ) (I : EasyTierRpc σ → Prop) (P : RpcPeer → Prop) : Prop where
  dateNow : Keeps I (dateNow H)
  swept : ∀ nowMs, Keeps I (onHost (H.cleanExpired nowMs))
  requested : ∀ peer, P peer → ∀ payload nowMs,
    Keeps I (onHost (H.handleRequest peer.networkName peer.peerId payload nowMs))
  responded : ∀ peer, P peer → ∀ payload nowMs,
    Keeps I (onHost (H.handleResponse peer.networkName peer.peerId payload nowMs))
  built : ∀ peer, P peer → ∀ forceFull nowMs,
    Keeps I (onHost (H.buildRouteUpdate peer.networkName peer.peerId peer.serverSessionId
      forceFull nowMs))
  control : ∀ peer, P peer → ∀ packetType payload,
    Keeps I (EasyTierRpc.sendControl H peer packetType payload)
  note : ∀ n, Keeps I (note n : RpcM σ Unit)
  assign : ∀ key f, (∀ state, (f state).peer = state.peer) → Keeps I (assign key f : RpcM σ Unit)
  enlist : ∀ peer, P peer → ∀ r, I r →
    I (entered (routeSyncKey peer) (EasyTierRpc.freshState peer) r)
  adopt : ∀ peer, P peer → ∀ f, (∀ state, (f state).peer = peer) →
    Keeps I (Scheduler.assign (routeSyncKey peer) f : RpcM σ Unit)
  entries : ∀ r, I r → ∀ key state, r.routeSyncStates.lookup key = some state → P state.peer

namespace Atoms

variable {P : RpcPeer → Prop} (atoms : Atoms H I P)

include atoms

private theorem flush (key : RouteSyncKey) (now : Nat) :
    Keeps I (EasyTierRpc.flushRouteUpdate H key now) := by
  have building (peer : RpcPeer) (chosen : P peer) (forceFull : Bool) :
      Keeps I (EasyTierRpc.buildUpdate H key peer forceFull now) := by
    apply (atoms.note _).bind
    intro _
    apply (atoms.built peer chosen _ _).tryCatch
    intro e
    exact (atoms.note _).bind fun _ => keeps_throw e
  have sending (peer : RpcPeer) (chosen : P peer) (forceFull : Bool) (packet : Bytes) :
      Keeps I (EasyTierRpc.sendUpdate H key peer forceFull packet) := by
    apply Keeps.tryCatch
    · exact (atoms.control peer chosen _ _).bind fun _ => atoms.note _
    · intro e
      refine (atoms.assign key _ ?_).bind fun _ => keeps_throw e
      exact fun _ => rfl
  apply keeps_get_bind
  intro r held
  cases found : r.routeSyncStates.lookup key with
  | none => exact held
  | some state =>
    have chosen := atoms.entries r held key state found
    refine Keeps.ite (fun _ => keeps_pure _) (fun _ => ?_) r held
    refine (atoms.assign key _ ?_).bind fun _ => ?_
    · exact fun _ => rfl
    · apply (building state.peer chosen state.forceFull).bind
      intro packet
      refine (atoms.assign key _ ?_).bind fun _ => sending state.peer chosen state.forceFull packet
      exact fun _ => rfl

theorem request (peer : RpcPeer) (chosen : P peer) (forceFull : Bool) :
    Keeps I (EasyTierRpc.sendRouteUpdate H peer forceFull) := by
  have rest : Keeps I (do
      Scheduler.assign (routeSyncKey peer) fun state =>
        { state with peer, dirty := true, forceFull := state.forceFull || forceFull }
      let now ← Scheduler.dateNow H
      EasyTierRpc.flushRouteUpdate H (routeSyncKey peer) now) := by
    refine (atoms.adopt peer chosen _ ?_).bind fun _ =>
      atoms.dateNow.bind fun now => atoms.flush _ now
    exact fun _ => rfl
  apply (atoms.note _).bind
  intro _
  apply keeps_get_bind
  intro r held
  refine (ensures_ite _ _ _).mpr ⟨?_, ?_⟩
  · intro _
    exact rest _ (atoms.enlist peer chosen r held)
  · intro _
    exact rest r held

private theorem retry (now : Nat) (key : RouteSyncKey) :
    Keeps I (EasyTierRpc.retryExpired H now key) := by
  apply keeps_get_bind
  intro r held
  cases r.routeSyncStates.lookup key with
  | none => exact held
  | some state =>
    refine Keeps.ite (fun _ => keeps_pure _) (fun _ => ?_) r held
    apply (atoms.note _).bind
    intro _
    refine (atoms.assign key _ ?_).bind fun _ => ?_
    · exact fun _ => rfl
    · apply Keeps.tryCatch
      · exact (atoms.flush key now).bind fun _ => keeps_pure _
      · exact fun e => keeps_pure _

theorem parts : Parts H I P where
  dateNow := atoms.dateNow
  swept := atoms.swept
  requested := atoms.requested
  responded := atoms.responded
  control := atoms.control
  complete := fun key _ => atoms.assign key _ fun _ => rfl
  flush := atoms.flush
  request := atoms.request
  retry := atoms.retry

end Atoms

/-- What only says that something was noted before: it never looks at the entries. -/
structure Historic (I : EasyTierRpc σ → Prop) : Prop where
  host : HostBlind I
  states : ∀ r, I r → ∀ routeSyncStates, I { r with routeSyncStates }
  notes : ∀ r, I r → ∀ n, I { r with notes := r.notes ++ [n] }

namespace Historic

variable (historic : Historic I)

include historic

private theorem note (n : Note) : Keeps I (note n : RpcM σ Unit) := by
  intro r held
  rw [ensures_note]
  exact historic.notes r held n

private theorem assign (key : RouteSyncKey) (f : RouteSyncState → RouteSyncState) :
    Keeps I (assign key f : RpcM σ Unit) := by
  intro r held
  rw [ensures_assign]
  exact historic.states r held _

private theorem atoms : Atoms H I fun _ => True where
  dateNow := historic.host.dateNow
  swept := fun _ => historic.host.onHost _
  requested := fun _ _ _ _ => historic.host.onHost _
  responded := fun _ _ _ _ => historic.host.onHost _
  built := fun _ _ _ _ => historic.host.onHost _
  control := fun _ _ _ _ => historic.host.sendControl
  note := historic.note
  assign := fun key f _ => historic.assign key f
  enlist := fun _ _ r held => historic.states r held _
  adopt := fun _ _ f _ => historic.assign _ f
  entries := fun _ _ _ _ _ => trivial

theorem flush (key : RouteSyncKey) (now : Nat) :
    Keeps I (EasyTierRpc.flushRouteUpdate H key now) :=
  historic.atoms.flush key now

private theorem blocks : Blocks H I where
  blind := historic.host
  forget := by
    intro key r held
    simp only [Scheduler.forget, ensures_bind, ensures_modify, ensures_note]
    exact historic.notes _ (historic.states r held _) _
  complete := fun key completedAt => historic.assign key _
  flush := historic.flush
  request := fun peer forceFull => historic.atoms.request peer trivial forceFull
  retry := historic.atoms.retry

end Historic

/-! The peers of the entries. -/

/-- Every entry is about a peer that satisfies `P`, under the key of that peer. -/
def Enlisted (P : RpcPeer → Prop) (states : OMap RouteSyncKey RouteSyncState) : Prop :=
  ∀ key state, states.lookup key = some state → P state.peer ∧ routeSyncKey state.peer = key

/-- `C` is kept by the host, as long as it is called for peers that satisfy `P`. -/
structure HostKeeps (H : RpcHost σ) (C : σ → Prop) (P : RpcPeer → Prop) : Prop where
  dateNow : ∀ h, C h → C (H.dateNow h).2
  cleanExpired : ∀ nowMs, Keeps C (H.cleanExpired nowMs)
  handleRequest : ∀ peer, P peer → ∀ payload nowMs,
    Keeps C (H.handleRequest peer.networkName peer.peerId payload nowMs)
  handleResponse : ∀ peer, P peer → ∀ payload nowMs,
    Keeps C (H.handleResponse peer.networkName peer.peerId payload nowMs)
  buildRouteUpdate : ∀ peer, P peer → ∀ forceFull nowMs,
    Keeps C (H.buildRouteUpdate peer.networkName peer.peerId peer.serverSessionId forceFull nowMs)
  encrypt : ∀ peer, P peer → ∀ packet, Keeps C (H.encrypt peer packet)
  send : ∀ peer, P peer → ∀ packet, Keeps C (H.send peer packet)

namespace Enlisted

variable {P : RpcPeer → Prop} {states : OMap RouteSyncKey RouteSyncState}

private theorem set (enlisted : Enlisted P states) {peer : RpcPeer} (chosen : P peer) :
    Enlisted P (OMap.set states (routeSyncKey peer) (EasyTierRpc.freshState peer)) := by
  intro key state found
  rw [OMap.lookup_set] at found
  by_cases own : key = routeSyncKey peer
  · rw [if_pos own] at found
    cases Option.some.inj found
    exact ⟨chosen, own.symm⟩
  · rw [if_neg own] at found
    exact enlisted key state found

private theorem modify (enlisted : Enlisted P states) {key : RouteSyncKey}
    {f : RouteSyncState → RouteSyncState}
    (kept : ∀ state, states.lookup key = some state →
      P (f state).peer ∧ routeSyncKey (f state).peer = key) :
    Enlisted P (OMap.modify states key f) := by
  intro key' state found
  rw [OMap.lookup_modify] at found
  by_cases own : key' = key
  · rw [if_pos own] at found
    obtain ⟨before, present, same⟩ := Option.map_eq_some_iff.mp found
    rw [← same, own]
    exact kept before present
  · rw [if_neg own] at found
    exact enlisted key' state found

theorem erase (enlisted : Enlisted P states) (key : RouteSyncKey) :
    Enlisted P (states.erase key) := by
  intro key' state found
  rw [OMap.lookup_erase_eq_ite] at found
  by_cases own : key' = key
  · rw [if_pos own] at found
    cases found
  · rw [if_neg own] at found
    exact enlisted key' state found

end Enlisted

/-- What the host keeps, the scheduler keeps, and its entries stay about the same peers. -/
theorem HostKeeps.atoms {C : σ → Prop} {P : RpcPeer → Prop} (keeps : HostKeeps H C P) :
    Atoms H (fun r => C r.host ∧ Enlisted P r.routeSyncStates) P := by
  have called {α : Type} {op : EStateM String σ α} (kept : Keeps C op) :
      Keeps (fun r : EasyTierRpc σ => C r.host ∧ Enlisted P r.routeSyncStates) (onHost op) := by
    intro r held
    rw [ensures_onHost]
    exact (kept r.host held.1).mono (fun _ _ kept' => ⟨kept', held.2⟩)
      fun _ _ kept' => ⟨kept', held.2⟩
  constructor
  · intro r held
    exact ⟨keeps.dateNow r.host held.1, held.2⟩
  · exact fun nowMs => called (keeps.cleanExpired nowMs)
  · exact fun peer chosen payload nowMs => called (keeps.handleRequest peer chosen payload nowMs)
  · exact fun peer chosen payload nowMs => called (keeps.handleResponse peer chosen payload nowMs)
  · exact fun peer chosen forceFull nowMs =>
      called (keeps.buildRouteUpdate peer chosen forceFull nowMs)
  · intro peer chosen packetType payload
    apply keeps_get_bind
    intro r held
    cases Packet.buildPacket r.serverPeerId peer.peerId packetType payload with
    | error e => exact held
    | ok clear =>
      exact (called (keeps.encrypt peer chosen clear)).bind
        (fun packet => called (keeps.send peer chosen packet)) r held
  · exact fun n r held => held
  · intro key f same r held
    rw [ensures_assign]
    refine ⟨held.1, held.2.modify ?_⟩
    intro state found
    rw [same]
    exact held.2 key state found
  · exact fun peer chosen r held => ⟨held.1, held.2.set chosen⟩
  · intro peer chosen f same r held
    rw [ensures_assign]
    refine ⟨held.1, held.2.modify ?_⟩
    intro state _
    rw [same]
    exact ⟨chosen, rfl⟩
  · exact fun r held key state found => (held.2 key state found).1

theorem notes_grow (r : EasyTierRpc σ) (op : RpcOp) : r.notes <+: (step H r op).notes := by
  have historic : Historic fun r' : EasyTierRpc σ => r.notes <+: r'.notes :=
    { host := fun _ grown _ => grown
      states := fun _ grown _ => grown
      notes := fun r' grown n => grown.trans (List.prefix_append r'.notes [n]) }
  exact historic.blocks.keeps_step op (List.prefix_refl r.notes)

end EasyTierEdge.Rpc.SchedulerRules
