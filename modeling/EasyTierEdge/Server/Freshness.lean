/- module: EasyTierEdge/Server/Freshness
   source: cloudflare/src/server.ts, close, removeConnection and broadcastRouteUpdate
   digest: A cascade of failing sends ends, and whoever stays ready has had its update. -/

import EasyTierEdge.Rpc.Transactions
import EasyTierEdge.Server.Registries

set_option autoImplicit false
set_option relaxedAutoImplicit false

namespace EasyTierEdge.Server.Freshness

open Lib.Fallible Lib.Machine
open Packet (PacketHeader encryptedFlag)
open Proto (RpcPacket)
open Rpc.Core (WasmRpcCore)
open Rpc.Scheduler (packetTypeRpcResp)
open Rpc.Transactions (ackPacket ackedResponse syncedResponse)
open Secure.Connections (Turn)
open Secure.Peer (aeadTagSize nonceBytes)
open Sockets Relay Ledger Milestones Cascade Handlers Registries
open Relay.EasyTierServer

variable {HS : Type} {V : ServerEnv HS}

/-- Between `s` and `s'` a cascade in the network came to its end. -/
structure CascadeEnds (networkName : String) (s s' : ServerState HS) (news : List Milestone) :
    Prop where
  history : s'.host.ambient.history = s.host.ambient.history ++ news
  complete : s'.host.ambient.cutOff = false
  closedOnce : (closings news).Nodup
  removedOnce : (removals news).Nodup
  removed : ∀ c ∈ closings news, c ∈ removals news
  closed : ∀ c ∈ removals news, Opened s.host.ambient c ∧ ¬ Opened s'.host.ambient c
  fresh : Fresh networkName news s'.host.ambient

private theorem cascadeEnds {joining : Option Nat} {held : List Nat} {k : Nat} {F : List Forward}
    {networkName : String} {s s' : ServerState HS} {news : List Milestone}
    (sound : Sound V joining none held k F s')
    (progress : Progress s.host.ambient news s'.host.ambient)
    (fresh : Fresh networkName news s'.host.ambient) : CascadeEnds networkName s s' news where
  history := progress.history
  complete := sound.living.cutOff
  closedOnce := progress.once.sublist progress.paired
  removedOnce := progress.once
  removed := fun _ member => progress.paired.subset member
  closed := fun c member => ⟨progress.opened c member, progress.closed c member⟩
  fresh := fresh

private theorem returns {α : Type} {op : ServerM HS α} {s : ServerState HS}
    {ok : α → ServerState HS → Prop}
    {err : ServerState HS → Prop} (calm : Calm s.host.ambient.inputs)
    (ensures : Ensures op s ok fun _ s' => err s' ∧ Stopped s) :
    ∃ a s', op s = .ok a s' ∧ ok a s' := by
  cases ran : op s with
  | ok a s' => exact ⟨a, s', rfl, ensures_of_ok ensures ran⟩
  | error e s' => exact absurd calm (ensures_of_error ensures ran).2

section Calls

variable {joining leaving : Option Nat} {held : List Nat} {k : Nat} {F : List Forward}
  {s : ServerState HS} {c : Nat} {o : Connection}

private theorem removeConnection_fresh (sound : Sound V joining (some c) held k F s)
    (there : s.host.ambient.objects[c]? = some o) (ready : o.phase = .ready) :
    Ensures (removeConnection V c) s
      (fun _ s' => Sound V joining none held k F s' ∧
        ∃ news, CascadeEnds o.networkName s s' (.removed c :: news))
      (fun _ s' => Sound V joining none held k F s' ∧ Stopped s) := by
  have opened : o.phase ≠ .closed := by
    rw [ready]
    decide
  have counted := openCount_closing there opened
  have deep := openCount_depth s.host.ambient
  have bound := sound.opened
  have nested := @closeWithin_closes HS V F (s.host.ambient.objects.length + 1) joining (c :: held)
    (openCount (closing c o s.host.ambient)) (by omega)
  have tight : Sound V joining (some c) held (openCount (closing c o s.host.ambient) + 1) F s := by
    rw [counted]
    exact sound.tight
  unfold removeConnection
  rw [ensures_bind, ensures_depth]
  refine (removeWith_ready nested tight there ready).mono ?_ ?_
  · rintro _ s' ⟨sound', news, progress, fresh⟩
    refine ⟨sound'.mono (by omega), news, ?_⟩
    exact cascadeEnds sound' ((Progress.removed there opened).trans progress)
      (fresh.later [.removed c])
  · exact fun _ s' ended => ⟨ended.1.mono (by omega), ended.2⟩

private theorem removeConnection_unready (sound : Sound V joining none held k F s)
    (there : s.host.ambient.objects[c]? = some o) (opened : o.phase ≠ .closed)
    (unready : o.phase ≠ .ready) (alone : joining = none ∨ joining = some c) :
    Ensures (removeConnection V c) s
      (fun _ s' => Progress s.host.ambient [.removed c] s'.host.ambient) (fun _ _ => False) := by
  unfold removeConnection
  rw [ensures_bind, ensures_depth]
  refine (removeWith_unready _ sound there opened unready alone).mono ?_
    fun _ _ impossible => impossible
  rintro _ s' ⟨_, progress⟩
  exact (Progress.removed there opened).trans progress

private theorem broadcastRouteUpdate_fresh (sound : Sound V joining none held k F s)
    (networkName : String) :
    Ensures (broadcastRouteUpdate V networkName none) s
      (fun _ s' => ∃ news, CascadeEnds networkName s s' news)
      (fun _ s' => Sound V joining none held k F s' ∧ Stopped s) := by
  have nested := @closeWithin_closes HS V F _ joining held _ (openCount_depth s.host.ambient)
  unfold broadcastRouteUpdate
  rw [ensures_bind, ensures_depth]
  refine (broadcastWith_sound nested none sound.tight).mono ?_ ?_
  · rintro _ s' ⟨sound', news, progress, fresh⟩
    exact ⟨news, cascadeEnds sound' progress (fresh rfl)⟩
  · exact fun _ s' ended => ⟨ended.1.mono sound.opened, ended.2⟩

end Calls

/-- Every cascade ends. The states are those of runs, and those in which a handler has a connection
half registered or half removed: `joining` is in its room and not ready yet, `leaving` has been
replaced there. -/
theorem cascades_end {core : WasmRpcCore}
    (built : WasmRpcCore.new V.config.localPublicKeyBytes V.config.hostname serverPeerId =
      .ok core) :
    (∀ inputs hs inputs', ∃ k F, Sound V none none [] k F
      (arriving (run (step V) (start core inputs) hs) inputs')) ∧
    ∀ (joining leaving : Option Nat) (held : List Nat) (k : Nat) (F : List Forward)
      (s : ServerState HS), Sound V joining leaving held k F s → Calm s.host.ambient.inputs →
      (∀ (c : Nat) (o : Connection), s.host.ambient.objects[c]? = some o → o.phase = .ready →
        leaving = none ∨ leaving = some c → ∃ s' news, removeConnection V c s = .ok () s' ∧
          CascadeEnds o.networkName s s' (.removed c :: news)) ∧
      (∀ (c : Nat) (o : Connection), s.host.ambient.objects[c]? = some o → o.phase ≠ .closed →
        o.phase ≠ .ready → leaving = none → joining = none ∨ joining = some c →
        ∃ s', removeConnection V c s = .ok () s' ∧
          s'.host.ambient.history = s.host.ambient.history ++ [.removed c]) ∧
      (leaving = none → ∀ networkName, ∃ s' news,
        broadcastRouteUpdate V networkName none s = .ok () s' ∧
          CascadeEnds networkName s s' news) := by
  constructor
  · intro inputs hs inputs'
    obtain ⟨k, F, sound⟩ := run_sound built inputs hs
    exact ⟨k, F, Sound.arriving sound inputs'⟩
  · intro joining leaving held k F s sound calm
    refine ⟨?_, ?_, ?_⟩
    · intro c o there ready leaves
      have leaving' : Sound V joining (some c) held k F s := by
        rcases leaves with rfl | rfl
        · exact sound.leave there ready
        · exact sound
      obtain ⟨_, s', ran, _, news, ended⟩ :=
        returns calm (removeConnection_fresh leaving' there ready)
      exact ⟨s', news, ran, ended⟩
    · rintro c o there opened unready rfl alone
      obtain ⟨_, s', ran, progress⟩ := returns calm
        ((removeConnection_unready sound there opened unready alone).mono (fun _ _ done => done)
          fun _ _ impossible => (impossible.elim : False ∧ Stopped s))
      exact ⟨s', ran, progress.history⟩
    · rintro rfl networkName
      obtain ⟨_, s', ran, news, ended⟩ :=
        returns calm (broadcastRouteUpdate_fresh sound networkName)
      exact ⟨s', news, ran, ended⟩

/-! Three peers are ready, and one is removed while the socket of another one is broken. -/

/-- The state in which the next event is handled. -/
def afterwards (hs : List Happening) : ServerState Turn := arriving (plainRun hs) plainInputs

/-- A peer acknowledges the update that `plainInputs` numbers. -/
def ackFrom (peerId : UInt32) : RpcPacket :=
  { ackPacket with
    fromPeer := peerId
    toPeer := serverPeerId
    descriptor := some ⟨"n", "OspfRouteRpc", "OspfRouteRpc", 1⟩ }

/-- `plainServer` with a codec that knows the acknowledgements of the three peers. -/
def ackServer : ServerEnv Turn :=
  { plainServer with
    rpc.codec := Wire.codec ⟨[ackFrom 5, ackFrom 6, ackFrom 7], [], [ackedResponse], [],
      [syncedResponse], [], []⟩ }

def acks (c : Nat) (peerId : UInt32) (sequence : UInt64) : Happening :=
  let payload := Wire.rpcPacket (ackFrom peerId)
  let header : PacketHeader := ⟨peerId, serverPeerId, packetTypeRpcResp, encryptedFlag, 1, 0,
    UInt32.ofNat payload.length⟩
  ⟨.message c (.binary (Packet.joinHeaderPayload header
    (payload ++ List.replicate aeadTagSize 0 ++ nonceBytes 0 sequence))), plainInputs⟩

/-- Peers 6 and 7 have acknowledged all they were sent, so the next update for them goes out at
once. -/
def ackedRun : List Happening :=
  joins 0 5 ++ joins 1 6 ++ joins 2 7 ++ [acks 2 7 0, acks 1 6 0, acks 1 6 1]

def ackedState : ServerState Turn :=
  arriving (run (step ackServer) (start plainCore plainInputs) ackedRun) brokenInputs

/-- When connection 0 goes, the send to connection 1 fails; it is closed within the broadcast, and
connection 2 is told of both. -/
theorem cascades_end_nested : ∃ s' news,
    removeConnection ackServer 0 ackedState = .ok () s' ∧
      CascadeEnds "n" ackedState s' (.removed 0 :: news) ∧
      news = [.closing 1, .removed 1, .updated 2, .updated 2] := by
  obtain ⟨reached, ended⟩ := @cascades_end Turn ackServer plainCore rfl
  obtain ⟨k, F, sound⟩ := reached plainInputs ackedRun brokenInputs
  have shape : ackedState.host.ambient.objects[0]?.map (fun o => (o.phase, o.networkName)) =
      some (.ready, "n") := by decide +kernel
  obtain ⟨o, there, fields⟩ := Option.map_eq_some_iff.mp shape
  obtain ⟨ready, name⟩ := Prod.ext_iff.mp fields
  obtain ⟨s', news, ran, ends⟩ :=
    (ended none none [] k F _ sound fun _ _ _ => rfl).1 0 o there ready (Or.inl rfl)
  rw [show o.networkName = "n" from name] at ends
  refine ⟨s', news, ran, ends, ?_⟩
  have told : (final (removeConnection ackServer 0 ackedState)).host.ambient.history =
      ackedState.host.ambient.history ++
        [.removed 0, .closing 1, .removed 1, .updated 2, .updated 2] := by
    decide +kernel
  have after : final (removeConnection ackServer 0 ackedState) = s' := congrArg final ran
  rw [after, ends.history] at told
  exact (List.cons.inj (List.append_cancel_left told)).2

/-- The network has been told since the connection was removed from it. -/
def LeavesFresh (s : ServerState Turn) (c : Nat) (o : Connection) : Prop :=
  Fresh o.networkName ((final (removeConnection plainServer c s)).host.ambient.history.drop
    s.host.ambient.history.length) (final (removeConnection plainServer c s)).host.ambient

/-- One peer is ready, the other has answered message 1 only; nobody is told when it goes. -/
theorem removal_untold :
    ¬ ∀ (hs : List Happening) (c : Nat) (o : Connection),
      (afterwards hs).host.ambient.objects[c]? = some o → o.phase ≠ .closed →
        LeavesFresh (afterwards hs) c o := by
  intro claim
  let hs := joins 0 5 ++ knocks 1 6
  have shape : (afterwards hs).host.ambient.objects[1]?.map (fun o => (o.phase, o.networkName)) =
      some (.msg3, "n") := by decide +kernel
  obtain ⟨o, there, fields⟩ := Option.map_eq_some_iff.mp shape
  obtain ⟨msg3, name⟩ := Prod.ext_iff.mp fields
  have opened : o.phase ≠ .closed := by
    rw [show o.phase = .msg3 from msg3]
    decide
  let s' := final (removeConnection plainServer 1 (afterwards hs))
  have stays : s'.host.ambient.objects[0]?.map (fun o => (o.phase, o.networkName)) =
      some (.ready, "n") := by decide +kernel
  obtain ⟨u, there', fields'⟩ := Option.map_eq_some_iff.mp stays
  obtain ⟨ready, name'⟩ := Prod.ext_iff.mp fields'
  have network : u.networkName = o.networkName :=
    (show u.networkName = "n" from name').trans (show o.networkName = "n" from name).symm
  obtain ⟨before, after, split, _, updated⟩ := claim hs 1 o there opened 0 u there' ready network
  have news : s'.host.ambient.history.drop (afterwards hs).host.ambient.history.length =
      [.removed 1] := by decide +kernel
  have member : Milestone.updated 0 ∈ [Milestone.removed 1] := by
    rw [← news]
    exact split ▸ List.mem_append_right before updated
  cases List.mem_singleton.mp member

end EasyTierEdge.Server.Freshness
