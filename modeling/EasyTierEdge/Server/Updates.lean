/- module: EasyTierEdge/Server/Updates
   source: cloudflare/src/server.ts, cloudflare/src/core/rpc.ts, cloudflare/wasm/src/rpc.rs
   digest: Every ready connection can be updated, and updates tell the truth about its network. -/

import EasyTierEdge.Rpc.Updates
import EasyTierEdge.Server.Footprint
import EasyTierEdge.Server.Upkeep

set_option autoImplicit false
set_option relaxedAutoImplicit false

namespace EasyTierEdge.Server.Updates

open Lib.AscendingMap Lib.Fallible Lib.FiniteMap Lib.Machine
open Rpc.Core (WasmRpcCore)
open Rpc.CoreRuns (CoreCall)
open Rpc.CoreRoutes (Made during)
open Rpc.Introductions (presented_run presented_new)
open Rpc.RouteMembers (Member roll)
open Rpc.RouteRuns (RouteCall)
open Rpc.Routes (RouteState RouteGroupData Host maxLegacyBitmapPeers)
open Rpc.TopologyKnown (members)
open Rpc.Updates
open Secure.Session Secure.Peer Secure.Connections
open Rooms Sockets Relay Books Ledger Cascade Handlers Registries Naming Driving Upkeep Footprint

variable {HS : Type} {V : ServerEnv HS} {core : WasmRpcCore}

private theorem group_of_member {s : RouteState} {network : String} {p : UInt32}
    (member : Member s network p) :
    ∃ g, s.groups.lookup network = some g ∧ p ∈ g.peers.keys := by
  rw [Member, roll] at member
  cases found : s.groups.lookup network with
  | none =>
    rw [found] at member
    cases member
  | some g =>
    rw [found] at member
    exact ⟨g, rfl, (AscMap.mem_keys _).mpr member⟩

private theorem made_serving {c : WasmRpcCore} {host : Host} {call : CoreCall}
    {calls : List RouteCall}
    (asked : Asked V c.routes call) (made : Made c call calls) (network : String) :
    AllSteps (Rpc.RouteRuns.step V.rpc.codec) (fun _ s e => Rpc.ConnCaches.MembersOnly network s e ∧
      Rpc.ConnCaches.RelayKept network serverPeerId s e) c.routes (during host calls) := by
  have one {call : RouteCall} {s : RouteState}
      (members : Rpc.ConnCaches.MembersOnly network s ⟨host, call⟩)
      (relay : Rpc.ConnCaches.RelayKept network serverPeerId s ⟨host, call⟩) :
      AllSteps (Rpc.RouteRuns.step V.rpc.codec) (fun _ s e =>
        Rpc.ConnCaches.MembersOnly network s e ∧
          Rpc.ConnCaches.RelayKept network serverPeerId s e) s (during host [call]) :=
    AllSteps.snoc .nil ⟨members, relay⟩
  -- calls of another kind meet both conditions as they stand
  have quiet (s : RouteState) {calls : List RouteCall}
      (other : ∀ call ∈ calls, (∀ n t sid init full,
        call ≠ .buildSyncRouteInfoRequest n t sid init full) ∧ ∀ n p, call ≠ .removePeer n p) :
      AllSteps (Rpc.RouteRuns.step V.rpc.codec) (fun _ s e =>
        Rpc.ConnCaches.MembersOnly network s e ∧
          Rpc.ConnCaches.RelayKept network serverPeerId s e) s (during host calls) := by
    intro pre e post split
    have listed : e ∈ during host calls := split ▸ by simp
    obtain ⟨call, member, rfl⟩ := List.mem_map.mp listed
    exact ⟨fun t sid init full same => absurd same ((other call member).1 _ _ _ _ _),
      fun same => absurd same ((other call member).2 _ _)⟩
  cases made with
  | idle => exact .nil
  | joined some_of =>
    refine quiet _ fun call member => ?_
    have own := some_of.subset member
    simp only [Rpc.CoreMoves.joining, List.mem_cons, List.not_mem_nil, or_false] at own
    rcases own with rfl | rfl | rfl
    · exact ⟨by simp, by simp⟩
    · exact ⟨by simp, by simp⟩
    · exact ⟨by simp, by simp⟩
  | left =>
    cases asked with
    | removePeer member =>
      refine one (fun _ _ _ _ impossible => by cases impossible) fun same => ?_
      cases same
      exact group_of_member member
  | synced => exact quiet _ (by simp)
  | acknowledged => exact quiet _ (by simp)
  | built =>
    cases asked with
    | buildRouteUpdate member =>
      refine one (fun t sid init full same => ?_) fun impossible => by cases impossible
      cases same
      exact group_of_member member

section Runs

variable (built : WasmRpcCore.new V.config.localPublicKeyBytes V.config.hostname serverPeerId =
  .ok core) (inputs : Inputs) (hs : List Happening)

include built

private theorem ready_other {c : Nat} {o : Connection}
    (there : (run (step V) (start core inputs) hs).host.ambient.objects[c]? = some o)
    (ready : o.phase = .ready) : o.peerId ≠ serverPeerId := by
  obtain ⟨k, F, sound⟩ := run_sound built inputs hs
  obtain ⟨key, ⟨p, live, _, bound⟩, _, id⟩ := sound.registered.authentic c o there (Or.inl ready)
  rw [← id]
  exact (run_distinct built inputs hs _ p live).session key bound

private theorem member_iff_served (network : String) (p : UInt32) :
    Member (run (step V) (start core inputs) hs).host.core.routes network p ↔
      Served (run (step V) (start core inputs) hs) network p := by
  obtain ⟨k, F, sound⟩ := run_sound built inputs hs
  have agree := Sound.agree sound
  constructor
  · intro member
    obtain ⟨c, found⟩ := Option.isSome_iff_exists.mp ((agree.routes network p).mp member)
    obtain ⟨_, o, there, ready, name, id⟩ := agree.rooms network p c found
    exact ⟨c, o, there, ready, name, id⟩
  · rintro ⟨c, o, there, ready, rfl, rfl⟩
    refine (agree.routes o.networkName o.peerId).mpr ?_
    rw [agree.ready c o there ready]
    rfl

private theorem members_few {network : String} {g : RouteGroupData}
    (group :
      (run (step V) (start core inputs) hs).host.core.routes.groups.lookup network = some g) :
    g.peers.keys.length ≤ maxConnections := by
  obtain ⟨k, F, sound⟩ := run_sound built inputs hs
  have agree := Sound.agree sound
  have fit := run_fit built inputs hs
  have same (p : UInt32) := member_iff_served built inputs hs network p
  generalize run (step V) (start core inputs) hs = s at agree fit group same
  have place (p : UInt32) (listed : p ∈ g.peers.keys) : ∃ c, c ∈ s.host.ambient.connections ∧
      s.host.ambient.rooms.get network p = some c := by
    have inside : Member s.host.core.routes network p := by
      rw [Member, roll, group]
      exact (AscMap.mem_keys _).mp listed
    obtain ⟨c, o, there, ready, rfl, rfl⟩ := (same p).mp inside
    have found := agree.ready c o there ready
    exact ⟨c, (agree.rooms _ _ c found).1, found⟩
  -- every member has a connection of its own
  have own : (g.peers.keys.map fun p => s.host.ambient.rooms.get network p).Nodup := by
    refine List.Nodup.map_on ?_ g.peers.keys_nodup
    intro p first q second equal
    obtain ⟨c, _, found⟩ := place p first
    obtain ⟨_, o, there, _, _, id⟩ := agree.rooms network p c found
    obtain ⟨_, o', there', _, _, id'⟩ := agree.rooms network q c (equal.symm.trans found)
    rw [there] at there'
    cases Option.some.inj there'
    exact id.symm.trans id'
  have inside : (g.peers.keys.map fun p => s.host.ambient.rooms.get network p) ⊆
      s.host.ambient.connections.map some := by
    intro x listed
    obtain ⟨p, member, rfl⟩ := List.mem_map.mp listed
    obtain ⟨c, connected, found⟩ := place p member
    rw [found]
    exact List.mem_map_of_mem connected
  have bound := (own.subperm inside).length_le
  rw [List.length_map, List.length_map] at bound
  exact bound.trans fit.few

/-- Between two events, a network with members is settled. -/
private theorem served_settled {network : String} {t : UInt32}
    (served : Served (run (step V) (start core inputs) hs) network t) :
    ∃ g, Settled core (run (step V) (start core inputs) hs).host.core network g ∧
      t ∈ g.peers.keys := by
  obtain ⟨asked, same⟩ := (run_steered built inputs hs).driven
  generalize (run (step V) (start core inputs) hs).host.calls = es at asked same
  have member := (member_iff_served built inputs hs network t).mpr served
  have nobody (p : UInt32) := member_iff_served built inputs hs network p
  have other {c : Nat} {o : Connection} := @ready_other _ _ _ built inputs hs c o
  generalize run (step V) (start core inputs) hs = s at member same nobody other served
  have presented := @presented_run V.rpc core _ _ _ built es
  obtain ⟨_, _, _, _, fresh, _⟩ := presented_new built
  have serving : AllSteps (Rpc.CoreRuns.step V.rpc) (fun _ c e => ∀ calls, Made c e.call calls →
      AllSteps (Rpc.RouteRuns.step V.rpc.codec) (fun _ s e =>
        Rpc.ConnCaches.MembersOnly network s e ∧
          Rpc.ConnCaches.RelayKept network serverPeerId s e) c.routes (during e.host calls))
          core es :=
    asked.mono fun _ _ _ asked _ made => made_serving asked made network
  obtain ⟨events, served_all, reached⟩ := Rpc.CoreRoutes.routes_run serving
  rw [fresh] at served_all reached
  rw [same] at presented reached
  obtain ⟨g, group, listed⟩ := group_of_member member
  have relay : s.host.core.routes.myPeerId = serverPeerId := by
    rw [presented.fixtures.myPeerId, fresh]
    rfl
  obtain ⟨identity, current⟩ := Rpc.ConnCaches.current_run served_all g (reached ▸ group)
  rw [← relay] at identity current
  refine ⟨g, ⟨group, identity, current, presented, fun inside => ?_⟩, listed⟩
  have relayed : Member s.host.core.routes network s.host.core.routes.myPeerId := by
    rw [Member, roll, group]
    exact (AscMap.mem_keys _).mp inside
  obtain ⟨c, o, there, ready, _, id⟩ := (nobody _).mp relayed
  exact other there ready (id.trans relay)

end Runs

/-- A network as the connections and the configuration have it. -/
def serverView (V : ServerEnv HS) (s : ServerState HS) (network : String) : View where
  relay := serverPeerId
  inside := Served s network
  introduces info := info.peerId = serverPeerId ∧ info.hostname = some V.config.hostname ∧
    info.noiseStaticPubkey = V.config.localPublicKeyBytes ∧ info.version = 3
  published := Rpc.RouteIdentity.infoAt s.host.core.routes network
  key := boundKey s.host.core.routes network

/-- Every update that can be asked for while a connection is ready tells it the truth about its
network, and only a failed draw of a transaction id refuses one: no network gets too large for the
bitmap form. -/
def UpdatesTruthful (V : ServerEnv HS) (s : ServerState HS) : Prop :=
  ∀ network t, Served s network t → ∀ host serverSessionId forceFull nowMs,
    Ensures (WasmRpcCore.buildRouteUpdate V.rpc host network t serverSessionId forceFull nowMs)
      s.host.core
      (fun payload _ => ∃ transactionId u, (Truthful (serverView V s network) t forceFull u ∧
          u.payload = V.rpc.codec.encodeSyncRouteInfoRequest u.request) ∧
        payload = V.rpc.codec.encodeRpcPacket
          (updatePacket V.rpc serverPeerId network t transactionId u))
      (fun e _ => ∃ routes, WasmRpcCore.drawTransactionId host
        { s.host.core.cleanRpcState nowMs with routes } network t 16 0 = .error e)

theorem updates_truthful (built : WasmRpcCore.new V.config.localPublicKeyBytes V.config.hostname
      serverPeerId = .ok core) (inputs : Inputs) (hs : List Happening) :
    UpdatesTruthful V (run (step V) (start core inputs) hs) := by
  intro network t served host serverSessionId forceFull nowMs
  obtain ⟨g, settled, listed⟩ := served_settled built inputs hs served
  have few := members_few built inputs hs settled.group
  have same := member_iff_served built inputs hs network
  generalize run (step V) (start core inputs) hs = s at settled few same served ⊢
  obtain ⟨_, publicKey, hostname, identified, fresh, _⟩ := presented_new built
  have fixtures := settled.presented.fixtures
  have relay : s.host.core.routes.myPeerId = serverPeerId := by
    rw [fixtures.myPeerId, fresh]
    rfl
  have small : (members g s.host.core.routes.myPeerId).length ≤ maxLegacyBitmapPeers := by
    have inside : members g s.host.core.routes.myPeerId ⊆
        s.host.core.routes.myPeerId :: g.peers.keys := by
      intro q listed
      exact List.mem_cons.mpr (mem_members.mp listed)
    have once : (members g s.host.core.routes.myPeerId).Nodup := AscMap.keys_nodup _
    have bound := (once.subperm inside).length_le
    rw [List.length_cons] at bound
    have limits : maxConnections + 1 ≤ maxLegacyBitmapPeers := by decide
    omega
  refine (settled.buildRouteUpdate listed small serverSessionId forceFull nowMs).mono ?_
    fun _ _ failed => failed
  rintro payload _ ⟨transactionId, u, ⟨truthful, encoded⟩, sent⟩
  refine ⟨transactionId, u, ⟨?_, encoded⟩, ?_⟩
  · refine truthful.mono relay.symm (fun q => (same q).symm) ?_ rfl ?_
    · rintro info ⟨host, rfl⟩
      refine ⟨relay, congrArg some ?_, ?_, rfl⟩
      · exact fixtures.hostname.trans hostname
      · exact fixtures.publicKey.trans publicKey
    · funext q
      show boundKey _ network q = (roll _ network q).2
      rw [boundKey, roll]
      cases s.host.core.routes.groups.lookup network with
      | none => rfl
      | some g => rfl
  · rw [sent, fixtures.serverPeerId, identified]

theorem updates_truthful_two :
    UpdatesTruthful plainServer (plainRun (joins 0 5 ++ joins 1 6)) ∧
      Member (plainRun (joins 0 5 ++ joins 1 6)).host.core.routes "n" 6 :=
  ⟨@updates_truthful Turn plainServer plainCore rfl plainInputs (joins 0 5 ++ joins 1 6), by
    unfold Member
    decide +kernel⟩

end EasyTierEdge.Server.Updates
