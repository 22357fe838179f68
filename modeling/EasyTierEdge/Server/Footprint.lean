/- module: EasyTierEdge/Server/Footprint
   source: cloudflare/src/server.ts, cloudflare/src/core/rpc.ts, cloudflare/wasm/src/rpc.rs
   digest: Whom the records of the relay are about. -/

import EasyTierEdge.Rpc.Residue
import EasyTierEdge.Server.Driving

set_option autoImplicit false
set_option relaxedAutoImplicit false

namespace EasyTierEdge.Server.Footprint

open Lib.FiniteMap Lib.Machine
open Rpc.Core (WasmRpcCore)
open Rpc.CoreRuns (CoreCall CoreEvent)
open Rpc.RouteMembers (Member)
open Rpc.Residue
open Secure.Session Secure.Peer Secure.Connections
open Rooms Sockets Relay Registries Driving

variable {HS : Type} {V : ServerEnv HS} {core : WasmRpcCore}

private theorem Asked.aboutMember {c : WasmRpcCore} {call : CoreCall}
    (asked : Asked V c.routes call) :
    AboutMember c call := by
  cases asked with
  | addPeer => exact trivial
  | cleanExpired => exact trivial
  | removePeer member => exact member
  | handleRequest member => exact member
  | handleResponse member => exact member
  | buildRouteUpdate member => exact member

private theorem known_configured
    (built : WasmRpcCore.new V.config.localPublicKeyBytes V.config.hostname
      serverPeerId = .ok core) {es : List CoreEvent}
    (asked : AllSteps (Rpc.CoreRuns.step V.rpc) (fun _ c e => Asked V c.routes e.call) core es)
    {network : String} (known : Known (run (Rpc.CoreRuns.step V.rpc) core es) network) :
    (V.config.rooms.lookup network).isSome = true := by
  induction es using List.reverseRecOn with
  | nil => exact absurd known (new_unknown built)
  | append_singleton es e ih =>
    have ask := asked.last
    obtain ⟨host, call⟩ := e
    rw [run_snoc] at known
    rcases step_known _ _ known with before | own
    · exact ih asked.init before
    · dsimp only at own ask
      have member {p : UInt32} (member : Member (run (Rpc.CoreRuns.step V.rpc) core es).routes
          network p) : (V.config.rooms.lookup network).isSome = true :=
        ih asked.init (known_of_member member)
      cases ask with
      | addPeer configured =>
        cases own
        exact configured
      | cleanExpired => cases own
      | removePeer held => cases own; exact member held
      | handleRequest held => cases own; exact member held
      | handleResponse held => cases own; exact member held
      | buildRouteUpdate held => cases own; exact member held

/-- There is a ready connection of this peer. -/
def Served (s : ServerState HS) (network : String) (p : UInt32) : Prop :=
  ∃ (c : Nat) (o : Connection), s.host.ambient.objects[c]? = some o ∧ o.phase = .ready ∧
    o.networkName = network ∧ o.peerId = p

/-- What the core records about a peer, as `Held` lists it, and the entries of the scheduler are
about peers with a ready connection, and the networks of the core are configured ones. -/
structure Tidy (V : ServerEnv HS) (s : ServerState HS) : Prop where
  held : ∀ network p, Held s.host.core network p → Served s network p
  scheduled : ∀ key state, s.routeSyncStates.lookup key = some state → Served s key.1 key.2
  known : ∀ network, Known s.host.core network → (V.config.rooms.lookup network).isSome = true

/-- In every run, between any two events, these records are about ready connections and configured
networks. -/
theorem relay_tidy (built : WasmRpcCore.new V.config.localPublicKeyBytes V.config.hostname
      serverPeerId = .ok core) (inputs : Inputs) (hs : List Happening) :
    Tidy V (run (step V) (start core inputs) hs) := by
  obtain ⟨k, F, sound⟩ := run_sound built inputs hs
  have agree := Sound.agree sound
  obtain ⟨asked, same⟩ := (run_steered built inputs hs).driven
  generalize (run (step V) (start core inputs) hs).host.calls = es at asked same
  have about : AllSteps (Rpc.CoreRuns.step V.rpc) (fun _ c e => AboutMember c e.call) core es :=
    asked.mono fun _ _ _ asked => Asked.aboutMember asked
  constructor
  · intro network p held
    rw [← same] at held
    have member := held_members built about held
    rw [same] at member
    obtain ⟨c, found⟩ := Option.isSome_iff_exists.mp ((agree.routes network p).mp member)
    obtain ⟨_, o, there, ready, name, id⟩ := agree.rooms network p c found
    exact ⟨c, o, there, ready, name, id⟩
  · intro key state found
    obtain ⟨c, o, there, ready, _, own, _⟩ := agree.states key state found
    exact ⟨c, o, there, ready, by rw [own], by rw [own]⟩
  · intro network known
    rw [← same] at known
    exact known_configured built asked known

theorem relay_tidy_two :
    Tidy plainServer (plainRun (joins 0 5 ++ joins 1 6)) ∧
      Held (plainRun (joins 0 5 ++ joins 1 6)).host.core "n" 6 :=
  ⟨@relay_tidy Turn plainServer plainCore rfl plainInputs (joins 0 5 ++ joins 1 6),
    .remembered (.initiator (by decide +kernel))⟩

end EasyTierEdge.Server.Footprint
