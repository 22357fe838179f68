/- module: EasyTierEdge/Server/Naming
   source: cloudflare/src/server.ts, handleHandshakeMessage1 and handleHandshakeMessage3
   digest: Whoever gets past message 1 is in a configured network and is not the relay. -/

import EasyTierEdge.Secure.PeerIds
import EasyTierEdge.Server.Refinement

set_option autoImplicit false
set_option relaxedAutoImplicit false

namespace EasyTierEdge.Server.Naming

open Lib.Fallible Lib.FiniteMap Lib.Machine
open Rpc.Core (WasmRpcCore)
open Rpc.Scheduler (RpcPeer)
open Secure.Session Secure.Peer Secure.Connections Secure.PeerIds
open Rooms Sockets Relay Books Ledger Cascade Registries Moves Refinement
open Relay.EasyTierServer

variable {HS : Type} {V : ServerEnv HS} {c : Nat}

/-- A connection that answered message 1 did so for a configured network, under an id that is not
the relay's own. -/
structure Proper (V : ServerEnv HS) (o : Connection) : Prop where
  configured : (V.config.rooms.lookup o.networkName).isSome = true
  other : o.peerId ≠ serverPeerId

theorem Proper.same {o u : Connection} (proper : Proper V o) (same : rpcPeer c u = rpcPeer c o) :
    Proper V u := by
  have name : u.networkName = o.networkName := congrArg RpcPeer.networkName same
  have id : u.peerId = o.peerId := congrArg RpcPeer.peerId same
  refine ⟨?_, ?_⟩
  · rw [name]
    exact proper.configured
  · rw [id]
    exact proper.other

/-- Every connection in phase `msg3` is proper. -/
def AllProper (V : ServerEnv HS) (g : Grid HS) : Prop :=
  ∀ (c : Nat) (o : Connection), g.objects[c]? = some o → o.phase = .msg3 → Proper V o

/-- Connections that answered message 1 are in configured networks. -/
def Networked (V : ServerEnv HS) (g : Grid HS) : Prop :=
  ∀ (c : Nat) (o : Connection), g.objects[c]? = some o → o.phase = .msg3 ∨ o.phase = .ready →
    (V.config.rooms.lookup o.networkName).isSome = true

section Networked

variable {g g' : Grid HS}

private theorem Networked.edit (networked : Networked V g) {f : Connection → Connection}
    (kept : ∀ o, g.objects[c]? = some o → (f o).phase = .msg3 ∨ (f o).phase = .ready →
      (V.config.rooms.lookup (f o).networkName).isSome = true) :
    Networked V { g with objects := g.objects.modify c f } := by
  intro d o' there' phase
  obtain ⟨o, there, same⟩ := modified_object there'
  rw [same] at phase ⊢
  split at phase
  · rename_i own
    subst own
    rw [if_pos rfl]
    exact kept o there phase
  · rename_i other
    rw [if_neg other]
    exact networked d o there phase

private theorem Networked.moved (networked : Networked V g) {e : ServerEvent}
    (move : Move V e g g') :
    Networked V g' := by
  cases move with
  | quiet same =>
    intro d o' there' phase
    obtain ⟨o, there, cards⟩ := same.object there'
    rw [shown Connection.phase cards fun _ => rfl] at phase
    rw [shown Connection.networkName cards fun _ => rfl]
    exact networked d o there phase
  | called => exact networked
  | returned => exact networked
  | passed => exact networked
  | opened =>
    intro d o' there' phase
    rcases opened_object there' with before | ⟨_, rfl⟩
    · exact networked d o' before phase
    · rcases phase with impossible | impossible
      · cases impossible
      · cases impossible
  | identified there msg1 =>
    refine networked.edit fun o found phase => ?_
    rw [there] at found
    cases Option.some.inj found
    have unnamed : ¬ (ConnectionPhase.msg1 = .msg3 ∨ ConnectionPhase.msg1 = .ready) := by decide
    exact absurd (msg1 ▸ phase) unnamed
  | answered there _ configured =>
    refine networked.edit fun o found _ => ?_
    rw [there] at found
    cases Option.some.inj found
    exact configured
  | keyed => exact networked.edit fun o found phase => networked _ o found phase
  | entered => exact networked
  | completed there msg3 =>
    refine networked.edit fun o found _ => ?_
    rw [there] at found
    cases Option.some.inj found
    have before := networked _ _ there (Or.inl msg3)
    exact before
  | @discarded d o =>
    have closed := @Networked.edit _ V d g networked
      (fun o => { o with phase := .closed, handshakeTimer := false }) fun o _ phase => by
        rcases phase with impossible | impossible
        · cases impossible
        · cases impossible
    exact closed
  | @retired d o =>
    have closed := @Networked.edit _ V d g networked (fun o => { o with phase := .closed })
      fun o _ phase => by
        rcases phase with impossible | impossible
        · cases impossible
        · cases impossible
    exact closed
  | @freed d o =>
    exact @Networked.edit _ V d g networked (fun o => { o with handshakeTimer := false })
      fun o found phase => networked _ o found phase
  | armed => exact networked

private theorem distinct_moved (distinct : AllDistinct serverPeerId g.world) {e : ServerEvent}
    (move : Move V e g g') :
    AllDistinct serverPeerId g'.world := by
  have called {i : Nat} {call : Event} (permitted : Permitted V g.world i call) :
      AllDistinct serverPeerId (g.world.step V.secure call) := by
    refine allDistinct_step distinct fun privateKey publicKey id nowMs same => ?_
    subst same
    cases permitted
  have dropped (i : Nat) (nowMs : UInt64) :
      AllDistinct serverPeerId (g.world.step V.secure (.drop i nowMs)) :=
    allDistinct_step distinct fun _ _ _ _ same => by cases same
  cases move with
  | quiet same => exact same.world ▸ distinct
  | called _ permitted => exact called permitted
  | returned _ returned => exact called returned.permitted
  | opened =>
    refine allDistinct_step distinct fun privateKey publicKey id nowMs same => ?_
    cases same
    rfl
  | discarded => exact dropped _ _
  | freed => exact dropped _ _
  | _ => exact distinct

end Networked

section Runs

variable {core : WasmRpcCore}
  (built : WasmRpcCore.new V.config.localPublicKeyBytes V.config.hostname serverPeerId = .ok core)

include built

private theorem run_networked (inputs : Inputs) (hs : List Happening) :
    Networked V (run (step V) (start core inputs) hs).host.ambient := by
  refine run_kept built (fun _ _ _ _ move networked => networked.moved move)
    (fun _ networked => networked) inputs ?_
  intro c o there
  cases there

theorem run_distinct (inputs : Inputs) (hs : List Happening) :
    AllDistinct serverPeerId (run (step V) (start core inputs) hs).host.ambient.world := by
  refine run_kept built (P := fun g => AllDistinct serverPeerId g.world)
    (fun _ _ _ _ move distinct => distinct_moved distinct move) (fun _ distinct => distinct)
    inputs ?_
  intro i p live
  cases live

theorem run_proper (inputs : Inputs) (hs : List Happening) :
    AllProper V (run (step V) (start core inputs) hs).host.ambient := by
  obtain ⟨k, F, sound⟩ := run_sound built inputs hs
  intro c o there msg3
  refine ⟨run_networked built inputs hs c o there (Or.inl msg3), ?_⟩
  obtain ⟨key, ⟨p, live, bound⟩, _, id⟩ := sound.living.answered c o there msg3
  rw [← id]
  exact (run_distinct built inputs hs _ p live).session key bound

end Runs

end EasyTierEdge.Server.Naming
