/- module: EasyTierEdge/Server/Relaying
   source: cloudflare/src/server.ts, handleReadyPacket; wasm/src/packet.rs, prepare_forward
   digest: Relayed frames stay in the network of their sender, and only their hop count changes. -/

import EasyTierEdge.Framing
import EasyTierEdge.Server.Registries

set_option autoImplicit false
set_option relaxedAutoImplicit false

namespace EasyTierEdge.Server.Relaying

open Lib.Machine
open Packet (Bytes maxForwardHops)
open Rpc.Core (WasmRpcCore)
open Secure.Connections
open Sockets Relay Ledger Cascade Handlers Registries

variable {HS : Type} {V : ServerEnv HS}

/-- The object of the connection has authenticated, and the connection is ready. -/
def Admitted (g : Grid HS) (o : Connection) : Prop :=
  o.phase = .ready ∧ ∃ p, g.world.peer? o.secure = some p ∧ p.authenticated = true

/-- The frames differ in byte 10 only, and that is one larger. -/
def OneHopOn (received forwarded : Bytes) : Prop :=
  forwarded.length = received.length ∧ (∀ i, i ≠ 10 → forwarded[i]? = received[i]?) ∧
    ∃ b, received[10]? = some b ∧ forwarded[10]? = some (b + 1) ∧ (b + 1).toNat = b.toNat + 1

/-- A frame that was handed on while `e` was handled in `g`. -/
structure InsideNetwork (g : Grid HS) (e : ServerEvent) (f : Forward) : Prop where
  event : e = .message f.source (.binary f.received)
  parties : ∃ o u header, g.objects[f.source]? = some o ∧ Admitted g o ∧
    g.objects[f.target]? = some u ∧ Admitted g u ∧ o.networkName = u.networkName ∧
    Packet.parsePacket f.received = .ok header ∧ header.toPeerId = u.peerId ∧
    header.forwardCounter ≤ maxForwardHops
  opaqueData : OneHopOn f.received f.forwarded

private theorem forwardCounter_byte {bytes : Bytes} {h : Packet.PacketHeader}
    (parsed : Packet.parsePacket bytes = .ok h) : bytes[10]? = some h.forwardCounter := by
  have shape := Framing.toBytes_fromBytes (Framing.fromBytes_of_parsePacket parsed)
  rw [← shape]
  rfl

private theorem prepareForward_hop {bytes forwarded : Bytes}
    (done : Packet.prepareForward bytes = .ok forwarded) : OneHopOn bytes forwarded := by
  obtain ⟨h, parsed, near, rfl⟩ := Framing.prepareForward_ok done
  have byte := forwardCounter_byte parsed
  refine ⟨List.length_set, ?_, h.forwardCounter, byte, ?_, Framing.forwardCounter_succ near⟩
  · intro i other
    exact List.getElem?_set_ne (Ne.symm other)
  · exact List.getElem?_set_self (List.getElem?_eq_some_iff.mp byte).1

private theorem authentic_admitted {g : Grid HS} {o : Connection} (ready : o.phase = .ready)
    (authentic : Authentic g o) : Admitted g o := by
  obtain ⟨key, ⟨p, live, authenticated, _⟩, _⟩ := authentic
  exact ⟨ready, p, live, authenticated⟩

private theorem Relayed.inside {g : Grid HS} {c : Nat} {frame : Bytes} {f : Forward}
    (relayed : Relayed g c frame f) : InsideNetwork g (.message c (.binary frame)) f := by
  obtain ⟨o, u, header, there, ready, authentic, there', ready', authentic', network, parsed, id⟩ :=
    relayed.parties
  obtain ⟨h, parsed', near, _⟩ := Framing.prepareForward_ok relayed.rewritten
  have same : h = header := Except.ok.inj (parsed'.symm.trans parsed)
  subst same
  constructor
  · rw [relayed.source, relayed.received]
  · rw [relayed.source, relayed.received]
    exact ⟨o, u, h, there, authentic_admitted ready authentic, there',
      authentic_admitted ready' authentic', network.symm, parsed, id, near⟩
  · rw [relayed.received]
    exact prepareForward_hop relayed.rewritten

/-- Every frame that an event hands on came in that very event, from an authenticated connection
for an authenticated connection of the same network. -/
theorem relayed_inside {core : WasmRpcCore}
    (built : WasmRpcCore.new V.config.localPublicKeyBytes V.config.hostname serverPeerId = .ok core)
    (inputs : Inputs) (hs : List Happening) (h : Happening) :
    ∃ handed, (run (step V) (start core inputs) (hs ++ [h])).host.ambient.forwards =
        (run (step V) (start core inputs) hs).host.ambient.forwards ++ handed ∧
      ∀ f ∈ handed,
        InsideNetwork (run (step V) (start core inputs) hs).host.ambient h.event f := by
  obtain ⟨k, F, sound⟩ := run_sound built inputs hs
  obtain ⟨k', F', c, sound', delivered⟩ := step_sound sound h
  rw [run_snoc, sound'.forwards, sound.forwards]
  rcases delivered with same | ⟨frame, event, same | ⟨f, grown, relayed⟩⟩
  · exact ⟨[], by rw [same, List.append_nil], fun f impossible => by cases impossible⟩
  · exact ⟨[], by rw [same, List.append_nil], fun f impossible => by cases impossible⟩
  · refine ⟨[f], grown, ?_⟩
    intro f' member
    rw [List.mem_singleton.mp member, event]
    have inside := Relayed.inside relayed
    exact ⟨inside.event, inside.parties, inside.opaqueData⟩

/-- Peer 5 sends three bytes to peer 6. -/
def greeting : Happening :=
  ⟨.message 0 (.binary (Packet.joinHeaderPayload ⟨5, 6, 1, 0, 1, 0, 3⟩ [1, 2, 3])), plainInputs⟩

theorem relayed_inside_greeting : ∃ f,
    (plainRun (joins 0 5 ++ joins 1 6 ++ [greeting])).host.ambient.forwards = [f] ∧
      f.target = 1 ∧
      InsideNetwork (plainRun (joins 0 5 ++ joins 1 6)).host.ambient greeting.event f := by
  obtain ⟨handed, grown, inside⟩ := @relayed_inside _ plainServer plainCore rfl plainInputs
    (joins 0 5 ++ joins 1 6) greeting
  have before : (plainRun (joins 0 5 ++ joins 1 6)).host.ambient.forwards = [] :=
    List.eq_nil_of_length_eq_zero (by decide +kernel)
  have targets : (plainRun (joins 0 5 ++ joins 1 6 ++ [greeting])).host.ambient.forwards.map
      Forward.target = [1] := by decide +kernel
  have whole : (plainRun (joins 0 5 ++ joins 1 6 ++ [greeting])).host.ambient.forwards =
    handed := by
    refine grown.trans ?_
    show (plainRun (joins 0 5 ++ joins 1 6)).host.ambient.forwards ++ handed = handed
    rw [before, List.nil_append]
  rw [whole] at targets ⊢
  cases handed with
  | nil => cases targets
  | cons f rest =>
    obtain ⟨target, none⟩ := List.cons.inj targets
    exact ⟨f, congrArg (f :: ·) (List.map_eq_nil_iff.mp none), target, inside f List.mem_cons_self⟩

end EasyTierEdge.Server.Relaying
