/- module: EasyTierEdge/Server/Admission
   source: cloudflare/src/server.ts, cloudflare/wasm/src/secure.rs; peer_center.rs
   digest: Who is ready went through the handshake, and the core knows it by the key it proved. -/

import EasyTierEdge.Server.Chronicle
import EasyTierEdge.Server.Driving

set_option autoImplicit false
set_option relaxedAutoImplicit false

namespace EasyTierEdge.Server.Admission

open Lib.Machine
open Packet (Key keyOfBytes_eq_some)
open Rpc.Core (WasmRpcCore)
open Rpc.RouteMembers (roll)
open Secure.Session Secure.Peer Secure.Connections Secure.Handshake
open Secure.ObjectMoves (Acted PinnedTo step_peer field_of_withoutCopy withoutCopy
  withoutCopy_encrypt withoutCopy_decrypt)
open Rooms Sockets Relay Registries Moves Chronicle Driving

variable {HS : Type}

/-! The network a `SecurePeer` was announced for. -/

section Announcing

variable {E : SecureEnv HS} {i : Nat} {p p' : SecurePeer HS} {es : List Event}

private theorem networkName_acted {w : World HS} {e : Event} {out : Outcome} {c : Ctx HS}
    (acted : Acted E w i p e out c) (held : p.handshake.isSome = true) :
    c.peer.networkName = p.networkName := by
  have copied {p' : SecurePeer HS} (same : withoutCopy p' = withoutCopy p) :
      p'.networkName = p.networkName :=
    field_of_withoutCopy SecurePeer.networkName same fun _ => rfl
  cases acted with
  | readMsg1 packet r ran =>
    cases ran with
    | refused => rfl
    | read _ _ _ _ _ _ idle =>
      have none : p.handshake = none := idle
      rw [none] at held
      cases held
  | buildMsg2 networkSecret draws upsertMs attachMs r ran =>
    cases ran with
    | refused => rfl
    | unselected => rfl
    | unwritten => rfl
    | exhausted => rfl
    | answered => rfl
  | finishMsg3 packet nowMs r ran =>
    cases ran with
    | refused => rfl
    | failed => rfl
    | finished => rfl
  | encrypt packet rotateMs persistMs r ran => exact copied (withoutCopy_encrypt ran)
  | decrypt packet receivedMs persistMs r ran => exact copied (withoutCopy_decrypt ran)

private theorem networkName_kept {later : List Event} (kept : Keeps E i es later)
    (live : (World.after E es).peer? i = some p)
    (live' : (World.after E (es ++ later)).peer? i = some p') :
    p'.networkName = p.networkName := by
  induction later using List.reverseRecOn generalizing p' with
  | nil =>
    rw [List.append_nil, live] at live'
    exact congrArg SecurePeer.networkName (Option.some.inj live').symm
  | append_singleton later e ih =>
    obtain ⟨q, alive, held⟩ := kept later [e] rfl
    have before := ih (fun some_later rest split => kept some_later (rest ++ [e])
      (by rw [split, List.append_assoc])) alive
    rw [← List.append_assoc, after_snoc] at live'
    rcases step_peer live' with ⟨new, _⟩ | ⟨q', alive', rest⟩
    · rw [new] at alive
      have absent : (World.after E (es ++ later)).peer? (World.after E (es ++ later)).peers.length =
          none := by simp [World.peer?]
      rw [absent] at alive
      cases alive
    · rw [alive] at alive'
      cases Option.some.inj alive'
      rcases rest with rfl | ⟨c, acted, rfl, _⟩
      · exact before
      · exact (networkName_acted acted held).trans before

private theorem announced_network {first : FirstCall HS} {later : List Event} (ran : first.Ran E i)
    (kept : Keeps E i (first.events i) later)
    (live : (World.after E (first.events i ++ later)).peer? i = some p) :
    p.networkName = some first.message.aNetworkName := by
  obtain ⟨q, alive, _, name⟩ := @Secure.LiveSession.readMsg1_returned _ E _ _ i first.packet _
    (Prod.ext rfl ran.returned)
  have read : (World.after E (first.events i)).peer? i = some q := by
    rw [FirstCall.events, after_snoc]
    exact alive
  exact (networkName_kept kept read live).trans name

end Announcing

/-! Connections that are ready. -/

/-- The calls `es` contain a whole handshake of `SecurePeer` `i`: message 2 was built with the
secret that is configured for the network of message 1, and message 3 proved that the peer
knows it. -/
structure Shaken (V : ServerEnv HS) (es : List Event) (i : Nat) (first : FirstCall HS)
    (second : SecondCall HS) (third : ThirdCall) : Prop where
  history : ∃ later, es = third.events i first second ++ later
  announced : first.Ran V.secure i
  answered : second.Ran V.secure i first
  finished : third.Ran V.secure i first second
  configured : V.config.rooms.lookup first.message.aNetworkName = some second.networkSecret

/-- In that handshake the peer announced the id and the network the connection goes by, and `key`
is its static key. -/
structure Admitted (V : ServerEnv HS) (es : List Event) (o : Connection) (key : Key)
    (first : FirstCall HS) (second : SecondCall HS) (third : ThirdCall) : Prop extends
    Shaken V es o.secure first second third where
  peerId : first.header.fromPeerId = o.peerId
  networkName : first.message.aNetworkName = o.networkName
  own : third.remotePublicKey = key
  shown : key.toList = o.remotePublicKey

section Admitting

variable {V : ServerEnv HS} {es : List Event} {o : Connection} {writing : HS → Prop}

private theorem configured_secret {i : Nat} {first : FirstCall HS} {second : SecondCall HS}
    {later : List Event} (history : es = second.events i first ++ later)
    (lawful : AllSteps (World.step V.secure) (fun _ => Lawful V) World.empty es)
    (ran : first.Ran V.secure i) (answered : second.Ran V.secure i first) :
    V.config.rooms.lookup first.message.aNetworkName = some second.networkSecret := by
  have called : Lawful V (World.after V.secure (first.events i ++ second.between))
      (.buildMsg2 i second.networkSecret second.draws second.upsertMs second.attachMs) := by
    refine lawful (first.events i ++ second.between) _ later ?_
    rw [history, SecondCall.events, List.append_assoc _ [_], List.singleton_append]
  cases called with
  | permitted permitted =>
    cases permitted with
    | buildMsg2 live name configured =>
      rw [announced_network ran answered.kept live] at name
      cases name
      exact configured

theorem authenticated_shaken (turns : TakesTurns V.secure writing) {earlier later : List Event}
    {i : Nat} {p : SecurePeer HS} (history : es = earlier ++ later)
    (lawful : AllSteps (World.step V.secure) (fun _ => Lawful V) World.empty es)
    (live : (World.after V.secure earlier).peer? i = some p)
    (authenticated : p.authenticated = true) :
    ∃ first second third, Shaken V es i first second third ∧
      p.sessionKey = some (boundKey first p) ∧
      PinnedTo (World.after V.secure earlier) (boundKey first p) third.remotePublicKey := by
  cases stage_after turns earlier live with
  | idle _ _ unauthenticated => simp [authenticated] at unauthenticated
  | reading _ _ _ _ _ _ _ _ unauthenticated => simp [authenticated] at unauthenticated
  | waiting _ _ _ _ _ _ _ _ _ _ _ _ unauthenticated => simp [authenticated] at unauthenticated
  | spent _ unauthenticated => simp [authenticated] at unauthenticated
  | authenticated first second third rest earlier_eq firstRan secondRan thirdRan announced bound
      pinned =>
    have through : es = second.events i first ++
        (third.between ++ [.finishMsg3 i third.packet third.nowMs] ++ rest ++ later) := by
      rw [history, earlier_eq, ThirdCall.events]
      simp [List.append_assoc]
    refine ⟨first, second, third, ⟨⟨rest ++ later, ?_⟩, firstRan, secondRan, thirdRan, ?_⟩, bound,
      pinned⟩
    · rw [history, earlier_eq, List.append_assoc]
    · exact configured_secret through lawful firstRan secondRan

theorem admitted_of_proved (turns : TakesTurns V.secure writing) (proved : Proved V.secure es o)
    (lawful : AllSteps (World.step V.secure) (fun _ => Lawful V) World.empty es) :
    ∃ key first second third, Admitted V es o key first second third := by
  obtain ⟨earlier, rest, split, key, own, ⟨p, live, authenticated, bound⟩, name, id, pinned,
    sized⟩ :=
    proved
  obtain ⟨first, second, third, shaken, bound', pinned'⟩ :=
    authenticated_shaken turns split lawful live authenticated
  rw [bound] at bound'
  cases Option.some.inj bound'
  have same : third.remotePublicKey = own := by
    obtain ⟨s, present, recorded⟩ := pinned
    obtain ⟨s', present', recorded'⟩ := pinned'
    rw [present] at present'
    cases Option.some.inj present'
    exact Option.some.inj (recorded'.symm.trans recorded)
  exact ⟨own, first, second, third, shaken, id, name, same, keyOfBytes_eq_some.mp sized⟩

end Admitting

/-- In every state that the server reaches, each ready connection went through one whole handshake
on its own `SecurePeer`, under the secret that is configured for its network and as the peer it
goes by, and the core's routes have that peer under the static key of that handshake. -/
theorem ready_admitted {V : ServerEnv HS} {core : WasmRpcCore} {writing : HS → Prop}
    (turns : TakesTurns V.secure writing)
    (built : WasmRpcCore.new V.config.localPublicKeyBytes V.config.hostname serverPeerId = .ok core)
    (inputs : Inputs) (hs : List Happening) :
    ∃ es, AllSteps (World.step V.secure) (fun _ => Lawful V) World.empty es ∧
      World.after V.secure es = (run (step V) (start core inputs) hs).host.ambient.world ∧
      ∀ (c : Nat) (o : Connection),
        (run (step V) (start core inputs) hs).host.ambient.objects[c]? = some o →
        o.phase = .ready →
        ∃ key first second third, Admitted V es o key first second third ∧
          (roll (run (step V) (start core inputs) hs).host.core.routes o.networkName o.peerId).2 =
            some key := by
  obtain ⟨es, recorded⟩ := run_recorded built inputs hs
  refine ⟨es, recorded.lawful, recorded.world, fun c o there ready => ?_⟩
  obtain ⟨key, first, second, third, admitted⟩ :=
    admitted_of_proved turns ((recorded.records c o there).ready ready) recorded.lawful
  refine ⟨key, first, second, third, admitted, ?_⟩
  have keyed := (run_steered built inputs hs).keyed c o there ready
  rw [← admitted.shown] at keyed
  obtain ⟨key', found, same⟩ := Option.map_eq_some_iff.mp keyed
  rw [found, Vector.toList_inj.mp same]

theorem ready_admitted_two : ∃ es o key first second third,
    (plainRun (joins 0 5 ++ joins 1 6)).host.ambient.objects[1]? = some o ∧ o.peerId = 6 ∧
      Admitted plainServer es o key first second third ∧
      (roll (plainRun (joins 0 5 ++ joins 1 6)).host.core.routes o.networkName o.peerId).2 =
        some key := by
  have joined : ((plainRun (joins 0 5 ++ joins 1 6)).host.ambient.objects[1]?).any
      (fun o => o.phase = .ready ∧ o.peerId = 6) = true := by
    decide +kernel
  obtain ⟨o, there, standing⟩ := (Option.any_eq_true _ _).mp joined
  obtain ⟨ready, id⟩ := of_decide_eq_true standing
  obtain ⟨es, _, _, admitted⟩ := @ready_admitted Turn plainServer plainCore _ plainEnv_takesTurns
    rfl plainInputs (joins 0 5 ++ joins 1 6)
  obtain ⟨key, first, second, third, admits, known⟩ := admitted 1 o there ready
  exact ⟨es, o, key, first, second, third, there, id, admits, known⟩

end EasyTierEdge.Server.Admission
