/- module: EasyTierEdge/Server/Pinning
   source: cloudflare/wasm/src/secure.rs, confirm_session_public_key; cloudflare/src/server.ts,
     registerConnection
   digest: While an authenticated connection lives, nobody else takes its id with another key. -/

import EasyTierEdge.Secure.LiveSession
import EasyTierEdge.Secure.Related
import EasyTierEdge.Server.Registries

set_option autoImplicit false
set_option relaxedAutoImplicit false

namespace EasyTierEdge.Server.Pinning

open Lib.FiniteMap Lib.Machine
open Packet (Bytes Key)
open Rpc.Core (WasmRpcCore)
open Secure.Session Secure.Peer Secure.Connections Secure.Calls Secure.Steps
open Secure.StoreInvariant Secure.ObjectMoves Secure.Handshake Secure.LiveSession
open Secure.Related (asksFor)
open Rooms Sockets Relay Registries

variable {HS : Type} {E : SecureEnv HS}

/-! One message 3. -/

/-- What a `finish_msg3` call that returned `Ok` found and left. -/
structure Finished (w w' : World HS) (i : Nat) (info : AuthInfo) (p : SecurePeer HS)
    (key : SessionKey) (remotePublicKey : Key) : Prop where
  live : w.peer? i = some p
  bound : p.sessionKey = some key
  sized : keyOfBytes info.remotePublicKey = some remotePublicKey
  agreed : ∃ s, w.store.lookup key = some s ∧
    (s.remotePublicKey = none ∨ s.remotePublicKey = some remotePublicKey)
  left : w'.peer? i = some { p with handshake := none, authenticated := true }
  pinned : PinnedTo w' key remotePublicKey

theorem finished_of_outcome {w : World HS} {i : Nat} {packet : Bytes} {nowMs : UInt64}
    {info : AuthInfo} (ok : w.outcome E (.finishMsg3 i packet nowMs) = .auth (.ok info)) :
    ∃ p key remotePublicKey,
      Finished w (w.step E (.finishMsg3 i packet nowMs)) i info p key remotePublicKey := by
  have ran : w.perform E (.finishMsg3 i packet nowMs) =
      (w.step E (.finishMsg3 i packet nowMs), .auth (.ok info)) := Prod.ext rfl ok
  obtain ⟨p, c, live, finished, after⟩ := finishMsg3_ran ran
  rw [after]
  cases finished with
  | finished header payload decoded turn handshake message proof secret challenge remotePublic
      remotePublicKey key s split sender ready noise parsed echoA echoB given chosen challenged
      verified static sized bound present agreed =>
    refine ⟨p, key, remotePublicKey, live, bound, sized, ⟨s, present, agreed⟩,
      peer?_put_self live _,
      { s with remotePublicKey := some remotePublicKey, lastTouchMs := nowMs }, ?_, rfl⟩
    exact Finmap.lookup_insert _

/-! A whole run. -/

variable (E) in
/-- In this run object `i` completed message 3 with this remote static key. -/
def Completed (es : List Event) (i : Nat) (remotePublicKey : Key) : Prop :=
  ∃ pre packet nowMs post info, es = pre ++ .finishMsg3 i packet nowMs :: post ∧
    (World.after E pre).outcome E (.finishMsg3 i packet nowMs) = .auth (.ok info) ∧
    keyOfBytes info.remotePublicKey = some remotePublicKey

/-- As long as it lives, an object that completed message 3 is authenticated, and its session is
bound to the key of that message. -/
private theorem pinned_of_completed {es : List Event} {i : Nat} {remotePublicKey : Key}
    {p : SecurePeer HS} (completed : Completed E es i remotePublicKey)
    (live : (World.after E es).peer? i = some p) :
    p.authenticated = true ∧ ∃ key, p.sessionKey = some key ∧
      PinnedTo (World.after E es) key remotePublicKey := by
  obtain ⟨pre, packet, nowMs, post, info, rfl, ok, sized⟩ := completed
  obtain ⟨q, key, remotePublicKey', finished⟩ := finished_of_outcome ok
  have same_key : remotePublicKey' = remotePublicKey :=
    Option.some.inj (finished.sized.symm.trans sized)
  subst same_key
  have onward : World.after E (pre ++ .finishMsg3 i packet nowMs :: post) =
      run (World.step E) ((World.after E pre).step E (.finishMsg3 i packet nowMs)) post :=
    run_append (World.step E) World.empty pre _
  rw [onward] at live ⊢
  have consistent := consistent_step E _ (.finishMsg3 i packet nowMs) (consistent_after E pre)
  have held := run_peer (E := E)
    (fun w p => p.authenticated = true ∧ p.sessionKey = some key ∧
      PinnedTo w key remotePublicKey')
    (peer?_lt finished.left) ?_ ?_ post live
  · exact ⟨held.1, key, held.2⟩
  · intro p live
    have same : _ = p := Option.some.inj (finished.left.symm.trans live)
    subst same
    exact ⟨rfl, finished.bound, finished.pinned⟩
  · intro later e p p' live live' how ⟨authenticated, bound, pinned⟩
    have inv : Consistent (run (World.step E) _ later) :=
      run_invariant (fun w e => consistent_step E w e) consistent later
    have same_identity : p'.authenticated = true ∧ p'.sessionKey = some key := by
      rcases how with rfl | ⟨c, acted, rfl, _⟩
      · exact ⟨authenticated, bound⟩
      · obtain ⟨identity, authenticated'⟩ :=
          authenticated_acted acted authenticated (by rw [bound]; rfl)
        exact ⟨authenticated', identity.sessionKey.trans bound⟩
    exact ⟨same_identity.1, same_identity.2,
      pinnedTo_step inv live bound live' same_identity.2 pinned⟩

variable {writing : HS → Prop}

private theorem completed_of_authenticated (turns : TakesTurns E writing) {es : List Event}
    {i : Nat} {p : SecurePeer HS} (live : (World.after E es).peer? i = some p)
    (authenticated : p.authenticated = true) :
    p.sessionKey = asksFor p ∧ ∃ remotePublicKey, Completed E es i remotePublicKey := by
  cases stage_after turns es live with
  | idle _ _ unauthenticated => exact absurd (authenticated.symm.trans unauthenticated) (by simp)
  | reading _ _ _ _ _ _ _ _ unauthenticated =>
    exact absurd (authenticated.symm.trans unauthenticated) (by simp)
  | waiting _ _ _ _ _ _ _ _ _ _ _ _ unauthenticated =>
    exact absurd (authenticated.symm.trans unauthenticated) (by simp)
  | spent _ unauthenticated => exact absurd (authenticated.symm.trans unauthenticated) (by simp)
  | authenticated first second third later history _ _ thirdRan announced bound =>
    have own : asksFor p = some (boundKey first p) := by
      unfold asksFor
      rw [announced.networkName, announced.peerId]
      rfl
    refine ⟨bound.trans own.symm, ?_⟩
    obtain ⟨_, _, _, _, _, _, _, _, _, _, _, _, _, _, _, _, _, info, ok⟩ := thirdRan.verified
    obtain ⟨_, _, remotePublicKey, finished⟩ := finished_of_outcome ok
    refine ⟨remotePublicKey, second.events i first ++ third.between, third.packet, third.nowMs,
      later, info, ?_, ok, finished.sized⟩
    rw [history]
    simp [ThirdCall.events]

variable (E) in
/-- After this run every identity is bound to one key. -/
structure IdentityPinned (es : List Event) : Prop where
  /-- Every authenticated object completed message 3, with one key. -/
  completed : ∀ i p, (World.after E es).peer? i = some p → p.authenticated = true →
    ∃ remotePublicKey, Completed E es i remotePublicKey
  /-- The key of message 3 is the one of the stored session of the identity. -/
  stored : ∀ i p remotePublicKey, (World.after E es).peer? i = some p → p.authenticated = true →
    Completed E es i remotePublicKey → ∃ key s, asksFor p = some key ∧
      (World.after E es).store.lookup key = some s ∧ s.remotePublicKey = some remotePublicKey
  /-- Two objects with one identity completed message 3 with one key. -/
  agree : ∀ i j p q remotePublicKey remotePublicKey', (World.after E es).peer? i = some p →
    p.authenticated = true → (World.after E es).peer? j = some q → q.authenticated = true →
    asksFor q = asksFor p → Completed E es i remotePublicKey → Completed E es j remotePublicKey' →
    remotePublicKey' = remotePublicKey
  /-- Nobody authenticates with another key while an object with the identity lives. -/
  exclusive : ∀ i j p q remotePublicKey packet nowMs info,
    (World.after E es).peer? i = some p → p.authenticated = true →
    Completed E es i remotePublicKey → (World.after E es).peer? j = some q →
    asksFor q = asksFor p →
    (World.after E es).outcome E (.finishMsg3 j packet nowMs) = .auth (.ok info) →
    keyOfBytes info.remotePublicKey = some remotePublicKey

private theorem identityPinned_after (turns : TakesTurns E writing) (es : List Event) :
    IdentityPinned E es where
  completed := fun i p live authenticated =>
    (completed_of_authenticated turns live authenticated).2
  stored := by
    intro i p remotePublicKey live authenticated completed
    obtain ⟨own, _⟩ := completed_of_authenticated turns live authenticated
    obtain ⟨_, key, bound, s, present, recorded⟩ := pinned_of_completed completed live
    exact ⟨key, s, own.symm.trans bound, present, recorded⟩
  agree := by
    intro i j p q remotePublicKey remotePublicKey' live authenticated live' authenticated' same
      completed completed'
    obtain ⟨own, _⟩ := completed_of_authenticated turns live authenticated
    obtain ⟨own', _⟩ := completed_of_authenticated turns live' authenticated'
    obtain ⟨_, key, bound, s, present, recorded⟩ := pinned_of_completed completed live
    obtain ⟨_, key', bound', s', present', recorded'⟩ := pinned_of_completed completed' live'
    have keys : key' = key := by
      have both : some key' = some key := by
        rw [← bound', ← bound, own', own, same]
      exact Option.some.inj both
    subst keys
    have sessions : s' = s := Option.some.inj (present'.symm.trans present)
    subst sessions
    exact Option.some.inj (recorded'.symm.trans recorded)
  exclusive := by
    intro i j p q remotePublicKey packet nowMs info live authenticated completed live' same ok
    obtain ⟨own, _⟩ := completed_of_authenticated turns live authenticated
    obtain ⟨_, key, bound, s, present, recorded⟩ := pinned_of_completed completed live
    obtain ⟨q', key', remotePublicKey', finished⟩ := finished_of_outcome ok
    have same_object : q' = q := Option.some.inj (finished.live.symm.trans live')
    subst same_object
    -- after the call `j` is authenticated, so it was bound to the session of its identity
    have later : (World.after E (es ++ [.finishMsg3 j packet nowMs])).peer? j =
        some { q' with handshake := none, authenticated := true } := by
      rw [after_snoc]
      exact finished.left
    have own' : q'.sessionKey = asksFor q' := (completed_of_authenticated turns later rfl).1
    have keys : key' = key := by
      have both : some key' = some key := by
        rw [← finished.bound, ← bound, own', own, same]
      exact Option.some.inj both
    subst keys
    obtain ⟨s', present', agreed⟩ := finished.agreed
    have sessions : s' = s := Option.some.inj (present'.symm.trans present)
    subst sessions
    rw [finished.sized]
    rcases agreed with none | same_key
    · exact absurd (none.symm.trans recorded) (by simp)
    · exact same_key.symm.trans recorded

/-- In every run of the shared objects every identity is bound to one key. And in every run of the
server, whose objects run so, each registration that adds a peer to the route state finds no key
bound to the id. -/
theorem identity_pinned {V : ServerEnv HS} (turns : TakesTurns V.secure writing) :
    (∀ es, IdentityPinned V.secure es) ∧
      ∀ (core : WasmRpcCore) (inputs : Inputs) (hs : List Happening),
        WasmRpcCore.new V.config.localPublicKeyBytes V.config.hostname serverPeerId = .ok core →
        (∃ es, (run (step V) (start core inputs) hs).host.ambient.world =
          World.after V.secure es) ∧
        ∀ met ∈ (run (step V) (start core inputs) hs).host.ambient.keysMet, met.before = none := by
  refine ⟨identityPinned_after turns, ?_⟩
  intro core inputs hs built
  obtain ⟨_, _, sound⟩ := run_sound built inputs hs
  exact ⟨sound.living.reached, sound.living.keysMet⟩

/-- A client that handshakes, and one that reconnects while its first connection is open. -/
theorem identity_pinned_reconnect :
    IdentityPinned plainEnv (plainHandshake 0 [] (Vector.replicate 32 1) 1_000) ∧
      (∀ met ∈ (plainRun (joins 0 5 ++ joins 1 5)).host.ambient.keysMet, met.before = none) ∧
      (plainRun (joins 0 5 ++ joins 1 5)).host.ambient.keysMet.length = 2 := by
  have all := @identity_pinned Turn _ plainServer plainEnv_takesTurns
  exact ⟨all.1 _, (all.2 plainCore plainInputs (joins 0 5 ++ joins 1 5) rfl).2, by decide +kernel⟩

end EasyTierEdge.Server.Pinning
