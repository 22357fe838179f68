/- module: EasyTierEdge/Secure/Announcements
   source: cloudflare/wasm/src/secure.rs, read_msg1 and finish_msg3
   digest: What the objects tell the server of their peers is complete. -/

import EasyTierEdge.Secure.ObjectMoves

set_option autoImplicit false
set_option relaxedAutoImplicit false

namespace EasyTierEdge.Secure.Announcements

open Lib.Fallible Lib.FiniteMap Lib.Machine
open Packet (Bytes)
open Session Peer Connections Calls Steps ObjectMoves

variable {HS : Type} {E : SecureEnv HS}

/-- An object that knows its peer knows it by an id and by a name. -/
def Introduced (p : SecurePeer HS) : Prop :=
  ∀ peerId, p.peerId = some peerId → peerId ≠ 0 ∧ ∃ name, p.networkName = some name ∧ name ≠ ""

/-- What a call tells of the peer, if it does. -/
def Complete : Outcome → Prop
  | .msg1 (.ok info) =>
    info.peerId ≠ 0 ∧ info.networkName ≠ "" ∧ info.clientEncryptionAlgorithm ≠ ""
  | .auth (.ok info) =>
    info.peerId ≠ 0 ∧ info.networkName ≠ "" ∧ info.remotePublicKey.length = 32 ∧
      info.authLevel = "NetworkSecretConfirmed"
  | _ => True

section Objects

variable {p p' : SecurePeer HS}

private theorem Introduced.same (introduced : Introduced p) (peer : p'.peerId = p.peerId)
    (name : p'.networkName = p.networkName) : Introduced p' := by
  unfold Introduced
  rw [peer, name]
  exact introduced

private theorem Introduced.copied (introduced : Introduced p)
    (same : withoutCopy p' = withoutCopy p) :
    Introduced p' :=
  introduced.same (field_of_withoutCopy SecurePeer.peerId same fun _ => rfl)
    (field_of_withoutCopy SecurePeer.networkName same fun _ => rfl)

private theorem introduced_of_unused (unused : Unused p) : Introduced p := by
  intro peerId named
  rw [unused.peerId] at named
  cases named

private theorem validateAlgorithm_ne_empty {value : String}
    (valid : validateAlgorithm value = .ok ()) :
    value ≠ "" := by
  rintro rfl
  cases valid

private theorem readMsg1_introduced {packet : Bytes} {c : Ctx HS} (introduced : Introduced c.peer) :
    Ensures (Peer.readMsg1 E packet) c
      (fun info c' => Complete (.msg1 (.ok info)) ∧ Introduced c'.peer)
      (fun _ c' => Introduced c'.peer) := by
  simp only [Peer.readMsg1, ensures_bind, ensures_getPeer, ensures_ite, ensures_throw,
    ensures_pure, ensures_orThrow, ensures_orDisplay, ensures_setPeer]
  refine ⟨fun _ => introduced, fun _ => ⟨?_, fun _ _ => introduced⟩⟩
  intro split _
  refine ⟨fun _ => introduced,
    fun _ => ⟨fun _ => introduced, fun other => ⟨?_, fun _ _ => introduced⟩⟩⟩
  intro responder _
  refine ⟨?_, fun _ _ => introduced⟩
  intro decoded _
  refine ⟨?_, fun _ _ => introduced⟩
  intro message _
  refine ⟨fun _ => introduced,
    fun _ => ⟨fun _ => introduced, fun sized => ⟨?_, fun _ _ => introduced⟩⟩⟩
  intro _ valid
  have filled : message.aNetworkName ≠ "" := by
    intro empty
    exact sized (Or.inl (String.isEmpty_iff.mpr empty))
  have nonzero : split.1.fromPeerId ≠ 0 := (not_or.mp other).1
  refine ⟨⟨nonzero, filled, validateAlgorithm_ne_empty valid⟩, ?_⟩
  intro peerId named
  cases Option.some.inj named
  exact ⟨nonzero, message.aNetworkName, rfl, filled⟩

private theorem readMsg1_complete {packet : Bytes} {c : Ctx HS} (introduced : Introduced c.peer) :
    Complete (.msg1 (value (Peer.readMsg1 E packet c))) ∧
      Introduced (final (Peer.readMsg1 E packet c)).peer := by
  have kept := @readMsg1_introduced HS E packet c introduced
  cases ran : Peer.readMsg1 E packet c with
  | ok info c' =>
    obtain ⟨complete, introduced'⟩ := ensures_of_ok kept ran
    exact ⟨complete, introduced'⟩
  | error e c' => exact ⟨trivial, ensures_of_error kept ran⟩

private theorem finishMsg3_complete {packet : Bytes} {nowMs : UInt64} {c : Ctx HS}
    {r : EStateM.Result JsError (Ctx HS) AuthInfo} (introduced : Introduced c.peer)
    (ran : FinishMsg3 E packet nowMs c r) :
    Complete (.auth (value r)) ∧ Introduced (final r).peer := by
  cases ran with
  | refused => exact ⟨trivial, introduced⟩
  | failed => exact ⟨trivial, introduced.same rfl rfl⟩
  | finished header _ _ _ _ _ _ _ _ remotePublic remotePublicKey key s _ sender _ _ _ _ _ _ _ _ _ _
      sized =>
    obtain ⟨nonzero, name, named, filled⟩ := introduced _ sender
    have long : remotePublic.length = 32 := by
      rw [← Packet.keyOfBytes_eq_some.mp sized]
      exact remotePublicKey.length_toList
    refine ⟨⟨nonzero, ?_, long, rfl⟩, introduced.same rfl rfl⟩
    simp only [named, Option.getD_some]
    exact filled

end Objects

section Steps

variable {w : World HS}

/-- All live objects. -/
def AllIntroduced (w : World HS) : Prop := ∀ i p, w.peer? i = some p → Introduced p

private theorem AllIntroduced.put {i : Nat} {p : SecurePeer HS} {c : Ctx HS} (inv : AllIntroduced w)
    (live : w.peer? i = some p) (introduced : Introduced c.peer) : AllIntroduced (w.put i c) := by
  intro j q live'
  rw [peer?_put live] at live'
  split at live'
  · exact Option.some.inj live' ▸ introduced
  · exact inv j q live'

private theorem allIntroduced_readMsg1 (inv : AllIntroduced w) (i : Nat) (packet : Bytes) :
    AllIntroduced (w.step E (.readMsg1 i packet)) ∧
      Complete (w.outcome E (.readMsg1 i packet)) := by
  show AllIntroduced (w.call i (Peer.readMsg1 E packet)).1 ∧
    Complete ((w.call i (Peer.readMsg1 E packet)).2.elim .absent .msg1)
  unfold World.call
  cases live : w.peer? i with
  | none => exact ⟨inv, trivial⟩
  | some p =>
    obtain ⟨complete, introduced⟩ := @readMsg1_complete HS E packet ⟨p, w.store⟩ (inv i p live)
    exact ⟨inv.put live introduced, complete⟩

private theorem allIntroduced_step (inv : AllIntroduced w) (e : Event) :
    AllIntroduced (w.step E e) ∧ Complete (w.outcome E e) := by
  by_cases first : ∃ i packet, e = .readMsg1 i packet
  · obtain ⟨i, packet, rfl⟩ := first
    exact allIntroduced_readMsg1 inv i packet
  · have moved := perform_cases E w e
    unfold World.step World.outcome
    generalize w.perform E e = out at moved ⊢
    cases moved with
    | idle e o quiet =>
      refine ⟨inv, ?_⟩
      rcases quiet with rfl | ⟨text, rfl⟩
      · exact trivial
      · exact trivial
    | constructed privateKey publicKey id nowMs p room made =>
      refine ⟨?_, trivial⟩
      intro j q live
      rw [peer?_append] at live
      split at live
      · exact Option.some.inj live ▸ introduced_of_unused (new_unused E made)
      · exact inv j q live
    | readMsg1 i packet => exact absurd ⟨i, packet, rfl⟩ first
    | buildMsg2 i networkSecret draws upsertMs attachMs p r live ran =>
      have introduced := inv i p live
      refine ⟨inv.put live ?_, trivial⟩
      cases ran with
      | refused => exact introduced
      | unselected => exact introduced
      | unwritten => exact introduced.same rfl rfl
      | exhausted => exact introduced.same rfl rfl
      | answered => exact introduced.same rfl rfl
    | finishMsg3 i packet nowMs p r live ran =>
      obtain ⟨complete, introduced⟩ := finishMsg3_complete (inv i p live) ran
      exact ⟨inv.put live introduced, complete⟩
    | encrypt i packet rotateMs persistMs p r live ran =>
      exact ⟨inv.put live ((inv i p live).copied (withoutCopy_encrypt ran)), trivial⟩
    | decrypt i packet receivedMs persistMs p r live ran =>
      exact ⟨inv.put live ((inv i p live).copied (withoutCopy_decrypt ran)), trivial⟩
    | dropped i nowMs p live =>
      refine ⟨?_, trivial⟩
      intro j q live'
      have after : (⟨dropPeer p w.store nowMs, w.peers.set i none⟩ : World HS).peer? j = some q :=
        live'
      rw [peer?_set live] at after
      split at after
      · cases after
      · exact inv j q after

private theorem allIntroduced_after (es : List Event) : AllIntroduced (World.after E es) := by
  refine @run_invariant _ _ (World.step E) AllIntroduced
    (fun w e inv => (allIntroduced_step inv e).1) _ ?_ es
  intro i p live
  rw [peer?_empty] at live
  cases live

theorem outcome_complete (es : List Event) (e : Event) :
    Complete ((World.after E es).outcome E e) :=
  (allIntroduced_step (allIntroduced_after es) e).2

end Steps

end EasyTierEdge.Secure.Announcements
