/- module: EasyTierEdge/Secure/PeerIds
   source: cloudflare/wasm/src/secure.rs, read_msg1 and build_msg2
   digest: No object talks to the relay's own peer id. -/

import EasyTierEdge.Secure.ObjectMoves

set_option autoImplicit false
set_option relaxedAutoImplicit false

namespace EasyTierEdge.Secure.PeerIds

open Lib.Fallible Lib.FiniteMap
open Packet (Bytes Key)
open Session Peer Connections Calls Steps ObjectMoves

variable {HS : Type} {E : SecureEnv HS} {serverPeerId : UInt32}

/-- The object works for the relay `serverPeerId`, and both its peer and the peer of its session are
other ones. -/
structure Distinct (serverPeerId : UInt32) (p : SecurePeer HS) : Prop where
  own : p.serverPeerId = serverPeerId
  peer : ∀ peerId, p.peerId = some peerId → peerId ≠ serverPeerId
  session : ∀ key, p.sessionKey = some key → key.peerId ≠ serverPeerId

section Objects

variable {p p' : SecurePeer HS}

private theorem Distinct.same (distinct : Distinct serverPeerId p)
    (own : p'.serverPeerId = p.serverPeerId)
    (peer : p'.peerId = p.peerId) (session : p'.sessionKey = p.sessionKey) :
    Distinct serverPeerId p' := by
  refine ⟨own.trans distinct.own, ?_, ?_⟩
  · rw [peer]
    exact distinct.peer
  · rw [session]
    exact distinct.session

private theorem Distinct.copied (distinct : Distinct serverPeerId p)
    (same : withoutCopy p' = withoutCopy p) : Distinct serverPeerId p' :=
  distinct.same (field_of_withoutCopy SecurePeer.serverPeerId same fun _ => rfl)
    (field_of_withoutCopy SecurePeer.peerId same fun _ => rfl)
    (field_of_withoutCopy SecurePeer.sessionKey same fun _ => rfl)

private theorem new_distinct {privateKey publicKey : String} {nowMs : UInt64}
    (made : SecurePeer.new E privateKey publicKey serverPeerId nowMs = .ok p) :
    Distinct serverPeerId p := by
  have unused := new_unused E made
  refine ⟨?_, ?_, ?_⟩
  · simp only [SecurePeer.new, bind, Except.bind, pure, Except.pure] at made
    split at made
    · cases made
    split at made
    · cases made
    split at made
    · cases made
    split at made
    · cases made
    · cases made
      rfl
  · rw [unused.peerId]
    exact fun _ impossible => by cases impossible
  · rw [unused.sessionKey]
    exact fun _ impossible => by cases impossible

private theorem readMsg1_distinct {packet : Bytes} {c : Ctx HS}
    (distinct : Distinct serverPeerId c.peer) :
    Ensures (Peer.readMsg1 E packet) c (fun _ c' => Distinct serverPeerId c'.peer)
      (fun _ c' => Distinct serverPeerId c'.peer) := by
  simp only [Peer.readMsg1, ensures_bind, ensures_getPeer, ensures_ite, ensures_throw,
    ensures_pure, ensures_orThrow, ensures_orDisplay, ensures_setPeer]
  refine ⟨fun _ => distinct, fun _ => ⟨?_, fun _ _ => distinct⟩⟩
  intro split _
  refine ⟨fun _ => distinct, fun _ => ⟨fun _ => distinct, fun other => ⟨?_, fun _ _ => distinct⟩⟩⟩
  intro responder _
  refine ⟨?_, fun _ _ => distinct⟩
  intro decoded _
  refine ⟨?_, fun _ _ => distinct⟩
  intro message _
  refine ⟨fun _ => distinct, fun _ => ⟨fun _ => distinct, fun _ => ⟨?_, fun _ _ => distinct⟩⟩⟩
  intro _ _
  refine ⟨distinct.own, ?_, distinct.session⟩
  intro peerId named
  cases Option.some.inj named
  rw [← distinct.own]
  exact (not_or.mp other).2

end Objects

section Steps

variable {w : World HS}

/-- All live objects. -/
def AllDistinct (serverPeerId : UInt32) (w : World HS) : Prop :=
  ∀ i p, w.peer? i = some p → Distinct serverPeerId p

private theorem AllDistinct.put {i : Nat} {p : SecurePeer HS} {c : Ctx HS}
    (inv : AllDistinct serverPeerId w) (live : w.peer? i = some p)
    (distinct : Distinct serverPeerId c.peer) : AllDistinct serverPeerId (w.put i c) := by
  intro j q live'
  rw [peer?_put live] at live'
  split at live'
  · exact Option.some.inj live' ▸ distinct
  · exact inv j q live'

private theorem allDistinct_readMsg1 (inv : AllDistinct serverPeerId w) (i : Nat) (packet : Bytes) :
    AllDistinct serverPeerId (w.step E (.readMsg1 i packet)) := by
  show AllDistinct serverPeerId (w.call i (Peer.readMsg1 E packet)).1
  unfold World.call
  cases live : w.peer? i with
  | none => exact inv
  | some p => exact inv.put live (ensures_final (readMsg1_distinct (inv i p live)))

private theorem Distinct.selected {networkSecret : String} {random32 : Except String Key}
    {upsertMs : UInt64} {p : SecurePeer HS} {sel : Msg2Selection HS} {s : StoredSession}
    (distinct : Distinct serverPeerId p)
    (selected : Selected E networkSecret random32 upsertMs ⟨p, w.store⟩ sel s) :
    ∀ key, some sel.sessionKey = some key → key.peerId ≠ serverPeerId := by
  intro key same
  rw [← Option.some.inj same, selected.sessionKey]
  exact distinct.peer _ selected.peerId

theorem allDistinct_step {e : Event} (inv : AllDistinct serverPeerId w)
    (constructs : ∀ privateKey publicKey id nowMs,
      e = .construct privateKey publicKey id nowMs → id = serverPeerId) :
    AllDistinct serverPeerId (w.step E e) := by
  by_cases first : ∃ i packet, e = .readMsg1 i packet
  · obtain ⟨i, packet, rfl⟩ := first
    exact allDistinct_readMsg1 inv i packet
  · have moved := perform_cases E w e
    unfold World.step
    generalize w.perform E e = out at moved ⊢
    cases moved with
    | idle => exact inv
    | constructed privateKey publicKey id nowMs p room made =>
      cases constructs privateKey publicKey id nowMs rfl
      intro j q live
      rw [peer?_append] at live
      split at live
      · exact Option.some.inj live ▸ new_distinct made
      · exact inv j q live
    | readMsg1 i packet => exact absurd ⟨i, packet, rfl⟩ first
    | buildMsg2 i networkSecret draws upsertMs attachMs p r live ran =>
      have distinct := inv i p live
      refine inv.put live ?_
      cases ran with
      | refused => exact distinct
      | unselected => exact distinct
      | unwritten => exact distinct.same rfl rfl rfl
      | exhausted sel s handshake e chosen =>
        exact ⟨distinct.own, distinct.peer, distinct.selected chosen⟩
      | answered sel s handshake bConnId noiseMessage chosen =>
        exact ⟨distinct.own, distinct.peer, distinct.selected chosen⟩
    | finishMsg3 i packet nowMs p r live ran =>
      have distinct := inv i p live
      refine inv.put live ?_
      cases ran with
      | refused => exact distinct
      | failed => exact distinct.same rfl rfl rfl
      | finished => exact distinct.same rfl rfl rfl
    | encrypt i packet rotateMs persistMs p r live ran =>
      exact inv.put live ((inv i p live).copied (withoutCopy_encrypt ran))
    | decrypt i packet receivedMs persistMs p r live ran =>
      exact inv.put live ((inv i p live).copied (withoutCopy_decrypt ran))
    | dropped i nowMs p live =>
      intro j q live'
      have after : (⟨dropPeer p w.store nowMs, w.peers.set i none⟩ : World HS).peer? j = some q :=
        live'
      rw [peer?_set live] at after
      split at after
      · cases after
      · exact inv j q after

end Steps

end EasyTierEdge.Secure.PeerIds
