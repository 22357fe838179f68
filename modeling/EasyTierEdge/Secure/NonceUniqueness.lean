/- module: EasyTierEdge/Secure/NonceUniqueness
   source: cloudflare/wasm/src/secure.rs, encrypt_payload, maybe_rotate_epoch, upsert_session
   digest: While no epoch wraps, no nonce of the sender repeats; a wrapping Sync repeats one. -/

import EasyTierEdge.Secure.RootKeys

set_option autoImplicit false
set_option relaxedAutoImplicit false

namespace EasyTierEdge.Secure.NonceUniqueness

open Lib.Endian Lib.Fallible Lib.FiniteMap Lib.Machine
open Packet (Bytes PacketHeader parsePacket encryptedFlag)
open Session Peer Connections Calls Steps SessionMoves RootKeys

variable {HS : Type} (E : SecureEnv HS)

/-- What one `seal` call is bound to. -/
structure SealedNonce where
  rootKey : Key
  epoch : UInt32
  direction : Direction
  sequence : UInt64
  deriving DecidableEq

/-- The root key, direction, epoch and sequence of an `encrypt_packet` call that returned `Ok`;
epoch and sequence are read from the nonce at the end of the returned packet. -/
def sealedNonce (w : World HS) (e : Event) : Option SealedNonce :=
  match e, w.outcome E e with
  | .encrypt i packet _ _, .data (.ok out) => do
    let p ← (w.step E e).peer? i
    let rootKey ← p.rootKey
    let header ← (parsePacket packet).toOption
    let nonce := out.drop (out.length - aeadNonceSize)
    return {
      rootKey
      epoch := nonceEpoch nonce
      direction := directionIndex header.fromPeerId header.toPeerId
      sequence := nonceSequence nonce }
  | _, _ => none

def sealedNonces (es : List Event) : List SealedNonce :=
  log (World.step E) (sealedNonce E) World.empty es

/-- The key and the nonce handed to the cipher. -/
def aeadUse (u : SealedNonce) : Key × Bytes :=
  (trafficKey E u.rootKey u.epoch u.direction, nonceBytes u.epoch u.sequence)

/-! The condition. -/

/-- `maybe_rotate_epoch` starts a new epoch. -/
def rotationDue (s : StoredSession) (currentMs : UInt64) : Bool :=
  !(saturatingAdd s.sendPacketsSinceEpoch 1 < rotateAfterPackets &&
    saturatingSub currentMs s.sendEpochStartedMs < rotateAfterMs)

/-- The session whose epoch the step moves on: the one an accepted `encrypt_packet` call
rotates. -/
def rotatedSession (w : World HS) : Event → Option StoredSession
  | .encrypt i packet rotateMs _ => do
    let p ← w.peer? i
    let key ← p.sessionKey
    let s ← w.store.lookup key
    let header ← (parsePacket packet).toOption
    if p.authenticated ∧ header.fromPeerId = p.serverPeerId ∧
        p.peerId = some header.toPeerId ∧ header.flags &&& encryptedFlag = 0 ∧
        rotationDue s rotateMs then
      some s
    else none
  | _ => none

/-- Neither the rotation nor the Sync of this step increments an epoch of `u32::MAX`. -/
def EpochsAdvance (w : World HS) (e : Event) : Prop :=
  (∀ s ∈ rotatedSession w e, s.nextEpoch.toNat + 1 < 2 ^ 32) ∧
    ∀ s ∈ w.syncedSession E e, s.syncEpoch.toNat + 1 < 2 ^ 32

instance (w : World HS) (e : Event) : Decidable (EpochsAdvance E w e) :=
  inferInstanceAs (Decidable (_ ∧ _))

variable {E}

/-! What the send state says about the nonces already used. -/

/-- The nonce lies before the stored send state. -/
def Spent (s : StoredSession) (u : SealedNonce) : Prop :=
  u.epoch.toNat < s.nextEpoch.toNat ∨
    u.epoch = s.nextEpoch ∧ u.sequence.toNat < (s.sendSeq u.direction).toNat

private theorem nextEpoch_le_syncEpoch (s : StoredSession) :
    s.nextEpoch.toNat ≤ s.syncEpoch.toNat := by
  have grow (acc : UInt32) (slot : EpochRxSlot) :
      acc.toNat ≤ (if slot.valid then max acc slot.epoch else acc).toNat := by
    split
    · show acc.toNat ≤ (if acc ≤ slot.epoch then slot.epoch else acc).toNat
      split
      · exact UInt32.le_iff_toNat_le.mp ‹_›
      · exact le_refl _
    · exact le_refl _
  simp only [StoredSession.syncEpoch, List.foldl_cons, List.foldl_nil]
  exact (grow _ _).trans ((grow _ _).trans ((grow _ _).trans (grow _ _)))

section Rotation

variable (p : SecurePeer HS) (s : StoredSession) (rotateMs : UInt64)

private theorem rotated_sendSeq :
    ((p.loadFrom s).maybeRotateEpoch rotateMs).sendSeq = s.sendSeq := by
  simp only [SecurePeer.maybeRotateEpoch]
  split <;> rfl

private theorem rotated_sendEpoch : ((p.loadFrom s).maybeRotateEpoch rotateMs).sendEpoch =
    if rotationDue s rotateMs then s.nextEpoch + 1 else s.nextEpoch := by
  simp only [SecurePeer.maybeRotateEpoch, rotationDue, SecurePeer.loadFrom]
  by_cases few : saturatingAdd s.sendPacketsSinceEpoch 1 < rotateAfterPackets
  · by_cases recent : saturatingSub rotateMs s.sendEpochStartedMs < rotateAfterMs
    · simp [few, recent]
    · simp [few, recent]
  · simp [few]

private theorem le_rotated_sendEpoch
    (advance : rotationDue s rotateMs = true → s.nextEpoch.toNat + 1 < 2 ^ 32) :
    s.nextEpoch.toNat ≤ ((p.loadFrom s).maybeRotateEpoch rotateMs).sendEpoch.toNat := by
  rw [rotated_sendEpoch]
  split
  · rename_i due
    rw [UInt32.toNat_add]
    have := advance due
    simp only [UInt32.toNat_one]
    omega
  · exact le_refl _

private theorem advanced_le {p : SecurePeer HS} {sendSeq : Direction → UInt64} {d : Direction}
    (state : p.sendSeq = sendSeq) (room : (p.sendSeq d).toNat + 1 < 2 ^ 64) (d' : Direction) :
    (sendSeq d').toNat ≤ ((advanced p d).sendSeq d').toNat := by
  subst state
  show (p.sendSeq d').toNat ≤ (Function.update p.sendSeq d (p.sendSeq d + 1) d').toNat
  by_cases same : d' = d
  · subst same
    rw [Function.update_self, UInt64.toNat_add]
    simp only [UInt64.toNat_one]
    omega
  · rw [Function.update_of_ne same]

end Rotation

section Step

variable {w : World HS} {e : Event} {key : SessionKey} {s s' : StoredSession}

private theorem rotatedSession_eq {i : Nat} {packet : Bytes} {rotateMs persistMs : UInt64}
    {p : SecurePeer HS} {header : PacketHeader} {payload : Bytes} (live : w.peer? i = some p)
    (loaded : Loaded ⟨p, w.store⟩ packet key s header payload)
    (sender : header.fromPeerId = p.serverPeerId) (receiver : p.peerId = some header.toPeerId)
    (plain : header.flags &&& encryptedFlag = 0) (due : rotationDue s rotateMs = true) :
    rotatedSession w (.encrypt i packet rotateMs persistMs) = some s := by
  have parsed := (Packet.splitPacket_eq_ok loaded.split).1
  have authenticated : p.authenticated = true := loaded.authenticated
  have bound : p.sessionKey = some key := loaded.bound
  have present : w.store.lookup key = some s := loaded.present
  simp [rotatedSession, live, bound, present, parsed, Except.toOption, authenticated, sender,
    receiver, plain, due]

private theorem spent_moved (moved : Moved E w e key s s') (present : w.store.lookup key = some s)
    (advance : EpochsAdvance E w e) {u : SealedNonce} (spent : Spent s u) : Spent s' u := by
  cases moved with
  | kept => exact spent
  | pinned => exact spent
  | received i packet receivedMs persistMs p p' _ s header payload out live loaded _ _ _ _ ran =>
    obtain ⟨_, _, _, rfl⟩ := ran.frame
    exact spent
  | synced i networkSecret draws upsertMs attachMs p sel s lastTouchMs attachments live selected
      _ session =>
    have sync : w.syncedSession E (.buildMsg2 i networkSecret draws upsertMs attachMs) =
        some s := by
      simp [World.syncedSession, World.selection, live, selected.ran, session, syncSelection,
        present]
    have bound := advance.2 s sync
    have before := nextEpoch_le_syncEpoch s
    have next : (s.syncEpoch + 1).toNat = s.syncEpoch.toNat + 1 := by
      rw [UInt32.toNat_add]
      exact Nat.mod_eq_of_lt bound
    left
    show u.epoch.toNat < (s.syncEpoch + 1).toNat
    rcases spent with earlier | ⟨same, _⟩
    · omega
    · rw [same]
      omega
  | sent i packet rotateMs persistMs p p' _ s header payload live loaded sender receiver plain
      reached =>
    have no_wrap := le_rotated_sendEpoch p s rotateMs (fun due =>
      advance.1 s (rotatedSession_eq live loaded sender receiver plain due))
    have epoch_eq : p'.sendEpoch = ((p.loadFrom s).maybeRotateEpoch rotateMs).sendEpoch := by
      rcases reached with rfl | ⟨_, rfl⟩
      · rfl
      · rfl
    have counter : (s.sendSeq u.direction).toNat ≤ (p'.sendSeq u.direction).toNat := by
      rcases reached with rfl | ⟨room, rfl⟩
      · rw [rotated_sendSeq]
      · exact advanced_le (rotated_sendSeq p s rotateMs) room u.direction
    rcases spent with earlier | ⟨same, before⟩
    · left
      show u.epoch.toNat < p'.sendEpoch.toNat
      rw [epoch_eq]
      omega
    · by_cases moved_on : s.nextEpoch.toNat < p'.sendEpoch.toNat
      · left
        show u.epoch.toNat < p'.sendEpoch.toNat
        rw [same]
        exact moved_on
      · right
        have stayed : s.nextEpoch = p'.sendEpoch := by
          apply UInt32.toNat_inj.mp
          rw [epoch_eq] at moved_on ⊢
          omega
        exact ⟨same.trans stayed, before.trans_le counter⟩

private theorem sealed_tail (header : PacketHeader) (ciphertext tag : Bytes) (epoch : UInt32)
    (sequence : UInt64) :
    (Packet.joinHeaderPayload header (ciphertext ++ tag ++ nonceBytes epoch sequence)).drop
      ((Packet.joinHeaderPayload header (ciphertext ++ tag ++ nonceBytes epoch sequence)).length
        - aeadNonceSize) = nonceBytes epoch sequence := by
  have shape : Packet.joinHeaderPayload header (ciphertext ++ tag ++ nonceBytes epoch sequence) =
      (header.toBytes ++ (ciphertext ++ tag)) ++ nonceBytes epoch sequence := by
    simp [Packet.joinHeaderPayload]
  rw [shape]
  apply List.drop_left'
  generalize header.toBytes ++ (ciphertext ++ tag) = front
  rw [List.length_append, nonceBytes_length]
  omega

/-- A successful `encrypt_packet` uses the rotated epoch and the stored counter of one session,
and moves the counter on. -/
private theorem sealedNonce_cases {u : SealedNonce} (sealed : sealedNonce E w e = some u) :
    ∃ i packet rotateMs persistMs p key s header payload,
      e = .encrypt i packet rotateMs persistMs ∧ w.peer? i = some p ∧
      Loaded ⟨p, w.store⟩ packet key s header payload ∧
      header.fromPeerId = p.serverPeerId ∧ p.peerId = some header.toPeerId ∧
      header.flags &&& encryptedFlag = 0 ∧
      u = ⟨s.rootKey, ((p.loadFrom s).maybeRotateEpoch rotateMs).sendEpoch, u.direction,
        s.sendSeq u.direction⟩ ∧
      (s.sendSeq u.direction).toNat + 1 < 2 ^ 64 ∧
      (w.step E e).store = w.store.insert key
        ((advanced ((p.loadFrom s).maybeRotateEpoch rotateMs) u.direction).saveTo s persistMs) := by
  have moved := perform_cases E w e
  unfold sealedNonce World.outcome World.step at sealed
  unfold World.step
  generalize w.perform E e = out at moved sealed
  cases moved with
  | idle e o quiet =>
    rcases quiet with rfl | ⟨text, rfl⟩
    · cases e <;> simp at sealed
    · cases e <;> simp at sealed
  | encrypt i packet rotateMs persistMs p r live ran =>
    cases ran with
    | stopped e c' why => simp at sealed
    | failed => simp at sealed
    | sealed key s header payload ciphertext tag rotated d loaded sender receiver plain rotated_eq
        direction room _ =>
      have parsed := (Packet.splitPacket_eq_ok loaded.split).1
      have root : (advanced rotated d).rootKey = some s.rootKey := by
        rw [rotated_eq]
        exact maybeRotateEpoch_rootKey _ _
      simp only [value_ok, final_ok, peer?_put live, if_true, Option.bind_eq_bind,
        Option.bind_some, root, parsed, Except.toOption, sealed_tail, nonceEpoch_nonceBytes,
        nonceSequence_nonceBytes, Option.pure_def, Option.some.injEq] at sealed
      subst sealed rotated_eq
      have counter := congrFun (rotated_sendSeq p s rotateMs) d
      refine ⟨i, packet, rotateMs, persistMs, p, key, s, header, payload, rfl, live, loaded, sender,
        receiver, plain, ?_, ?_, ?_⟩
      · rw [← direction]
        simp only [counter]
      · rw [← direction, ← counter]
        exact room
      · rw [← direction]
        rfl
  | constructed => simp at sealed
  | readMsg1 => simp at sealed
  | buildMsg2 => simp at sealed
  | finishMsg3 => simp at sealed
  | decrypt => simp at sealed
  | dropped => simp at sealed

end Step

/-! Runs. -/

/-- What the events so far say about the stored sessions: every nonce used under a stored root
key lies before the stored send state. -/
structure SendHistory (E : SecureEnv HS) (pre : List Event) (w : World HS) : Prop where
  own : OwnKeys E pre w
  known : ∀ u ∈ sealedNonces E pre, u.rootKey ∈ World.createdRootKeys E pre
  spent : ∀ key s u, w.store.lookup key = some s → u ∈ sealedNonces E pre →
    u.rootKey = s.rootKey → Spent s u

private theorem sealedNonces_snoc (pre : List Event) (e : Event) :
    sealedNonces E (pre ++ [e]) =
      sealedNonces E pre ++ (sealedNonce E (World.after E pre) e).toList :=
  log_snoc (World.step E) (sealedNonce E) World.empty pre e

private theorem sendHistory_empty : SendHistory E [] World.empty where
  own := ownKeys_empty
  known := by
    intro u used
    cases used
  spent := by
    intro key s u _ used
    cases used

private theorem sendHistory_step (pre : List Event) (e : Event)
    (inv : SendHistory E pre (World.after E pre))
    (ok : FreshStep E pre (World.after E pre) e ∧ EpochsAdvance E (World.after E pre) e) :
    SendHistory E (pre ++ [e]) ((World.after E pre).step E e) where
  own := ownKeys_step pre e inv.own ok.1
  known := by
    intro u used
    rw [createdRootKeys_snoc, List.mem_append]
    left
    rw [sealedNonces_snoc, List.mem_append] at used
    rcases used with old | new
    · exact inv.known u old
    · have sealed : sealedNonce E (World.after E pre) e = some u := by simpa using new
      obtain ⟨_, _, _, _, _, key, s, _, _, _, _, loaded, _, _, _, shape, _⟩ :=
        sealedNonce_cases sealed
      rw [shape]
      exact inv.own.drawn key s loaded.present
  spent := by
    intro key s' u present used same
    rw [sealedNonces_snoc, List.mem_append] at used
    rcases used with old | new
    · rcases step_lookup present with ⟨s, before, moved⟩ | created
      · rw [(moved_rootKey moved).1] at same
        exact spent_moved moved before ok.2 (inv.spent key s u before old same)
      · have known := inv.known u old
        rw [same] at known
        exact absurd known (ok.1 _ (created_rootKey created))
    · have sealed : sealedNonce E (World.after E pre) e = some u := by simpa using new
      obtain ⟨i, packet, rotateMs, persistMs, p, own, s, header, payload, rfl, live, loaded, _, _,
        _, shape, room, store⟩ := sealedNonce_cases sealed
      rw [store, FMap.lookup_insert_eq_ite] at present
      split at present
      · -- the session that sealed: its counter has just passed the nonce
        cases present
        right
        refine ⟨by rw [shape]; rfl, ?_⟩
        have next : ((advanced ((p.loadFrom s).maybeRotateEpoch rotateMs) u.direction).sendSeq
            u.direction) = s.sendSeq u.direction + 1 := by
          simp only [advanced, Function.update_self, rotated_sendSeq]
        show u.sequence.toNat < ((advanced ((p.loadFrom s).maybeRotateEpoch rotateMs)
          u.direction).sendSeq u.direction).toNat
        rw [next, UInt64.toNat_add, UInt64.toNat_one, Nat.mod_eq_of_lt room]
        have at_counter : u.sequence = s.sendSeq u.direction := congrArg SealedNonce.sequence shape
        rw [at_counter]
        exact Nat.lt_succ_self _
      · rename_i differs
        have root : u.rootKey = s.rootKey := congrArg SealedNonce.rootKey shape
        exact absurd (inv.own.distinct key own s' s present loaded.present
          (same.symm.trans root)) differs

private theorem sealedNonce_new (pre : List Event) (e : Event) (u : SealedNonce)
    (inv : SendHistory E pre (World.after E pre))
    (ok : FreshStep E pre (World.after E pre) e ∧ EpochsAdvance E (World.after E pre) e)
    (sealed : sealedNonce E (World.after E pre) e = some u) : u ∉ sealedNonces E pre := by
  intro used
  obtain ⟨i, packet, rotateMs, persistMs, p, key, s, header, payload, rfl, live, loaded, sender,
    receiver, plain, shape, room, _⟩ := sealedNonce_cases sealed
  have no_wrap := le_rotated_sendEpoch p s rotateMs (fun due =>
    ok.2.1 s (rotatedSession_eq live loaded sender receiver plain due))
  have root : u.rootKey = s.rootKey := congrArg SealedNonce.rootKey shape
  have epoch : u.epoch = ((p.loadFrom s).maybeRotateEpoch rotateMs).sendEpoch :=
    congrArg SealedNonce.epoch shape
  have sequence : u.sequence = s.sendSeq u.direction := congrArg SealedNonce.sequence shape
  rcases inv.spent key s u loaded.present used root with earlier | ⟨_, before⟩
  · rw [epoch] at earlier
    omega
  · rw [sequence] at before
    exact lt_irrefl _ before

private theorem aeadUse_injective {u v : SealedNonce}
    (keys : trafficKey E u.rootKey u.epoch u.direction =
        trafficKey E v.rootKey v.epoch v.direction →
      u.rootKey = v.rootKey ∧ u.epoch = v.epoch ∧ u.direction = v.direction)
    (same : aeadUse E u = aeadUse E v) : u = v := by
  obtain ⟨key_eq, nonce_eq⟩ := Prod.mk.inj same
  obtain ⟨root, epoch, direction⟩ := keys key_eq
  have sequence : u.sequence = v.sequence := by
    rw [← nonceSequence_nonceBytes u.epoch u.sequence, nonce_eq, nonceSequence_nonceBytes]
  cases u
  cases v
  simp_all

/-- In every run with fresh root keys in which no rotation and no Sync increments an epoch of
`u32::MAX`, no two successful `encrypt_packet` calls use the same root key, epoch, direction and
sequence; and if the traffic keys derived in the run do not collide, no cipher key meets the same
nonce twice. -/
theorem nonce_unique {es : List Event} (fresh : FreshRootKeys E es)
    (advance : AllSteps (World.step E) (fun _ => EpochsAdvance E) World.empty es) :
    (sealedNonces E es).Nodup ∧
      ((∀ u ∈ sealedNonces E es, ∀ v ∈ sealedNonces E es,
          trafficKey E u.rootKey u.epoch u.direction =
            trafficKey E v.rootKey v.epoch v.direction →
          u.rootKey = v.rootKey ∧ u.epoch = v.epoch ∧ u.direction = v.direction) →
        ((sealedNonces E es).map (aeadUse E)).Nodup) := by
  have unique : (sealedNonces E es).Nodup :=
    log_nodup sendHistory_empty sendHistory_step sealedNonce_new (fresh.steps.and advance)
  refine ⟨unique, fun keys => List.Nodup.map_on ?_ unique⟩
  intro u used v used' same
  exact aeadUse_injective (keys u used v used') same

/-- A peer connects three times, first to Create, then to Join, then to Sync its session, and the
relay sends on each connection, at last so late that the epoch is rotated. -/
def busyRun : List Event :=
  plainHandshake 0 [] (Vector.replicate 32 1) 1000 ++ [.encrypt 0 plainControl 1001 1001] ++
    plainHandshake 1 [1] (Vector.replicate 32 2) 2000 ++ [.encrypt 1 plainControl 2001 2001] ++
    plainHandshake 2 [] (Vector.replicate 32 3) 3000 ++
    [.encrypt 2 plainControl 3001 3001, .encrypt 2 plainControl 700_000 700_000]

private theorem sealedNonces_busyRun : sealedNonces plainEnv busyRun =
    [⟨Vector.replicate 32 1, 0, 1, 0⟩, ⟨Vector.replicate 32 1, 0, 1, 1⟩,
      ⟨Vector.replicate 32 1, 1, 1, 0⟩, ⟨Vector.replicate 32 1, 2, 1, 1⟩] := by
  decide +kernel

/-- The Sync and the rotation of the busy run increment epochs, and its packets use different
nonces. -/
theorem nonce_unique_busyRun :
    ((sealedNonces plainEnv busyRun).map (aeadUse plainEnv)).Nodup ∧
      (World.after plainEnv (busyRun.take 12)).syncedSession plainEnv busyRun[12] ≠ none ∧
      rotatedSession (World.after plainEnv (busyRun.take 15)) busyRun[15] ≠ none := by
  have fresh : FreshRootKeys plainEnv busyRun := by
    unfold FreshRootKeys
    decide +kernel
  have advance : AllSteps (World.step plainEnv) (fun _ => EpochsAdvance plainEnv) World.empty
      busyRun :=
    allSteps_of_check (fun _ w e => decide (EpochsAdvance plainEnv w e))
      (fun _ w e => of_decide_eq_true) (by decide +kernel)
  refine ⟨(nonce_unique fresh advance).2 ?_, by decide +kernel, by decide +kernel⟩
  rw [sealedNonces_busyRun]
  decide +kernel

/-- The peer opens the session with a packet of epoch `u32::MAX`; when it reconnects without a
generation, the Sync wraps the epoch to 0 and restarts the counter. -/
def wrapRun : List Event :=
  plainHandshake 0 [] (Vector.replicate 32 1) 1000 ++
    [.encrypt 0 plainControl 1001 1001, .decrypt 0 (plainData 0xFFFFFFFF 0) 1002 1002] ++
    plainHandshake 1 [] (Vector.replicate 32 2) 1003 ++ [.encrypt 1 plainControl 1004 1004]

private theorem sealedNonces_wrapRun : sealedNonces plainEnv wrapRun =
    [⟨Vector.replicate 32 1, 0, 1, 0⟩, ⟨Vector.replicate 32 1, 0, 1, 0⟩] := by
  decide +kernel

/-- The wrapping Sync makes the server use one nonce twice under one root key. -/
theorem nonce_reused :
    FreshRootKeys plainEnv wrapRun ∧
      (∀ u ∈ sealedNonces plainEnv wrapRun, ∀ v ∈ sealedNonces plainEnv wrapRun,
        trafficKey plainEnv u.rootKey u.epoch u.direction =
          trafficKey plainEnv v.rootKey v.epoch v.direction →
        u.rootKey = v.rootKey ∧ u.epoch = v.epoch ∧ u.direction = v.direction) ∧
      ¬ (sealedNonces plainEnv wrapRun).Nodup := by
  have fresh : FreshRootKeys plainEnv wrapRun := by
    unfold FreshRootKeys
    decide +kernel
  rw [sealedNonces_wrapRun]
  exact ⟨fresh, by simp, by simp⟩

end EasyTierEdge.Secure.NonceUniqueness
