/- module: EasyTierEdge/Secure/LiveSession
   source: cloudflare/wasm/src/secure.rs, finish_msg3, confirm_session_public_key and Drop
   digest: What stays true of a session while one authenticated object holds it. -/

import EasyTierEdge.Secure.Handshake
import EasyTierEdge.Secure.RootKeys

set_option autoImplicit false
set_option relaxedAutoImplicit false

namespace EasyTierEdge.Secure.LiveSession

open Lib.Fallible Lib.FiniteMap Lib.Machine
open Packet (Bytes)
open Session Peer Connections Calls Steps StoreInvariant SessionMoves ObjectMoves Handshake RootKeys

variable {HS : Type} {E : SecureEnv HS}

/-! Objects live until they are dropped. -/

theorem alive_step {w : World HS} {i : Nat} (e : Event) (alive : (w.peer? i).isSome = true)
    (kept : ∀ nowMs, e ≠ .drop i nowMs) : ((w.step E e).peer? i).isSome = true := by
  have moved := perform_cases E w e
  unfold World.step
  generalize w.perform E e = out at moved ⊢
  have put {j : Nat} {p : SecurePeer HS} (live : w.peer? j = some p) (c : Ctx HS) :
      ((w.put j c).peer? i).isSome = true := by
    rw [peer?_put live]
    split
    · rfl
    · exact alive
  cases moved with
  | idle => exact alive
  | constructed privateKey publicKey serverPeerId nowMs p room made =>
    show ((⟨w.store, w.peers ++ [some p]⟩ : World HS).peer? i).isSome = true
    rw [peer?_append]
    split
    · rfl
    · exact alive
  | readMsg1 j packet p r live ran => exact put live _
  | buildMsg2 j networkSecret draws upsertMs attachMs p r live ran => exact put live _
  | finishMsg3 j packet nowMs p r live ran => exact put live _
  | encrypt j packet rotateMs persistMs p r live ran => exact put live _
  | decrypt j packet receivedMs persistMs p r live ran => exact put live _
  | dropped j nowMs p live =>
    show ((⟨dropPeer p w.store nowMs, w.peers.set j none⟩ : World HS).peer? i).isSome = true
    rw [peer?_set live, if_neg]
    · exact alive
    · rintro rfl
      exact kept nowMs rfl

/-! An object is bound to a session only after it has read message 1. -/

def Named (w : World HS) : Prop :=
  ∀ i p, w.peer? i = some p → p.sessionKey.isSome = true → p.peerId.isSome = true

private theorem named_acted {w : World HS} {i : Nat} {p : SecurePeer HS} {e : Event} {o : Outcome}
    {c : Ctx HS} (acted : Acted E w i p e o c)
    (named : p.sessionKey.isSome = true → p.peerId.isSome = true) :
    c.peer.sessionKey.isSome = true → c.peer.peerId.isSome = true := by
  have copied {p' : SecurePeer HS} (same : withoutCopy p' = withoutCopy p) :
      p'.sessionKey.isSome = true → p'.peerId.isSome = true := by
    rw [field_of_withoutCopy SecurePeer.sessionKey same fun _ => rfl,
      field_of_withoutCopy SecurePeer.peerId same fun _ => rfl]
    exact named
  have selected_peerId {networkSecret : String} {random32 : Except String Key} {upsertMs : UInt64}
      {sel : Msg2Selection HS} {s : StoredSession}
      (selected : Selected E networkSecret random32 upsertMs ⟨p, w.store⟩ sel s) :
      p.peerId.isSome = true := by
    have peerId : p.peerId = some sel.peerId := selected.peerId
    rw [peerId]
    rfl
  cases acted with
  | readMsg1 packet r ran =>
    cases ran with
    | refused => exact named
    | read => exact fun _ => rfl
  | buildMsg2 networkSecret draws upsertMs attachMs r ran =>
    cases ran with
    | refused => exact named
    | unselected => exact named
    | unwritten sel s handshake text selected => exact fun _ => selected_peerId selected
    | exhausted sel s handshake e selected => exact fun _ => selected_peerId selected
    | answered sel s handshake bConnId noiseMessage selected =>
      exact fun _ => selected_peerId selected
  | finishMsg3 packet nowMs r ran =>
    cases ran with
    | refused => exact named
    | failed => exact named
    | finished => exact named
  | encrypt packet rotateMs persistMs r ran => exact copied (withoutCopy_encrypt ran)
  | decrypt packet receivedMs persistMs r ran => exact copied (withoutCopy_decrypt ran)

theorem named_step (w : World HS) (e : Event) (named : Named w) : Named (w.step E e) := by
  intro i p' live'
  rcases step_peer live' with ⟨_, unused⟩ | ⟨p, live, rfl | ⟨c, acted, rfl, _⟩⟩
  · rw [unused.sessionKey]
    intro never
    cases never
  · exact named i p' live
  · exact named_acted acted (named i p live)

theorem named_after (es : List Event) : Named (World.after E es) := by
  refine run_invariant named_step ?_ es
  intro i p live
  rw [peer?_empty] at live
  cases live

/-! An authenticated object has pinned its session. -/

/-- The session under `key` is stored with this root key, generation and remote static key. -/
def Identified (w : World HS) (key : SessionKey) (rootKey : Key) (generation : UInt32)
    (remotePublicKey : Key) : Prop :=
  ∃ s, w.store.lookup key = some s ∧ s.rootKey = rootKey ∧ s.generation = generation ∧
    s.remotePublicKey = some remotePublicKey

/-- Object `i` is authenticated on the session of `key`. -/
def AuthenticatedOn (w : World HS) (i : Nat) (key : SessionKey) : Prop :=
  ∃ p, w.peer? i = some p ∧ p.authenticated = true ∧ p.sessionKey = some key

theorem authenticatedOn_step {w : World HS} {e : Event} {i : Nat} {key : SessionKey}
    (on : AuthenticatedOn w i key) (kept : ∀ nowMs, e ≠ .drop i nowMs) :
    AuthenticatedOn (w.step E e) i key := by
  obtain ⟨p, live, authenticated, bound⟩ := on
  have alive : ((w.step E e).peer? i).isSome = true := alive_step e (by rw [live]; rfl) kept
  obtain ⟨p', live'⟩ := Option.isSome_iff_exists.mp alive
  refine ⟨p', live', ?_⟩
  rcases step_peer live' with ⟨new, _⟩ | ⟨q, live_q, how⟩
  · have old := peer?_lt live
    omega
  · have same : q = p := Option.some.inj (live_q.symm.trans live)
    subst same
    rcases how with rfl | ⟨c, acted, rfl, _⟩
    · exact ⟨authenticated, bound⟩
    · obtain ⟨identity, authenticated'⟩ :=
        authenticated_acted acted authenticated (by rw [bound]; rfl)
      exact ⟨authenticated', identity.sessionKey.trans bound⟩

/-- Object `i` is bound to the session of `key`. -/
def BoundOn (w : World HS) (i : Nat) (key : SessionKey) : Prop :=
  ∃ p, w.peer? i = some p ∧ p.sessionKey = some key

private theorem sessionKey_acted {w : World HS} {i : Nat} {p : SecurePeer HS} {e : Event}
    {o : Outcome} {c : Ctx HS} (acted : Acted E w i p e o c) {key : SessionKey}
    (bound : p.sessionKey = some key) :
    c.peer.sessionKey = some key := by
  have copied {p' : SecurePeer HS} (same : withoutCopy p' = withoutCopy p) :
      p'.sessionKey = some key := by
    rw [field_of_withoutCopy SecurePeer.sessionKey same fun _ => rfl]
    exact bound
  have unbuilt {networkSecret : String} {random32 : Except String Key} {upsertMs : UInt64}
      {sel : Msg2Selection HS} {s : StoredSession}
      (selected : Selected E networkSecret random32 upsertMs ⟨p, w.store⟩ sel s) : False := by
    have fresh : p.sessionKey = none := selected.unbuilt
    rw [bound] at fresh
    cases fresh
  cases acted with
  | readMsg1 packet r ran =>
    cases ran with
    | refused => exact bound
    | read => exact bound
  | buildMsg2 networkSecret draws upsertMs attachMs r ran =>
    cases ran with
    | refused => exact bound
    | unselected => exact bound
    | unwritten sel s handshake text selected => exact (unbuilt selected).elim
    | exhausted sel s handshake e selected => exact (unbuilt selected).elim
    | answered sel s handshake bConnId noiseMessage selected => exact (unbuilt selected).elim
  | finishMsg3 packet nowMs r ran =>
    cases ran with
    | refused => exact bound
    | failed => exact bound
    | finished => exact bound
  | encrypt packet rotateMs persistMs r ran => exact copied (withoutCopy_encrypt ran)
  | decrypt packet receivedMs persistMs r ran => exact copied (withoutCopy_decrypt ran)

theorem boundOn_step {w : World HS} {e : Event} {i : Nat} {key : SessionKey}
    (on : BoundOn w i key) (kept : ∀ nowMs, e ≠ .drop i nowMs) : BoundOn (w.step E e) i key := by
  obtain ⟨p, live, bound⟩ := on
  have alive : ((w.step E e).peer? i).isSome = true := alive_step e (by rw [live]; rfl) kept
  obtain ⟨p', live'⟩ := Option.isSome_iff_exists.mp alive
  refine ⟨p', live', ?_⟩
  rcases step_peer live' with ⟨new, _⟩ | ⟨q, live_q, how⟩
  · have old := peer?_lt live
    omega
  · have same : q = p := Option.some.inj (live_q.symm.trans live)
    subst same
    rcases how with rfl | ⟨c, acted, rfl, _⟩
    · exact bound
    · exact sessionKey_acted acted bound

/-! The calls of a handshake, as their caller sees them. -/

section Returned

variable {w w' : World HS} {i : Nat}

theorem peer?_put_self {p : SecurePeer HS} (live : w.peer? i = some p) (c : Ctx HS) :
    (w.put i c).peer? i = some c.peer := by
  rw [peer?_put live, if_pos rfl]

theorem readMsg1_returned {packet : Bytes} {info : Msg1Info}
    (ran : w.perform E (.readMsg1 i packet) = (w', .msg1 (.ok info))) :
    ∃ p', w'.peer? i = some p' ∧ p'.peerId = some info.peerId ∧
      p'.networkName = some info.networkName := by
  have moved := perform_cases E w (.readMsg1 i packet)
  rw [ran] at moved
  generalize returned : (w', Outcome.msg1 (.ok info)) = out at moved
  cases moved with
  | idle _ o quiet =>
    cases returned
    rcases quiet with impossible | ⟨text, impossible⟩
    · cases impossible
    · cases impossible
  | readMsg1 _ _ p r live read =>
    obtain ⟨rfl, same⟩ := Prod.ext_iff.mp returned
    cases read with
    | refused => cases same
    | read =>
      cases same
      exact ⟨_, peer?_put_self live _, rfl, rfl⟩

theorem buildMsg2_returned {networkSecret : String} {draws : Msg2Draws}
    {upsertMs attachMs : UInt64} {m : Msg2} {p : SecurePeer HS} {peerId : UInt32}
    {networkName : String} (live : w.peer? i = some p) (id : p.peerId = some peerId)
    (name : p.networkName = some networkName)
    (ran : w.perform E (.buildMsg2 i networkSecret draws upsertMs attachMs) =
      (w', .msg2 (.ok m))) :
    ∃ key, BoundOn w' i key ∧ key.networkName = networkName ∧ key.peerId = peerId := by
  have moved := perform_cases E w (.buildMsg2 i networkSecret draws upsertMs attachMs)
  rw [ran] at moved
  generalize returned : (w', Outcome.msg2 (.ok m)) = out at moved
  cases moved with
  | idle _ o quiet =>
    cases returned
    rcases quiet with impossible | ⟨text, impossible⟩
    · cases impossible
    · cases impossible
  | buildMsg2 _ _ _ _ _ q r live' built =>
    have same_object : q = p := Option.some.inj (live'.symm.trans live)
    subst same_object
    obtain ⟨rfl, same⟩ := Prod.ext_iff.mp returned
    cases built with
    | refused => cases same
    | unselected => cases same
    | unwritten => cases same
    | exhausted => cases same
    | answered sel s handshake bConnId noiseMessage selected =>
      refine ⟨sel.sessionKey, ⟨_, peer?_put_self live' _, rfl⟩, ?_, ?_⟩
      · rw [selected.sessionKey]
        exact Option.some.inj (selected.networkName.symm.trans name)
      · rw [selected.sessionKey]
        exact Option.some.inj (selected.peerId.symm.trans id)

theorem finishMsg3_ran {packet : Bytes} {nowMs : UInt64} {info : AuthInfo}
    (ran : w.perform E (.finishMsg3 i packet nowMs) = (w', .auth (.ok info))) :
    ∃ p c, w.peer? i = some p ∧ FinishMsg3 E packet nowMs ⟨p, w.store⟩ (.ok info c) ∧
      w' = w.put i c := by
  have moved := perform_cases E w (.finishMsg3 i packet nowMs)
  rw [ran] at moved
  generalize returned : (w', Outcome.auth (.ok info)) = out at moved
  cases moved with
  | idle _ o quiet =>
    cases returned
    rcases quiet with impossible | ⟨text, impossible⟩
    · cases impossible
    · cases impossible
  | finishMsg3 _ _ _ p r live finished =>
    obtain ⟨rfl, same⟩ := Prod.ext_iff.mp returned
    cases r with
    | error e c => cases same
    | ok info' c =>
      cases same
      exact ⟨p, c, live, finished, rfl⟩

theorem finishMsg3_returned {packet : Bytes} {nowMs : UInt64} {info : AuthInfo} {key : SessionKey}
    (on : BoundOn w i key)
    (ran : w.perform E (.finishMsg3 i packet nowMs) = (w', .auth (.ok info))) :
    AuthenticatedOn w' i key := by
  obtain ⟨p, live, bound⟩ := on
  obtain ⟨q, c, live', finished, rfl⟩ := finishMsg3_ran ran
  have same_object : q = p := Option.some.inj (live'.symm.trans live)
  subst same_object
  cases finished with
  | finished => exact ⟨_, peer?_put_self live' _, rfl, bound⟩

end Returned

/-- While the session is held, its root key, generation and remote key do not change. -/
theorem identified_step {w : World HS} {e : Event} {i : Nat} {key rootKey : _} {generation : UInt32}
    {remotePublicKey : Key} (inv : Consistent w) (on : AuthenticatedOn w i key)
    (kept : ∀ nowMs, e ≠ .drop i nowMs)
    (identified : Identified w key rootKey generation remotePublicKey) :
    Identified (w.step E e) key rootKey generation remotePublicKey := by
  obtain ⟨s, present, rfl, rfl, recorded⟩ := identified
  obtain ⟨p', live', _, bound'⟩ := authenticatedOn_step (E := E) on kept
  obtain ⟨s', present', _⟩ := (consistent_step E w e inv).stored live' bound'
  obtain ⟨p, live, _, bound⟩ := on
  obtain ⟨t, before, moved⟩ := held_moved inv live bound present'
  have same : s = t := Option.some.inj (present.symm.trans before)
  subst same
  obtain ⟨rootKey, generation, _⟩ := moved_rootKey moved
  exact ⟨s', present', rootKey, generation, moved_remotePublicKey moved recorded⟩

theorem newly_authenticated {w : World HS} {i : Nat} {p : SecurePeer HS} {e : Event} {o : Outcome}
    {c : Ctx HS} (acted : Acted E w i p e o c) (before : p.authenticated = false)
    (authenticated : c.peer.authenticated = true) :
    ∃ packet nowMs info key remotePublicKey s, e = .finishMsg3 i packet nowMs ∧
      o = .auth (.ok info) ∧ p.sessionKey = some key ∧
      c.peer = { p with handshake := none, authenticated := true } ∧
      keyOfBytes info.remotePublicKey = some remotePublicKey ∧
      w.store.lookup key = some s ∧
      (s.remotePublicKey = none ∨ s.remotePublicKey = some remotePublicKey) ∧
      c.store = w.store.insert key
        { s with remotePublicKey := some remotePublicKey, lastTouchMs := nowMs } := by
  have copied {p' : SecurePeer HS} (same : withoutCopy p' = withoutCopy p)
      (authenticated : p'.authenticated = true) : False := by
    have kept : p'.authenticated = p.authenticated :=
      field_of_withoutCopy SecurePeer.authenticated same fun _ => rfl
    rw [kept, before] at authenticated
    cases authenticated
  cases acted with
  | readMsg1 packet r ran =>
    cases ran with
    | refused => exact (copied rfl authenticated).elim
    | read => exact absurd (before.symm.trans authenticated) (by simp)
  | buildMsg2 networkSecret draws upsertMs attachMs r ran =>
    cases ran with
    | refused => exact (copied rfl authenticated).elim
    | unselected => exact (copied rfl authenticated).elim
    | unwritten => exact absurd (before.symm.trans authenticated) (by simp)
    | exhausted => exact absurd (before.symm.trans authenticated) (by simp)
    | answered => exact absurd (before.symm.trans authenticated) (by simp)
  | finishMsg3 packet nowMs r ran =>
    cases ran with
    | refused => exact (copied rfl authenticated).elim
    | failed => exact absurd (before.symm.trans authenticated) (by simp)
    | finished header payload decoded turn handshake message proof secret challenge remotePublic
        remotePublicKey key s split sender ready noise parsed echoA echoB given chosen challenged
        verified static sized bound present pinned =>
      exact ⟨packet, nowMs, _, key, remotePublicKey, s, rfl, rfl, bound, rfl, sized, present,
        pinned, rfl⟩
  | encrypt packet rotateMs persistMs r ran =>
    exact (copied (withoutCopy_encrypt ran) authenticated).elim
  | decrypt packet receivedMs persistMs r ran =>
    exact (copied (withoutCopy_decrypt ran) authenticated).elim

/-- Every authenticated object has a session, and that is bound to a remote static key. -/
def Recorded (w : World HS) : Prop :=
  ∀ i p, w.peer? i = some p → p.authenticated = true →
    ∃ key remotePublicKey, p.sessionKey = some key ∧ PinnedTo w key remotePublicKey

theorem recorded_step {w : World HS} (e : Event) (inv : Consistent w) (recorded : Recorded w) :
    Recorded (w.step E e) := by
  intro i p' live' authenticated'
  rcases step_peer live' with ⟨_, unused⟩ | ⟨p, live, how⟩
  · exact absurd (unused.authenticated.symm.trans authenticated') (by simp)
  · cases authenticated : p.authenticated with
    | true =>
      obtain ⟨key, remotePublicKey, bound, pinned⟩ := recorded i p live authenticated
      have bound' : p'.sessionKey = some key := by
        rcases how with rfl | ⟨c, acted, rfl, _⟩
        · exact bound
        · have identity := (authenticated_acted acted authenticated (by rw [bound]; rfl)).1
          exact identity.sessionKey.trans bound
      exact ⟨key, remotePublicKey, bound', pinnedTo_step inv live bound live' bound' pinned⟩
    | false =>
      rcases how with rfl | ⟨c, acted, rfl, step_eq⟩
      · exact absurd (authenticated.symm.trans authenticated') (by simp)
      · obtain ⟨packet, nowMs, info, key, remotePublicKey, s, _, _, bound, peer_eq, _, _, _,
          store_eq⟩ := newly_authenticated acted authenticated authenticated'
        refine ⟨key, remotePublicKey, by rw [peer_eq]; exact bound,
          { s with remotePublicKey := some remotePublicKey, lastTouchMs := nowMs }, ?_, rfl⟩
        rw [step_eq]
        show c.store.lookup key = _
        rw [store_eq]
        exact Finmap.lookup_insert _

theorem recorded_after (es : List Event) : Recorded (World.after E es) := by
  induction es using List.reverseRecOn with
  | nil =>
    intro i p live
    have absent : (World.after E []).peer? i = none := peer?_empty i
    exact absurd (live.symm.trans absent) (by simp)
  | append_singleton es e ih =>
    rw [after_snoc]
    exact recorded_step e (consistent_after E es) ih

end EasyTierEdge.Secure.LiveSession
