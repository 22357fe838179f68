/- module: EasyTierEdge/Secure/HandshakeFrame
   source: cloudflare/wasm/src/secure.rs, build_msg2, upsert_session, finish_msg3 and Drop
   digest: A handshake that never finishes disturbs a live session by a Sync only. -/

import EasyTierEdge.Secure.LiveSession
import EasyTierEdge.Secure.Related

set_option autoImplicit false
set_option relaxedAutoImplicit false

namespace EasyTierEdge.Secure.HandshakeFrame

open Lib.Fallible Lib.FiniteMap Lib.Machine Lib.Relational
open Packet (Bytes)
open Session Peer Connections Calls Steps StoreInvariant SessionMoves ObjectMoves Handshake
open RootKeys LiveSession Related

variable {HS : Type} (E : SecureEnv HS)

/-! The two runs. -/

/-- A handshake call on object `j`. -/
def handshakeCall (j : Nat) : Event → Bool
  | .readMsg1 i _ => i == j
  | .buildMsg2 i _ _ _ _ => i == j
  | .finishMsg3 i _ _ => i == j
  | _ => false

/-- The same calls without the handshake of object `j`. -/
def withoutHandshake (j : Nat) (es : List Event) : List Event :=
  es.filter fun e => !handshakeCall j e

/-- `finish_msg3` does not succeed on object `j`. -/
def NeverPasses (j : Nat) (w : World HS) (e : Event) : Prop :=
  ∀ packet nowMs info, e = .finishMsg3 j packet nowMs → w.outcome E e ≠ .auth (.ok info)

/-- Every object but `j` reads its message 1 once, as the server lets it. -/
def ReadsOnce (j : Nat) (w : World HS) (e : Event) : Prop :=
  ∀ i packet p, e = .readMsg1 i packet → i ≠ j → w.peer? i = some p → p.peerId = none

/-- The handshake of object `j` is not answered with a Sync of the session of `key`. -/
def NoSync (key : SessionKey) (j : Nat) (w : World HS) (e : Event) : Prop :=
  handshakeCall j e = true →
    ∀ sel, w.selection E e = some sel → sel.sessionKey = key → sel.session.action ≠ .sync

/-! Objects that have to do with the session of `key`, and objects that never will. -/

/-- The object is bound to another session, or has announced itself for another. -/
def Foreign (key : SessionKey) (p : SecurePeer HS) : Prop :=
  p.peerId.isSome = true ∧ p.sessionKey ≠ some key ∧
    (p.sessionKey = none → asksFor p ≠ some key)

/-- Every session the object is bound to or asks for is that of `key`. -/
def Aimed (key : SessionKey) (p : SecurePeer HS) : Prop :=
  Bound key p ∧ (p.sessionKey = none → ∀ own, asksFor p = some own → own = key)

private theorem aimed_or_foreign (key : SessionKey) {p : SecurePeer HS}
    (named : p.sessionKey.isSome = true → p.peerId.isSome = true) :
    Aimed key p ∨ Foreign key p := by
  cases bound : p.sessionKey with
  | some own =>
    by_cases same : own = key
    · left
      constructor
      · intro held held_eq
        exact (Option.some.inj (bound.symm.trans held_eq)).symm.trans same
      · intro unbound
        exact absurd (bound.symm.trans unbound) (by simp)
    · right
      refine ⟨named (by rw [bound]; rfl), ?_, ?_⟩
      · rw [bound]
        exact fun h => same (Option.some.inj h)
      · intro unbound
        exact absurd (bound.symm.trans unbound) (by simp)
  | none =>
    have free : Bound key p := by
      intro held held_eq
      exact absurd (bound.symm.trans held_eq) (by simp)
    cases asked : asksFor p with
    | none =>
      left
      refine ⟨free, fun _ own own_eq => ?_⟩
      exact absurd (asked.symm.trans own_eq) (by simp)
    | some own =>
      by_cases same : own = key
      · left
        refine ⟨free, fun _ held held_eq => ?_⟩
        exact (Option.some.inj (asked.symm.trans held_eq)).symm.trans same
      · right
        refine ⟨?_, ?_, ?_⟩
        · cases peerId : p.peerId with
          | none =>
            have none : asksFor p = none := by
              unfold asksFor
              cases p.networkName <;> simp [peerId]
            exact absurd (asked.symm.trans none) (by simp)
          | some _ => rfl
        · rw [bound]
          simp
        · intro _ h
          exact same (Option.some.inj (asked.symm.trans h))

variable {E}

section Quiet

variable {w : World HS} {e : Event} {key : SessionKey}

/-- The step neither answers Sync for `key` nor works on a packet of an object bound to it. -/
structure Quiet (E : SecureEnv HS) (key : SessionKey) (w : World HS) (e : Event) : Prop where
  unsynced : ∀ sel, w.selection E e = some sel → sel.sessionKey = key →
    sel.session.action ≠ .sync
  silent : ∀ i p, w.peer? i = some p → p.authenticated = true → p.sessionKey = some key →
    (∀ packet a b, e ≠ .encrypt i packet a b) ∧ (∀ packet a b, e ≠ .decrypt i packet a b)

private theorem moved_same {s s' : StoredSession} (quiet : Quiet E key w e)
    (recorded : s.remotePublicKey.isSome = true) (moved : Moved E w e key s s') :
    SameState s s' := by
  cases moved with
  | kept e key s lastTouchMs attachments => exact ⟨lastTouchMs, attachments, rfl⟩
  | synced i networkSecret draws upsertMs attachMs p sel s lastTouchMs attachments live selected
      _ session =>
    have chosen : w.selection E (.buildMsg2 i networkSecret draws upsertMs attachMs) =
      some sel := by
      simp [World.selection, live, selected.ran]
    have action : sel.session.action = .sync := by
      rw [session]
      rfl
    exact absurd action (quiet.unsynced sel chosen rfl)
  | pinned i packet nowMs p key s remotePublicKey live bound agreed =>
    rcases agreed with none | same
    · rw [none] at recorded
      cases recorded
    · refine ⟨nowMs, s.attachments, ?_⟩
      unfold retouched
      rw [same]
  | sent i packet rotateMs persistMs p p' key s header payload live loaded =>
    exact absurd rfl ((quiet.silent i p live loaded.authenticated loaded.bound).1 _ _ _)
  | received i packet receivedMs persistMs p p' key s header payload out live loaded =>
    exact absurd rfl ((quiet.silent i p live loaded.authenticated loaded.bound).2 _ _ _)

/-- One world, watched from an object `i` that is authenticated on `key`, and from an object `j`
that is not authenticated. -/
structure Watched (key : SessionKey) (i j : Nat) (w : World HS) : Prop where
  consistent : Consistent w
  named : Named w
  recorded : Recorded w
  on : AuthenticatedOn w i key
  unauthenticated : ∀ q, w.peer? j = some q → q.authenticated = false

private theorem Watched.swept {i j : Nat} (watched : Watched key i j w) (currentMs : UInt64) :
    (sweep currentMs w.store).lookup key = w.store.lookup key := by
  obtain ⟨p, live, _, bound⟩ := watched.on
  obtain ⟨s, present, kept⟩ := held_retained watched.consistent live bound currentMs
  rw [present, kept]

private theorem quiet_session {i j : Nat} (watched : Watched key i j w) (quiet : Quiet E key w e)
    (kept : ∀ nowMs, e ≠ .drop i nowMs) : SameSession key w.store (w.step E e).store := by
  obtain ⟨p, live, authenticated, bound⟩ := watched.on
  obtain ⟨p', live', _, bound'⟩ := authenticatedOn_step (E := E) watched.on kept
  obtain ⟨s', present', _⟩ :=
    (consistent_step E w e watched.consistent).stored live' bound'
  obtain ⟨s, present, moved⟩ := held_moved watched.consistent live bound present'
  refine ⟨s, s', present, present', moved_same quiet ?_ moved⟩
  obtain ⟨own, remotePublicKey, own_eq, t, present_t, recorded⟩ :=
    watched.recorded i p live authenticated
  have same_key : own = key := Option.some.inj (own_eq.symm.trans bound)
  subst same_key
  have same : t = s := Option.some.inj (present_t.symm.trans present)
  rw [← same, recorded]
  rfl

private theorem watched_step {i j : Nat} (watched : Watched key i j w)
    (never : NeverPasses E j w e) (kept : ∀ nowMs, e ≠ .drop i nowMs) :
    Watched key i j (w.step E e) where
  consistent := consistent_step E w e watched.consistent
  named := named_step w e watched.named
  recorded := recorded_step e watched.consistent watched.recorded
  on := authenticatedOn_step watched.on kept
  unauthenticated := by
    intro q' live'
    rcases step_peer live' with ⟨_, unused⟩ | ⟨q, live, how⟩
    · exact unused.authenticated
    · have before := watched.unauthenticated q live
      rcases how with rfl | ⟨c, acted, rfl, _⟩
      · exact before
      · cases after : c.peer.authenticated with
        | false => rfl
        | true =>
          obtain ⟨packet, nowMs, info, _, _, _, call, passed, _⟩ :=
            newly_authenticated acted before after
          exact absurd passed (never packet nowMs info call)

end Quiet

/-! Which steps are quiet. -/

/-- The object a call is made on. -/
def target : Event → Option Nat
  | .construct _ _ _ _ => none
  | .readMsg1 i _ => some i
  | .buildMsg2 i _ _ _ _ => some i
  | .finishMsg3 i _ _ => some i
  | .encrypt i _ _ _ => some i
  | .decrypt i _ _ _ => some i
  | .drop i _ => some i

section Calls

variable {w : World HS} {e : Event} {key : SessionKey} {i : Nat} {p : SecurePeer HS}

private theorem foreign_quiet (live : w.peer? i = some p) (foreign : Foreign key p)
    (call : target e = some i) : Quiet E key w e where
  unsynced := by
    intro sel chosen own
    obtain ⟨j, networkSecret, draws, upsertMs, attachMs, q, s, rfl, live_q, selected⟩ :=
      selection_selected chosen
    have same : j = i := Option.some.inj call
    subst same
    have same : q = p := Option.some.inj (live_q.symm.trans live)
    subst same
    exact absurd (own ▸ selected_asksFor selected) (foreign.2.2 selected.unbuilt)
  silent := by
    intro j q live_q _ bound
    have other : i ≠ j := by
      rintro rfl
      have same : q = p := Option.some.inj (live_q.symm.trans live)
      exact foreign.2.1 (same ▸ bound)
    constructor
    · rintro packet a b rfl
      exact other (Option.some.inj call).symm
    · rintro packet a b rfl
      exact other (Option.some.inj call).symm

/-- A call on an object that is not authenticated is quiet, unless it answers Sync. -/
private theorem unauthenticated_quiet {j : Nat} (unauthenticated : ∀ q, w.peer? j = some q →
    q.authenticated = false) (call : target e = some j)
    (unsynced : ∀ sel, w.selection E e = some sel → sel.sessionKey = key →
      sel.session.action ≠ .sync) : Quiet E key w e where
  unsynced := unsynced
  silent := by
    intro k q live_q authenticated _
    have other : j ≠ k := by
      rintro rfl
      exact absurd ((unauthenticated q live_q).symm.trans authenticated) (by simp)
    constructor
    · rintro packet a b rfl
      exact other (Option.some.inj call).symm
    · rintro packet a b rfl
      exact other (Option.some.inj call).symm

private theorem construct_quiet (E : SecureEnv HS) (w : World HS) (key : SessionKey)
    (privateKey publicKey : String) (serverPeerId : UInt32) (nowMs : UInt64) :
    Quiet E key w (.construct privateKey publicKey serverPeerId nowMs) where
  unsynced := by
    intro sel chosen
    cases chosen
  silent := by simp

private theorem drop_quiet (E : SecureEnv HS) (w : World HS) (key : SessionKey) (i : Nat)
    (nowMs : UInt64) :
    Quiet E key w (.drop i nowMs) where
  unsynced := by
    intro sel chosen
    cases chosen
  silent := by simp

private theorem foreign_acted {o : Outcome} {c : Ctx HS} (acted : Acted E w i p e o c)
    (foreign : Foreign key p) (read : ∀ packet, e ≠ .readMsg1 i packet) : Foreign key c.peer := by
  have copied {p' : SecurePeer HS} (same : withoutCopy p' = withoutCopy p) : Foreign key p' := by
    have asks : asksFor p' = asksFor p := field_of_withoutCopy asksFor same fun _ => rfl
    unfold Foreign
    rw [field_of_withoutCopy SecurePeer.peerId same fun _ => rfl,
      field_of_withoutCopy SecurePeer.sessionKey same fun _ => rfl, asks]
    exact foreign
  have bound {networkSecret : String} {random32 : Except String Key} {upsertMs : UInt64}
      {sel : Msg2Selection HS} {s : StoredSession} {p' : SecurePeer HS}
      (selected : Selected E networkSecret random32 upsertMs ⟨p, w.store⟩ sel s)
      (peerId : p'.peerId = p.peerId) (sessionKey : p'.sessionKey = some sel.sessionKey) :
      Foreign key p' := by
    have other : sel.sessionKey ≠ key := by
      intro own
      exact foreign.2.2 selected.unbuilt (own ▸ selected_asksFor selected)
    refine ⟨peerId ▸ foreign.1, ?_, ?_⟩
    · rw [sessionKey]
      exact fun h => other (Option.some.inj h)
    · intro unbound
      exact absurd (sessionKey.symm.trans unbound) (by simp)
  cases acted with
  | readMsg1 packet r ran => exact absurd rfl (read packet)
  | buildMsg2 networkSecret draws upsertMs attachMs r ran =>
    cases ran with
    | refused => exact foreign
    | unselected => exact foreign
    | unwritten => exact foreign
    | exhausted sel s handshake e selected => exact bound selected rfl rfl
    | answered sel s handshake bConnId noiseMessage selected => exact bound selected rfl rfl
  | finishMsg3 packet nowMs r ran =>
    cases ran with
    | refused => exact foreign
    | failed => exact foreign
    | finished => exact foreign
  | encrypt packet rotateMs persistMs r ran => exact copied (withoutCopy_encrypt ran)
  | decrypt packet receivedMs persistMs r ran => exact copied (withoutCopy_decrypt ran)

end Calls

/-! The relation between the run with the handshake and the run without it. -/

structure Alike (key : SessionKey) (j : Nat) (w w' : World HS) : Prop where
  length : w'.peers.length = w.peers.length
  live : ∀ i, (w'.peer? i).isSome = (w.peer? i).isSome
  others : ∀ i p p', i ≠ j → w.peer? i = some p → w'.peer? i = some p' →
    p' = p ∨ Foreign key p ∧ Foreign key p'
  session : SameSession key w.store w'.store

section Alike

variable {key : SessionKey} {i j k : Nat} {w w' : World HS} {e : Event} {p p' : SecurePeer HS}

private theorem Alike.quiet (alike : Alike key j w w') (watched : Watched key i j w)
    (watched' : Watched key i j w') (kept : ∀ nowMs, e ≠ .drop i nowMs)
    (quiet : Quiet E key w e) (quiet' : Quiet E key w' e) :
    SameSession key (w.step E e).store (w'.step E e).store :=
  ((quiet_session watched quiet kept).symm.trans alike.session).trans
    (quiet_session watched' quiet' kept)

private theorem Alike.put {c c' : Ctx HS} (alike : Alike key j w w') (live : w.peer? k = some p)
    (live' : w'.peer? k = some p')
    (peers : k ≠ j → c'.peer = c.peer ∨ Foreign key c.peer ∧ Foreign key c'.peer)
    (session : SameSession key c.store c'.store) : Alike key j (w.put k c) (w'.put k c') where
  length := by
    unfold World.put
    simp [alike.length]
  live := by
    intro n
    rw [peer?_put live, peer?_put live']
    split
    · rfl
    · exact alike.live n
  others := by
    intro n q q' other at_n at_n'
    rw [peer?_put live] at at_n
    rw [peer?_put live'] at at_n'
    split at at_n
    · rename_i same
      rw [if_pos same] at at_n'
      cases at_n
      cases at_n'
      exact peers (same ▸ other)
    · rename_i differs
      rw [if_neg differs] at at_n'
      exact alike.others n q q' other at_n at_n'
  session := session

private theorem Alike.livePeers (alike : Alike key j w w') : w'.livePeers = w.livePeers := by
  have marks : w'.peers.map Option.isSome = w.peers.map Option.isSome := by
    apply List.ext_getElem
    · simp [alike.length]
    · intro n lt lt'
      have same := alike.live n
      rw [List.length_map] at lt lt'
      simp only [World.peer?, List.getElem?_eq_getElem lt, List.getElem?_eq_getElem lt',
        Option.join_some] at same
      simpa using same
  have count (peers : List (Option (SecurePeer HS))) :
      peers.countP Option.isSome = (peers.map Option.isSome).countP id := by
    rw [List.countP_map]
    rfl
  unfold World.livePeers
  rw [count, count, marks]

private theorem Alike.append (alike : Alike key j w w') (p : SecurePeer HS) :
    Alike key j ⟨w.store, w.peers ++ [some p]⟩ ⟨w'.store, w'.peers ++ [some p]⟩ where
  length := by simp [alike.length]
  live := by
    intro n
    rw [peer?_append, peer?_append, alike.length]
    split
    · rfl
    · exact alike.live n
  others := by
    intro n q q' other at_n at_n'
    rw [peer?_append] at at_n at_n'
    rw [alike.length] at at_n'
    split at at_n
    · rename_i new
      rw [if_pos new] at at_n'
      left
      exact (Option.some.inj at_n').symm.trans (Option.some.inj at_n)
    · rename_i old
      rw [if_neg old] at at_n'
      exact alike.others n q q' other at_n at_n'
  session := alike.session

private theorem Alike.dropped (alike : Alike key j w w') (live : w.peer? k = some p)
    (live' : w'.peer? k = some p') {store store' : SessionStore}
    (session : SameSession key store store') :
    Alike key j ⟨store, w.peers.set k none⟩ ⟨store', w'.peers.set k none⟩ where
  length := by simp [alike.length]
  live := by
    intro n
    rw [peer?_set live, peer?_set live']
    split
    · rfl
    · exact alike.live n
  others := by
    intro n q q' other at_n at_n'
    rw [peer?_set live] at at_n
    rw [peer?_set live'] at at_n'
    split at at_n
    · cases at_n
    · rename_i differs
      rw [if_neg differs] at at_n'
      exact alike.others n q q' other at_n at_n'
  session := session

private theorem Alike.call {α : Type} (op : SecureM HS α) (alike : Alike key j w w')
    (watched : Watched key i j w) (watched' : Watched key i j w') (on : target e = some k)
    (kept : ∀ nowMs, e ≠ .drop i nowMs) (once : ReadsOnce j w e)
    (runs : ∀ (v : World HS) q, v.peer? k = some q →
      v.step E e = v.put k (final (op ⟨q, v.store⟩)) ∧
      ∃ o, Acted E v k q e o (final (op ⟨q, v.store⟩)))
    (idle : ∀ v : World HS, v.peer? k = none → v.step E e = v)
    (own : k = j → (∀ sel, w.selection E e ≠ some sel) ∧ ∀ sel, w'.selection E e ≠ some sel)
    (agree : ∀ q, w.peer? k = some q → w'.peer? k = some q → Aimed key q →
      Agree (Sees key) (op ⟨q, w.store⟩) (op ⟨q, w'.store⟩)) :
    Alike key j (w.step E e) (w'.step E e) := by
  cases live : w.peer? k with
  | none =>
    have live' : w'.peer? k = none := by
      have same := alike.live k
      rw [live] at same
      exact Option.isNone_iff_eq_none.mp (by simpa using same)
    rw [idle w live, idle w' live']
    exact alike
  | some p =>
    have same := alike.live k
    rw [live] at same
    obtain ⟨p', live'⟩ := Option.isSome_iff_exists.mp same
    obtain ⟨step_eq, o, acted⟩ := runs w p live
    obtain ⟨step_eq', o', acted'⟩ := runs w' p' live'
    have stored : (w.step E e).store = (final (op ⟨p, w.store⟩)).store := by
      rw [step_eq]
      rfl
    have stored' : (w'.step E e).store = (final (op ⟨p', w'.store⟩)).store := by
      rw [step_eq']
      rfl
    have quiet (quiet : Quiet E key w e) (quiet' : Quiet E key w' e) :
        SameSession key (final (op ⟨p, w.store⟩)).store (final (op ⟨p', w'.store⟩)).store := by
      have sessions := alike.quiet watched watched' kept quiet quiet'
      rwa [stored, stored'] at sessions
    rw [step_eq, step_eq']
    by_cases mine : k = j
    · -- the object without a finished handshake cannot work on packets
      refine alike.put live live' (fun other => absurd mine other) (quiet ?_ ?_)
      · exact unauthenticated_quiet (mine ▸ watched.unauthenticated) on
          (fun sel chosen => absurd chosen ((own mine).1 sel))
      · exact unauthenticated_quiet (mine ▸ watched'.unauthenticated) on
          (fun sel chosen => absurd chosen ((own mine).2 sel))
    · have foreign (foreign : Foreign key p) (foreign' : Foreign key p') :
          Alike key j (w.put k (final (op ⟨p, w.store⟩)))
            (w'.put k (final (op ⟨p', w'.store⟩))) := by
        have read : ∀ packet, e ≠ .readMsg1 k packet := by
          intro packet is_read
          have unread := once k packet p is_read mine live
          have read := foreign.1
          rw [unread] at read
          cases read
        refine alike.put live live' (fun _ => Or.inr ⟨foreign_acted acted foreign read,
          foreign_acted acted' foreign' read⟩) (quiet ?_ ?_)
        · exact foreign_quiet live foreign on
        · exact foreign_quiet live' foreign' on
      rcases alike.others k p p' mine live live' with rfl | ⟨isForeign, isForeign'⟩
      · rcases aimed_or_foreign key (watched.named k p' live) with aimed | isForeign
        · obtain ⟨_, peer_eq, session⟩ := agree p' live live' aimed
          exact alike.put live live' (fun _ => Or.inl peer_eq) session
        · exact foreign isForeign isForeign
      · exact foreign isForeign isForeign'

private theorem alike_shared (alike : Alike key j w w') (watched : Watched key i j w)
    (watched' : Watched key i j w') (shared : handshakeCall j e = false)
    (kept : ∀ nowMs, e ≠ .drop i nowMs) (once : ReadsOnce j w e) :
    Alike key j (w.step E e) (w'.step E e) := by
  have other {k : Nat} (call : (k == j) = false) {P : Prop} (same : k = j) : P := by
    subst same
    simp at call
  cases e with
  | construct privateKey publicKey serverPeerId nowMs =>
    have sessions := alike.quiet watched watched' kept
      (construct_quiet E w key privateKey publicKey serverPeerId nowMs)
      (construct_quiet E w' key privateKey publicKey serverPeerId nowMs)
    have count : w'.livePeers = w.livePeers := alike.livePeers
    simp only [World.step, World.perform, count] at sessions ⊢
    split
    · exact alike
    · rename_i room
      rw [if_neg room, if_neg room] at sessions
      cases made : SecurePeer.new E privateKey publicKey serverPeerId nowMs with
      | error text => exact alike
      | ok p => exact alike.append p
  | readMsg1 k packet =>
    refine alike.call (Peer.readMsg1 E packet) watched watched' rfl kept once ?_ ?_
      (other shared) ?_
    · intro v q live
      refine ⟨?_, _, .readMsg1 packet _ (readMsg1_cases E packet ⟨q, v.store⟩)⟩
      simp [World.step, World.perform, World.call, live]
    · intro v idle
      simp [World.step, World.perform, World.call, idle]
    · intro q _ _ _
      exact readMsg1_agree E packet ⟨rfl, alike.session⟩
  | buildMsg2 k networkSecret draws upsertMs attachMs =>
    refine alike.call (Peer.buildMsg2 E networkSecret draws upsertMs attachMs) watched watched' rfl
      kept once ?_ ?_ (other shared) ?_
    · intro v q live
      refine ⟨?_, _, .buildMsg2 networkSecret draws upsertMs attachMs _
        (buildMsg2_cases E networkSecret draws upsertMs attachMs ⟨q, v.store⟩)⟩
      simp [World.step, World.perform, World.call, live]
    · intro v idle
      simp [World.step, World.perform, World.call, idle]
    · intro q _ _ aimed
      refine buildMsg2_agree E networkSecret draws upsertMs attachMs q aimed.2 alike.session ?_
        (watched.consistent.room key) (watched'.consistent.room key)
      obtain ⟨s, s', present, present', same⟩ := alike.session
      refine ⟨s, s', ?_, ?_, same⟩
      · rw [watched.swept upsertMs]
        exact present
      · rw [watched'.swept upsertMs]
        exact present'
  | finishMsg3 k packet nowMs =>
    refine alike.call (Peer.finishMsg3 E packet nowMs) watched watched' rfl kept once ?_ ?_
      (other shared) ?_
    · intro v q live
      refine ⟨?_, _, .finishMsg3 packet nowMs _ (finishMsg3_cases E packet nowMs ⟨q, v.store⟩)⟩
      simp [World.step, World.perform, World.call, live]
    · intro v idle
      simp [World.step, World.perform, World.call, idle]
    · intro q _ _ aimed
      exact finishMsg3_agree E packet nowMs ⟨rfl, alike.session⟩ aimed.1
  | encrypt k packet rotateMs persistMs =>
    refine alike.call (Peer.encryptPacket E packet rotateMs persistMs) watched watched' rfl kept
      once ?_ ?_ (fun _ => ⟨by rintro sel ⟨⟩, by rintro sel ⟨⟩⟩) ?_
    · intro v q live
      refine ⟨?_, _, .encrypt packet rotateMs persistMs _
        (encryptPacket_cases E packet rotateMs persistMs ⟨q, v.store⟩)⟩
      simp [World.step, World.perform, World.call, live]
    · intro v idle
      simp [World.step, World.perform, World.call, idle]
    · intro q _ _ aimed
      exact encryptPacket_agree E packet rotateMs persistMs ⟨rfl, alike.session⟩ aimed.1
  | decrypt k packet receivedMs persistMs =>
    refine alike.call (Peer.decryptPacket E packet receivedMs persistMs) watched watched' rfl kept
      once ?_ ?_ (fun _ => ⟨by rintro sel ⟨⟩, by rintro sel ⟨⟩⟩) ?_
    · intro v q live
      refine ⟨?_, _, .decrypt packet receivedMs persistMs _
        (decryptPacket_cases E packet receivedMs persistMs ⟨q, v.store⟩)⟩
      simp [World.step, World.perform, World.call, live]
    · intro v idle
      simp [World.step, World.perform, World.call, idle]
    · intro q _ _ aimed
      exact decryptPacket_agree E packet receivedMs persistMs ⟨rfl, alike.session⟩ aimed.1
  | drop k nowMs =>
    have sessions := alike.quiet watched watched' kept (drop_quiet E w key k nowMs)
      (drop_quiet E w' key k nowMs)
    have same := alike.live k
    simp only [World.step, World.perform] at sessions ⊢
    cases live : w.peer? k with
    | none =>
      have live' : w'.peer? k = none := by
        rw [live] at same
        exact Option.isNone_iff_eq_none.mp (by simpa using same)
      rw [live']
      exact alike
    | some p =>
      rw [live] at same
      obtain ⟨p', live'⟩ := Option.isSome_iff_exists.mp same
      simp only [live, live'] at sessions ⊢
      exact alike.dropped live live' sessions

private theorem alike_handshake (alike : Alike key j w w') (watched : Watched key i j w)
    (own : handshakeCall j e = true) (unsynced : NoSync E key j w e) :
    Alike key j (w.step E e) w' := by
  have on : target e = some j := by
    cases e with
    | readMsg1 k packet => exact congrArg some (by simpa [handshakeCall] using own)
    | buildMsg2 k networkSecret draws upsertMs attachMs =>
      exact congrArg some (by simpa [handshakeCall] using own)
    | finishMsg3 k packet nowMs => exact congrArg some (by simpa [handshakeCall] using own)
    | _ => cases own
  have kept : ∀ nowMs, e ≠ .drop i nowMs := by
    rintro nowMs rfl
    cases own
  have session : SameSession key (w.step E e).store w'.store :=
    (quiet_session watched (unauthenticated_quiet watched.unauthenticated on (unsynced own))
      kept).symm.trans alike.session
  -- the call touches no object but `j`
  have cases_put : w.step E e = w ∨ ∃ q c, w.peer? j = some q ∧ w.step E e = w.put j c := by
    have moved := perform_cases E w e
    unfold World.step
    generalize w.perform E e = out at moved ⊢
    cases moved with
    | idle => exact Or.inl rfl
    | constructed => cases on
    | readMsg1 k packet q r live => exact Or.inr ⟨q, _, Option.some.inj on ▸ live, by cases on; rfl⟩
    | buildMsg2 k networkSecret draws upsertMs attachMs q r live =>
      exact Or.inr ⟨q, _, Option.some.inj on ▸ live, by cases on; rfl⟩
    | finishMsg3 k packet nowMs q r live =>
      exact Or.inr ⟨q, _, Option.some.inj on ▸ live, by cases on; rfl⟩
    | encrypt => cases own
    | decrypt => cases own
    | dropped => cases own
  rcases cases_put with same | ⟨q, c, live, step_eq⟩
  · rw [same]
    exact alike
  · refine ⟨?_, ?_, ?_, session⟩
    · rw [alike.length, step_eq]
      unfold World.put
      simp
    · intro n
      rw [alike.live n, step_eq, peer?_put live]
      split
      · rename_i same
        rw [same, live]
        rfl
      · rfl
    · intro n p p' other at_n at_n'
      rw [step_eq, peer?_put live, if_neg other] at at_n
      exact alike.others n p p' other at_n at_n'

end Alike

/-! Whole runs. -/

section Runs

variable {key : SessionKey} {i j : Nat} {w : World HS}

private theorem alike_refl (watched : Watched key i j w) : Alike key j w w where
  length := rfl
  live := fun _ => rfl
  others := by
    intro n p p' _ at_n at_n'
    exact Or.inl (Option.some.inj (at_n'.symm.trans at_n))
  session := by
    obtain ⟨p, live, _, bound⟩ := watched.on
    obtain ⟨s, present, _⟩ := watched.consistent.stored live bound
    exact ⟨s, s, present, present, SameState.refl s⟩

/-- The run with the handshake and the run without it stay alike. -/
private theorem alike_run (watched : Watched key i j w) {es : List Event}
    (stays : ∀ nowMs, .drop i nowMs ∉ es)
    (steps : AllSteps (World.step E) (fun _ v e => NeverPasses E j v e ∧ ReadsOnce j v e ∧
      NoSync E key j v e) w es) :
    Alike key j (run (World.step E) w es) (run (World.step E) w (withoutHandshake j es)) ∧
      Watched key i j (run (World.step E) w es) ∧
      Watched key i j (run (World.step E) w (withoutHandshake j es)) := by
  induction es using List.reverseRecOn with
  | nil => exact ⟨alike_refl watched, watched, watched⟩
  | append_singleton es e ih =>
    have before : ∀ nowMs, Event.drop i nowMs ∉ es := by
      intro nowMs present
      exact stays nowMs (List.mem_append_left _ present)
    have kept : ∀ nowMs, e ≠ .drop i nowMs := by
      rintro nowMs rfl
      exact stays nowMs (by simp)
    obtain ⟨alike, watched, watched'⟩ := ih before steps.init
    obtain ⟨never, once, unsynced⟩ := steps.last
    rw [run_snoc]
    cases own : handshakeCall j e with
    | true =>
      have same : withoutHandshake j (es ++ [e]) = withoutHandshake j es := by
        simp [withoutHandshake, own]
      rw [same]
      exact ⟨alike_handshake alike watched own unsynced, watched_step watched never kept, watched'⟩
    | false =>
      have split : withoutHandshake j (es ++ [e]) = withoutHandshake j es ++ [e] := by
        simp [withoutHandshake, own]
      have never' : NeverPasses E j (run (World.step E) w (withoutHandshake j es)) e := by
        rintro packet nowMs info rfl
        simp [handshakeCall] at own
      rw [split, run_snoc]
      exact ⟨alike_shared alike watched watched' own kept once, watched_step watched never kept,
        watched_step watched' never' kept⟩

private theorem identified_run {rootKey remotePublicKey : Key} {generation : UInt32}
    (inv : Consistent w) (on : AuthenticatedOn w i key)
    (identified : Identified w key rootKey generation remotePublicKey) {es : List Event}
    (stays : ∀ nowMs, .drop i nowMs ∉ es) :
    Identified (run (World.step E) w es) key rootKey generation remotePublicKey := by
  induction es generalizing w with
  | nil => exact identified
  | cons e es ih =>
    have kept : ∀ nowMs, e ≠ .drop i nowMs := by
      rintro nowMs rfl
      exact stays nowMs (by simp)
    refine ih (consistent_step E w e inv) (authenticatedOn_step on kept)
      (identified_step inv on kept identified) ?_
    intro nowMs present
    exact stays nowMs (List.mem_cons_of_mem e present)

end Runs

/-- In every reachable state in which object `i` is authenticated on a session, and for every
continuation in which `i` stays: the calls of the handshake of another object `j` leave the root
key, the generation and the remote static key of the stored session as they would be without
them. If the handshake never passes `finish_msg3` and is not answered with a Sync of this session,
they leave all of its state so, apart from `last_touch_ms` and `attachments`; object `i` itself
is the same, and so is what its next packet call returns. -/
theorem unauthenticated_handshake_frame (pre es : List Event) (i j : Nat) (key : SessionKey)
    (on : AuthenticatedOn (World.after E pre) i key)
    (unauthenticated : ∀ q, (World.after E pre).peer? j = some q → q.authenticated = false)
    (stays : ∀ nowMs, .drop i nowMs ∉ es) :
    ∃ s t, (World.after E (pre ++ es)).store.lookup key = some s ∧
      (World.after E (pre ++ withoutHandshake j es)).store.lookup key = some t ∧
      s.rootKey = t.rootKey ∧ s.generation = t.generation ∧
      s.remotePublicKey = t.remotePublicKey ∧
      (AllSteps (World.step E) (fun _ w e => NeverPasses E j w e ∧ ReadsOnce j w e ∧
          NoSync E key j w e) (World.after E pre) es →
        SameState s t ∧
        (World.after E (pre ++ es)).peer? i =
          (World.after E (pre ++ withoutHandshake j es)).peer? i ∧
        ∀ packet a b,
          (World.after E (pre ++ es)).outcome E (.encrypt i packet a b) =
            (World.after E (pre ++ withoutHandshake j es)).outcome E (.encrypt i packet a b) ∧
          (World.after E (pre ++ es)).outcome E (.decrypt i packet a b) =
            (World.after E (pre ++ withoutHandshake j es)).outcome E (.decrypt i packet a b)) := by
  have after_append (es : List Event) :
      World.after E (pre ++ es) = run (World.step E) (World.after E pre) es :=
    run_append (World.step E) World.empty pre es
  have inv := consistent_after E pre
  have recorded := recorded_after (E := E) pre
  obtain ⟨p, live, authenticated, bound⟩ := on
  obtain ⟨own, remotePublicKey, own_eq, s, present, pinned⟩ := recorded i p live authenticated
  have own_key : own = key := Option.some.inj (own_eq.symm.trans bound)
  subst own_key
  have identified : Identified (World.after E pre) own s.rootKey s.generation remotePublicKey :=
    ⟨s, present, rfl, rfl, pinned⟩
  have on : AuthenticatedOn (World.after E pre) i own := ⟨p, live, authenticated, bound⟩
  have stays' : ∀ nowMs, Event.drop i nowMs ∉ withoutHandshake j es := by
    intro nowMs present
    exact stays nowMs (List.mem_of_mem_filter present)
  obtain ⟨t, present_t, root_t, generation_t, remote_t⟩ :=
    identified_run (E := E) inv on identified stays
  obtain ⟨u, present_u, root_u, generation_u, remote_u⟩ :=
    identified_run (E := E) inv on identified stays'
  rw [after_append, after_append]
  refine ⟨t, u, present_t, present_u, root_t.trans root_u.symm,
    generation_t.trans generation_u.symm, remote_t.trans remote_u.symm, ?_⟩
  intro steps
  obtain ⟨alike, watched, watched'⟩ :=
    alike_run ⟨inv, named_after pre, recorded, on, unauthenticated⟩ stays steps
  obtain ⟨t', u', found_t, found_u, same⟩ := alike.session
  have t_eq : t = t' := Option.some.inj (present_t.symm.trans found_t)
  have u_eq : u = u' := Option.some.inj (present_u.symm.trans found_u)
  subst t_eq u_eq
  obtain ⟨q, live_q, authenticated_q, bound_q⟩ := watched.on
  obtain ⟨q', live_q', _, bound_q'⟩ := watched'.on
  have other : i ≠ j := by
    rintro rfl
    exact absurd ((watched.unauthenticated q live_q).symm.trans authenticated_q) (by simp)
  have peer_eq : q' = q := by
    rcases alike.others i q q' other live_q live_q' with same | ⟨foreign, _⟩
    · exact same
    · exact absurd bound_q foreign.2.1
  subst peer_eq
  have own_bound : Bound own q' := by
    intro held held_eq
    exact (Option.some.inj (bound_q.symm.trans held_eq)).symm
  have sees : Sees own ⟨q', (run (World.step E) (World.after E pre) es).store⟩
      ⟨q', (run (World.step E) (World.after E pre) (withoutHandshake j es)).store⟩ :=
    ⟨rfl, alike.session⟩
  refine ⟨same, live_q.trans live_q'.symm, fun packet a b => ⟨?_, ?_⟩⟩
  · have agree := encryptPacket_agree E packet a b sees own_bound
    simp only [World.outcome, World.perform, World.call, live_q, live_q', Option.elim]
    rw [agree.1]
  · have agree := decryptPacket_agree E packet a b sees own_bound
    simp only [World.outcome, World.perform, World.call, live_q, live_q', Option.elim]
    rw [agree.1]

/-- Object 0 is authenticated on the session of this key, and object 1 is new. -/
def liveRun : List Event :=
  plainHandshake 0 [] (Vector.replicate 32 1) 1000 ++ [.construct "" "" 9 1001]

/-- The handshake of object 1, which reports `reported` and is then dropped. -/
def brokenHandshake (reported : Bytes) : List Event :=
  [.readMsg1 1 (plainMsg1 reported),
    .buildMsg2 1 "s" ⟨.ok (Vector.replicate 32 2), .ok ⟨0, 0, 0, 0⟩⟩ 1002 1002, .drop 1 1003]

private theorem liveRun_authenticated : AuthenticatedOn (World.after plainEnv liveRun) 0 plainKey ∧
    ∀ q, (World.after plainEnv liveRun).peer? 1 = some q → q.authenticated = false := by
  constructor
  · have holds : ((World.after plainEnv liveRun).peer? 0).any
        (fun p => p.authenticated && p.sessionKey == some plainKey) = true := by
      decide +kernel
    obtain ⟨p, live, both⟩ := (Option.any_eq_true _ _).mp holds
    obtain ⟨authenticated, bound⟩ := Bool.and_eq_true_iff.mp both
    exact ⟨p, live, authenticated, by simpa using bound⟩
  · intro q live
    have fresh : ((World.after plainEnv liveRun).peer? 1).all
        (fun q => !q.authenticated) = true := by
      decide +kernel
    rw [live] at fresh
    simpa using fresh

/-- When the reported generation is the stored one, object 0 sees no difference. -/
theorem unauthenticated_handshake_frame_joined :
    ∃ s t, (World.after plainEnv (liveRun ++ brokenHandshake [1])).store.lookup plainKey = some s ∧
      (World.after plainEnv (liveRun ++ withoutHandshake 1 (brokenHandshake [1]))).store.lookup
        plainKey = some t ∧ SameState s t := by
  obtain ⟨s, t, present, present', _, _, _, same⟩ :=
    unauthenticated_handshake_frame liveRun (brokenHandshake [1]) 0 1 plainKey
      liveRun_authenticated.1 liveRun_authenticated.2 (by simp [brokenHandshake])
  refine ⟨s, t, present, present', (same ?_).1⟩
  refine allSteps_of_check (fun _ w e => match e with
    | .readMsg1 i _ => i == 1
    | .buildMsg2 _ _ _ _ _ =>
      (w.selection plainEnv e).all fun sel => sel.session.action != .sync
    | .finishMsg3 i _ _ => i != 1
    | _ => true) ?_ (by decide +kernel)
  intro _ w e checked
  refine ⟨?_, ?_, ?_⟩
  · rintro packet nowMs info rfl
    simp at checked
  · rintro i packet p rfl other
    exact absurd (by simpa using checked) other
  · intro own sel chosen _
    cases e with
    | buildMsg2 i networkSecret draws upsertMs attachMs =>
      simpa [chosen] using checked
    | _ => cases chosen

/-- A handshake that reports no generation and never passes `finish_msg3` is answered with a Sync,
which moves the epoch the live connection will send in. -/
theorem unauthenticated_handshake_disturbs :
    AuthenticatedOn (World.after plainEnv liveRun) 0 plainKey ∧
      AllSteps (World.step plainEnv) (fun _ w e => NeverPasses plainEnv 1 w e)
        (World.after plainEnv liveRun) (brokenHandshake []) ∧
      ((World.after plainEnv (liveRun ++ brokenHandshake [])).store.lookup plainKey).map
        StoredSession.nextEpoch = some 1 ∧
      ((World.after plainEnv (liveRun ++ withoutHandshake 1 (brokenHandshake []))).store.lookup
        plainKey).map StoredSession.nextEpoch = some 0 := by
  refine ⟨liveRun_authenticated.1, ?_, by decide +kernel, by decide +kernel⟩
  intro pre e post split packet nowMs info call
  have member : e ∈ brokenHandshake [] := by
    rw [split]
    simp
  rw [call] at member
  simp [brokenHandshake] at member

end EasyTierEdge.Secure.HandshakeFrame
