/- module: EasyTierEdge/Secure/JoinAgreement
   source: cloudflare/wasm/src/secure.rs, upsert_session and build_msg2
   digest: One client that reports the generation it received, and the root key a Join relies on. -/

import EasyTierEdge.Secure.LiveSession
import EasyTierEdge.Secure.Related

set_option autoImplicit false
set_option relaxedAutoImplicit false

namespace EasyTierEdge.Secure.JoinAgreement

open Lib.Fallible Lib.FiniteMap Lib.Machine
open Session Peer Connections Calls Steps StoreInvariant SessionMoves ObjectMoves RootKeys
open LiveSession Related

/-- The server and what the client has received for it: the last root key, and the generation
that came with it. -/
structure Link (HS : Type) where
  world : World HS
  received : Option (UInt32 × Key)

/-- A call on the server. `delivered` says whether a message 2 that it answers with reaches the
client. -/
structure Exchange where
  call : Event
  delivered : Bool

variable {HS : Type} (E : SecureEnv HS) (key : SessionKey)

/-- The message 2 a call sends to the client of `key`. -/
def answer (w : World HS) (e : Event) : Option NoiseMsg2 :=
  match w.selection E e, w.outcome E e with
  | some sel, .msg2 (.ok m) => if sel.sessionKey = key then some m.message else none
  | _, _ => none

/-- What the client holds once it has read this message 2. -/
def learned (received : Option (UInt32 × Key)) (m : NoiseMsg2) : Option (UInt32 × Key) :=
  match m.rootKey32 with
  | some rootKey => some (m.bSessionGeneration, rootKey)
  | none => received

namespace Link

def start : Link HS := ⟨World.empty, none⟩

def step (l : Link HS) (x : Exchange) : Link HS where
  world := l.world.step E x.call
  received :=
    if x.delivered then (answer E key l.world x.call).elim l.received (learned l.received)
    else l.received

/-- The state after a run from the empty store and a client that has received nothing. -/
def after (xs : List Exchange) : Link HS := run (step E key) start xs

end Link

/-- A message 1 of this client reports what it held when it sent the message, which may have been
on its way for any time. -/
def Honest (pre : List Exchange) (l : Link HS) (x : Exchange) : Prop :=
  ∀ i packet info p, x.call = .readMsg1 i packet →
    l.world.outcome E x.call = .msg1 (.ok info) →
    (l.world.step E x.call).peer? i = some p → asksFor p = some key →
    ∃ sent, sent <+: pre ∧
      p.aSessionGeneration = (Link.after E key sent).received.map Prod.fst

/-- The call takes the Create branch for `key`: every guard before it lets the call pass. -/
structure CreatesFor (w : World HS) (e : Event) (i : Nat) (networkSecret : String)
    (draws : Msg2Draws) (upsertMs attachMs : UInt64) (p : SecurePeer HS) : Prop where
  call : e = .buildMsg2 i networkSecret draws upsertMs attachMs
  secret : networkSecret.isEmpty = false
  live : w.peer? i = some p
  unbuilt : p.sessionKey = none
  started : p.handshake.isSome = true
  asks : asksFor p = some key
  evicted : (sweep upsertMs w.store).lookup key = none
  room : FMap.size (sweep upsertMs w.store) < maxStoredSessions
  drawn : ∃ rootKey, draws.random32 = .ok rootKey

/-- A Create answer to a client that holds a root key is sent and reaches it. -/
def CreateReaches (_ : List Exchange) (l : Link HS) (x : Exchange) : Prop :=
  ∀ i networkSecret draws upsertMs attachMs p,
    CreatesFor key l.world x.call i networkSecret draws upsertMs attachMs p →
    l.received = none ∨ (x.delivered = true ∧ ∃ m, l.world.outcome E x.call = .msg2 (.ok m))

/-- `upsert_session` answers Join to object `i`, which asks for `key`. -/
structure Joined (w : World HS) (e : Event) (i : Nat) (sel : Msg2Selection HS) : Prop where
  call : ∃ networkSecret draws upsertMs attachMs,
    e = .buildMsg2 i networkSecret draws upsertMs attachMs
  selected : w.selection E e = some sel
  own : sel.sessionKey = key
  keyless : sel.session.rootKeyForPeer = none

variable {E} {key}

namespace Link

private theorem after_snoc (xs : List Exchange) (x : Exchange) :
    after E key (xs ++ [x]) = step E key (after E key xs) x :=
  run_snoc (step E key) start xs x

end Link

private theorem learned_isSome {received : Option (UInt32 × Key)} (m : NoiseMsg2)
    (held : received.isSome = true) : (learned received m).isSome = true := by
  unfold learned
  split
  · rfl
  · exact held

private theorem received_step (l : Link HS) (x : Exchange) (held : l.received.isSome = true) :
    (l.step E key x).received.isSome = true := by
  simp only [Link.step]
  split
  · cases answer E key l.world x.call with
    | none => exact held
    | some m => exact learned_isSome m held
  · exact held

private theorem received_mono {sent xs : List Exchange} (earlier : sent <+: xs)
    (held : (Link.after E key sent).received.isSome = true) :
    (Link.after E key xs).received.isSome = true := by
  obtain ⟨rest, rfl⟩ := earlier
  induction rest using List.reverseRecOn with
  | nil => rwa [List.append_nil]
  | append_singleton rest x ih =>
    rw [← List.append_assoc, Link.after_snoc]
    exact received_step _ x ih

/-! What message 1 reported stays on the object. -/

private theorem reported_acted {w : World HS} {i : Nat} {p : SecurePeer HS} {e : Event}
    {o : Outcome} {c : Ctx HS} (acted : Acted E w i p e o c) :
    (∃ packet info, e = .readMsg1 i packet ∧ o = .msg1 (.ok info)) ∨
      (asksFor c.peer = asksFor p ∧ c.peer.aSessionGeneration = p.aSessionGeneration) := by
  cases acted with
  | readMsg1 packet r ran =>
    cases ran with
    | refused => exact Or.inr ⟨rfl, rfl⟩
    | read => exact Or.inl ⟨packet, _, rfl, rfl⟩
  | buildMsg2 networkSecret draws upsertMs attachMs r ran =>
    right
    cases ran with
    | refused => exact ⟨rfl, rfl⟩
    | unselected => exact ⟨rfl, rfl⟩
    | unwritten => exact ⟨rfl, rfl⟩
    | exhausted => exact ⟨rfl, rfl⟩
    | answered => exact ⟨rfl, rfl⟩
  | finishMsg3 packet nowMs r ran =>
    right
    cases ran with
    | refused => exact ⟨rfl, rfl⟩
    | failed => exact ⟨rfl, rfl⟩
    | finished => exact ⟨rfl, rfl⟩
  | encrypt packet rotateMs persistMs r ran =>
    have same := withoutCopy_encrypt ran
    exact Or.inr ⟨field_of_withoutCopy asksFor same fun _ => rfl,
      field_of_withoutCopy SecurePeer.aSessionGeneration same fun _ => rfl⟩
  | decrypt packet receivedMs persistMs r ran =>
    have same := withoutCopy_decrypt ran
    exact Or.inr ⟨field_of_withoutCopy asksFor same fun _ => rfl,
      field_of_withoutCopy SecurePeer.aSessionGeneration same fun _ => rfl⟩

/-- An object that was told a generation speaks for a client that has received a root key. -/
def Told (l : Link HS) (key : SessionKey) : Prop :=
  ∀ i p, l.world.peer? i = some p → asksFor p = some key →
    p.aSessionGeneration.isSome = true → l.received.isSome = true

private theorem told_step (pre : List Exchange) (x : Exchange)
    (told : Told (Link.after E key pre) key) (honest : Honest E key pre (Link.after E key pre) x) :
    Told ((Link.after E key pre).step E key x) key := by
  intro i p' live' asks reported
  rcases step_peer live' with ⟨_, unused⟩ | ⟨p, live, rfl | ⟨c, acted, rfl, _⟩⟩
  · rw [unused.aSessionGeneration] at reported
    cases reported
  · exact received_step _ x (told i p' live asks reported)
  · rcases reported_acted acted with ⟨packet, info, call, returned⟩ | ⟨same, kept⟩
    · obtain ⟨sent, earlier, told_then⟩ := honest i packet info c.peer call returned live' asks
      rw [told_then, Option.isSome_map] at reported
      exact received_step _ x (received_mono earlier reported)
    · rw [same] at asks
      rw [kept] at reported
      exact received_step _ x (told i p live asks reported)

/-! What the client received is the stored root key. -/

/-- While a session of the client is stored, a root key the client holds is that session's. -/
def Agreed (l : Link HS) (key : SessionKey) : Prop :=
  ∀ s held, l.world.store.lookup key = some s → l.received = some held →
    held = (s.generation, s.rootKey)

private theorem created_createsFor {w : World HS} {e : Event} {s : StoredSession}
    (created : Created E w e key s) : ∃ i networkSecret draws upsertMs attachMs p,
      CreatesFor key w e i networkSecret draws upsertMs attachMs p := by
  cases created with
  | create i networkSecret draws upsertMs attachMs p sel rootKey algorithm lastTouchMs attachments
      live selected absent session =>
    refine ⟨i, networkSecret, draws, upsertMs, attachMs, p, rfl, ?_, live, selected.unbuilt, ?_,
      selected_asksFor selected, absent, ?_, ?_⟩
    · cases secret : networkSecret.isEmpty with
      | false => rfl
      | true =>
        refine (ensures_of_ok (?_ : Ensures _ _ (fun _ _ => False) fun _ _ => True)
          selected.ran).elim
        simp [selectSession, secret]
    · have handshake : p.handshake = some sel.handshake := selected.handshake
      rw [handshake]
      rfl
    · obtain ⟨_, _, chosen⟩ := selected.chosen
      rw [session] at chosen
      cases chosen with
      | create _ _ room => exact room
    · obtain ⟨_, _, chosen⟩ := selected.chosen
      rw [session] at chosen
      cases chosen with
      | create _ _ _ drawn => exact ⟨_, drawn⟩

private theorem answer_stored {w : World HS} {e : Event} {m : NoiseMsg2}
    (answered : answer E key w e = some m) :
    ∃ s', (w.step E e).store.lookup key = some s' ∧
      (m.rootKey32 = some s'.rootKey ∧ m.bSessionGeneration = s'.generation ∨
        m.rootKey32 = none ∧ ∃ s, w.store.lookup key = some s ∧ s'.rootKey = s.rootKey ∧
          s'.generation = s.generation) := by
  unfold answer at answered
  split at answered
  case h_2 => cases answered
  rename_i sel out chosen returned
  split at answered
  case isFalse => cases answered
  rename_i own
  subst own
  cases answered
  have sent := msg2_sent returned
  generalize w.step E e = w' at sent ⊢
  cases sent with
  | sent i networkSecret draws upsertMs attachMs p sel' s handshake bConnId noiseMessage live
      selected chosen' =>
    have same : sel' = sel := Option.some.inj (chosen'.symm.trans chosen)
    subst same
    refine ⟨attachedSession s attachMs, Finmap.lookup_insert _, ?_⟩
    obtain ⟨algorithm, _, picked⟩ := selected.chosen
    generalize session : sel'.session = session at picked
    cases picked with
    | join t present =>
      right
      exact ⟨by rw [msg2, session], t, (FMap.lookup_of_lookup_retain present).1, rfl, rfl⟩
    | sync t =>
      left
      exact ⟨by rw [msg2, session]; rfl, by rw [msg2, session]; rfl⟩
    | create rootKey =>
      left
      exact ⟨by rw [msg2, session]; rfl, by rw [msg2, session]; rfl⟩

private theorem created_answer {w : World HS} {e : Event} {s' : StoredSession} {m : Msg2}
    (created : Created E w e key s') (returned : w.outcome E e = .msg2 (.ok m)) :
    answer E key w e = some m.message ∧ m.message.rootKey32 = some s'.rootKey ∧
      m.message.bSessionGeneration = s'.generation := by
  cases created with
  | create i networkSecret draws upsertMs attachMs p sel rootKey algorithm lastTouchMs attachments
      live selected absent session =>
    have sent := msg2_sent returned
    generalize w.step E (.buildMsg2 i networkSecret draws upsertMs attachMs) = w' at sent
    cases sent with
    | sent _ _ _ _ _ p' sel' s handshake bConnId noiseMessage live' selected' chosen =>
      have same_p : p = p' := Option.some.inj (live.symm.trans live')
      subst same_p
      have ran := selected.ran.symm.trans selected'.ran
      injection ran with same_sel
      subst same_sel
      refine ⟨?_, by rw [msg2, session]; rfl, by rw [msg2, session]; rfl⟩
      simp only [answer, chosen, returned, if_true]

/-- What the client holds after a step is what it held, or what is now stored. -/
private theorem received_cases (l : Link HS) (x : Exchange) :
    (l.step E key x).received = l.received ∨
      ∃ s', (l.step E key x).world.store.lookup key = some s' ∧
        (l.step E key x).received = some (s'.generation, s'.rootKey) := by
  simp only [Link.step]
  split
  · cases answered : answer E key l.world x.call with
    | none => exact Or.inl rfl
    | some m =>
      obtain ⟨s', present, ⟨sent, number⟩ | ⟨keyless, _⟩⟩ := answer_stored answered
      · exact Or.inr ⟨s', present, by simp [learned, sent, number]⟩
      · exact Or.inl (by simp [learned, keyless])
  · exact Or.inl rfl

private theorem agreed_step {l : Link HS} {pre : List Exchange} {x : Exchange}
    (agreed : Agreed l key)
    (reaches : CreateReaches E key pre l x) : Agreed (l.step E key x) key := by
  intro s' held present received
  rcases received_cases l x with unchanged | ⟨t, present_t, learned_t⟩
  · rcases step_lookup present with ⟨s, before, moved⟩ | created
    · obtain ⟨rootKey, generation, _⟩ := moved_rootKey moved
      rw [generation, rootKey]
      exact agreed s held before (unchanged.symm.trans received)
    · -- a session is only created for a client that holds nothing or gets the new root key
      obtain ⟨i, networkSecret, draws, upsertMs, attachMs, p, creates⟩ := created_createsFor created
      rcases reaches i networkSecret draws upsertMs attachMs p creates with
        nothing | ⟨delivered, m, returned⟩
      · exact absurd (nothing.symm.trans (unchanged.symm.trans received)) (by simp)
      · obtain ⟨answered, sent, number⟩ := created_answer created returned
        simp only [Link.step, delivered, if_true, answered, Option.elim, learned, sent, number]
          at received
        exact (Option.some.inj received).symm
  · have same : t = s' := Option.some.inj (present_t.symm.trans present)
    subst same
    exact Option.some.inj (received.symm.trans learned_t)

/-! Join. -/

private theorem kept_after {xs : List Exchange}
    (honest : AllSteps (Link.step E key) (Honest E key) Link.start xs)
    (reaches : AllSteps (Link.step E key) (CreateReaches E key) Link.start xs) :
    Told (Link.after E key xs) key ∧ Agreed (Link.after E key xs) key := by
  induction xs using List.reverseRecOn with
  | nil =>
    constructor
    · intro i p live
      have absent : (Link.after E key []).world.peer? i = none := peer?_empty i
      exact absurd (live.symm.trans absent) (by simp)
    · intro s held present
      exact absurd present (by simp [Link.after, Link.start, World.empty])
  | append_singleton xs x ih =>
    obtain ⟨told, agreed⟩ := ih honest.init reaches.init
    rw [Link.after_snoc]
    exact ⟨told_step xs x told honest.last, agreed_step agreed reaches.last⟩

/-- If no Create answer is lost while the client holds a root key, then whenever `upsert_session`
answers Join the stored root key is the one the client received last, and the connection that
joins loads that key. -/
theorem join_agreement {xs pre post : List Exchange} {x : Exchange} {i : Nat}
    {sel : Msg2Selection HS}
    (honest : AllSteps (Link.step E key) (Honest E key) Link.start xs)
    (reaches : AllSteps (Link.step E key) (CreateReaches E key) Link.start xs)
    (split : xs = pre ++ x :: post)
    (joined : Joined E key (Link.after E key pre).world x.call i sel) :
    ∃ s, (Link.after E key pre).world.store.lookup key = some s ∧
      sel.session.sessionRootKey = s.rootKey ∧
      (Link.after E key pre).received = some (s.generation, s.rootKey) ∧
      ∀ m p, (Link.after E key pre).world.outcome E x.call = .msg2 (.ok m) →
        (Link.after E key (pre ++ [x])).world.peer? i = some p → p.rootKey = some s.rootKey := by
  subst split
  obtain ⟨told, agreed⟩ := kept_after honest.append_left reaches.append_left
  obtain ⟨⟨networkSecret, draws, upsertMs, attachMs, call⟩, selected_eq, own, keyless⟩ := joined
  obtain ⟨j, _, _, _, _, p, s, same_call, live, selected⟩ := selection_selected selected_eq
  rw [call] at same_call
  cases same_call
  obtain ⟨algorithm, _, picked⟩ := selected.chosen
  generalize session : sel.session = session at picked keyless ⊢
  cases picked with
  | sync => cases keyless
  | create => cases keyless
  | join s present _ reported =>
    have stored : (Link.after E key pre).world.store.lookup key = some s := by
      have found := (FMap.lookup_of_lookup_retain present).1
      rwa [own] at found
    have asks : asksFor p = some key := by rw [selected_asksFor selected, own]
    have reported : p.aSessionGeneration = some s.generation := reported
    have holds := told i p live asks (by rw [reported]; rfl)
    obtain ⟨held, received⟩ := Option.isSome_iff_exists.mp holds
    refine ⟨s, stored, rfl, by rw [received, agreed s held stored received], ?_⟩
    intro m p' returned live'
    have sent := msg2_sent returned
    rw [Link.after_snoc] at live'
    have live' : ((Link.after E key pre).world.step E x.call).peer? i = some p' := live'
    generalize (Link.after E key pre).world.step E x.call = w' at sent live'
    rw [call] at sent selected_eq
    cases sent with
    | sent _ _ _ _ _ q sel' t handshake bConnId noiseMessage live_q selected' chosen =>
      have same : sel' = sel := Option.some.inj (chosen.symm.trans selected_eq)
      subst same
      rw [peer?_put live_q, if_pos rfl] at live'
      cases live'
      obtain ⟨_, _, picked⟩ := selected'.chosen
      rw [session] at picked
      generalize root : s.rootKey = rootKey at picked
      generalize s.generation = generation at picked
      cases picked with
      | join => rfl

/-- The client connects, receives root key 1 and disconnects. -/
def firstVisit : List Exchange :=
  (plainHandshake 0 [] (Vector.replicate 32 1) 1000 ++ [Event.drop 0 2000]).map
    fun call => ⟨call, true⟩

/-- It connects again as object `i` and reports generation 1. -/
def returnVisit (i : Nat) (nowMs : UInt64) : List Exchange :=
  [⟨.construct "" "" 9 nowMs, true⟩, ⟨.readMsg1 i (plainMsg1 [1]), true⟩]

/-- The answer to object `i`, which draws root key 2 if the session has been evicted. -/
def returnAnswer (i : Nat) (nowMs : UInt64) (delivered : Bool) : Exchange :=
  ⟨.buildMsg2 i "s" ⟨.ok (Vector.replicate 32 2), .ok ⟨0, 0, 0, 0⟩⟩ nowMs nowMs, delivered⟩

/-- A second visit after the session was evicted, whose answer is lost. -/
def lostVisit : List Exchange :=
  returnVisit 1 70000 ++ [returnAnswer 1 70000 false, ⟨.drop 1 70001, true⟩]

/-- `Honest`, for a client whose messages 1 are never delayed. -/
def reportsNow (pre : List Exchange) (l : Link Turn) (x : Exchange) : Bool :=
  match x.call with
  | .readMsg1 i _ => ((l.world.step plainEnv x.call).peer? i).all fun p =>
      p.aSessionGeneration == (Link.after plainEnv plainKey pre).received.map Prod.fst
  | _ => true

private theorem honest_of_reportsNow {xs : List Exchange}
    (checked : checkSteps (Link.step plainEnv plainKey) reportsNow [] Link.start xs = true) :
    AllSteps (Link.step plainEnv plainKey) (Honest plainEnv plainKey) Link.start xs := by
  refine allSteps_of_check reportsNow ?_ checked
  intro pre l x holds i packet info p call _ live _
  refine ⟨pre, List.prefix_refl pre, ?_⟩
  simp only [reportsNow, call] at holds live
  rw [live] at holds
  simpa using holds

/-- A message 2 comes before the first root key, or while the session is stored. -/
def checkCreates (_pre : List Exchange) (l : Link Turn) (x : Exchange) : Bool :=
  match x.call with
  | .buildMsg2 _ _ _ upsertMs _ =>
    l.received.isNone || ((sweep upsertMs l.world.store).lookup plainKey).isSome
  | _ => true

/-- Within the minute the session is still stored, and the Join is right. -/
theorem join_agreement_returnVisit : ∃ s,
    (Link.after plainEnv plainKey (firstVisit ++ returnVisit 1 3000)).world.store.lookup plainKey =
      some s ∧
    (Link.after plainEnv plainKey (firstVisit ++ returnVisit 1 3000)).received =
      some (s.generation, s.rootKey) := by
  have chosen : ((Link.after plainEnv plainKey
      (firstVisit ++ returnVisit 1 3000)).world.selection plainEnv
        (returnAnswer 1 3000 true).call).any
      (fun sel => sel.sessionKey == plainKey && sel.session.rootKeyForPeer == none) = true := by
    decide +kernel
  obtain ⟨sel, selected, both⟩ := (Option.any_eq_true _ _).mp chosen
  obtain ⟨own, keyless⟩ := Bool.and_eq_true_iff.mp both
  have honest : AllSteps (Link.step plainEnv plainKey) (Honest plainEnv plainKey) Link.start
      (firstVisit ++ returnVisit 1 3000 ++ [returnAnswer 1 3000 true]) :=
    honest_of_reportsNow (by decide +kernel)
  have reaches : AllSteps (Link.step plainEnv plainKey) (CreateReaches plainEnv plainKey) Link.start
      (firstVisit ++ returnVisit 1 3000 ++ [returnAnswer 1 3000 true]) := by
    refine allSteps_of_check checkCreates ?_ (by decide +kernel)
    intro pre l x holds i networkSecret draws upsertMs attachMs p creates
    rw [checkCreates, creates.call] at holds
    left
    simpa [creates.evicted] using holds
  obtain ⟨s, stored, _, received, _⟩ := join_agreement honest reaches rfl
    ⟨⟨_, _, _, _, rfl⟩, selected, by simpa using own, by simpa using keyless⟩
  exact ⟨s, stored, received⟩

/-- The session was evicted, the answer that created it anew was lost, and the client still reports
generation 1: it is told to join, under a root key it has never received. -/
theorem join_disagreement :
    AllSteps (Link.step plainEnv plainKey) (Honest plainEnv plainKey) Link.start
        (firstVisit ++ lostVisit ++ returnVisit 2 71000 ++ [returnAnswer 2 71000 true]) ∧
      (∃ sel, Joined plainEnv plainKey
        (Link.after plainEnv plainKey (firstVisit ++ lostVisit ++ returnVisit 2 71000)).world
        (returnAnswer 2 71000 true).call 2 sel) ∧
      (∃ s, (Link.after plainEnv plainKey
          (firstVisit ++ lostVisit ++ returnVisit 2 71000)).world.store.lookup plainKey = some s ∧
        s.rootKey = Vector.replicate 32 2) ∧
      (Link.after plainEnv plainKey (firstVisit ++ lostVisit ++ returnVisit 2 71000)).received =
        some (1, Vector.replicate 32 1) := by
  refine ⟨honest_of_reportsNow (by decide +kernel), ?_, ?_, by decide +kernel⟩
  · have chosen : ((Link.after plainEnv plainKey
        (firstVisit ++ lostVisit ++ returnVisit 2 71000)).world.selection plainEnv
        (returnAnswer 2 71000 true).call).any
        (fun sel => sel.sessionKey == plainKey && sel.session.rootKeyForPeer == none) = true := by
      decide +kernel
    obtain ⟨sel, selected, both⟩ := (Option.any_eq_true _ _).mp chosen
    obtain ⟨own, keyless⟩ := Bool.and_eq_true_iff.mp both
    exact ⟨sel, ⟨_, _, _, _, rfl⟩, selected, by simpa using own, by simpa using keyless⟩
  · have stored : ((Link.after plainEnv plainKey
        (firstVisit ++ lostVisit ++ returnVisit 2 71000)).world.store.lookup plainKey).any
        (fun s => s.rootKey == Vector.replicate 32 2) = true := by
      decide +kernel
    obtain ⟨s, present, root⟩ := (Option.any_eq_true _ _).mp stored
    exact ⟨s, present, by simpa using root⟩

end EasyTierEdge.Secure.JoinAgreement
