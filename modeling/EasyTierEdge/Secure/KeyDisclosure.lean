/- module: EasyTierEdge/Secure/KeyDisclosure
   source: cloudflare/wasm/src/secure.rs, root_key_32 in build_msg2 and upsert_session
   digest: A root key sent in message 2 stays with one session key until the session is evicted. -/

import EasyTierEdge.Secure.LiveSession

set_option autoImplicit false
set_option relaxedAutoImplicit false

namespace EasyTierEdge.Secure.KeyDisclosure

open Lib.Fallible Lib.FiniteMap Lib.Machine
open Session Peer Connections Calls Steps StoreInvariant SessionMoves ObjectMoves RootKeys
open LiveSession

variable {HS : Type} (E : SecureEnv HS)

/-- The stored session of `key` has this root key. -/
def StoredWith (w : World HS) (key : SessionKey) (rootKey : Key) : Prop :=
  ∃ s, w.store.lookup key = some s ∧ s.rootKey = rootKey

/-- Object `i` is authenticated on the session of `key`, and that has this root key. -/
def AuthenticatedWith (w : World HS) (i : Nat) (key : SessionKey) (rootKey : Key) : Prop :=
  AuthenticatedOn w i key ∧ StoredWith w key rootKey

/-- The step answers object `i`, bound to `key` from now on, with a message 2 that carries this
root key. -/
structure RootKeySent (w : World HS) (e : Event) (i : Nat) (key : SessionKey) (rootKey : Key)
    (m : Msg2) : Prop where
  call : ∃ networkSecret draws upsertMs attachMs,
    e = .buildMsg2 i networkSecret draws upsertMs attachMs
  returned : w.outcome E e = .msg2 (.ok m)
  carried : m.message.rootKey32 = some rootKey
  bound : ∃ p, (w.step E e).peer? i = some p ∧ p.sessionKey = some key

/-- The root key a step draws, with the session key it is stored under. -/
def createdSession (w : World HS) (e : Event) : Option (Key × SessionKey) :=
  (w.selection E e).bind fun sel =>
    if sel.session.action = .create then some (sel.session.sessionRootKey, sel.sessionKey) else none

def createdSessions (es : List Event) : List (Key × SessionKey) :=
  log (World.step E) (createdSession E) World.empty es

variable {E}

/-! Which sessions were created in a history. -/

private theorem createdSession_rootKey (w : World HS) (e : Event) :
    (createdSession E w e).map Prod.fst = w.createdRootKey E e := by
  unfold createdSession World.createdRootKey
  cases w.selection E e with
  | none => rfl
  | some sel =>
    simp only [Option.bind_some]
    split <;> rfl

private theorem createdSessions_rootKeys (es : List Event) :
    (createdSessions E es).map Prod.fst = World.createdRootKeys E es := by
  unfold createdSessions World.createdRootKeys
  induction es using List.reverseRecOn with
  | nil => rfl
  | append_singleton es e ih =>
    rw [log_snoc, log_snoc, List.map_append, ih, ← createdSession_rootKey]
    cases createdSession E (run (World.step E) World.empty es) e <;> rfl

private theorem createdSessions_append (es later : List Event) {entry : Key × SessionKey}
    (member : entry ∈ createdSessions E es) : entry ∈ createdSessions E (es ++ later) := by
  unfold createdSessions
  rw [log_append]
  exact List.mem_append_left _ member

private theorem createdSessions_unique {es : List Event} (fresh : FreshRootKeys E es)
    {rootKey : Key} {key key' : SessionKey} (first : (rootKey, key) ∈ createdSessions E es)
    (second : (rootKey, key') ∈ createdSessions E es) : key = key' := by
  have distinct : ((createdSessions E es).map Prod.fst).Nodup := by
    rw [createdSessions_rootKeys]
    exact fresh
  have same := List.inj_on_of_nodup_map distinct first second rfl
  exact congrArg Prod.snd same

private theorem created_createdSession {w : World HS} {e : Event} {key : SessionKey}
    {s : StoredSession}
    (created : Created E w e key s) : createdSession E w e = some (s.rootKey, key) := by
  cases created with
  | create i networkSecret draws upsertMs attachMs p sel rootKey algorithm lastTouchMs attachments
      live selected absent session =>
    simp only [createdSession, World.selection, live, Option.bind_some, selected.ran, session,
      createSelection, if_true]
    rfl

private theorem stored_created (es : List Event) {key : SessionKey} {s : StoredSession}
    (present : (World.after E es).store.lookup key = some s) :
    (s.rootKey, key) ∈ createdSessions E es := by
  induction es using List.reverseRecOn generalizing key s with
  | nil => exact absurd present (by simp [World.after, World.empty])
  | append_singleton es e ih =>
    rw [Handshake.after_snoc] at present
    rcases step_lookup present with ⟨t, before, moved⟩ | created
    · rw [(moved_rootKey moved).1]
      exact createdSessions_append es [e] (ih before)
    · unfold createdSessions
      rw [log_snoc]
      apply List.mem_append_right
      have drawn : createdSession E (run (World.step E) World.empty es) e = some (s.rootKey, key) :=
        created_createdSession created
      rw [drawn]
      simp

/-! An evicted root key does not come back. -/

/-- No stored session has this root key. -/
def Gone (w : World HS) (rootKey : Key) : Prop := ∀ key, ¬ StoredWith w key rootKey

private theorem gone_run {es later : List Event} (fresh : FreshRootKeys E (es ++ later))
    {rootKey : Key}
    (drawn : rootKey ∈ World.createdRootKeys E es) (gone : Gone (World.after E es) rootKey) :
    Gone (World.after E (es ++ later)) rootKey := by
  induction later using List.reverseRecOn with
  | nil => rwa [List.append_nil]
  | append_singleton later e ih =>
    rw [← List.append_assoc] at fresh ⊢
    have steps := FreshRootKeys.steps fresh
    have before : FreshRootKeys E (es ++ later) := by
      have nodup : (World.createdRootKeys E (es ++ later ++ [e])).Nodup := fresh
      rw [createdRootKeys_snoc] at nodup
      exact (List.nodup_append.mp nodup).1
    have gone := ih before
    rw [Handshake.after_snoc]
    rintro key ⟨s', present, root⟩
    rcases step_lookup present with ⟨s, found, moved⟩ | created
    · exact gone key ⟨s, found, (moved_rootKey moved).1.symm.trans root⟩
    · have again := steps.last s'.rootKey (created_rootKey created)
      apply again
      rw [root]
      unfold World.createdRootKeys
      rw [log_append]
      exact List.mem_append_left _ drawn

/-! The disclosure. -/

/-- A root key that message 2 carries is that of the session the object is bound to. -/
private theorem rootKeySent_stored {w : World HS} {e : Event} {i : Nat} {key : SessionKey}
    {rootKey : Key} {m : Msg2} (sent : RootKeySent E w e i key rootKey m) :
    StoredWith (w.step E e) key rootKey ∧
      (m.message.action = .create → w.createdRootKey E e = some rootKey) := by
  obtain ⟨⟨networkSecret, draws, upsertMs, attachMs, call⟩, returned, carried, p', live', bound'⟩ :=
    sent
  have answered := msg2_sent returned
  generalize w.step E e = w' at answered live' ⊢
  cases answered with
  | sent j _ _ upsertMs' attachMs' p sel s handshake bConnId noiseMessage live selected chosen =>
    cases call
    rw [peer?_put live, if_pos rfl] at live'
    cases live'
    have own : sel.sessionKey = key := Option.some.inj bound'
    subst own
    have carried : sel.session.rootKeyForPeer = some rootKey := carried
    obtain ⟨algorithm, _, picked⟩ := selected.chosen
    have root : s.rootKey = rootKey ∧
        (sel.session.action = .create → sel.session.sessionRootKey = rootKey) := by
      generalize sel.session = session at picked carried ⊢
      cases picked with
      | join => cases carried
      | sync t => exact ⟨Option.some.inj carried, fun never => by cases never⟩
      | create drawn => exact ⟨Option.some.inj carried, fun _ => Option.some.inj carried⟩
    refine ⟨⟨attachedSession s attachMs, Finmap.lookup_insert _, root.1⟩, ?_⟩
    intro create
    have create : sel.session.action = .create := create
    rw [World.createdRootKey, chosen, Option.bind_some, if_pos create, root.2 create]

/-- In every run with fresh root keys: if a message 2 carries a root key, then a connection that is
authenticated on a session with this root key, at any time of the run, is bound to the same session
key as the connection that got the message; the session has then been stored without interruption
since; and if the message created the session, nobody was authenticated on it before. -/
theorem root_key_confined {es a b : List Event} {e : Event} {i : Nat} {key : SessionKey}
    {rootKey : Key} {m : Msg2} (fresh : FreshRootKeys E es) (split : es = a ++ e :: b)
    (sent : RootKeySent E (World.after E a) e i key rootKey m)
    (c rest : List Event) (within : es = c ++ rest) (j : Nat) (other : SessionKey)
    (used : AuthenticatedWith (World.after E c) j other rootKey) :
    other = key ∧
      (∀ between later, c = a ++ e :: between ++ later →
        StoredWith (World.after E (a ++ e :: between)) key rootKey) ∧
      (m.message.action = .create → ∃ between, c = a ++ e :: between) := by
  obtain ⟨stored, creates⟩ := rootKeySent_stored sent
  rw [← Handshake.after_snoc] at stored
  have split' : es = (a ++ [e]) ++ b := by simp [split]
  obtain ⟨s, present, root⟩ := stored
  have created : (rootKey, key) ∈ createdSessions E es := by
    rw [split', ← root]
    exact createdSessions_append _ b (stored_created (a ++ [e]) present)
  -- whoever uses the root key at any time is bound to this session key
  have owner {d rest : List Event} (within : es = d ++ rest) {own : SessionKey}
      (stored : StoredWith (World.after E d) own rootKey) : own = key := by
    obtain ⟨t, present, root⟩ := stored
    have member : (rootKey, own) ∈ createdSessions E es := by
      rw [within, ← root]
      exact createdSessions_append d rest (stored_created d present)
    exact createdSessions_unique fresh member created
  have drawn_before {d rest : List Event} {own : SessionKey}
      (stored : StoredWith (World.after E d) own rootKey) :
      rootKey ∈ World.createdRootKeys E (d ++ rest) := by
    obtain ⟨t, present, root⟩ := stored
    rw [← createdSessions_rootKeys, ← root]
    exact List.mem_map_of_mem (createdSessions_append d rest (stored_created d present))
  refine ⟨owner within used.2, ?_, ?_⟩
  · intro between later c_eq
    by_contra evicted
    have gone : Gone (World.after E (a ++ e :: between)) rootKey := by
      intro own stored
      have rest_eq : es = (a ++ e :: between) ++ (later ++ rest) := by
        rw [within, c_eq, List.append_assoc]
      exact evicted (owner rest_eq stored ▸ stored)
    have fresh_c : FreshRootKeys E (a ++ e :: between ++ later) := by
      have nodup : (World.createdRootKeys E es).Nodup := fresh
      rw [within, c_eq] at nodup
      unfold World.createdRootKeys at nodup
      rw [log_append] at nodup
      exact (List.nodup_append.mp nodup).1
    have drawn : rootKey ∈ World.createdRootKeys E (a ++ e :: between) := by
      have early : rootKey ∈ World.createdRootKeys E ((a ++ [e]) ++ between) :=
        drawn_before ⟨s, present, root⟩
      simpa using early
    have absent := gone_run fresh_c drawn gone
    rw [← c_eq] at absent
    exact absent other used.2
  · intro create
    have prefixes : c <+: a ∨ a ++ [e] <+: c := by
      have first : c <+: es := ⟨rest, within.symm⟩
      have second : a ++ [e] <+: es := ⟨b, split'.symm⟩
      rcases List.prefix_or_prefix_of_prefix first second with short | long
      · rcases List.prefix_concat_iff.mp short with same | shorter
        · exact Or.inr ⟨[], by rw [List.append_nil, same]⟩
        · exact Or.inl shorter
      · exact Or.inr long
    rcases prefixes with ⟨more, a_eq⟩ | ⟨between, c_eq⟩
    · have before : rootKey ∈ World.createdRootKeys E a := by
        rw [← a_eq]
        exact drawn_before used.2
      have steps : AllSteps (World.step E) (FreshStep E) World.empty es := fresh.steps
      exact absurd before (steps a e b split rootKey (creates create))
    · exact ⟨between, by rw [← c_eq]; simp⟩

/-- Object 0 is authenticated; object 1 reads a message 1 of the same peer without a generation. -/
def knockingRun : List Event :=
  plainHandshake 0 [] (Vector.replicate 32 1) 1000 ++
    [.construct "" "" 9 1001, .readMsg1 1 (plainMsg1 [])]

/-- The answer to object 1, which is dropped afterwards without a message 3. -/
def knockAnswer : Event :=
  .buildMsg2 1 "s" ⟨.ok (Vector.replicate 32 2), .ok ⟨0, 0, 0, 0⟩⟩ 1002 1002

/-- The root key inside a message 2. -/
def sentRootKey : Outcome → Option Key
  | .msg2 (.ok m) => m.message.rootKey32
  | _ => none

private theorem knockAnswer_sent :
    ∃ m, RootKeySent plainEnv (World.after plainEnv knockingRun) knockAnswer 1
    plainKey (Vector.replicate 32 1) m := by
  have carried : sentRootKey ((World.after plainEnv knockingRun).outcome plainEnv knockAnswer) =
      some (Vector.replicate 32 1) := by
    decide +kernel
  have bound : (((World.after plainEnv knockingRun).step plainEnv knockAnswer).peer? 1).any
      (fun p => p.sessionKey == some plainKey) = true := by
    decide +kernel
  obtain ⟨p, live, same⟩ := (Option.any_eq_true _ _).mp bound
  generalize returned : (World.after plainEnv knockingRun).outcome plainEnv knockAnswer = o
    at carried
  unfold sentRootKey at carried
  split at carried
  · exact ⟨_, ⟨_, _, _, _, rfl⟩, returned, carried, p, live, by simpa using same⟩
  · cases carried

private theorem knockingRun_used : AuthenticatedWith
    (World.after plainEnv (knockingRun ++ [knockAnswer, .drop 1 1003])) 0 plainKey
    (Vector.replicate 32 1) := by
  constructor
  · have holds : ((World.after plainEnv (knockingRun ++ [knockAnswer, .drop 1 1003])).peer? 0).any
        (fun p => p.authenticated && p.sessionKey == some plainKey) = true := by
      decide +kernel
    obtain ⟨p, live, both⟩ := (Option.any_eq_true _ _).mp holds
    obtain ⟨authenticated, bound⟩ := Bool.and_eq_true_iff.mp both
    exact ⟨p, live, authenticated, by simpa using bound⟩
  · have holds : ((World.after plainEnv
        (knockingRun ++ [knockAnswer, .drop 1 1003])).store.lookup plainKey).any
        (fun s => s.rootKey == Vector.replicate 32 1) = true := by
      decide +kernel
    obtain ⟨s, present, root⟩ := (Option.any_eq_true _ _).mp holds
    exact ⟨s, present, by simpa using root⟩

/-- A connection that never sends message 3 is sent the root key of the session object 0 is
authenticated on. -/
theorem root_key_disclosed :
    FreshRootKeys plainEnv (knockingRun ++ [knockAnswer, .drop 1 1003]) ∧
      (∃ m, RootKeySent plainEnv (World.after plainEnv knockingRun) knockAnswer 1 plainKey
        (Vector.replicate 32 1) m) ∧
      AuthenticatedWith (World.after plainEnv (knockingRun ++ [knockAnswer, .drop 1 1003])) 0
        plainKey (Vector.replicate 32 1) := by
  refine ⟨?_, knockAnswer_sent, knockingRun_used⟩
  unfold FreshRootKeys
  decide +kernel

/-- The session of the disclosed key was stored all along. -/
theorem root_key_confined_knocking :
    StoredWith (World.after plainEnv (knockingRun ++ [knockAnswer])) plainKey
      (Vector.replicate 32 1) := by
  have fresh : FreshRootKeys plainEnv (knockingRun ++ knockAnswer :: [.drop 1 1003]) := by
    unfold FreshRootKeys
    decide +kernel
  obtain ⟨m, sent⟩ := knockAnswer_sent
  obtain ⟨_, stored, _⟩ := root_key_confined fresh rfl sent
    (knockingRun ++ [knockAnswer, .drop 1 1003]) [] (by simp) 0 plainKey knockingRun_used
  exact stored [] [.drop 1 1003] (by simp)

end EasyTierEdge.Secure.KeyDisclosure
