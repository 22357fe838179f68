/- module: EasyTierEdge/Secure/Steps
   source: cloudflare/wasm/src/secure.rs, SESSION_STORE and every live SecurePeer
   digest: Every step of the shared system, and how it counts and indexes its objects. -/

import EasyTierEdge.Secure.Calls

set_option autoImplicit false
set_option relaxedAutoImplicit false

namespace EasyTierEdge.Secure.Steps

open Lib.Fallible Lib.FiniteMap
open Packet (Bytes)
open Session Peer Connections Calls

variable {HS : Type}

/-! Reading the objects of a world. -/

private theorem peer?_eq_some {w : World HS} {i : Nat} {p : SecurePeer HS} :
    w.peer? i = some p ↔ w.peers[i]? = some (some p) := by
  unfold World.peer?
  cases w.peers[i]? with
  | none => simp
  | some q => simp

theorem peer?_lt {w : World HS} {i : Nat} {p : SecurePeer HS} (live : w.peer? i = some p) :
    i < w.peers.length :=
  List.getElem?_eq_some_iff.mp (peer?_eq_some.mp live) |>.1

theorem peer?_set {w : World HS} {i : Nat} {p : SecurePeer HS} (live : w.peer? i = some p)
    (store : SessionStore) (q : Option (SecurePeer HS)) (j : Nat) :
    (⟨store, w.peers.set i q⟩ : World HS).peer? j = if j = i then q else w.peer? j := by
  unfold World.peer?
  rw [List.getElem?_set]
  split
  · rename_i same
    subst same
    simp [peer?_lt live]
  · rename_i differs
    rw [if_neg (fun h => differs h.symm)]

theorem peer?_put {w : World HS} {i : Nat} {p : SecurePeer HS} (live : w.peer? i = some p)
    (c : Ctx HS) (j : Nat) :
    (w.put i c).peer? j = if j = i then some c.peer else w.peer? j :=
  peer?_set live c.store (some c.peer) j

theorem peer?_append (w : World HS) (store : SessionStore) (p : SecurePeer HS) (j : Nat) :
    (⟨store, w.peers ++ [some p]⟩ : World HS).peer? j =
      if j = w.peers.length then some p else w.peer? j := by
  unfold World.peer?
  rw [List.getElem?_append]
  split
  · rename_i old
    rw [if_neg (by omega)]
  · rename_i new
    by_cases last : j = w.peers.length
    · simp [last]
    · have absent : w.peers[j]? = none := List.getElem?_eq_none (by omega)
      rw [List.getElem?_eq_none (by simp; omega), if_neg last, absent]

theorem peer?_empty (i : Nat) : (World.empty : World HS).peer? i = none := rfl

/-! Counting them. -/

private theorem countP_set_add {α : Type} (test : α → Bool) {l : List α} {i : Nat} {a : α}
    (b : α) (at_i : l[i]? = some a) :
    (l.set i b).countP test + (if test a then 1 else 0) =
      l.countP test + (if test b then 1 else 0) := by
  obtain ⟨lt, get⟩ := List.getElem?_eq_some_iff.mp at_i
  have counted := List.countP_set (p := test) (a := b) lt
  have member : test a = true → 0 < l.countP test := by
    intro holds
    exact List.countP_pos_iff.mpr ⟨a, get ▸ List.getElem_mem lt, holds⟩
  rw [get] at counted
  rw [counted]
  split
  · have := member ‹_›
    omega
  · omega

theorem attachedPeers_set {w : World HS} {i : Nat} {p : SecurePeer HS}
    (live : w.peer? i = some p) (store : SessionStore) (q : Option (SecurePeer HS))
    (key : SessionKey) :
    (⟨store, w.peers.set i q⟩ : World HS).attachedPeers key +
        (if World.attachedTo key (some p) then 1 else 0) =
      w.attachedPeers key + (if World.attachedTo key q then 1 else 0) :=
  countP_set_add (World.attachedTo key) q (peer?_eq_some.mp live)

theorem livePeers_set {w : World HS} {i : Nat} {p : SecurePeer HS}
    (live : w.peer? i = some p) (store : SessionStore) (q : Option (SecurePeer HS)) :
    (⟨store, w.peers.set i q⟩ : World HS).livePeers + 1 =
      w.livePeers + (if q.isSome then 1 else 0) := by
  have counted := countP_set_add Option.isSome q (peer?_eq_some.mp live)
  simpa [World.livePeers] using counted

theorem attachedPeers_le_livePeers (w : World HS) (key : SessionKey) :
    w.attachedPeers key ≤ w.livePeers := by
  apply List.countP_mono_left
  intro q _ holds
  cases q with
  | none => simp [World.attachedTo] at holds
  | some p => rfl

theorem attachedPeers_pos {w : World HS} {i : Nat} {p : SecurePeer HS} {key : SessionKey}
    (live : w.peer? i = some p) (holds : World.attachedTo key (some p) = true) :
    0 < w.attachedPeers key := by
  refine List.countP_pos_iff.mpr ⟨some p, ?_, holds⟩
  exact List.mem_of_getElem? (peer?_eq_some.mp live)

/-! The steps. -/

variable (E : SecureEnv HS)

/-- Every step of the system, with what it returned. -/
inductive Step (w : World HS) : Event → World HS × Outcome → Prop
  | idle (e : Event) (o : Outcome) (quiet : o = .absent ∨ ∃ text, o = .refused text) :
      Step w e (w, o)
  | constructed (privateKey publicKey : String) (serverPeerId : UInt32) (nowMs : UInt64)
      (p : SecurePeer HS) (room : w.livePeers < maxLivePeers)
      (made : SecurePeer.new E privateKey publicKey serverPeerId nowMs = .ok p) :
      Step w (.construct privateKey publicKey serverPeerId nowMs)
        (⟨w.store, w.peers ++ [some p]⟩, .constructed w.peers.length)
  | readMsg1 (i : Nat) (packet : Bytes) (p : SecurePeer HS)
      (r : EStateM.Result JsError (Ctx HS) Msg1Info) (live : w.peer? i = some p)
      (ran : ReadMsg1 E packet ⟨p, w.store⟩ r) :
      Step w (.readMsg1 i packet) (w.put i (final r), .msg1 (value r))
  | buildMsg2 (i : Nat) (networkSecret : String) (draws : Msg2Draws) (upsertMs attachMs : UInt64)
      (p : SecurePeer HS) (r : EStateM.Result JsError (Ctx HS) Msg2) (live : w.peer? i = some p)
      (ran : BuildMsg2 E networkSecret draws upsertMs attachMs ⟨p, w.store⟩ r) :
      Step w (.buildMsg2 i networkSecret draws upsertMs attachMs)
        (w.put i (final r), .msg2 (value r))
  | finishMsg3 (i : Nat) (packet : Bytes) (nowMs : UInt64) (p : SecurePeer HS)
      (r : EStateM.Result JsError (Ctx HS) AuthInfo) (live : w.peer? i = some p)
      (ran : FinishMsg3 E packet nowMs ⟨p, w.store⟩ r) :
      Step w (.finishMsg3 i packet nowMs) (w.put i (final r), .auth (value r))
  | encrypt (i : Nat) (packet : Bytes) (rotateMs persistMs : UInt64) (p : SecurePeer HS)
      (r : EStateM.Result JsError (Ctx HS) Bytes) (live : w.peer? i = some p)
      (ran : EncryptPacket E packet rotateMs persistMs ⟨p, w.store⟩ r) :
      Step w (.encrypt i packet rotateMs persistMs) (w.put i (final r), .data (value r))
  | decrypt (i : Nat) (packet : Bytes) (receivedMs persistMs : UInt64) (p : SecurePeer HS)
      (r : EStateM.Result JsError (Ctx HS) Bytes) (live : w.peer? i = some p)
      (ran : DecryptPacket E packet receivedMs persistMs ⟨p, w.store⟩ r) :
      Step w (.decrypt i packet receivedMs persistMs) (w.put i (final r), .data (value r))
  | dropped (i : Nat) (nowMs : UInt64) (p : SecurePeer HS) (live : w.peer? i = some p) :
      Step w (.drop i nowMs) (⟨dropPeer p w.store nowMs, w.peers.set i none⟩, .dropped)

theorem perform_cases (w : World HS) (e : Event) : Step E w e (w.perform E e) := by
  cases e with
  | construct privateKey publicKey serverPeerId nowMs =>
    simp only [World.perform]
    split
    · exact .idle _ _ (Or.inr ⟨_, rfl⟩)
    · rename_i room
      cases made : SecurePeer.new E privateKey publicKey serverPeerId nowMs with
      | error text => exact .idle _ _ (Or.inr ⟨_, rfl⟩)
      | ok p => exact .constructed _ _ _ _ p (Nat.lt_of_not_le room) made
  | readMsg1 i packet =>
    simp only [World.perform, World.call]
    cases live : w.peer? i with
    | none => exact .idle _ _ (Or.inl rfl)
    | some p => exact .readMsg1 i packet p _ live (readMsg1_cases E packet ⟨p, w.store⟩)
  | buildMsg2 i networkSecret draws upsertMs attachMs =>
    simp only [World.perform, World.call]
    cases live : w.peer? i with
    | none => exact .idle _ _ (Or.inl rfl)
    | some p =>
      exact .buildMsg2 i networkSecret draws upsertMs attachMs p _ live
        (buildMsg2_cases E networkSecret draws upsertMs attachMs ⟨p, w.store⟩)
  | finishMsg3 i packet nowMs =>
    simp only [World.perform, World.call]
    cases live : w.peer? i with
    | none => exact .idle _ _ (Or.inl rfl)
    | some p =>
      exact .finishMsg3 i packet nowMs p _ live
        (finishMsg3_cases E packet nowMs ⟨p, w.store⟩)
  | encrypt i packet rotateMs persistMs =>
    simp only [World.perform, World.call]
    cases live : w.peer? i with
    | none => exact .idle _ _ (Or.inl rfl)
    | some p =>
      exact .encrypt i packet rotateMs persistMs p _ live
        (encryptPacket_cases E packet rotateMs persistMs ⟨p, w.store⟩)
  | decrypt i packet receivedMs persistMs =>
    simp only [World.perform, World.call]
    cases live : w.peer? i with
    | none => exact .idle _ _ (Or.inl rfl)
    | some p =>
      exact .decrypt i packet receivedMs persistMs p _ live
        (decryptPacket_cases E packet receivedMs persistMs ⟨p, w.store⟩)
  | drop i nowMs =>
    simp only [World.perform]
    cases live : w.peer? i with
    | none => exact .idle _ _ (Or.inl rfl)
    | some p => exact .dropped i nowMs p live

variable {E}

/-- A `build_msg2` call that returned `Ok`: its answer and what it left behind. -/
inductive Msg2Sent (E : SecureEnv HS) (w : World HS) : Event → Msg2 → World HS → Prop
  | sent (i : Nat) (networkSecret : String) (draws : Msg2Draws) (upsertMs attachMs : UInt64)
      (p : SecurePeer HS) (sel : Msg2Selection HS) (s : StoredSession) (handshake : HS)
      (bConnId : Uuid) (noiseMessage : Bytes) (live : w.peer? i = some p)
      (selected : Selected E networkSecret draws.random32 upsertMs ⟨p, w.store⟩ sel s)
      (chosen : w.selection E (.buildMsg2 i networkSecret draws upsertMs attachMs) = some sel) :
      Msg2Sent E w (.buildMsg2 i networkSecret draws upsertMs attachMs)
        { message := msg2 p sel bConnId
          packet := Packet.wrapPacket p.serverPeerId sel.peerId packetNoiseMsg2 0 noiseMessage }
        (w.put i
          ⟨answeredPeer E p networkSecret sel handshake bConnId (attachedSession s attachMs),
            (sweep upsertMs w.store).insert sel.sessionKey (attachedSession s attachMs)⟩)

theorem msg2_sent {w : World HS} {e : Event} {m : Msg2}
    (returned : w.outcome E e = .msg2 (.ok m)) : Msg2Sent E w e m (w.step E e) := by
  have moved := perform_cases E w e
  unfold World.outcome at returned
  unfold World.step
  generalize w.perform E e = out at moved returned ⊢
  cases moved with
  | idle _ _ quiet =>
    rcases quiet with rfl | ⟨_, rfl⟩
    · cases returned
    · cases returned
  | constructed => cases returned
  | readMsg1 => cases returned
  | finishMsg3 => cases returned
  | encrypt => cases returned
  | decrypt => cases returned
  | dropped => cases returned
  | buildMsg2 i networkSecret draws upsertMs attachMs p r live ran =>
    cases ran with
    | refused => cases returned
    | unselected => cases returned
    | unwritten => cases returned
    | exhausted => cases returned
    | answered sel s handshake bConnId noiseMessage selected =>
      cases returned
      have chosen : w.selection E (.buildMsg2 i networkSecret draws upsertMs attachMs) =
          some sel := by
        simp [World.selection, live, selected.ran]
      exact .sent i networkSecret draws upsertMs attachMs p sel s handshake bConnId noiseMessage
        live selected chosen

theorem selection_selected {w : World HS} {e : Event} {sel : Msg2Selection HS}
    (chosen : w.selection E e = some sel) :
    ∃ i networkSecret draws upsertMs attachMs p s,
      e = .buildMsg2 i networkSecret draws upsertMs attachMs ∧ w.peer? i = some p ∧
      Selected E networkSecret draws.random32 upsertMs ⟨p, w.store⟩ sel s := by
  cases e with
  | buildMsg2 i networkSecret draws upsertMs attachMs =>
    obtain ⟨p, live, found⟩ := Option.bind_eq_some_iff.mp chosen
    cases ran : selectSession E networkSecret draws.random32 upsertMs ⟨p, w.store⟩ with
    | error e c => simp [ran] at found
    | ok sel' c =>
      simp only [ran, Option.some.injEq] at found
      subst found
      obtain ⟨s, selected, _⟩ := ensures_of_ok
        (selectSession_cases E networkSecret draws.random32 upsertMs ⟨p, w.store⟩) ran
      exact ⟨i, networkSecret, draws, upsertMs, attachMs, p, s, rfl, live, selected⟩
  | _ => cases chosen

end EasyTierEdge.Secure.Steps
