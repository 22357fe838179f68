/- module: EasyTierEdge/Secure/Handshake
   source: cloudflare/wasm/src/secure.rs, read_msg1, build_msg2 and finish_msg3
   digest: An authenticated object went through all three messages of one handshake, in order. -/

import EasyTierEdge.Secure.ObjectMoves

set_option autoImplicit false
set_option relaxedAutoImplicit false

namespace EasyTierEdge.Secure.Handshake

open Lib.Fallible Lib.FiniteMap Lib.Machine
open Packet (Bytes PacketHeader splitPacket)
open Session Peer Connections Calls Steps StoreInvariant ObjectMoves

variable {HS : Type} (E : SecureEnv HS)

/-- What the code relies on in snow: after reading message 1 it is the responder's turn to
write, and in that turn a handshake refuses to read. -/
structure TakesTurns (writing : HS → Prop) : Prop where
  first : ∀ privateKey responder payload decoded turn, E.buildResponder privateKey = .ok responder →
    E.readMessage responder payload = (.ok decoded, turn) → writing turn
  refuses : ∀ turn payload, writing turn → ∃ text, (E.readMessage turn payload).1 = .error text

/-! The three calls of one handshake, as they stand in a history. -/

/-- A `read_msg1` call, with the message it read and the handshake it left. -/
structure FirstCall (HS : Type) where
  before : List Event
  packet : Bytes
  header : PacketHeader
  message : NoiseMsg1
  turn : HS

/-- A later `build_msg2` call, with the handshake right after message 2. -/
structure SecondCall (HS : Type) where
  between : List Event
  networkSecret : String
  draws : Msg2Draws
  upsertMs : UInt64
  attachMs : UInt64
  bConnId : Uuid
  turn : HS

/-- A later `finish_msg3` call, with the remote static key of the finished handshake. -/
structure ThirdCall where
  between : List Event
  packet : Bytes
  nowMs : UInt64
  remotePublicKey : Key

def FirstCall.events (i : Nat) (first : FirstCall HS) : List Event :=
  first.before ++ [.readMsg1 i first.packet]

def SecondCall.events (i : Nat) (first : FirstCall HS) (second : SecondCall HS) : List Event :=
  first.events i ++ second.between ++
    [.buildMsg2 i second.networkSecret second.draws second.upsertMs second.attachMs]

def ThirdCall.events (i : Nat) (first : FirstCall HS) (second : SecondCall HS)
    (third : ThirdCall) : List Event :=
  second.events i first ++ third.between ++ [.finishMsg3 i third.packet third.nowMs]

/-- After `es` and through all of `later` the object keeps its `HandshakeState`. -/
def Keeps (i : Nat) (es later : List Event) : Prop :=
  ∀ some_later rest, later = some_later ++ rest →
    ∃ q, (World.after E (es ++ some_later)).peer? i = some q ∧ q.handshake.isSome = true

structure FirstCall.Ran (i : Nat) (first : FirstCall HS) : Prop where
  read : ∃ q responder payload decoded, (World.after E first.before).peer? i = some q ∧
    splitPacket first.packet = .ok (first.header, payload) ∧
    E.buildResponder q.localPrivate = .ok responder ∧
    E.readMessage responder payload = (.ok decoded, first.turn) ∧
    E.decodeMsg1 decoded = .ok first.message
  returned : (World.after E first.before).outcome E (.readMsg1 i first.packet) = .msg1 (.ok
    { peerId := first.header.fromPeerId
      networkName := first.message.aNetworkName
      clientEncryptionAlgorithm := first.message.clientEncryptionAlgorithm })

structure SecondCall.Ran (i : Nat) (first : FirstCall HS) (second : SecondCall HS) : Prop where
  kept : Keeps E i (first.events i) second.between
  written : ∃ q ready message noiseMessage,
    (World.after E (first.events i ++ second.between)).peer? i = some q ∧
    q.handshake = some ready ∧ message.bConnId = some second.bConnId ∧
    E.writeMessage ready (E.encodeMsg2 message) = (.ok noiseMessage, second.turn) ∧
    ∃ packet, (World.after E (first.events i ++ second.between)).outcome E
      (.buildMsg2 i second.networkSecret second.draws second.upsertMs second.attachMs) =
      .msg2 (.ok ⟨message, packet⟩)

/-- The echoes match, and the proof is the HMAC under the secret of message 2 over the handshake
hash right after it. -/
structure ThirdCall.Ran (i : Nat) (first : FirstCall HS) (second : SecondCall HS)
    (third : ThirdCall) : Prop where
  kept : Keeps E i (second.events i first) third.between
  verified : ∃ q header payload decoded message finished remotePublic,
    (World.after E (second.events i first ++ third.between)).peer? i = some q ∧
    q.handshake = some second.turn ∧
    splitPacket third.packet = .ok (header, payload) ∧
    E.readMessage second.turn payload = (.ok decoded, finished) ∧
    E.decodeMsg3 decoded = .ok message ∧
    message.aConnIdEcho = first.message.aConnId ∧
    message.bConnIdEcho = some second.bConnId ∧
    message.secretProof32 =
      some (secretProof E (utf8 second.networkSecret) (E.getHandshakeHash second.turn)) ∧
    E.getRemoteStatic finished = some remotePublic ∧
    keyOfBytes remotePublic = some third.remotePublicKey ∧
    ∃ info, (World.after E (second.events i first ++ third.between)).outcome E
      (.finishMsg3 i third.packet third.nowMs) = .auth (.ok info)

/-- The object has the identity announced in message 1. -/
structure Announced (first : FirstCall HS) (p : SecurePeer HS) : Prop where
  peerId : p.peerId = some first.header.fromPeerId
  networkName : p.networkName = some first.message.aNetworkName
  aConnId : p.aConnId = first.message.aConnId

/-- The object is bound to the session of the identity announced in message 1. -/
def boundKey (first : FirstCall HS) (p : SecurePeer HS) : SessionKey :=
  ⟨first.message.aNetworkName, first.header.fromPeerId, p.serverPeerId, p.localPublic⟩

/-! How far an object has come. -/

variable (writing : HS → Prop)

inductive Stage (es : List Event) (i : Nat) (p : SecurePeer HS) : Prop
  | idle (unbound : p.sessionKey = none) (secretless : p.networkSecret = none)
      (unauthenticated : p.authenticated = false) (unread : p.handshake = none)
  | reading (first : FirstCall HS) (later : List Event) (history : es = first.events i ++ later)
      (ran : first.Ran E i) (announced : Announced first p)
      (kept : Keeps E i (first.events i) later)
      (unbound : p.sessionKey = none) (secretless : p.networkSecret = none)
      (unauthenticated : p.authenticated = false) (read : p.handshake.isSome = true)
  | waiting (first : FirstCall HS) (second : SecondCall HS) (later : List Event)
      (history : es = second.events i first ++ later)
      (firstRan : first.Ran E i) (secondRan : second.Ran E i first)
      (announced : Announced first p) (kept : Keeps E i (second.events i first) later)
      (bound : p.sessionKey = some (boundKey first p))
      (secret : p.networkSecret = some (utf8 second.networkSecret))
      (challenge : p.proofChallenge = some (E.getHandshakeHash second.turn))
      (bConnId : p.bConnId = some second.bConnId)
      (unauthenticated : p.authenticated = false) (read : p.handshake = some second.turn)
  | spent (bound : p.sessionKey.isSome = true) (unauthenticated : p.authenticated = false)
      (stuck : ∀ turn, p.handshake = some turn → writing turn)
  | authenticated (first : FirstCall HS) (second : SecondCall HS) (third : ThirdCall)
      (later : List Event) (history : es = third.events i first second ++ later)
      (firstRan : first.Ran E i) (secondRan : second.Ran E i first)
      (thirdRan : third.Ran E i first second) (announced : Announced first p)
      (bound : p.sessionKey = some (boundKey first p))
      (pinned : PinnedTo (World.after E es) (boundKey first p) third.remotePublicKey)
      (authenticated : p.authenticated = true) (taken : p.handshake = none)

variable {E} {writing}

private theorem Keeps.start {i : Nat} {es : List Event} {q : SecurePeer HS}
    (live : (World.after E es).peer? i = some q) (held : q.handshake.isSome = true) :
    Keeps E i es [] := by
  intro some_later rest split
  obtain ⟨rfl, rfl⟩ := List.append_eq_nil_iff.mp split.symm
  exact ⟨q, by simpa using live, held⟩

private theorem Keeps.snoc {i : Nat} {es later : List Event} {e : Event} {q : SecurePeer HS}
    (kept : Keeps E i es later) (live : (World.after E (es ++ later ++ [e])).peer? i = some q)
    (held : q.handshake.isSome = true) : Keeps E i es (later ++ [e]) := by
  intro some_later rest split
  rcases List.eq_nil_or_concat rest with rfl | ⟨rest, f, rfl⟩
  · rw [List.append_nil] at split
    subst split
    exact ⟨q, by simpa [List.append_assoc] using live, held⟩
  · rw [List.concat_eq_append, ← List.append_assoc] at split
    exact kept some_later rest (List.append_inj' split rfl).1

theorem after_snoc (es : List Event) (e : Event) :
    World.after E (es ++ [e]) = (World.after E es).step E e :=
  run_snoc (World.step E) World.empty es e

section Step

variable {es : List Event} {e : Event} {i : Nat} {p p' : SecurePeer HS}

private theorem Stage.extend (stage : Stage E writing es i p)
    (live : (World.after E es).peer? i = some p)
    (live' : (World.after E (es ++ [e])).peer? i = some p')
    (same : withoutCopy p' = withoutCopy p) : Stage E writing (es ++ [e]) i p' := by
  have sessionKey : p'.sessionKey = p.sessionKey :=
    field_of_withoutCopy SecurePeer.sessionKey same fun _ => rfl
  have networkSecret : p'.networkSecret = p.networkSecret :=
    field_of_withoutCopy SecurePeer.networkSecret same fun _ => rfl
  have authenticated : p'.authenticated = p.authenticated :=
    field_of_withoutCopy SecurePeer.authenticated same fun _ => rfl
  have handshake : p'.handshake = p.handshake :=
    field_of_withoutCopy SecurePeer.handshake same fun _ => rfl
  have announces {first : FirstCall HS} (announced : Announced first p) : Announced first p' :=
    ⟨(field_of_withoutCopy SecurePeer.peerId same fun _ => rfl).trans announced.peerId,
      (field_of_withoutCopy SecurePeer.networkName same fun _ => rfl).trans announced.networkName,
      (field_of_withoutCopy SecurePeer.aConnId same fun _ => rfl).trans announced.aConnId⟩
  have boundKey_eq (first : FirstCall HS) : boundKey first p' = boundKey first p := by
    have server : p'.serverPeerId = p.serverPeerId :=
      field_of_withoutCopy SecurePeer.serverPeerId same fun _ => rfl
    have local_eq : p'.localPublic = p.localPublic :=
      field_of_withoutCopy SecurePeer.localPublic same fun _ => rfl
    unfold boundKey
    rw [server, local_eq]
  cases stage with
  | idle unbound secretless unauthenticated unread =>
    exact .idle (sessionKey.trans unbound) (networkSecret.trans secretless)
      (authenticated.trans unauthenticated) (handshake.trans unread)
  | reading first later history ran announced kept unbound secretless unauthenticated read =>
    have held : p'.handshake.isSome = true := handshake ▸ read
    refine .reading first (later ++ [e]) ?_ ran (announces announced) ?_
      (sessionKey.trans unbound) (networkSecret.trans secretless)
      (authenticated.trans unauthenticated) held
    · rw [history, List.append_assoc]
    · exact kept.snoc (history ▸ live') held
  | waiting first second later history firstRan secondRan announced kept bound secret challenge
      bConnId unauthenticated read =>
    refine .waiting first second (later ++ [e]) ?_ firstRan secondRan (announces announced) ?_ ?_
      (networkSecret.trans secret) ?_ ?_ (authenticated.trans unauthenticated)
      (handshake.trans read)
    · rw [history, List.append_assoc]
    · exact kept.snoc (history ▸ live') (by rw [handshake, read]; rfl)
    · rw [sessionKey, bound, boundKey_eq]
    · exact (field_of_withoutCopy SecurePeer.proofChallenge same fun _ => rfl).trans challenge
    · exact (field_of_withoutCopy SecurePeer.bConnId same fun _ => rfl).trans bConnId
  | spent bound unauthenticated stuck =>
    exact .spent (sessionKey ▸ bound) (authenticated.trans unauthenticated)
      (fun turn has => stuck turn (handshake.symm.trans has))
  | authenticated first second third later history firstRan secondRan thirdRan announced bound
      pinned authenticated' taken =>
    refine .authenticated first second third (later ++ [e]) ?_ firstRan secondRan thirdRan
      (announces announced) ?_ ?_ (authenticated.trans authenticated') (handshake.trans taken)
    · rw [history, List.append_assoc]
    · rw [sessionKey, bound, boundKey_eq]
    · rw [boundKey_eq]
      rw [after_snoc] at live' ⊢
      exact pinnedTo_step (consistent_after E es) live bound live' (sessionKey.trans bound) pinned

private theorem stage_readMsg1 (turns : TakesTurns E writing) {packet : Bytes}
    {r : EStateM.Result JsError (Ctx HS) Msg1Info} (stage : Stage E writing es i p)
    (live : (World.after E es).peer? i = some p)
    (live' : (World.after E (es ++ [.readMsg1 i packet])).peer? i = some (final r).peer)
    (returned : (World.after E es).outcome E (.readMsg1 i packet) = .msg1 (value r))
    (ran : ReadMsg1 E packet ⟨p, (World.after E es).store⟩ r) :
    Stage E writing (es ++ [.readMsg1 i packet]) i (final r).peer := by
  cases ran with
  | refused => exact stage.extend live live' rfl
  | read header payload decoded responder handshake message idle fresh split built noise parsed =>
    have open_handshake {turn : HS} (has : p.handshake = some turn) : False := by
      have none : p.handshake = none := idle
      rw [has] at none
      cases none
    cases stage with
    | idle unbound secretless unauthenticated _ =>
      let first : FirstCall HS := ⟨es, packet, header, message, handshake⟩
      refine .reading first [] ?_ ⟨?_, returned⟩ ⟨rfl, rfl, rfl⟩ (Keeps.start live' rfl) unbound
        secretless unauthenticated rfl
      · rw [List.append_nil]
        rfl
      · exact ⟨p, responder, payload, decoded, live, split, built, noise, parsed⟩
    | reading _ _ _ _ _ _ _ _ _ read =>
      obtain ⟨turn, has⟩ := Option.isSome_iff_exists.mp read
      exact (open_handshake has).elim
    | waiting _ _ _ _ _ _ _ _ _ _ _ _ _ read => exact (open_handshake read).elim
    | spent bound unauthenticated _ =>
      -- message 2 cannot be built again, so this handshake stays in the turn to write
      refine .spent bound unauthenticated ?_
      intro turn has
      cases has
      exact turns.first _ _ _ _ _ built noise
    | authenticated _ _ _ _ _ _ _ _ _ _ _ authenticated _ =>
      have unauthenticated : p.authenticated = false := fresh
      rw [authenticated] at unauthenticated
      cases unauthenticated

private theorem stage_buildMsg2 {networkSecret : String} {draws : Msg2Draws}
    {upsertMs attachMs : UInt64}
    {r : EStateM.Result JsError (Ctx HS) Msg2} (stage : Stage E writing es i p)
    (live : (World.after E es).peer? i = some p)
    (live' : (World.after E (es ++ [.buildMsg2 i networkSecret draws upsertMs attachMs])).peer? i =
      some (final r).peer)
    (returned : (World.after E es).outcome E
      (.buildMsg2 i networkSecret draws upsertMs attachMs) = .msg2 (value r))
    (ran : BuildMsg2 E networkSecret draws upsertMs attachMs ⟨p, (World.after E es).store⟩ r) :
    Stage E writing (es ++ [.buildMsg2 i networkSecret draws upsertMs attachMs]) i
      (final r).peer := by
  -- a selection is only made for an object that is reading
  have reading {sel : Msg2Selection HS} {s : StoredSession}
      (selected : Selected E networkSecret draws.random32 upsertMs ⟨p, (World.after E es).store⟩
        sel s) :
      ∃ first later, es = FirstCall.events i first ++ later ∧ first.Ran E i ∧ Announced first p ∧
        Keeps E i (first.events i) later ∧ p.networkSecret = none ∧ p.authenticated = false := by
    have unbuilt : p.sessionKey = none := selected.unbuilt
    have handshake : p.handshake = some sel.handshake := selected.handshake
    cases stage with
    | idle _ _ _ unread => exact absurd (handshake.symm.trans unread) (by simp)
    | reading first later history ran announced kept _ secretless unauthenticated _ =>
      exact ⟨first, later, history, ran, announced, kept, secretless, unauthenticated⟩
    | waiting _ _ _ _ _ _ _ _ bound => exact absurd (bound.symm.trans unbuilt) (by simp)
    | spent bound => simp [unbuilt] at bound
    | authenticated _ _ _ _ _ _ _ _ _ bound =>
      exact absurd (bound.symm.trans unbuilt) (by simp)
  cases ran with
  | refused => exact stage.extend live live' rfl
  | unselected => exact stage.extend live live' rfl
  | unwritten sel s handshake text selected _ =>
    obtain ⟨first, later, history, ran, announced, kept, secretless, unauthenticated⟩ :=
      reading selected
    refine .reading first
      (later ++ [.buildMsg2 i networkSecret draws upsertMs attachMs]) ?_ ran
      ⟨announced.peerId, announced.networkName, announced.aConnId⟩ ?_ selected.unbuilt secretless
      unauthenticated rfl
    · rw [← List.append_assoc, ← history]
    · exact kept.snoc (history ▸ live') rfl
  | exhausted sel s handshake e selected full _ =>
    -- there are fewer objects than attachments a session can count
    obtain ⟨algorithm, _, chosen⟩ := selected.chosen
    have count := chosen_attachments chosen
    have swept : attachmentsOf (sweep upsertMs (World.after E es).store) sel.sessionKey =
        attachmentsOf (World.after E es).store sel.sessionKey := attachmentsOf_sweep _ _ _
    have room := (consistent_after E es).room sel.sessionKey
    have small : s.attachments.toNat + 1 < 2 ^ 32 := by
      rw [count, swept]
      exact room
    omega
  | answered sel s handshake bConnId noiseMessage selected room drawn written =>
    obtain ⟨first, later, history, ran, announced, kept, secretless, unauthenticated⟩ :=
      reading selected
    let second : SecondCall HS :=
      ⟨later, networkSecret, draws, upsertMs, attachMs, bConnId, handshake⟩
    have events : es ++ [.buildMsg2 i networkSecret draws upsertMs attachMs] =
        second.events i first := by
      rw [history]
      rfl
    have identity : sel.sessionKey =
        ⟨first.message.aNetworkName, first.header.fromPeerId, p.serverPeerId, p.localPublic⟩ := by
      have name := Option.some.inj (announced.networkName.symm.trans selected.networkName)
      have peerId := Option.some.inj (announced.peerId.symm.trans selected.peerId)
      rw [selected.sessionKey, ← name, ← peerId]
    refine .waiting first second [] ?_ ran ⟨kept, ?_⟩
      ⟨announced.peerId, announced.networkName, announced.aConnId⟩ ?_ ?_ rfl rfl rfl
      unauthenticated rfl
    · rw [List.append_nil, events]
    · refine ⟨p, sel.handshake, msg2 p sel bConnId, noiseMessage, ?_, selected.handshake, rfl,
        written, ?_⟩
      · rw [← history]
        exact live
      · rw [← history]
        exact ⟨_, returned⟩
    · rw [← events]
      exact Keeps.start live' rfl
    · show some sel.sessionKey = _
      rw [identity]
      rfl

private theorem stage_finishMsg3 (turns : TakesTurns E writing) {packet : Bytes} {nowMs : UInt64}
    {r : EStateM.Result JsError (Ctx HS) AuthInfo} (stage : Stage E writing es i p)
    (live : (World.after E es).peer? i = some p)
    (live' : (World.after E (es ++ [.finishMsg3 i packet nowMs])).peer? i = some (final r).peer)
    (stored : (World.after E (es ++ [.finishMsg3 i packet nowMs])).store = (final r).store)
    (returned : (World.after E es).outcome E (.finishMsg3 i packet nowMs) = .auth (value r))
    (ran : FinishMsg3 E packet nowMs ⟨p, (World.after E es).store⟩ r) :
    Stage E writing (es ++ [.finishMsg3 i packet nowMs]) i (final r).peer := by
  cases ran with
  | refused => exact stage.extend live live' rfl
  | failed =>
    have bound_some {key : SessionKey} (bound : p.sessionKey = some key) :
        p.sessionKey.isSome = true := by
      rw [bound]
      rfl
    cases stage with
    | idle unbound secretless unauthenticated _ =>
      exact .idle unbound secretless unauthenticated rfl
    | reading _ _ _ _ _ _ unbound secretless unauthenticated _ =>
      exact .idle unbound secretless unauthenticated rfl
    | waiting _ _ _ _ _ _ _ _ bound _ _ _ unauthenticated _ =>
      exact .spent (bound_some bound) unauthenticated (by simp)
    | spent bound unauthenticated _ => exact .spent bound unauthenticated (by simp)
    | authenticated first second third later history firstRan secondRan thirdRan announced bound
        pinned authenticated taken =>
      have same : withoutCopy { p with handshake := none } = withoutCopy p := by
        unfold withoutCopy
        rw [taken]
      exact (Stage.authenticated first second third later history firstRan secondRan thirdRan
        announced bound pinned authenticated taken).extend live live' same
  | finished header payload decoded turn handshake message proof secret challenge remotePublic
      remotePublicKey key s split sender ready noise parsed echoA echoB given chosen challenged
      verified static sized bound present _ =>
    have ready : p.handshake = some turn := ready
    have chosen : p.networkSecret = some secret := chosen
    have bound : p.sessionKey = some key := bound
    cases stage with
    | idle _ secretless _ _ => exact absurd (chosen.symm.trans secretless) (by simp)
    | reading _ _ _ _ _ _ _ secretless _ _ => exact absurd (chosen.symm.trans secretless) (by simp)
    | waiting first second later history firstRan secondRan announced kept bound' secret'
        challenge' bConnId _ read =>
      have turn_eq : second.turn = turn := Option.some.inj (read.symm.trans ready)
      have secret_eq : utf8 second.networkSecret = secret :=
        Option.some.inj (secret'.symm.trans chosen)
      have challenge_eq : E.getHandshakeHash second.turn = challenge :=
        Option.some.inj (challenge'.symm.trans challenged)
      have key_eq : boundKey first p = key := Option.some.inj (bound'.symm.trans bound)
      let third : ThirdCall := ⟨later, packet, nowMs, remotePublicKey⟩
      refine .authenticated first second third [] ?_ firstRan secondRan ⟨kept, ?_⟩
        ⟨announced.peerId, announced.networkName, announced.aConnId⟩ bound' ?_ rfl rfl
      · rw [List.append_nil, history]
        rfl
      · refine ⟨p, header, payload, decoded, message, handshake, remotePublic, ?_, read, split,
          turn_eq ▸ noise, parsed, ?_, ?_, ?_, static, sized, ?_⟩
        · show (World.after E (second.events i first ++ later)).peer? i = some p
          rw [← history]
          exact live
        · exact echoA.trans announced.aConnId
        · exact echoB.trans bConnId
        · rw [given, ← verified, secret_eq, challenge_eq]
        · show ∃ info, (World.after E (second.events i first ++ later)).outcome E
            (.finishMsg3 i packet nowMs) = .auth (.ok info)
          rw [← history]
          exact ⟨_, returned⟩
      · refine ⟨{ s with remotePublicKey := some remotePublicKey, lastTouchMs := nowMs }, ?_, rfl⟩
        rw [stored]
        show ((World.after E es).store.insert key _).lookup (boundKey first p) = _
        rw [key_eq]
        exact Finmap.lookup_insert _
    | spent _ _ stuck =>
      obtain ⟨text, refused⟩ := turns.refuses turn payload (stuck turn ready)
      rw [noise] at refused
      cases refused
    | authenticated _ _ _ _ _ _ _ _ _ _ _ _ taken =>
      exact absurd (ready.symm.trans taken) (by simp)

private theorem stage_step (turns : TakesTurns E writing)
    (stages : ∀ j q, (World.after E es).peer? j = some q → Stage E writing es j q)
    (live' : (World.after E (es ++ [e])).peer? i = some p') :
    Stage E writing (es ++ [e]) i p' := by
  have stepped := live'
  rw [after_snoc] at stepped
  rcases step_peer stepped with ⟨_, unused⟩ | ⟨p, live, rfl | ⟨c, acted, rfl, step_eq⟩⟩
  · exact .idle unused.sessionKey unused.networkSecret unused.authenticated unused.handshake
  · exact (stages i p' live).extend live live' rfl
  · have stage := stages i p live
    generalize returned : (World.after E es).outcome E e = o at acted
    cases acted with
    | readMsg1 packet r ran => exact stage_readMsg1 turns stage live live' returned ran
    | buildMsg2 networkSecret draws upsertMs attachMs r ran =>
      exact stage_buildMsg2 stage live live' returned ran
    | finishMsg3 packet nowMs r ran =>
      refine stage_finishMsg3 turns stage live live' ?_ returned ran
      rw [after_snoc, step_eq]
      rfl
    | encrypt packet rotateMs persistMs r ran =>
      exact stage.extend live live' (withoutCopy_encrypt ran)
    | decrypt packet receivedMs persistMs r ran =>
      exact stage.extend live live' (withoutCopy_decrypt ran)

end Step

/-- Every live object of every run is in one of the stages. -/
theorem stage_after (turns : TakesTurns E writing) (es : List Event) {i : Nat}
    {p : SecurePeer HS} (live : (World.after E es).peer? i = some p) :
    Stage E writing es i p := by
  induction es using List.reverseRecOn generalizing i p with
  | nil =>
    have absent : (World.after E []).peer? i = none := peer?_empty i
    exact absurd (live.symm.trans absent) (by simp)
  | append_singleton es e ih => exact stage_step turns (fun _ _ => ih) live

/-- The identity an object is known by. -/
structure SameIdentity (p p' : SecurePeer HS) : Prop where
  peerId : p'.peerId = p.peerId
  networkName : p'.networkName = p.networkName
  sessionKey : p'.sessionKey = p.sessionKey

theorem authenticated_acted {w : World HS} {i : Nat} {p : SecurePeer HS} {e : Event} {o : Outcome}
    {c : Ctx HS} (acted : Acted E w i p e o c) (authenticated : p.authenticated = true)
    (bound : p.sessionKey.isSome = true) :
    SameIdentity p c.peer ∧ c.peer.authenticated = true := by
  have copied {p' : SecurePeer HS} (same : withoutCopy p' = withoutCopy p) :
      SameIdentity p p' ∧ p'.authenticated = true := by
    refine ⟨⟨field_of_withoutCopy SecurePeer.peerId same fun _ => rfl,
      field_of_withoutCopy SecurePeer.networkName same fun _ => rfl,
      field_of_withoutCopy SecurePeer.sessionKey same fun _ => rfl⟩, ?_⟩
    exact (field_of_withoutCopy SecurePeer.authenticated same fun _ => rfl).trans authenticated
  have unselected {networkSecret : String} {random32 : Except String Key} {upsertMs : UInt64}
      {sel : Msg2Selection HS} {s : StoredSession}
      (selected : Selected E networkSecret random32 upsertMs ⟨p, w.store⟩ sel s) : False := by
    have unbuilt : p.sessionKey = none := selected.unbuilt
    simp [unbuilt] at bound
  cases acted with
  | readMsg1 packet r ran =>
    cases ran with
    | refused => exact copied rfl
    | read _ _ _ _ _ _ _ fresh =>
      have unauthenticated : p.authenticated = false := fresh
      rw [authenticated] at unauthenticated
      cases unauthenticated
  | buildMsg2 networkSecret draws upsertMs attachMs r ran =>
    cases ran with
    | refused => exact copied rfl
    | unselected => exact copied rfl
    | unwritten _ _ _ _ selected => exact (unselected selected).elim
    | exhausted _ _ _ _ selected => exact (unselected selected).elim
    | answered _ _ _ _ _ selected => exact (unselected selected).elim
  | finishMsg3 packet nowMs r ran =>
    cases ran with
    | refused => exact copied rfl
    | failed => exact ⟨⟨rfl, rfl, rfl⟩, authenticated⟩
    | finished => exact ⟨⟨rfl, rfl, rfl⟩, rfl⟩
  | encrypt packet rotateMs persistMs r ran => exact copied (withoutCopy_encrypt ran)
  | decrypt packet receivedMs persistMs r ran => exact copied (withoutCopy_decrypt ran)

private theorem authenticated_run {w : World HS} {i : Nat} {p : SecurePeer HS}
    (live : w.peer? i = some p) (authenticated : p.authenticated = true)
    (bound : p.sessionKey.isSome = true) (later : List Event) {p' : SecurePeer HS}
    (live' : (run (World.step E) w later).peer? i = some p') :
    SameIdentity p p' ∧ p'.authenticated = true := by
  refine run_peer (fun _ q => SameIdentity p q ∧ q.authenticated = true) (peer?_lt live) ?_ ?_
    later live'
  · intro q live_q
    have same : p = q := Option.some.inj (live.symm.trans live_q)
    subst same
    exact ⟨⟨rfl, rfl, rfl⟩, authenticated⟩
  · rintro es e q q' _ _ (rfl | ⟨c, acted, rfl, _⟩) ⟨same, authenticated'⟩
    · exact ⟨same, authenticated'⟩
    · obtain ⟨next, authenticated''⟩ :=
        authenticated_acted acted authenticated' (by rw [same.sessionKey]; exact bound)
      exact ⟨⟨next.peerId.trans same.peerId, next.networkName.trans same.networkName,
        next.sessionKey.trans same.sessionKey⟩, authenticated''⟩

theorem plainEnv_takesTurns : TakesTurns plainEnv (fun turn => turn.count = 1) := by
  constructor
  · intro privateKey responder payload decoded turn built read
    cases built
    cases read
    rfl
  · intro turn payload writing
    have count : turn.count = 1 := writing
    exact ⟨"not my turn", by simp [plainEnv, count]⟩

end EasyTierEdge.Secure.Handshake
