/- module: EasyTierEdge/Server/Handlers
   source: cloudflare/src/server.ts, the event handlers of EasyTierServer
   digest: Every handler, however it ends, leaves fitting registries behind. -/

import EasyTierEdge.Server.Cascade

set_option autoImplicit false
set_option relaxedAutoImplicit false

namespace EasyTierEdge.Server.Handlers

open Lib.AscendingMap Lib.Fallible Lib.FiniteMap Lib.OrderedMap
open Packet (Bytes Key PacketHeader)
open Rpc.Scheduler (EasyTierRpc RpcPeer)
open Rpc.RouteMembers (enroll roll)
open Secure.Session Secure.Peer Secure.Connections
open Secure.LiveSession (AuthenticatedOn BoundOn)
open Rooms Sockets Relay Books Ledger Milestones Cascade
open Relay.EasyTierServer

variable {HS : Type} {V : ServerEnv HS} {joining leaving : Option Nat} {held : List Nat} {k : Nat}
  {F : List Forward} {s : ServerState HS} {c : Nat}

/-! Closing, removing and broadcasting as the handlers call them. -/

theorem ensures_depth {ok : Nat → ServerState HS → Prop} {err : String → ServerState HS → Prop} :
    Ensures depth s ok err ↔ ok (s.host.ambient.objects.length + 1) s := Iff.rfl

theorem openCount_depth (g : Grid HS) : openCount g ≤ g.objects.length + 1 :=
  Nat.le_succ_of_le (openCount_le g)

theorem close_closes : Closes V (close V) joining held k F := by
  intro c o code reason s sound there ready
  have closed := closeWithin_closes _ (openCount_depth s.host.ambient) c o code reason s
    sound.tight there ready
  unfold close
  rw [ensures_bind, ensures_depth]
  refine closed.mono ?_ ?_
  · rintro _ s' ⟨sound', settled⟩
    exact ⟨sound'.mono sound.opened, settled⟩
  · rintro _ s' ⟨sound', stopped⟩
    exact ⟨sound'.mono sound.opened, stopped⟩

theorem close_sound (sound : Sound V joining none held k F s)
    (alone : joining = none ∨ joining = some c) (code : Nat) (reason : String) :
    Ensures (close V c code reason) s (fun _ s' => Sound V none none held k F s')
      (fun _ s' => Sound V none none held k F s') := by
  cases there : s.host.ambient.objects[c]? with
  | none =>
    have nobody : joining = none := sound.nobody alone fun o found => by
      rw [there] at found
      cases found
    subst nobody
    rw [close, ensures_bind, ensures_depth, closeWithin, ensures_bind, Cascade.ensures_object]
    refine ⟨fun o found => ?_, fun _ => sound⟩
    rw [there] at found
    cases found
  | some o =>
    by_cases ready : o.phase = .ready
    · have nobody : joining = none := sound.nobody alone fun u found => by
        rw [there] at found
        cases Option.some.inj found
        rw [ready]
        decide
      subst nobody
      exact (close_closes c o code reason s (sound.leave there ready) there ready).mono
        (fun _ _ closed => closed.1) fun _ _ closed => closed.1
    · rw [close, ensures_bind, ensures_depth]
      by_cases closed : o.phase = .closed
      · have nobody : joining = none := sound.nobody alone fun u found => by
          rw [there] at found
          cases Option.some.inj found
          rw [closed]
          decide
        subst nobody
        rw [closeWithin, ensures_bind]
        apply ensures_there there
        rw [ensures_ite]
        exact ⟨fun _ => sound, fun opened => absurd closed opened⟩
      · apply closeWithin_open there closed
        have noted := (sound.noted (.closing c)).tick
        refine (removeWith_unready _ noted there closed ready alone).mono ?_
          fun _ _ impossible => impossible.elim
        exact fun _ s' removed => ⟨removed.1, fun _ => removed.1⟩

theorem removeConnection_sound (sound : Sound V none none held k F s) :
    Ensures (removeConnection V c) s (fun _ s' => Sound V none none held k F s')
      (fun _ s' => Sound V none none held k F s') := by
  unfold removeConnection
  rw [ensures_bind, ensures_depth]
  cases there : s.host.ambient.objects[c]? with
  | none =>
    rw [removeWith, ensures_bind, Cascade.ensures_object]
    refine ⟨fun o found => ?_, fun _ => sound⟩
    rw [there] at found
    cases found
  | some o =>
    by_cases ready : o.phase = .ready
    · have counted := openCount_closing there (by rw [ready]; decide)
      have depth := openCount_depth s.host.ambient
      have nested := @closeWithin_closes HS V F (s.host.ambient.objects.length + 1) none (c :: held)
        (openCount (closing c o s.host.ambient)) (by omega)
      have tight : Sound V none (some c) held (openCount (closing c o s.host.ambient) + 1) F s := by
        rw [counted]
        exact sound.tight.leave there ready
      have bound := sound.opened
      refine (removeWith_ready nested tight there ready).mono ?_ ?_
      · exact fun _ s' ended => ended.1.mono (by omega)
      · exact fun _ s' ended => ended.1.mono (by omega)
    · by_cases closed : o.phase = .closed
      · refine (removeWith_closed _ there closed).mono ?_ fun _ _ impossible => impossible.elim
        rintro _ s' rfl
        exact sound
      · refine (removeWith_unready _ sound there closed ready (Or.inl rfl)).mono ?_
          fun _ _ impossible => impossible.elim
        exact fun _ s' removed => removed.1

private theorem broadcastRouteUpdate_sound (sound : Sound V none none held k F s)
    (networkName : String) (excludePeerId : Option UInt32) :
    Ensures (broadcastRouteUpdate V networkName excludePeerId) s
      (fun _ s' => Sound V none none held k F s') (fun _ s' => Sound V none none held k F s') := by
  have nested := @closeWithin_closes HS V F _ none held _ (openCount_depth s.host.ambient)
  unfold broadcastRouteUpdate
  rw [ensures_bind, ensures_depth]
  refine (broadcastWith_sound nested excludePeerId sound.tight).mono ?_ ?_
  · exact fun _ s' ended => ended.1.mono sound.opened
  · exact fun _ s' ended => ended.1.mono sound.opened

/-! Registration. -/

section Registration

variable {o : Connection}

/-- A registration noted the key that it met. -/
def meeting (s : ServerState HS) (peer : RpcPeer) : ServerState HS :=
  let g := s.host.ambient
  withGrid s { g with
    keysMet := g.keysMet ++
      [⟨boundKey s.host.core.routes peer.networkName peer.peerId, peer.remotePublicKey⟩] }

/-- The core has taken the joining connection in. -/
structure Added (c : Nat) (o : Connection) (s s' : ServerState HS) (key : Key) : Prop where
  there : s.host.ambient.objects[c]? = some o
  after : After s s' (enroll (roll s.host.core.routes) o.networkName o.peerId (some (), some key))
  states : s'.routeSyncStates = s.routeSyncStates.erase (o.networkName, o.peerId)

theorem Sound.meeting (sound : Sound V (some c) none held k F s)
    (there : s.host.ambient.objects[c]? = some o) :
    Sound V (some c) none held k F (Handlers.meeting s (rpcPeer c o)) where
  living := {
    connected := sound.living.connected
    alive := sound.living.alive
    resting := sound.living.resting
    own := sound.living.own
    made := sound.living.made
    answered := sound.living.answered
    reached := sound.living.reached
    freedCalls := sound.living.freedCalls
    keysMet := by
      intro met member
      rcases List.mem_append.mp member with before | last
      · exact sound.living.keysMet met before
      · rw [List.mem_singleton.mp last]
        exact sound.registered.unbound there
    cutOff := sound.living.cutOff }
  registered := ⟨sound.registered.rooms, sound.registered.ready, sound.registered.joined,
    sound.registered.routed, sound.registered.replaced, sound.registered.keyless,
    sound.registered.entries, sound.registered.authentic⟩
  sized := sound.sized
  opened := sound.opened
  forwards := sound.forwards

private theorem addPeer_sound (sound : Sound V (some c) none held k F s)
    (there : s.host.ambient.objects[c]? = some o) :
    Ensures (EasyTierServer.addPeer V (rpcPeer c o)) s
      (fun _ s' => ∃ s₁ key, Sound V (some c) none held k F s₁ ∧ Added c o s₁ s' key)
      (fun _ s' => Sound V (some c) none held k F s') := by
  have met := Sound.meeting sound there
  unfold EasyTierServer.addPeer
  rw [ensures_bind, ensures_get, ensures_bind]
  show Ensures (EasyTierRpc.addPeer (host V) (rpcPeer c o)) (meeting s (rpcPeer c o)) _ _
  refine (addPeer_after met.sized).mono ?_ ?_
  · rintro _ s' ⟨⟨key, after⟩, states⟩
    exact ⟨meeting s (rpcPeer c o), key, met, there, after, states⟩
  · rintro _ s' ⟨after, states⟩
    have books : SameBooks V.secure (meeting s (rpcPeer c o)).host.ambient s'.host.ambient := by
      rw [after.ambient]
      exact .tick _
    constructor
    · exact met.living.same books
    · rw [after.members, states]
      exact met.registered.same books met.registered.entries
    · rw [after.publicKey]
      exact met.sized
    · rw [openCount_same books]
      exact met.opened
    · exact books.forwards.trans met.forwards

/-- The state in which an authenticated connection has entered its room. -/
def entering (c : Nat) (o : Connection) (s : ServerState HS) : ServerState HS :=
  let g := s.host.ambient
  withGrid s { g with rooms := (g.rooms.set o.networkName o.peerId c).2 }

theorem Sound.entering (sound : Sound V none none held k F s)
    (there : s.host.ambient.objects[c]? = some o) (msg3 : o.phase = .msg3)
    (authentic : Authentic s.host.ambient o) :
    Sound V (some c) (s.host.ambient.rooms.get o.networkName o.peerId) held k F
      (Handlers.entering c o s) where
  living := ⟨sound.living.connected, sound.living.alive, sound.living.resting, sound.living.own,
    sound.living.made, sound.living.answered, sound.living.reached, sound.living.freedCalls,
    sound.living.keysMet, sound.living.cutOff⟩
  registered := sound.registered.enter there msg3 authentic
  sized := sound.sized
  opened := sound.opened
  forwards := sound.forwards

/-- Registration replaces whoever had the peer id, then tells the core. If it fails, the connection
may still be in its room. -/
theorem registerConnection_sound (sound : Sound V none none held k F s)
    (there : s.host.ambient.objects[c]? = some o) (msg3 : o.phase = .msg3)
    (authentic : Authentic s.host.ambient o) :
    Ensures (registerConnection V c) s
      (fun _ s' => ∃ s₁ o₁ key, Sound V (some c) none held k F s₁ ∧ Added c o₁ s₁ s' key ∧
        rpcPeer c o₁ = rpcPeer c o)
      (fun _ s' => Sound V (some c) none held k F s') := by
  unfold registerConnection
  rw [ensures_bind]
  apply ensures_there there
  rw [ensures_bind]
  have entered := Sound.entering sound there msg3 authentic
  show Ensures _ (entering c o s) _ _
  rw [RoomRegistry.set_previous]
  cases found : s.host.ambient.rooms.get o.networkName o.peerId with
  | none =>
    rw [found] at entered
    refine (addPeer_sound entered there).mono ?_ fun _ _ failed => failed
    rintro _ s' ⟨s₁, key, sound₁, added⟩
    exact ⟨s₁, o, key, sound₁, added, rfl⟩
  | some d =>
    rw [found] at entered
    obtain ⟨u, there', name, id, ready⟩ := sound.registered.rooms o.networkName o.peerId d found
    have ready : u.phase = .ready := by
      rcases ready with ready | ⟨impossible, _⟩
      · exact ready
      · cases impossible
    have other : d ≠ c := by
      rintro rfl
      rw [there] at there'
      cases Option.some.inj there'
      rw [msg3] at ready
      cases ready
    rw [ensures_ite]
    refine ⟨fun _ => ?_, fun same => absurd other same⟩
    rw [ensures_bind]
    refine (close_closes d u 4000 _ (entering c o s) entered there' ready).mono ?_
      fun _ _ stopped => stopped.1
    rintro _ s₁ ⟨sound₁, news, progress, _⟩
    obtain ⟨o₁, there₁, msg3₁, _⟩ := sound₁.registered.joined c rfl
    obtain ⟨o₀, there₀, _, same⟩ := progress.kept c o₁ there₁ (by rw [msg3₁]; decide)
    have there₀' : s.host.ambient.objects[c]? = some o₀ := there₀
    rw [there] at there₀'
    cases Option.some.inj there₀'
    have joins := addPeer_sound sound₁ there₁
    rw [same] at joins
    refine joins.mono ?_ fun _ _ failed => failed
    rintro _ s' ⟨s₂, key, sound₂, added⟩
    exact ⟨s₂, o₁, key, sound₂, added, same⟩

theorem completeHandshake_sound {s₁ : ServerState HS} {key : Key}
    (sound : Sound V (some c) none held k F s₁) (added : Added c o s₁ s key) :
    Ensures (onGrid (completeHandshake c)) s (fun _ s' => Sound V none none held k F s')
      (fun _ _ => False) := by
  obtain ⟨u, found, msg3, _⟩ := sound.registered.joined c rfl
  rw [added.there] at found
  cases Option.some.inj found
  let completed : Connection → Connection := fun o =>
    { o with handshakeTimer := false, phase := .ready }
  let g : Grid HS := s₁.host.ambient
  let g' : Grid HS := { g with objects := g.objects.modify c completed }
  have closed : (completed o).phase = .closed ↔ o.phase = .closed := by
    rw [msg3]
    apply iff_of_false
    · intro impossible
      cases impossible
    · decide
  have living : Living V.secure held g' := by
    refine sound.living.edit (fun _ => rfl) added.there closed ?_
    intro impossible
    cases impossible
  have registered : Registered none none g'
      (enroll (roll s₁.host.core.routes) o.networkName o.peerId (some (), some key))
      (s₁.routeSyncStates.erase (o.networkName, o.peerId)) :=
    sound.registered.complete added.there key rfl rfl rfl rfl
  show Sound V none none held k F (withGrid s { s.host.ambient with
    objects := s.host.ambient.objects.modify c completed })
  constructor
  · rw [added.after.ambient]
    exact living.same (.tick g')
  · rw [added.after.ambient]
    show Registered none none _ (roll s.host.core.routes) s.routeSyncStates
    rw [added.after.members, added.states]
    exact @Registered.same _ V.secure _ _ _ _ _ _ _ registered (.tick g') registered.entries
  · show s.host.core.publicKey.length = 32
    rw [added.after.publicKey]
    exact sound.sized
  · rw [added.after.ambient]
    exact (openCount_edit added.there closed).trans_le sound.opened
  · rw [added.after.ambient]
    exact sound.forwards

end Registration

/-! The calls on the `SecurePeer` of a connection. -/

section Calls

variable {o : Connection}

theorem callSecure_called (there : s.host.ambient.objects[c]? = some o) (call : Nat → Event) :
    Ensures (callSecure V c call) s
      (fun out s' => s' = withGrid s (calling V.secure o.secure (call o.secure) s.host.ambient) ∧
        s.host.ambient.world.perform V.secure (call o.secure) = (s'.host.ambient.world, out))
      (fun _ _ => False) := by
  unfold callSecure
  rw [ensures_bind]
  apply ensures_there there
  exact ⟨rfl, rfl⟩

private theorem Sound.called (sound : Sound V joining leaving held k F s)
    (there : s.host.ambient.objects[c]? = some o) (opened : o.phase ≠ .closed) {call : Event}
    (lasting : Lasting call) :
    Follows V s (withGrid s (calling V.secure o.secure call s.host.ambient)) :=
  ⟨⟨.called (sound.living.alive c o there (Or.inl opened)) lasting, .refl s.host.core⟩,
    sound.registered.entries⟩

private theorem follows_ticks (sound : Sound V joining leaving held k F s) (n : Nat) :
    Follows V s (withGrid s { s.host.ambient with tick := s.host.ambient.tick + n }) := by
  refine ⟨⟨?_, .refl s.host.core⟩, sound.registered.entries⟩
  exact ⟨rfl, rfl, rfl, ⟨[], rfl, by simp⟩, rfl, rfl, rfl, rfl, rfl, rfl⟩

private theorem follows_trans {s' s'' : ServerState HS} (first : Follows V s s')
    (second : Follows V s' s'') : Follows V s s'' := by
  refine ⟨⟨first.1.books.trans second.1.books, first.1.core.trans second.1.core⟩, ?_⟩
  intro key state found
  obtain ⟨⟨d, u', there', ready, same⟩, own⟩ := second.2 key state found
  obtain ⟨u, there, cards⟩ := first.1.books.object there'
  refine ⟨⟨d, u, there, ?_, ?_⟩, own⟩
  · exact (shown Connection.phase cards fun _ => rfl).symm.trans ready
  · rw [same, ← rpcPeer_card d u', cards, rpcPeer_card]

variable (sound : Sound V joining leaving held k F s)
  (there : s.host.ambient.objects[c]? = some o) (opened : o.phase ≠ .closed)

include sound there opened

theorem readMsg1_follows (frame : Bytes) :
    Ensures (Relay.readMsg1 V c frame) s
      (fun info s' => Follows V s s' ∧ ∃ p', s'.host.ambient.world.peer? o.secure = some p' ∧
        p'.peerId = some info.peerId ∧ p'.networkName = some info.networkName)
      (fun _ s' => Follows V s s') := by
  unfold Relay.readMsg1
  rw [ensures_bind]
  refine (callSecure_called there _).mono ?_ fun _ _ impossible => impossible.elim
  rintro out s' ⟨rfl, ran⟩
  have follows (call : Event) (lasting : Lasting call) :=
    Sound.called sound there opened lasting
  cases out with
  | msg1 result =>
    cases result with
    | ok info => exact ⟨follows _ trivial, Secure.LiveSession.readMsg1_returned ran⟩
    | error e => exact follows _ trivial
  | _ => exact follows _ trivial

private theorem buildMsg2_follows (networkSecret : String) {p : SecurePeer HS} {peerId : UInt32}
    {networkName : String} (live : s.host.ambient.world.peer? o.secure = some p)
    (id : p.peerId = some peerId) (name : p.networkName = some networkName) :
    Ensures (Relay.buildMsg2 V c networkSecret) s
      (fun _ s' => Follows V s s' ∧ ∃ key, BoundOn s'.host.ambient.world o.secure key ∧
        key.networkName = networkName ∧ key.peerId = peerId)
      (fun _ s' => Follows V s s') := by
  unfold Relay.buildMsg2
  simp only [ensures_bind]
  have ticks := follows_ticks sound 3
  generalize later :
      withGrid s { s.host.ambient with tick := s.host.ambient.tick + 3 } = s₁ at ticks
  show Ensures (callSecure V c _) (withGrid s { s.host.ambient with
    tick := s.host.ambient.tick + 3 }) _ _
  rw [later]
  have there₁ : s₁.host.ambient.objects[c]? = some o := by
    rw [← later]
    exact there
  have live₁ : s₁.host.ambient.world.peer? o.secure = some p := by
    rw [← later]
    exact live
  refine (callSecure_called there₁ _).mono ?_ fun _ _ impossible => impossible.elim
  rintro out s' ⟨rfl, ran⟩
  have follows (call : Event) (lasting : Lasting call) :=
    follows_trans ticks (Sound.called (sound.follow ticks) there₁ opened lasting)
  cases out with
  | msg2 result =>
    cases result with
    | ok m => exact ⟨follows _ trivial, Secure.LiveSession.buildMsg2_returned live₁ id name ran⟩
    | error e => exact follows _ trivial
  | _ => exact follows _ trivial

theorem finishMsg3_follows (frame : Bytes) {key : SessionKey}
    (on : BoundOn s.host.ambient.world o.secure key) :
    Ensures (Relay.finishMsg3 V c frame) s
      (fun _ s' => Follows V s s' ∧ AuthenticatedOn s'.host.ambient.world o.secure key)
      (fun _ s' => Follows V s s') := by
  unfold Relay.finishMsg3
  simp only [ensures_bind]
  have ticks := follows_ticks sound 1
  generalize later :
      withGrid s { s.host.ambient with tick := s.host.ambient.tick + 1 } = s₁ at ticks
  show Ensures (callSecure V c _) (withGrid s { s.host.ambient with
    tick := s.host.ambient.tick + 1 }) _ _
  rw [later]
  have there₁ : s₁.host.ambient.objects[c]? = some o := by
    rw [← later]
    exact there
  have on₁ : BoundOn s₁.host.ambient.world o.secure key := by
    rw [← later]
    exact on
  refine (callSecure_called there₁ _).mono ?_ fun _ _ impossible => impossible.elim
  rintro out s' ⟨rfl, ran⟩
  have follows (call : Event) (lasting : Lasting call) :=
    follows_trans ticks (Sound.called (sound.follow ticks) there₁ opened lasting)
  cases out with
  | auth result =>
    cases result with
    | ok info => exact ⟨follows _ trivial, Secure.LiveSession.finishMsg3_returned on₁ ran⟩
    | error e => exact follows _ trivial
  | _ => exact follows _ trivial

theorem decryptPacket_follows (frame : Bytes) :
    Ensures (Relay.decryptPacket V c frame) s (fun _ s' => Follows V s s')
      (fun _ s' => Follows V s s') := by
  unfold Relay.decryptPacket
  simp only [ensures_bind]
  have ticks := follows_ticks sound 2
  generalize later :
      withGrid s { s.host.ambient with tick := s.host.ambient.tick + 2 } = s₁ at ticks
  show Ensures (callSecure V c _) (withGrid s { s.host.ambient with
    tick := s.host.ambient.tick + 2 }) _ _
  rw [later]
  have there₁ : s₁.host.ambient.objects[c]? = some o := by
    rw [← later]
    exact there
  refine (callSecure_called there₁ _).mono ?_ fun _ _ impossible => impossible.elim
  rintro out s' ⟨rfl, ran⟩
  have follows (call : Event) (lasting : Lasting call) :=
    follows_trans ticks (Sound.called (sound.follow ticks) there₁ opened lasting)
  cases out with
  | data result =>
    cases result with
    | ok clear => exact follows _ trivial
    | error e => exact follows _ trivial
  | _ => exact follows _ trivial

end Calls

/-! The handshake. -/

theorem ensures_orThrow {α : Type} {r : Except String α} {ok : α → ServerState HS → Prop}
    {err : String → ServerState HS → Prop} :
    Ensures (Relay.orThrow r) s ok err ↔
      (∀ a, r = .ok a → ok a s) ∧ ∀ e, r = .error e → err e s := by
  cases r with
  | ok a => simp [Relay.orThrow]
  | error e => simp [Relay.orThrow]

theorem parseHandshakeInfo_ok {info : Msg1Info} {parsed : HandshakeInfo}
    (accepted : parseHandshakeInfo info = .ok parsed) :
    parsed.peerId = info.peerId ∧ parsed.networkName = info.networkName := by
  unfold parseHandshakeInfo readString readPeerId at accepted
  simp only [bind, Except.bind, pure, Except.pure] at accepted
  split at accepted
  · cases accepted
  split at accepted
  · cases accepted
  split at accepted
  · cases accepted
  rename_i _ _ _ _ id read _ _ read'
  split at read
  · cases read
  split at read'
  · cases read'
  cases read
  cases read'
  cases accepted
  exact ⟨rfl, rfl⟩

section Handshake

variable {o : Connection}

theorem Sound.edit {f : Connection → Connection} (sound : Sound V none none held k F s)
    (there : s.host.ambient.objects[c]? = some o) (before : o.phase ≠ .ready)
    (after : (f o).phase ≠ .ready) (secure : ∀ o, (f o).secure = o.secure)
    (closed : (f o).phase = .closed ↔ o.phase = .closed)
    (answered : (f o).phase = .msg3 → Answered s.host.ambient (f o)) :
    Sound V none none held k F (withGrid s { s.host.ambient with
      objects := s.host.ambient.objects.modify c f }) where
  living := sound.living.edit secure there closed answered
  registered := sound.registered.edit there before after (by simp)
  sized := sound.sized
  opened := (openCount_edit there closed).trans_le sound.opened
  forwards := sound.forwards

theorem modified_self {f : Connection → Connection} (there : s.host.ambient.objects[c]? = some o) :
    (s.host.ambient.objects.modify c f)[c]? = some (f o) := by
  have found := @object_modified _ c c f o there
  rwa [if_pos rfl] at found

theorem handleHandshakeMessage1_sound (sound : Sound V none none held k F s)
    (there : s.host.ambient.objects[c]? = some o) (msg1 : o.phase = .msg1) (frame : Bytes)
    (packetType : UInt8) :
    Ensures (handleHandshakeMessage1 V c frame packetType) s
      (fun _ s' => Sound V none none held k F s') (fun _ s' => Sound V none none held k F s') := by
  unfold handleHandshakeMessage1
  rw [ensures_ite]
  refine ⟨fun _ => sound, fun _ => ?_⟩
  rw [ensures_bind]
  refine (readMsg1_follows sound there (by rw [msg1]; decide) frame).mono ?_
    fun _ _ follows => sound.follow follows
  rintro info s₁ ⟨follows, p, live, id, name⟩
  have sound₁ := sound.follow follows
  rw [ensures_bind, ensures_orThrow]
  refine ⟨fun parsed accepted => ?_, fun _ _ => sound₁⟩
  obtain ⟨sameId, sameName⟩ := parseHandshakeInfo_ok accepted
  cases V.config.rooms.lookup parsed.networkName with
  | none => exact close_sound sound₁ (Or.inl rfl) _ _
  | some networkSecret =>
    obtain ⟨o₁, there₁, cards₁⟩ := follows.1.books.object' there
    have phase₁ : o₁.phase = .msg1 := (shown Connection.phase cards₁ fun _ => rfl).trans msg1
    have secure₁ : o₁.secure = o.secure := shown Connection.secure cards₁ fun _ => rfl
    let named : Connection → Connection := fun connection =>
      { connection with peerId := parsed.peerId, networkName := parsed.networkName }
    have opened : o₁.phase ≠ .closed := by
      rw [phase₁]
      decide
    have unready : o₁.phase ≠ .ready := by
      rw [phase₁]
      decide
    have sound₂ : Sound V none none held k F (withGrid s₁ { s₁.host.ambient with
        objects := s₁.host.ambient.objects.modify c named }) := by
      refine Sound.edit sound₁ there₁ unready unready (fun _ => rfl) Iff.rfl ?_
      intro msg3
      have impossible : o₁.phase = .msg3 := msg3
      rw [phase₁] at impossible
      cases impossible
    have there₂ : (s₁.host.ambient.objects.modify c named)[c]? = some (named o₁) :=
      modified_self there₁
    dsimp only
    rw [ensures_bind]
    show Ensures _ (withGrid s₁ { s₁.host.ambient with
      objects := s₁.host.ambient.objects.modify c named }) _ _
    have live₂ : s₁.host.ambient.world.peer? (named o₁).secure = some p := by
      rw [← live, ← secure₁]
    rw [ensures_bind]
    rw [← sameId] at id
    rw [← sameName] at name
    refine (buildMsg2_follows sound₂ there₂ opened networkSecret live₂ id name).mono ?_
      fun _ _ follows => sound₂.follow follows
    rintro msg2 s₃ ⟨follows₃, key, on, keyName, keyId⟩
    have sound₃ := sound₂.follow follows₃
    obtain ⟨o₃, there₃, cards₃⟩ := follows₃.1.books.object' there₂
    rw [ensures_bind]
    have sent := @Sound.keeps_onGrid HS V s₃ _ _ (keeps_sendConnection c msg2) s₃ sound₃.follows
    refine sent.mono ?_ fun _ _ follows => sound₃.follow follows
    rintro _ s₄ follows₄
    obtain ⟨o₄, there₄, cards₄⟩ := follows₄.1.books.object' there₃
    have cards : card o₄ = card (named o₁) := cards₄.trans cards₃
    have phase₄ : o₄.phase = .msg1 :=
      (shown Connection.phase cards fun _ => rfl).trans phase₁
    have answered : Answered s₄.host.ambient { o₄ with phase := .msg3 } := by
      refine ⟨key, ?_, ?_, ?_⟩
      · show BoundOn s₄.host.ambient.world o₄.secure key
        rw [shown Connection.secure cards fun _ => rfl]
        exact follows₄.1.books.boundOn on
      · exact keyName.trans (shown Connection.networkName cards fun _ => rfl).symm
      · exact keyId.trans (shown Connection.peerId cards fun _ => rfl).symm
    refine Sound.edit (sound₃.follow follows₄) there₄ ?_ ?_ (fun _ => rfl) ?_ fun _ => answered
    · rw [phase₄]
      decide
    · intro impossible
      cases impossible
    · rw [phase₄]
      apply iff_of_false
      · intro impossible
        cases impossible
      · decide

theorem handleHandshakeMessage3_sound (sound : Sound V none none held k F s)
    (there : s.host.ambient.objects[c]? = some o) (msg3 : o.phase = .msg3) (frame : Bytes)
    (packetType : UInt8) :
    Ensures (handleHandshakeMessage3 V c frame packetType) s
      (fun _ s' => Sound V none none held k F s')
      (fun _ s' => ∃ joining, (joining = none ∨ joining = some c) ∧
        Sound V joining none held k F s') := by
  obtain ⟨key, on, name, id⟩ := sound.living.answered c o there msg3
  unfold handleHandshakeMessage3
  rw [ensures_ite]
  refine ⟨fun _ => ⟨none, Or.inl rfl, sound⟩, fun _ => ?_⟩
  rw [ensures_bind]
  refine (finishMsg3_follows sound there (by rw [msg3]; decide) frame on).mono ?_
    fun _ _ follows => ⟨none, Or.inl rfl, sound.follow follows⟩
  rintro info s₁ ⟨follows, authenticated⟩
  have sound₁ := sound.follow follows
  rw [ensures_bind, ensures_orThrow]
  refine ⟨fun auth _ => ?_, fun _ _ => ⟨none, Or.inl rfl, sound₁⟩⟩
  obtain ⟨o₁, there₁, cards₁⟩ := follows.1.books.object' there
  have phase₁ : o₁.phase = .msg3 := (shown Connection.phase cards₁ fun _ => rfl).trans msg3
  rw [ensures_bind]
  apply ensures_there there₁
  rw [ensures_ite]
  refine ⟨fun _ => ⟨none, Or.inl rfl, sound₁⟩, fun _ => ?_⟩
  let keyed : Connection → Connection := fun connection =>
    { connection with remotePublicKey := auth.remotePublicKey }
  have unready : o₁.phase ≠ .ready := by
    rw [phase₁]
    decide
  have sound₂ : Sound V none none held k F (withGrid s₁ { s₁.host.ambient with
      objects := s₁.host.ambient.objects.modify c keyed }) := by
    refine Sound.edit sound₁ there₁ unready unready (fun _ => rfl) Iff.rfl ?_
    exact fun _ => sound₁.living.answered c o₁ there₁ phase₁
  have there₂ : (s₁.host.ambient.objects.modify c keyed)[c]? = some (keyed o₁) :=
    modified_self there₁
  have authentic : Authentic s₁.host.ambient (keyed o₁) := by
    refine ⟨key, ?_, ?_, ?_⟩
    · show AuthenticatedOn s₁.host.ambient.world o₁.secure key
      rw [shown Connection.secure cards₁ fun _ => rfl]
      exact authenticated
    · exact name.trans (shown Connection.networkName cards₁ fun _ => rfl).symm
    · exact id.trans (shown Connection.peerId cards₁ fun _ => rfl).symm
  rw [ensures_bind]
  show Ensures _ (withGrid s₁ { s₁.host.ambient with
    objects := s₁.host.ambient.objects.modify c keyed }) _ _
  rw [ensures_bind]
  refine (registerConnection_sound sound₂ there₂ phase₁ authentic).mono ?_
    fun _ _ failed => ⟨some c, Or.inr rfl, failed⟩
  rintro _ s₃ ⟨s', o', key', sound', added, _⟩
  rw [ensures_bind]
  refine (completeHandshake_sound sound' added).mono ?_ fun _ _ impossible => impossible.elim
  intro _ s₄ sound₄
  exact (broadcastRouteUpdate_sound sound₄ _ none).mono (fun _ _ ended => ended)
    fun _ _ ended => ⟨none, Or.inl rfl, ended⟩

end Handshake

/-! Ready connections. -/

/-- A frame that was handed on: received on a ready connection, for a ready connection of the same
network under the id it is addressed to, and changed in its forwarding counter only. -/
structure Relayed (g : Grid HS) (c : Nat) (frame : Bytes) (forward : Forward) : Prop where
  source : forward.source = c
  received : forward.received = frame
  parties : ∃ o u header, g.objects[c]? = some o ∧ o.phase = .ready ∧ Authentic g o ∧
    g.objects[forward.target]? = some u ∧ u.phase = .ready ∧ Authentic g u ∧
    u.networkName = o.networkName ∧ Packet.parsePacket frame = .ok header ∧
    header.toPeerId = u.peerId
  rewritten : Packet.prepareForward frame = .ok forward.forwarded

/-- At most one frame was handed on. -/
def Grown (g : Grid HS) (c : Nat) (frame : Bytes) (F F' : List Forward) : Prop :=
  F' = F ∨ ∃ forward, F' = F ++ [forward] ∧ Relayed g c frame forward

section Ready

variable {o : Connection} (sound : Sound V none none held k F s)
  (there : s.host.ambient.objects[c]? = some o) (ready : o.phase = .ready)

include sound there ready

private theorem forward_sound {frame : Bytes} {header : PacketHeader}
    (parsed : Packet.parsePacket frame = .ok header) :
    Ensures (forward V c o frame header) s
      (fun _ s' => ∃ F', Sound V none none held k F' s' ∧ Grown s.host.ambient c frame F F')
      (fun _ s' => ∃ F', Sound V none none held k F' s' ∧ Grown s.host.ambient c frame F F') := by
  unfold forward
  rw [ensures_bind, ensures_grid]
  cases found : s.host.ambient.rooms.get o.networkName header.toPeerId with
  | none => exact ⟨F, sound, Or.inl rfl⟩
  | some t =>
    obtain ⟨u, there', name, id, standing⟩ := sound.registered.rooms _ _ t found
    have ready' : u.phase = .ready := by
      rcases standing with ready' | ⟨impossible, _⟩
      · exact ready'
      · cases impossible
    dsimp only
    rw [ensures_bind]
    apply ensures_there there'
    rw [ensures_ite]
    refine ⟨fun other => absurd ready' other, fun _ => ?_⟩
    rw [ensures_bind, ensures_orThrow]
    refine ⟨fun forwarded rewritten => ?_, fun _ _ => ⟨F, sound, Or.inl rfl⟩⟩
    let handed : Forward := ⟨c, t, frame, forwarded⟩
    let s₁ := withGrid s { s.host.ambient with forwards := s.host.ambient.forwards ++ [handed] }
    have sound₁ : Sound V none none held k (F ++ [handed]) s₁ := {
      living := ⟨sound.living.connected, sound.living.alive, sound.living.resting,
        sound.living.own, sound.living.made, sound.living.answered, sound.living.reached,
        sound.living.freedCalls, sound.living.keysMet, sound.living.cutOff⟩
      registered := ⟨sound.registered.rooms, sound.registered.ready, sound.registered.joined,
        sound.registered.routed, sound.registered.replaced, sound.registered.keyless,
        sound.registered.entries, sound.registered.authentic⟩
      sized := sound.sized
      opened := sound.opened
      forwards := by
        show s.host.ambient.forwards ++ [handed] = F ++ [handed]
        rw [sound.forwards] }
    have grown : Grown s.host.ambient c frame F (F ++ [handed]) := by
      refine Or.inr ⟨handed, rfl, rfl, rfl, ?_, rewritten⟩
      exact ⟨o, u, header, there, ready, sound.registered.authentic c o there (Or.inl ready),
        there', ready', sound.registered.authentic t u there' (Or.inl ready'), name, parsed,
        id.symm⟩
    rw [ensures_bind]
    show Ensures _ s₁ _ _
    rw [ensures_tryCatch]
    have sent :=
      @Sound.keeps_onGrid HS V s₁ _ _ (keeps_sendConnection t forwarded) s₁ sound₁.follows
    refine sent.mono (fun _ _ follows => ⟨_, sound₁.follow follows, grown⟩) ?_
    intro e s₂ follows
    exact (close_sound (sound₁.follow follows) (Or.inl rfl) _ _).mono
      (fun _ _ closed => ⟨_, closed, grown⟩) fun _ _ closed => ⟨_, closed, grown⟩

private theorem handleRpcPacket_sound (frame : Bytes) (header : PacketHeader) :
    Ensures (handleRpcPacket V c o frame header) s (fun _ s' => Sound V none none held k F s')
      (fun _ s' => Sound V none none held k F s') := by
  have enrolled : Enrolled s.host.ambient (rpcPeer c o) := ⟨c, o, there, ready, rfl⟩
  have parts := sound.atoms.parts
  unfold handleRpcPacket
  rw [ensures_bind]
  refine (decryptPacket_follows sound there (by rw [ready]; decide) frame).mono ?_
    fun _ _ follows => sound.follow follows
  intro clear s₁ follows
  rw [ensures_ite]
  refine ⟨fun _ => sound.follow follows, fun _ => ?_⟩
  rw [ensures_bind, ensures_orThrow]
  refine ⟨fun _ _ => ?_, fun _ _ => sound.follow follows⟩
  rw [ensures_ite]
  constructor
  · intro _
    rw [ensures_bind]
    refine (parts.keeps_handleRequest enrolled _ s₁ follows).mono ?_
      fun _ _ follows => sound.follow follows
    intro result s₂ follows
    rw [ensures_ite]
    exact ⟨fun _ => broadcastRouteUpdate_sound (sound.follow follows) _ _,
      fun _ => sound.follow follows⟩
  · intro _
    exact (parts.keeps_handleResponse enrolled _ s₁ follows).mono
      (fun _ _ follows => sound.follow follows) fun _ _ follows => sound.follow follows

theorem handleReadyPacket_sound {frame : Bytes} {header : PacketHeader}
    (parsed : Packet.parsePacket frame = .ok header) :
    Ensures (handleReadyPacket V c frame header) s
      (fun _ s' => ∃ F', Sound V none none held k F' s' ∧ Grown s.host.ambient c frame F F')
      (fun _ s' => ∃ F', Sound V none none held k F' s' ∧ Grown s.host.ambient c frame F F') := by
  have same {s' : ServerState HS} (sound' : Sound V none none held k F s') :
      ∃ F', Sound V none none held k F' s' ∧ Grown s.host.ambient c frame F F' :=
    ⟨F, sound', Or.inl rfl⟩
  unfold handleReadyPacket
  rw [ensures_bind]
  apply ensures_there there
  rw [ensures_ite]
  refine ⟨fun _ => forward_sound sound there ready parsed, fun _ => ?_⟩
  rw [ensures_ite]
  refine ⟨fun _ => same sound, fun _ => ?_⟩
  rw [ensures_ite]
  refine ⟨fun _ => same sound, fun _ => ?_⟩
  rw [ensures_ite]
  constructor
  · intro _
    rw [ensures_bind, ensures_orThrow]
    refine ⟨fun pong _ => ?_, fun _ _ => same sound⟩
    have sent := @Sound.keeps_onGrid HS V s _ _ (keeps_sendConnection c pong) s sound.follows
    exact sent.mono (fun _ _ follows => same (sound.follow follows))
      fun _ _ follows => same (sound.follow follows)
  · intro _
    rw [ensures_ite]
    refine ⟨fun _ => same sound, fun _ => ?_⟩
    rw [ensures_ite]
    refine ⟨fun _ => same sound, fun _ => ?_⟩
    rw [ensures_ite]
    refine ⟨fun _ => same sound, fun _ => ?_⟩
    exact (handleRpcPacket_sound sound there ready frame header).mono (fun _ _ ended => same ended)
      fun _ _ ended => same ended

end Ready

end EasyTierEdge.Server.Handlers
