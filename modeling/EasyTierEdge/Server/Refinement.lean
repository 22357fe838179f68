/- module: EasyTierEdge/Server/Refinement
   source: cloudflare/src/server.ts, the event handlers of EasyTierServer
   digest: Every handler, however it ends, is a run of elementary moves. -/

import EasyTierEdge.Server.Moves
import EasyTierEdge.Server.Pinning

set_option autoImplicit false
set_option relaxedAutoImplicit false

namespace EasyTierEdge.Server.Refinement

open Lib.Fallible Lib.Machine Lib.FiniteMap
open Packet (Bytes PacketHeader encryptedFlag headerSize keyOfBytes)
open Rpc.Core (WasmRpcCore)
open Rpc.Scheduler (EasyTierRpc RpcPeer RouteSyncFailure)
open Secure.Session Secure.Peer Secure.Connections
open Secure.LiveSession (AuthenticatedOn)
open Secure.ObjectMoves (PinnedTo)
open Rooms Sockets Relay Books Ledger Cascade Handlers Registries Moves
open Relay.EasyTierServer

variable {HS : Type} {V : ServerEnv HS} {e : ServerEvent} {s₀ s : ServerState HS} {c : Nat}

/-! Looking, sending and calling. -/

private theorem keeps_grid {α : Type} {f : Grid HS → ServerM HS α}
    (rest : ∀ s, Reaches V e s₀ s →
      Ensures (f s.host.ambient) s (fun _ s' => Reaches V e s₀ s') fun _ s' => Reaches V e s₀ s') :
    Keeps (Reaches V e s₀) (grid >>= f) := by
  intro s reached
  rw [ensures_bind, ensures_grid]
  exact rest s reached

private theorem keeps_object {α : Type} {f : Connection → ServerM HS α}
    (rest : ∀ s o, Reaches V e s₀ s → s.host.ambient.objects[c]? = some o →
      Ensures (f o) s (fun _ s' => Reaches V e s₀ s') fun _ s' => Reaches V e s₀ s') :
    Keeps (Reaches V e s₀) (onGrid (object c) >>= f) := by
  intro s reached
  rw [ensures_bind, Cascade.ensures_object]
  exact ⟨fun o there => rest s o reached there, fun _ => reached⟩

private theorem keeps_quiet {α : Type} {op : GridM HS α}
    (quiet : ∀ g, Ensures op g (fun _ g' => SameBoard g g') fun _ g' => SameBoard g g') :
    Keeps (Reaches V e s₀) (onGrid op) := by
  intro s reached
  rw [ensures_onGrid]
  exact (quiet s.host.ambient).mono (fun _ _ same => reached.quiet same)
    fun _ _ same => reached.quiet same

private theorem keeps_reading {α : Type} (input : Inputs → Nat → α) :
    Keeps (Reaches V e s₀) (onGrid (reading input)) :=
  keeps_quiet fun g => .tick g 1

private theorem keeps_orThrow {α : Type} (r : Except String α) :
    Keeps (Reaches V e s₀) (Relay.orThrow r) := by
  intro s reached
  rw [ensures_orThrow]
  exact ⟨fun _ _ => reached, fun _ _ => reached⟩

private theorem sendConnection_passed {o : Connection} {packet : Bytes} (reached : Reaches V e s₀ s)
    (there : s.host.ambient.objects[c]? = some o) (passed : Passed e s.host.ambient c o packet) :
    Ensures (onGrid (sendConnection c packet)) s (fun _ s' => Reaches V e s₀ s')
      (fun _ s' => Reaches V e s₀ s') := by
  rw [ensures_onGrid]
  have ended (g' : Grid HS) (handed : Handed c packet s.host.ambient g') :
      Reaches V e s₀ (withGrid s g') := by
    rcases handed with refused | ⟨time, sent⟩
    · exact reached.quiet refused
    · exact (reached.move (.passed there passed)).quiet sent
  exact (sendConnection_handed V.secure c packet s.host.ambient).mono
    (fun _ g' handed => ended g' handed) fun _ g' handed => ended g' handed

/-! Closing. -/

private theorem keeps_forget (key : Rpc.Scheduler.RouteSyncKey) :
    Keeps (Reaches V e s₀) (Rpc.Scheduler.forget key) :=
  fun _ reached => reached.same rfl rfl

private theorem keeps_addPeer (peer : RpcPeer) :
    Keeps (Reaches V e s₀) (EasyTierRpc.addPeer (host V) peer) := by
  refine Keeps.bind ?_ fun _ => keeps_forget _
  exact keeps_core fun host =>
    WasmRpcCore.addPeer host peer.networkName peer.peerId peer.remotePublicKey

private theorem keeps_removePeer (peer : RpcPeer) :
    Keeps (Reaches V e s₀) (EasyTierRpc.removePeer (host V) peer) := by
  refine Keeps.bind ?_ fun _ => keeps_forget _
  exact keeps_core fun host => WasmRpcCore.removePeer V.rpc host peer.networkName peer.peerId

section Closing

variable {close : CloseM HS}
  (closes : ∀ s₀ c code reason, Keeps (Reaches V e s₀) (close c code reason))

include closes

private theorem keeps_broadcastTo (networkName : String) (excludePeerId : Option UInt32)
    (peers : List UInt32) :
    Keeps (Reaches V e s₀) (broadcastTo V close networkName excludePeerId peers) := by
  induction peers with
  | nil => exact keeps_pure _
  | cons peerId rest ih =>
    rw [broadcastTo]
    apply keeps_grid
    intro s reached
    cases s.host.ambient.rooms.get networkName peerId with
    | none => exact ih s reached
    | some c =>
      refine keeps_object (fun s o reached _ => ?_) s reached
      refine Keeps.ite (fun _ => ih) (fun _ => ?_) s reached
      refine Keeps.bind (Keeps.tryCatch ?_ fun _ => closes _ c _ _) fun _ => ih
      refine (atoms.request (rpcPeer c o) trivial false).bind fun _ => ?_
      exact keeps_quiet fun g => ⟨rfl, rfl, rfl, rfl, rfl, rfl, [], by simp⟩

private theorem keeps_broadcastWith (networkName : String) (excludePeerId : Option UInt32) :
    Keeps (Reaches V e s₀) (broadcastWith V close networkName excludePeerId) :=
  keeps_grid fun s reached => keeps_broadcastTo closes networkName excludePeerId _ s reached

private theorem keeps_removeWith : Keeps (Reaches V e s₀) (removeWith V close c) := by
  unfold removeWith
  apply keeps_object
  intro s o reached there
  rw [ensures_ite]
  refine ⟨fun _ => reached, fun _ => ?_⟩
  rw [ensures_bind]
  show Ensures (onGrid (unregister c o) >>= _) _ _ _
  rw [ensures_bind]
  show Ensures _ (withGrid s (closing c o s.host.ambient)) _ _
  rw [ensures_ite]
  constructor
  · intro ready
    let s₁ := withGrid s (closing c o s.host.ambient)
    have reached₁ : Reaches V e s₀ s₁ := reached.move (.retired there ready)
    have closed : ∃ o, s₁.host.ambient.objects[c]? = some o ∧ o.phase = .closed :=
      ⟨_, @modified_self HS s c o (fun o => { o with phase := .closed }) there, rfl⟩
    rw [ensures_bind]
    refine (keeps_removePeer _ s₁ (.refl reached₁.self)).mono ?_ fun _ _ failed =>
      reached₁.trans failed
    intro _ s₂ reached₂
    rw [ensures_bind]
    refine (keeps_broadcastWith closes _ _ s₂ reached₂).mono ?_ fun _ _ failed =>
      reached₁.trans failed
    intro _ s₃ reached₃
    obtain ⟨o₃, there₃, closed₃⟩ := reached₃.closed closed
    refine (disposeConnection_disposed there₃).mono ?_ fun _ _ impossible => impossible.elim
    rintro _ _ rfl
    exact ((reached₁.trans reached₃).move (.freed there₃ closed₃)).quiet (.tick _ 1)
  · intro unready
    have there' : (withGrid s (closing c o s.host.ambient)).host.ambient.objects[c]? =
        some { o with phase := .closed } :=
      @modified_self HS s c o (fun o => { o with phase := .closed }) there
    refine (disposeConnection_disposed there').mono ?_ fun _ _ impossible => impossible.elim
    rintro _ _ rfl
    have both : (s.host.ambient.objects.modify c fun o => { o with phase := .closed }).modify c
        (fun o => { o with handshakeTimer := false }) =
        s.host.ambient.objects.modify c fun o =>
          { o with phase := .closed, handshakeTimer := false } :=
      List.modify_modify_eq _ _ _ _
    let nowMs := s.host.ambient.inputs.secureNow s.host.ambient.tick
    have moved :=
      (reached.move (@Move.discarded HS V e _ c o nowMs there unready)).quiet (.tick _ 1)
    rw [← both] at moved
    exact moved

end Closing

private theorem keeps_closeWithin (depth : Nat) (s₀ : ServerState HS) (c code : Nat)
    (reason : String) :
    Keeps (Reaches V e s₀) (closeWithin V depth c code reason) := by
  induction depth generalizing s₀ c code reason with
  | zero =>
    rw [closeWithin]
    exact keeps_quiet fun g => ⟨rfl, rfl, rfl, rfl, rfl, rfl, [], by simp⟩
  | succ depth ih =>
    rw [closeWithin]
    apply keeps_object
    intro s o reached _
    refine Keeps.ite (fun _ => keeps_pure _) (fun _ => ?_) s reached
    refine Keeps.bind (keeps_quiet fun g => ⟨rfl, rfl, rfl, rfl, rfl, rfl, [], by simp⟩) fun _ => ?_
    have told : Keeps (Reaches V e s₀)
        (socketClose code (String.ofList (reason.toList.take 120)) : ServerM HS Unit) :=
      (keeps_reading _).bind fun _ => keeps_orThrow _
    unfold runFinally
    refine Keeps.bind (Keeps.tryCatch told fun e => ?_) fun _ => ?_
    · exact (keeps_removeWith ih).bind fun _ => keeps_throw e
    · exact (keeps_removeWith ih).bind fun _ => keeps_pure _

private theorem keeps_depth {α : Type} {f : Nat → ServerM HS α}
    (rest : ∀ n, Keeps (Reaches V e s₀) (f n)) :
    Keeps (Reaches V e s₀) (depth >>= f) :=
  fun s reached => rest (s.host.ambient.objects.length + 1) s reached

theorem keeps_close (code : Nat) (reason : String) :
    Keeps (Reaches V e s₀) (close V c code reason) :=
  keeps_depth fun n => keeps_closeWithin n s₀ c code reason

private theorem keeps_removeConnection : Keeps (Reaches V e s₀) (removeConnection V c) :=
  keeps_depth fun n => keeps_removeWith (keeps_closeWithin n)

private theorem keeps_broadcastRouteUpdate (networkName : String) (excludePeerId : Option UInt32) :
    Keeps (Reaches V e s₀) (broadcastRouteUpdate V networkName excludePeerId) :=
  keeps_depth fun n => keeps_broadcastWith (keeps_closeWithin n) _ _

/-! The handshake. -/

section Handshake

variable {o : Connection}

private theorem callSecure_moves (reached : Reaches V e s₀ s)
    (there : s.host.ambient.objects[c]? = some o)
    {call : Nat → Event} (permitted : Permitted V s.host.ambient.world o.secure (call o.secure)) :
    Ensures (callSecure V c call) s
      (fun out s' => Reaches V e s₀ s' ∧ s'.host.ambient.objects = s.host.ambient.objects ∧
        s.host.ambient.world.perform V.secure (call o.secure) = (s'.host.ambient.world, out))
      (fun _ _ => False) := by
  refine (callSecure_called there call).mono ?_ fun _ _ impossible => impossible
  rintro out _ ⟨rfl, ran⟩
  exact ⟨reached.move (.called there permitted), rfl, ran⟩

private theorem readMsg1_moves (reached : Reaches V e s₀ s)
    (there : s.host.ambient.objects[c]? = some o) (frame : Bytes) :
    Ensures (Relay.readMsg1 V c frame) s
      (fun info s' => Reaches V e s₀ s' ∧ s'.host.ambient.objects = s.host.ambient.objects ∧
        ∃ p', s'.host.ambient.world.peer? o.secure = some p' ∧
          p'.networkName = some info.networkName)
      (fun _ s' => Reaches V e s₀ s') := by
  unfold Relay.readMsg1
  rw [ensures_bind]
  refine (callSecure_moves reached there (.readMsg1 frame)).mono ?_
    fun _ _ impossible => impossible.elim
  rintro out s' ⟨reached', objects, ran⟩
  cases out with
  | msg1 result =>
    cases result with
    | ok info =>
      obtain ⟨p', live, _, name⟩ := Secure.LiveSession.readMsg1_returned ran
      exact ⟨reached', objects, p', live, name⟩
    | error e => exact reached'
  | _ => exact reached'

private theorem buildMsg2_moves (reached : Reaches V e s₀ s)
    (there : s.host.ambient.objects[c]? = some o)
    {p : SecurePeer HS} {networkName networkSecret : String}
    (live : s.host.ambient.world.peer? o.secure = some p) (name : p.networkName = some networkName)
    (configured : V.config.rooms.lookup networkName = some networkSecret) :
    Ensures (Relay.buildMsg2 V c networkSecret) s
      (fun packet s' => s'.serverPeerId = s.serverPeerId ∧ ∃ call,
        Returned V s.host.ambient.world o.secure call packet ∧
          SameBoard (calling V.secure o.secure call s.host.ambient) s'.host.ambient)
      (fun _ s' => Reaches V e s₀ s') := by
  unfold Relay.buildMsg2
  simp only [ensures_bind]
  have ticked := reached.quiet (.tick s.host.ambient 3)
  generalize later :
      withGrid s { s.host.ambient with tick := s.host.ambient.tick + 3 } = s₁ at ticked
  show Ensures (callSecure V c _) (withGrid s { s.host.ambient with
    tick := s.host.ambient.tick + 3 }) _ _
  rw [later]
  have there₁ : s₁.host.ambient.objects[c]? = some o := by
    rw [← later]
    exact there
  have live₁ : s₁.host.ambient.world.peer? o.secure = some p := by
    rw [← later]
    exact live
  refine (callSecure_called there₁ _).mono ?_ fun _ _ impossible => impossible.elim
  rintro out _ ⟨rfl, ran⟩
  have called := ticked.move (.called there₁ (.buildMsg2 live₁ name configured
    (s.host.ambient.inputs.draws s.host.ambient.tick)
    (s.host.ambient.inputs.secureNow (s.host.ambient.tick + 1))
    (s.host.ambient.inputs.secureNow (s.host.ambient.tick + 2))))
  cases out with
  | msg2 result =>
    cases result with
    | ok m =>
      subst later
      refine ⟨rfl, _, .message2 live name configured (congrArg Prod.snd ran), ?_⟩
      exact ⟨rfl, rfl, rfl, rfl, rfl, rfl, [], (List.append_nil _).symm⟩
    | error e => exact called
  | _ => exact called

private theorem Handed.cards {packet : Bytes} {g g' : Grid HS} (handed : Handed c packet g g') :
    g'.objects.map card = g.objects.map card := by
  rcases handed with refused | ⟨time, sent⟩
  · exact refused.cards
  · exact sent.cards

private theorem handleHandshakeMessage1_moves (reached : Reaches V e s₀ s)
    (there : s.host.ambient.objects[c]? = some o) (msg1 : o.phase = .msg1) (frame : Bytes)
    (packetType : UInt8) :
    Ensures (handleHandshakeMessage1 V c frame packetType) s (fun _ s' => Reaches V e s₀ s')
      (fun _ s' => Reaches V e s₀ s') := by
  unfold handleHandshakeMessage1
  rw [ensures_ite]
  refine ⟨fun _ => reached, fun _ => ?_⟩
  rw [ensures_bind]
  refine (readMsg1_moves reached there frame).mono ?_ fun _ _ failed => failed
  rintro info s₁ ⟨reached₁, objects, p, live, name⟩
  rw [ensures_bind, ensures_orThrow]
  refine ⟨fun parsed accepted => ?_, fun _ _ => reached₁⟩
  have sameName := (parseHandshakeInfo_ok accepted).2
  cases configured : V.config.rooms.lookup parsed.networkName with
  | none => exact keeps_close _ _ s₁ reached₁
  | some networkSecret =>
    let named : Connection → Connection := fun connection =>
      { connection with peerId := parsed.peerId, networkName := parsed.networkName }
    have there₁ : s₁.host.ambient.objects[c]? = some o := by
      rw [objects]
      exact there
    have there₂ : (s₁.host.ambient.objects.modify c named)[c]? = some (named o) :=
      modified_self there₁
    have reached₂ := reached₁.move (@Move.identified HS V e _ c o parsed.peerId parsed.networkName
      there₁ msg1 (by rw [configured]; rfl))
    dsimp only
    rw [ensures_bind]
    show Ensures _ (withGrid s₁ { s₁.host.ambient with
      objects := s₁.host.ambient.objects.modify c named }) _ _
    rw [ensures_bind]
    rw [← sameName] at name
    refine (buildMsg2_moves reached₂ there₂ live name configured).mono ?_ fun _ _ failed => failed
    rintro msg2 s₃ ⟨self, call, returned, called⟩
    rw [ensures_bind, ensures_onGrid]
    have ended (g' : Grid HS) (handed : Handed c msg2 s₃.host.ambient g') :
        Reaches V e s₀ (withGrid s₃ g') :=
      ⟨self.trans reached₁.self,
        reached₂.moves.trans (moves_handed there₂ returned called handed)⟩
    refine (sendConnection_handed V.secure c msg2 s₃.host.ambient).mono ?_
      fun _ g' handed => ended g' handed
    intro _ g' handed
    have cards : g'.objects.map card = (s₁.host.ambient.objects.modify c named).map card :=
      (Handed.cards handed).trans called.cards
    have found : (g'.objects[c]?).map card = some (card (named o)) := by
      rw [← List.getElem?_map, cards, List.getElem?_map, there₂]
      rfl
    obtain ⟨o', there', same⟩ := Option.map_eq_some_iff.mp found
    have phase : o'.phase = .msg1 := (shown Connection.phase same fun _ => rfl).trans msg1
    have network : o'.networkName = parsed.networkName :=
      shown Connection.networkName same fun _ => rfl
    exact (ended g' handed).move (.answered there' phase (by rw [network, configured]; rfl))

private theorem keeps_registerConnection : Keeps (Reaches V e s₀) (registerConnection V c) := by
  unfold registerConnection
  apply keeps_object
  intro s o reached _
  rw [ensures_bind]
  have added : Keeps (Reaches V e s₀) (EasyTierServer.addPeer V (rpcPeer c o)) := by
    unfold EasyTierServer.addPeer
    apply keeps_get_bind
    intro s reached
    rw [ensures_bind]
    have noted : SameBoard s.host.ambient (meeting s (rpcPeer c o)).host.ambient :=
      ⟨rfl, rfl, rfl, rfl, rfl, rfl, [], by simp [meeting, withGrid]⟩
    exact keeps_addPeer _ _ (reached.quiet noted)
  have entered := reached.move (@Move.entered HS V e _ c o.networkName o.peerId)
  show Ensures _ (entering c o s) _ _
  cases (s.host.ambient.rooms.set o.networkName o.peerId c).1 with
  | none => exact added _ entered
  | some d =>
    refine Keeps.ite (fun _ => ?_) (fun _ => added) _ entered
    exact (keeps_close _ _).bind fun _ => added

private theorem finishMsg3_moves (reached : Reaches V e s₀ s)
    (there : s.host.ambient.objects[c]? = some o) (frame : Bytes) :
    Ensures (Relay.finishMsg3 V c frame) s (fun _ s' => Reaches V e s₀ s')
      (fun _ s' => Reaches V e s₀ s') := by
  unfold Relay.finishMsg3
  rw [ensures_bind]
  have ticked := reached.quiet (.tick s.host.ambient 1)
  show Ensures (callSecure V c _ >>= _) _ _ _
  rw [ensures_bind]
  refine (callSecure_moves ticked there (.finishMsg3 frame _)).mono ?_
    fun _ _ impossible => impossible.elim
  rintro out s' ⟨reached', _⟩
  cases out with
  | auth result =>
    cases result with
    | ok info => exact reached'
    | error e => exact reached'
  | _ => exact reached'

private theorem finishMsg3_pins (there : s.host.ambient.objects[c]? = some o) (frame : Bytes) :
    Ensures (Relay.finishMsg3 V c frame) s
      (fun info s' => ∃ p key k, s'.host.ambient.world.peer? o.secure = some p ∧
        p.sessionKey = some key ∧ PinnedTo s'.host.ambient.world key k ∧
          keyOfBytes info.remotePublicKey = some k) (fun _ _ => True) := by
  unfold Relay.finishMsg3
  rw [ensures_bind]
  show Ensures (callSecure V c _ >>= _) (withGrid s { s.host.ambient with
    tick := s.host.ambient.tick + 1 }) _ _
  rw [ensures_bind]
  have called := @callSecure_called _ V (withGrid s { s.host.ambient with
    tick := s.host.ambient.tick + 1 }) c o there
  refine (called fun i => .finishMsg3 i frame _).mono ?_ fun _ _ impossible => impossible.elim
  rintro out s' ⟨rfl, ran⟩
  cases out with
  | auth result =>
    cases result with
    | ok info =>
      have ok := congrArg Prod.snd ran
      obtain ⟨p, key, k, finished⟩ := Pinning.finished_of_outcome ok
      exact ⟨_, key, k, finished.left, finished.bound, finished.pinned, finished.sized⟩
    | error e => exact trivial
  | _ => exact trivial

private theorem registerConnection_moves {held : List Nat} {k : Nat} {F : List Forward}
    (reached : Reaches V e s₀ s) (sound : Sound V none none held k F s)
    (there : s.host.ambient.objects[c]? = some o) (msg3 : o.phase = .msg3)
    (authentic : Authentic s.host.ambient o) :
    Ensures (registerConnection V c) s
      (fun _ s' => Reaches V e s₀ s' ∧ ∃ o', s'.host.ambient.objects[c]? = some o' ∧
        o'.phase = .msg3 ∧ rpcPeer c o' = rpcPeer c o) (fun _ s' => Reaches V e s₀ s') := by
  have registered := registerConnection_sound sound there msg3 authentic
  refine (registered.and (keeps_registerConnection s reached)).mono ?_ fun _ _ failed => failed.2
  rintro _ s' ⟨⟨s₁, o₁, key, sound₁, added, same⟩, reached'⟩
  obtain ⟨u, found, waiting, _⟩ := sound₁.registered.joined c rfl
  rw [added.there] at found
  cases Option.some.inj found
  refine ⟨reached', o₁, ?_, waiting, same⟩
  rw [added.after.ambient]
  exact added.there

private theorem parseAuthenticationInfo_key {info : AuthInfo} {auth : AuthenticationInfo}
    (parsed : parseAuthenticationInfo info = .ok auth) :
    auth.remotePublicKey = info.remotePublicKey := by
  unfold parseAuthenticationInfo at parsed
  simp only [bind, Except.bind, pure, Except.pure] at parsed
  split at parsed
  · cases parsed
  split at parsed
  · cases parsed
  split at parsed
  · cases parsed
  split at parsed
  · cases parsed
  cases parsed
  rfl

/-- The connection with the key that it has proved to own. -/
def keyed (remotePublicKey : Bytes) (c : Nat) (s : ServerState HS) : ServerState HS :=
  withGrid s { s.host.ambient with
    objects := s.host.ambient.objects.modify c fun o => { o with remotePublicKey } }

theorem handleHandshakeMessage3_until {I : ServerState HS → Prop} {ok err : ServerState HS → Prop}
    {held : List Nat} {k : Nat} {F : List Forward} (sound : Sound V none none held k F s)
    (there : s.host.ambient.objects[c]? = some o) (msg3 : o.phase = .msg3) {frame : Bytes}
    (packetType : UInt8) (start : I s)
    (finished : Ensures (Relay.finishMsg3 V c frame) s (fun _ s' => I s') (fun _ s' => I s'))
    (stopped : ∀ s', I s' → err s')
    (registers : ∀ s₁ o₁ remotePublicKey, I s₁ → card o₁ = card { o with remotePublicKey } →
      Sound V none none held k F (keyed remotePublicKey c s₁) →
      (keyed remotePublicKey c s₁).host.ambient.objects[c]? = some o₁ →
      Authentic (keyed remotePublicKey c s₁).host.ambient o₁ →
      (∃ o₀, s₁.host.ambient.objects[c]? = some o₀ ∧ o₀.phase = .msg3 ∧
        Proves s₁.host.ambient.world o₀ remotePublicKey) →
      Ensures (do
        registerConnection V c
        onGrid (completeHandshake c)
        broadcastRouteUpdate V o₁.networkName none) (keyed remotePublicKey c s₁)
        (fun _ s' => ok s') (fun _ s' => err s')) :
    Ensures (handleHandshakeMessage3 V c frame packetType) s (fun _ s' => ok s')
      (fun _ s' => err s') := by
  obtain ⟨key, on, name, id⟩ := sound.living.answered c o there msg3
  unfold handleHandshakeMessage3
  rw [ensures_ite]
  refine ⟨fun _ => stopped s start, fun _ => ?_⟩
  rw [ensures_bind]
  have follows := finishMsg3_follows sound there (by rw [msg3]; decide) frame on
  refine ((follows.and finished).and (finishMsg3_pins there frame)).mono ?_
    fun _ s' failed => stopped s' failed.1.2
  rintro info s₁ ⟨⟨⟨follows, authenticated⟩, held₁⟩, p, key', own, live, bound, pinned, sized⟩
  have keys : key' = key := by
    obtain ⟨q, live', _, bound'⟩ := authenticated
    rw [live] at live'
    cases Option.some.inj live'
    exact Option.some.inj (bound.symm.trans bound')
  rw [ensures_bind, ensures_orThrow]
  refine ⟨fun auth parsed => ?_, fun _ _ => stopped s₁ held₁⟩
  have remote : auth.remotePublicKey = info.remotePublicKey := parseAuthenticationInfo_key parsed
  obtain ⟨o₁, there₁, cards₁⟩ := follows.1.books.object' there
  have phase₁ : o₁.phase = .msg3 := (shown Connection.phase cards₁ fun _ => rfl).trans msg3
  have unready : o₁.phase ≠ .ready := by
    rw [phase₁]
    decide
  rw [ensures_bind]
  apply ensures_there there₁
  rw [ensures_ite]
  refine ⟨fun _ => stopped s₁ held₁, fun _ => ?_⟩
  have sound₁ := sound.follow follows
  have sound₂ : Sound V none none held k F (keyed auth.remotePublicKey c s₁) := by
    refine Sound.edit sound₁ there₁ unready unready (fun _ => rfl) Iff.rfl ?_
    exact fun _ => sound₁.living.answered c o₁ there₁ phase₁
  have authentic :
    Authentic s₁.host.ambient { o₁ with remotePublicKey := auth.remotePublicKey } := by
    refine ⟨key, ?_, ?_, ?_⟩
    · show AuthenticatedOn s₁.host.ambient.world o₁.secure key
      rw [shown Connection.secure cards₁ fun _ => rfl]
      exact authenticated
    · exact name.trans (shown Connection.networkName cards₁ fun _ => rfl).symm
    · exact id.trans (shown Connection.peerId cards₁ fun _ => rfl).symm
  have cards : card { o₁ with remotePublicKey := auth.remotePublicKey } =
      card { o with remotePublicKey := auth.remotePublicKey } :=
    congrArg (fun u : Connection => { u with remotePublicKey := auth.remotePublicKey }) cards₁
  have proves : Proves s₁.host.ambient.world o₁ auth.remotePublicKey := by
    refine ⟨key, own, ?_, ?_, ?_, keys ▸ pinned, remote ▸ sized⟩
    · rw [shown Connection.secure cards₁ fun _ => rfl]
      exact authenticated
    · exact name.trans (shown Connection.networkName cards₁ fun _ => rfl).symm
    · exact id.trans (shown Connection.peerId cards₁ fun _ => rfl).symm
  rw [ensures_bind]
  exact registers s₁ { o₁ with remotePublicKey := auth.remotePublicKey } auth.remotePublicKey held₁
    cards sound₂ (modified_self there₁) authentic ⟨o₁, there₁, phase₁, proves⟩

private theorem handleHandshakeMessage3_moves {held : List Nat} {k : Nat} {F : List Forward}
    (reached : Reaches V e s₀ s) (sound : Sound V none none held k F s)
    (there : s.host.ambient.objects[c]? = some o) (msg3 : o.phase = .msg3) (frame : Bytes)
    (packetType : UInt8) :
    Ensures (handleHandshakeMessage3 V c frame packetType) s (fun _ s' => Reaches V e s₀ s')
      (fun _ s' => Reaches V e s₀ s') := by
  refine handleHandshakeMessage3_until sound there msg3 packetType reached
    (finishMsg3_moves reached there frame) (fun _ reached' => reached') ?_
  intro s₁ o₁ remotePublicKey reached₁ cards₁ sound₁ there₁ authentic₁ ⟨o₀, there₀, msg3₀, proves⟩
  have phase₁ : o₁.phase = .msg3 := (shown Connection.phase cards₁ fun _ => rfl).trans msg3
  have reached₂ := reached₁.move (@Move.keyed HS V e _ c o₀ remotePublicKey there₀ msg3₀ proves)
  rw [ensures_bind]
  refine (registerConnection_moves reached₂ sound₁ there₁ phase₁ authentic₁).mono ?_
    fun _ _ failed => failed
  rintro _ s₃ ⟨reached₃, o₃, there₃, msg3₃, same⟩
  have sized : o₃.remotePublicKey.length = 32 := by
    have own : o₃.remotePublicKey = o₁.remotePublicKey := congrArg RpcPeer.remotePublicKey same
    have given : o₁.remotePublicKey = remotePublicKey :=
      shown Connection.remotePublicKey cards₁ fun _ => rfl
    obtain ⟨_, k, _, _, _, _, sized⟩ := proves
    rw [own, given, ← Packet.keyOfBytes_eq_some.mp sized]
    exact k.length_toList
  rw [ensures_bind]
  exact keeps_broadcastRouteUpdate _ _ _ (reached₃.move (.completed there₃ msg3₃ sized))

end Handshake

/-! Ready connections. -/

private theorem keeps_forward (o : Connection) (frame : Bytes) (header : PacketHeader) :
    Keeps (Reaches V e s₀) (forward V c o frame header) := by
  intro s reached
  unfold forward
  rw [ensures_bind, ensures_grid]
  cases s.host.ambient.rooms.get o.networkName header.toPeerId with
  | none => exact reached
  | some t =>
    dsimp only
    rw [ensures_bind, Cascade.ensures_object]
    refine ⟨fun u there' => ?_, fun _ => reached⟩
    rw [ensures_ite]
    refine ⟨fun _ => reached, fun ready => ?_⟩
    rw [ensures_bind, ensures_orThrow]
    refine ⟨fun forwarded _ => ?_, fun _ _ => reached⟩
    let handed : Forward := ⟨c, t, frame, forwarded⟩
    let s₁ := withGrid s { s.host.ambient with forwards := s.host.ambient.forwards ++ [handed] }
    have reached₁ : Reaches V e s₀ s₁ :=
      reached.quiet ⟨rfl, rfl, rfl, rfl, rfl, rfl, [handed], rfl⟩
    rw [ensures_bind]
    show Ensures _ s₁ _ _
    rw [ensures_tryCatch]
    have passed : Passed e s₁.host.ambient t u forwarded :=
      @Passed.relayed HS e s₁.host.ambient t u handed (not_not.mp ready)
        (List.mem_append_right _ (List.mem_singleton.mpr rfl)) rfl
    exact (sendConnection_passed reached₁ there' passed).mono (fun _ _ sent => sent)
      fun _ s₂ failed => keeps_close _ _ s₂ failed

section Ready

variable {o : Connection} (reached : Reaches V e s₀ s)
  (there : s.host.ambient.objects[c]? = some o)

include reached there

private theorem decryptPacket_moves (frame : Bytes) :
    Ensures (Relay.decryptPacket V c frame) s (fun _ s' => Reaches V e s₀ s')
      (fun _ s' => Reaches V e s₀ s') := by
  unfold Relay.decryptPacket
  simp only [ensures_bind]
  have ticked := reached.quiet (.tick s.host.ambient 2)
  show Ensures (callSecure V c _) (withGrid s { s.host.ambient with
    tick := s.host.ambient.tick + 2 }) _ _
  refine (callSecure_moves ticked there (.decrypt frame _ _)).mono ?_
    fun _ _ impossible => impossible.elim
  rintro out s' ⟨reached', _⟩
  cases out with
  | data result =>
    cases result with
    | ok clear => exact reached'
    | error e => exact reached'
  | _ => exact reached'

private theorem handleRpcPacket_moves (frame : Bytes) (header : PacketHeader) :
    Ensures (handleRpcPacket V c o frame header) s (fun _ s' => Reaches V e s₀ s')
      (fun _ s' => Reaches V e s₀ s') := by
  unfold handleRpcPacket
  rw [ensures_bind]
  refine (decryptPacket_moves reached there frame).mono ?_ fun _ _ failed => failed
  intro clear s₁ reached₁
  have rest : Keeps (Reaches V e s₀) (do
      let _ ← Relay.orThrow (Packet.parsePacket clear)
      let payload := clear.drop headerSize
      if header.packetType = Rpc.Scheduler.packetTypeRpcReq then
        let result ← EasyTierRpc.handleRequest (host V) (rpcPeer c o) payload
        if result = .route then
          broadcastRouteUpdate V o.networkName (some o.peerId)
      else EasyTierRpc.handleResponse (host V) (rpcPeer c o) payload) := by
    refine (keeps_orThrow _).bind fun _ => ?_
    apply Keeps.ite
    · intro _
      refine (atoms.parts.keeps_handleRequest trivial _).bind fun result => ?_
      exact Keeps.ite (fun _ => keeps_broadcastRouteUpdate _ _) fun _ => keeps_pure _
    · exact fun _ => atoms.parts.keeps_handleResponse trivial _
  exact Keeps.ite (fun _ => keeps_pure _) (fun _ => rest) s₁ reached₁

private theorem handleReadyPacket_moves (ready : o.phase = .ready) {frame : Bytes}
    {header : PacketHeader}
    (received : e = .message c (.binary frame)) (parsed : Packet.parsePacket frame = .ok header) :
    Ensures (handleReadyPacket V c frame header) s (fun _ s' => Reaches V e s₀ s')
      (fun _ s' => Reaches V e s₀ s') := by
  unfold handleReadyPacket
  rw [ensures_bind]
  apply ensures_there there
  rw [ensures_ite]
  refine ⟨fun _ => keeps_forward o frame header s reached, fun direct => ?_⟩
  rw [ensures_ite]
  refine ⟨fun _ => reached, fun own => ?_⟩
  rw [ensures_ite]
  refine ⟨fun _ => reached, fun plain => ?_⟩
  rw [ensures_ite]
  constructor
  · intro ping
    rw [ensures_bind, ensures_orThrow]
    refine ⟨fun pong answer => ?_, fun _ _ => reached⟩
    have unencrypted : header.flags &&& encryptedFlag = 0 := by
      by_contra encrypted
      exact plain ⟨Or.inl ping, encrypted⟩
    exact sendConnection_passed reached there
      (.pong received ready parsed (not_not.mp direct) (not_not.mp own) ping unencrypted answer)
  · intro _
    rw [ensures_ite]
    refine ⟨fun _ => reached, fun _ => ?_⟩
    rw [ensures_ite]
    refine ⟨fun _ => reached, fun _ => ?_⟩
    rw [ensures_ite]
    exact ⟨fun _ => reached, fun _ => handleRpcPacket_moves reached there frame header⟩

end Ready

/-! Events. -/

private theorem handleMessage_moves {k : Nat} {F : List Forward} (reached : Reaches V e s₀ s)
    (sound : Sound V none none [] k F s) (data : MessageData) (received : e = .message c data) :
    Ensures (handleMessage V c data) s (fun _ s' => Reaches V e s₀ s')
      (fun _ s' => Reaches V e s₀ s') := by
  unfold handleMessage
  cases data with
  | text => exact reached
  | binary frame =>
    dsimp only
    rw [ensures_ite]
    refine ⟨fun _ => reached, fun _ => ?_⟩
    rw [ensures_bind, ensures_orThrow]
    refine ⟨fun header parsed => ?_, fun _ _ => reached⟩
    rw [ensures_bind, Cascade.ensures_object]
    refine ⟨fun o there => ?_, fun _ => reached⟩
    cases phase : o.phase with
    | msg1 => exact handleHandshakeMessage1_moves reached there phase frame header.packetType
    | msg3 => exact handleHandshakeMessage3_moves reached sound there phase frame header.packetType
    | ready => exact handleReadyPacket_moves reached there phase received parsed
    | closed => exact reached

private theorem keeps_scheduleMaintenance : Keeps (Reaches V e s₀) (onGrid scheduleMaintenance) :=
  fun _ reached => reached.move .armed

private theorem keeps_fetch (pathname : String) (upgrade : Option String) :
    Keeps (Reaches V e s₀) (fetch V pathname upgrade) := by
  unfold fetch
  apply Keeps.ite (fun _ => keeps_pure _)
  intro _
  apply Keeps.ite (fun _ => keeps_pure _)
  intro _ s reached
  rw [ensures_bind, ensures_grid, ensures_ite]
  refine ⟨fun _ => reached, fun room => ?_⟩
  rw [ensures_bind, ensures_grid, ensures_bind]
  have ticked := reached.quiet (.tick s.host.ambient 1)
  show Ensures (onGrid _ >>= _) (Cascade.ticked s) _ _
  rw [ensures_bind, ensures_construct]
  have made := construct_cases V.secure (Cascade.ticked s).host.ambient.world
    V.config.localPrivateKey V.config.localPublicKey serverPeerId
    (s.host.ambient.inputs.secureNow s.host.ambient.tick)
  generalize called : Event.construct V.config.localPrivateKey V.config.localPublicKey serverPeerId
    (s.host.ambient.inputs.secureNow s.host.ambient.tick) = call at made ⊢
  generalize ran : World.perform V.secure (Cascade.ticked s).host.ambient.world call = r at made ⊢
  obtain ⟨w, out⟩ := r
  rcases made with ⟨same, other⟩ | ⟨_, i, constructed⟩
  · cases same
    cases out with
    | constructed i => exact absurd rfl (other i)
    | _ => exact ticked
  · cases constructed
    have opened := @Move.opened HS V e s.host.ambient
      (s.host.ambient.inputs.randomU64 (s.host.ambient.tick + 1))
      (s.host.ambient.inputs.secureNow s.host.ambient.tick)
      (s.host.ambient.inputs.dateNow (s.host.ambient.tick + 2)) (Nat.lt_of_not_le room)
    rw [called] at opened
    have started : (s.host.ambient.world.perform V.secure call).1 = w := congrArg Prod.fst ran
    rw [opening, started] at opened
    have armed : (s.host.ambient.maintenanceTimer ||
        !(s.host.ambient.connections ++ [s.host.ambient.objects.length]).isEmpty) = true := by
      simp
    have after := (reached.move opened).quiet (.tick _ 3)
    show Reaches V e s₀ (withGrid s { s.host.ambient with
      world := w
      objects := s.host.ambient.objects ++ [createConnection s.host.ambient.world.peers.length
        (s.host.ambient.inputs.randomU64 (s.host.ambient.tick + 1))
        (s.host.ambient.inputs.dateNow (s.host.ambient.tick + 2))]
      connections := s.host.ambient.connections ++ [s.host.ambient.objects.length]
      maintenanceTimer := s.host.ambient.maintenanceTimer ||
        !(s.host.ambient.connections ++ [s.host.ambient.objects.length]).isEmpty
      tick := s.host.ambient.tick + 3 })
    rw [armed]
    exact after

private theorem keeps_closeFailed (failures : List RouteSyncFailure) :
    Keeps (Reaches V e s₀) (closeFailed V failures) := by
  induction failures with
  | nil => exact keeps_pure _
  | cons failure rest ih =>
    rw [closeFailed]
    apply keeps_grid
    intro s reached
    cases s.host.ambient.rooms.get failure.peer.networkName failure.peer.peerId with
    | none => exact ih s reached
    | some c => exact (keeps_close _ _).bind (fun _ => ih) s reached

private theorem keeps_maintainAll (now : Nat) (connections : List Nat) :
    Keeps (Reaches V e s₀) (maintainAll V now connections) := by
  induction connections with
  | nil => exact keeps_pure _
  | cons c rest ih =>
    rw [maintainAll]
    apply keeps_grid
    intro s reached
    refine Keeps.ite (fun _ => ih) (fun _ => ?_) s reached
    apply keeps_object
    intro s o reached _
    refine Keeps.ite (fun _ => ih) (fun _ => ?_) s reached
    refine Keeps.bind (Keeps.tryCatch ?_ fun _ => keeps_close _ _) fun _ => ih
    exact atoms.parts.keeps_maintainPeer trivial now

/-- The timer has fired. -/
def fired (g : Grid HS) : Grid HS := { g with maintenanceTimer := false }

private theorem maintain_moves (self : s.serverPeerId = serverPeerId) :
    Ensures (maintain V) s
      (fun _ s' => Reaches V .maintenance (withGrid s (fired s.host.ambient)) s')
      (fun _ s' => Reaches V .maintenance (withGrid s (fired s.host.ambient)) s') := by
  unfold maintain
  rw [ensures_bind]
  generalize from_here : withGrid s (fired s.host.ambient) = s₁
  have start : Reaches V .maintenance s₁ s₁ := by
    rw [← from_here]
    exact .refl self
  have rest : Keeps (Reaches V .maintenance s₁) (do
      let now ← onGrid (reading Inputs.dateNow)
      let failures ← EasyTierRpc.cleanExpired (host V) now
      closeFailed V failures
      let g ← grid
      maintainAll V now g.connections
      onGrid scheduleMaintenance) := by
    refine (keeps_reading _).bind fun now => ?_
    refine (atoms.parts.keeps_cleanExpired now).bind fun failures => ?_
    refine (keeps_closeFailed failures).bind fun _ => ?_
    apply keeps_grid
    intro s reached
    exact (keeps_maintainAll now _).bind (fun _ => keeps_scheduleMaintenance) s reached
  show Ensures _ (withGrid s (fired s.host.ambient)) _ _
  rw [from_here]
  exact rest s₁ start

/-- The first move of an event, if it starts a maintenance round. -/
def firing (e : ServerEvent) (s : ServerState HS) : ServerState HS :=
  match e with
  | .maintenance => if s.host.ambient.maintenanceTimer then withGrid s (fired s.host.ambient) else s
  | _ => s

theorem perform_moves {k : Nat} {F : List Forward} (self : s.serverPeerId = serverPeerId)
    (sound : Sound V none none [] k F s) (e : ServerEvent) :
    Ensures (perform V e) s (fun _ s' => Reaches V e (firing e s) s')
      (fun _ s' => Reaches V e (firing e s) s') := by
  have reached : Reaches V e s s := .refl self
  cases e with
  | fetch pathname upgrade =>
    exact (keeps_fetch pathname upgrade).bind (fun _ => keeps_pure _) s reached
  | message c data =>
    show Ensures (tryCatch (handleMessage V c data) fun _ => failConnection V c) s _ _
    rw [ensures_tryCatch]
    exact (handleMessage_moves reached sound data rfl).mono (fun _ _ ended => ended)
      fun _ s' failed => keeps_close _ _ s' failed
  | socketClosed c => exact keeps_removeConnection s reached
  | socketError c => exact keeps_removeConnection s reached
  | handshakeTimeout c =>
    refine keeps_object (fun s o reached _ => ?_) s reached
    exact Keeps.ite (fun _ => keeps_close _ _) (fun _ => keeps_pure _) s reached
  | maintenance =>
    show Ensures (grid >>= _) s _ _
    rw [ensures_bind, ensures_grid, ensures_ite]
    constructor
    · intro armed
      rw [firing, if_pos armed]
      exact maintain_moves self
    · intro unarmed
      rw [firing, if_neg unarmed]
      exact reached

/-- Every event is a run of moves. -/
private theorem step_moves {k : Nat} {F : List Forward} (self : s.serverPeerId = serverPeerId)
    (sound : Sound V none none [] k F s) (h : Happening) :
    Reaches V h.event (firing h.event (arriving s h.inputs)) (step V s h) := by
  have self' : (arriving s h.inputs).serverPeerId = serverPeerId := self
  exact ensures_final (perform_moves self' (Sound.arriving sound h.inputs) h.event)

section Runs

variable {core : WasmRpcCore}
  (built : WasmRpcCore.new V.config.localPublicKeyBytes V.config.hostname serverPeerId = .ok core)

include built

theorem run_self (inputs : Inputs) (hs : List Happening) :
    (run (step V) (start core inputs) hs).serverPeerId = serverPeerId := by
  induction hs using List.reverseRecOn with
  | nil => rfl
  | append_singleton hs h ih =>
    obtain ⟨k, F, sound⟩ := run_sound built inputs hs
    rw [run_snoc]
    exact (step_moves ih sound h).self

theorem run_kept {P : Grid HS → Prop} {hs : List Happening}
    (kept : ∀ h ∈ hs, ∀ g g', Move V h.event g g' → P g → P g')
    (fires : ∀ g, P g → P (fired g)) (inputs : Inputs)
    (first : P (start core inputs).host.ambient) :
    P (run (step V) (start core inputs) hs).host.ambient := by
  induction hs using List.reverseRecOn with
  | nil => exact first
  | append_singleton hs h ih =>
    obtain ⟨k, F, sound⟩ := run_sound built inputs hs
    have self := run_self built inputs hs
    have before := ih fun h' member => kept h' (List.mem_append_left _ member)
    have moved := kept h (by simp)
    have along {s s' : ServerState HS} (reached : Reaches V h.event s s')
        (holds : P s.host.ambient) : P s'.host.ambient := by
      have moves := reached.moves
      generalize s'.host.ambient = g' at moves
      induction moves with
      | refl => exact holds
      | tail _ move held => exact moved _ _ move held
    rw [run_snoc]
    generalize run (step V) (start core inputs) hs = s at before sound self ⊢
    have same : SameBoard s.host.ambient (arriving s h.inputs).host.ambient :=
      ⟨rfl, rfl, rfl, rfl, rfl, rfl, [], (List.append_nil _).symm⟩
    have arrived : P (arriving s h.inputs).host.ambient := moved _ _ (.quiet same) before
    refine along (step_moves self sound h) ?_
    cases h.event with
    | maintenance =>
      rw [firing]
      split
      · exact fires _ arrived
      · exact arrived
    | _ => exact arrived

end Runs

end EasyTierEdge.Server.Refinement
