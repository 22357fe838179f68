/- module: EasyTierEdge/Server/Moves
   source: cloudflare/src/server.ts, cloudflare/src/runtime/connection.ts
   digest: Everything the server does to its connections, one elementary move at a time. -/

import EasyTierEdge.Server.Registries
import EasyTierEdge.Server.SendWindow

set_option autoImplicit false
set_option relaxedAutoImplicit false

namespace EasyTierEdge.Server.Moves

open Lib.Fallible Lib.Machine Lib.FiniteMap
open Packet (Bytes PacketHeader encryptedFlag keyOfBytes)
open Rpc.Core (WasmRpcCore)
open Rpc.Scheduler (EasyTierRpc RpcPeer ensures_onHost)
open Rpc.CoreHost (Hosted onCore onAmbient ensures_onCore ensures_onAmbient)
open Rpc.SchedulerRules (Atoms)
open Secure.Session Secure.Peer Secure.Connections
open Secure.LiveSession (AuthenticatedOn)
open Secure.ObjectMoves (PinnedTo)
open Rooms Sockets Relay Books Ledger Cascade Handlers Registries
open Relay.EasyTierServer

variable {HS : Type}

/-- Connections, rooms, `SecurePeer`s and sent packets are the same; only readings, send windows,
the scheduler and the histories may differ. -/
structure SameBoard (g g' : Grid HS) : Prop where
  cards : g'.objects.map card = g.objects.map card
  connections : g'.connections = g.connections
  rooms : g'.rooms = g.rooms
  maintenanceTimer : g'.maintenanceTimer = g.maintenanceTimer
  world : g'.world = g.world
  sends : g'.sends = g.sends
  forwards : ∃ more, g'.forwards = g.forwards ++ more

namespace SameBoard

variable {g g' g'' : Grid HS}

private theorem refl (g : Grid HS) : SameBoard g g := ⟨rfl, rfl, rfl, rfl, rfl, rfl, [], by simp⟩

private theorem trans (first : SameBoard g g') (second : SameBoard g' g'') : SameBoard g g'' := by
  obtain ⟨more, grown⟩ := first.forwards
  obtain ⟨more', grown'⟩ := second.forwards
  exact ⟨second.cards.trans first.cards, second.connections.trans first.connections,
    second.rooms.trans first.rooms, second.maintenanceTimer.trans first.maintenanceTimer,
    second.world.trans first.world, second.sends.trans first.sends, more ++ more',
    by rw [grown', grown, List.append_assoc]⟩

private theorem modified (E : SecureEnv HS) (g : Grid HS) (c : Nat) {f : Connection → Connection}
    (same : ∀ o, card (f o) = card o) : SameBoard g { g with objects := g.objects.modify c f } :=
  ⟨(@SameBooks.modified HS E g c f same).cards, rfl, rfl, rfl, rfl, rfl, [], by simp⟩

private theorem card_eq (same : SameBoard g g') (c : Nat) :
    (g'.objects[c]?).map card = (g.objects[c]?).map card := by
  rw [← List.getElem?_map, same.cards, List.getElem?_map]

theorem object (same : SameBoard g g') {c : Nat} {o' : Connection}
    (there : g'.objects[c]? = some o') : ∃ o, g.objects[c]? = some o ∧ card o' = card o := by
  have equal := same.card_eq c
  rw [there] at equal
  obtain ⟨o, found, cards⟩ := Option.map_eq_some_iff.mp equal.symm
  exact ⟨o, found, cards.symm⟩

theorem object' (same : SameBoard g g') {c : Nat} {o : Connection}
    (there : g.objects[c]? = some o) : ∃ o', g'.objects[c]? = some o' ∧ card o' = card o := by
  have equal := same.card_eq c
  rw [there] at equal
  obtain ⟨o', found, cards⟩ := Option.map_eq_some_iff.mp equal
  exact ⟨o', found, cards⟩

end SameBoard

/-- What may be called on the `SecurePeer` of a connection. Message 2 is built with the secret that
is configured for the network the peer announced. -/
inductive Permitted (V : ServerEnv HS) (w : World HS) (i : Nat) : Event → Prop
  | readMsg1 (packet : Bytes) : Permitted V w i (.readMsg1 i packet)
  | buildMsg2 {p : SecurePeer HS} {networkName networkSecret : String}
      (live : w.peer? i = some p) (name : p.networkName = some networkName)
      (configured : V.config.rooms.lookup networkName = some networkSecret)
      (draws : Msg2Draws) (upsertMs attachMs : UInt64) :
      Permitted V w i (.buildMsg2 i networkSecret draws upsertMs attachMs)
  | finishMsg3 (packet : Bytes) (nowMs : UInt64) : Permitted V w i (.finishMsg3 i packet nowMs)
  | encrypt (packet : Bytes) (rotateMs persistMs : UInt64) :
      Permitted V w i (.encrypt i packet rotateMs persistMs)
  | decrypt (packet : Bytes) (receivedMs persistMs : UInt64) :
      Permitted V w i (.decrypt i packet receivedMs persistMs)

/-- A packet that `SecurePeer` `i` returned from `call`. -/
inductive Returned (V : ServerEnv HS) (w : World HS) (i : Nat) : Event → Bytes → Prop
  | message2 {p : SecurePeer HS} {networkName networkSecret : String} {draws : Msg2Draws}
      {upsertMs attachMs : UInt64} {m : Msg2} (live : w.peer? i = some p)
      (name : p.networkName = some networkName)
      (configured : V.config.rooms.lookup networkName = some networkSecret)
      (ran : w.outcome V.secure (.buildMsg2 i networkSecret draws upsertMs attachMs) =
        .msg2 (.ok m)) :
      Returned V w i (.buildMsg2 i networkSecret draws upsertMs attachMs) m.packet
  | control {peerId : UInt32} {packetType : UInt8} {payload clear packet : Bytes}
      {rotateMs persistMs : UInt64}
      (framed : Packet.buildPacket serverPeerId peerId packetType payload = .ok clear)
      (ran : w.outcome V.secure (.encrypt i clear rotateMs persistMs) = .data (.ok packet)) :
      Returned V w i (.encrypt i clear rotateMs persistMs) packet

/-- A frame that is handed on as it came in, but for one byte: the one that event `e` brings, or one
that was forwarded before. -/
inductive Passed (e : ServerEvent) (g : Grid HS) (c : Nat) (o : Connection) : Bytes → Prop
  | pong {frame pong : Bytes} {header : PacketHeader} (received : e = .message c (.binary frame))
      (ready : o.phase = .ready)
      (parsed : Packet.parsePacket frame = .ok header) (direct : header.toPeerId = serverPeerId)
      (own : header.fromPeerId = o.peerId) (ping : header.packetType = packetTypePing)
      (plain : header.flags &&& encryptedFlag = 0)
      (answer : Packet.preparePong frame = .ok pong) : Passed e g c o pong
  | relayed {f : Forward} (ready : o.phase = .ready) (member : f ∈ g.forwards)
      (target : f.target = c) : Passed e g c o f.forwarded

/-- The connection authenticated as who it announced to be, with this static key. -/
def Proves (w : World HS) (o : Connection) (remotePublicKey : Bytes) : Prop :=
  ∃ key k, AuthenticatedOn w o.secure key ∧ key.networkName = o.networkName ∧
    key.peerId = o.peerId ∧ PinnedTo w key k ∧ keyOfBytes remotePublicKey = some k

/-- One elementary move of the server in its work on event `e`; only the start of a maintenance
round is none. -/
inductive Move (V : ServerEnv HS) (e : ServerEvent) : Grid HS → Grid HS → Prop
  | quiet {g g' : Grid HS} (same : SameBoard g g') : Move V e g g'
  | called {g : Grid HS} {c : Nat} {o : Connection} {call : Event}
      (there : g.objects[c]? = some o) (permitted : Permitted V g.world o.secure call) :
      Move V e g (calling V.secure o.secure call g)
  | returned {g : Grid HS} {c : Nat} {o : Connection} {call : Event} {packet : Bytes} {time : Nat}
      (there : g.objects[c]? = some o) (returned : Returned V g.world o.secure call packet) :
      Move V e g { calling V.secure o.secure call g with sends := g.sends ++ [⟨c, time, packet⟩] }
  | passed {g : Grid HS} {c : Nat} {o : Connection} {packet : Bytes} {time : Nat}
      (there : g.objects[c]? = some o) (passed : Passed e g c o packet) :
      Move V e g { g with sends := g.sends ++ [⟨c, time, packet⟩] }
  | opened {g : Grid HS} {serverSessionId nowMs : UInt64} {now : Nat}
      (room : g.connections.length < maxConnections) :
      Move V e g { opening V.secure
        (.construct V.config.localPrivateKey V.config.localPublicKey serverPeerId nowMs)
        (createConnection g.world.peers.length serverSessionId now) g with
          maintenanceTimer := true }
  | identified {g : Grid HS} {c : Nat} {o : Connection} {peerId : UInt32} {networkName : String}
      (there : g.objects[c]? = some o) (msg1 : o.phase = .msg1)
      (configured : (V.config.rooms.lookup networkName).isSome = true) :
      Move V e g { g with objects := g.objects.modify c fun o => { o with peerId, networkName } }
  | answered {g : Grid HS} {c : Nat} {o : Connection} (there : g.objects[c]? = some o)
      (msg1 : o.phase = .msg1)
      (configured : (V.config.rooms.lookup o.networkName).isSome = true) :
      Move V e g { g with objects := g.objects.modify c fun o => { o with phase := .msg3 } }
  | keyed {g : Grid HS} {c : Nat} {o : Connection} {remotePublicKey : Bytes}
      (there : g.objects[c]? = some o) (msg3 : o.phase = .msg3)
      (proves : Proves g.world o remotePublicKey) :
      Move V e g { g with objects := g.objects.modify c fun o => { o with remotePublicKey } }
  | entered {g : Grid HS} {c : Nat} {networkName : String} {peerId : UInt32} :
      Move V e g { g with rooms := (g.rooms.set networkName peerId c).2 }
  | completed {g : Grid HS} {c : Nat} {o : Connection} (there : g.objects[c]? = some o)
      (msg3 : o.phase = .msg3) (sized : o.remotePublicKey.length = 32) :
      Move V e g { g with
        objects := g.objects.modify c fun o => { o with handshakeTimer := false, phase := .ready } }
  | discarded {g : Grid HS} {c : Nat} {o : Connection} {nowMs : UInt64}
      (there : g.objects[c]? = some o) (unready : o.phase ≠ .ready) :
      Move V e g (calling V.secure o.secure (.drop o.secure nowMs)
        { closing c o g with
          objects := g.objects.modify c fun o =>
            { o with phase := .closed, handshakeTimer := false } })
  | retired {g : Grid HS} {c : Nat} {o : Connection} (there : g.objects[c]? = some o)
      (ready : o.phase = .ready) : Move V e g (closing c o g)
  | freed {g : Grid HS} {c : Nat} {o : Connection} {nowMs : UInt64}
      (there : g.objects[c]? = some o) (closed : o.phase = .closed) :
      Move V e g (calling V.secure o.secure (.drop o.secure nowMs)
        { g with objects := g.objects.modify c fun o => { o with handshakeTimer := false } })
  | armed {g : Grid HS} :
      Move V e g { g with maintenanceTimer := g.maintenanceTimer || !g.connections.isEmpty }

theorem Returned.permitted {V : ServerEnv HS} {w : World HS} {i : Nat} {call : Event}
    {packet : Bytes} (returned : Returned V w i call packet) : Permitted V w i call := by
  cases returned with
  | message2 live name configured => exact .buildMsg2 live name configured _ _ _
  | control => exact .encrypt _ _ _

/-! What a connection is told to send. -/

/-- The packet was refused, or it is the last one sent. -/
def Handed (c : Nat) (packet : Bytes) (g g' : Grid HS) : Prop :=
  SameBoard g g' ∨
    ∃ time, SameBoard { g with sends := g.sends ++ [⟨c, time, packet⟩] } g'

theorem SameBoard.tick (g : Grid HS) (n : Nat) : SameBoard g { g with tick := g.tick + n } :=
  ⟨rfl, rfl, rfl, rfl, rfl, rfl, [], by simp⟩

theorem sendConnection_handed (E : SecureEnv HS) (c : Nat) (packet : Bytes) (g : Grid HS) :
    Ensures (sendConnection c packet) g (fun _ g' => Handed c packet g g')
      (fun _ g' => Handed c packet g g') := by
  unfold sendConnection
  rw [ensures_bind]
  show Ensures (update c _ >>= _) { g with tick := g.tick + 1 } _ _
  generalize g.inputs.dateNow g.tick = now
  rw [ensures_bind]
  have windowed (o : Connection) : card (Connection.window now o) = card o := by
    unfold Connection.window
    split
    · rfl
    · rfl
  have moved := (SameBoard.tick g 1).trans (.modified E _ c windowed)
  show Ensures (object c >>= _) _ _ _
  rw [ensures_bind, Books.ensures_object]
  refine ⟨fun o _ => ?_, fun _ => Or.inl moved⟩
  rw [ensures_ite]
  refine ⟨fun _ => Or.inl moved, fun _ => ?_⟩
  rw [ensures_bind]
  show Ensures (ite _ _ _) _ _ _
  rw [ensures_ite]
  refine ⟨fun _ => Or.inl (moved.trans (.tick _ 1)), fun _ => ?_⟩
  rw [ensures_bind]
  have counted (o : Connection) : card { o with
      sentBytesInWindow := o.sentBytesInWindow + packet.length
      sentFramesInWindow := o.sentFramesInWindow + 1 } = card o := rfl
  have moved' := (moved.trans (.tick _ 1)).trans (.modified E _ c counted)
  have sent (n : Nat) : Handed c packet g { g with
      objects := (g.objects.modify c (Connection.window now)).modify c fun o => { o with
        sentBytesInWindow := o.sentBytesInWindow + packet.length
        sentFramesInWindow := o.sentFramesInWindow + 1 }
      tick := n
      sends := g.sends ++ [⟨c, now, packet⟩] } :=
    Or.inr ⟨now, moved'.cards, rfl, rfl, rfl, rfl, rfl, [], by simp⟩
  show Ensures (_ >>= _) _ _ _
  rw [ensures_bind]
  show Ensures (_ >>= _) _ _ _
  rw [ensures_bind]
  show Ensures (SendWindow.handOver _) _ _ _
  unfold SendWindow.handOver
  split
  · exact sent _
  · exact sent _

private theorem encrypt_called (E : SecureEnv HS) (c : Nat) (clear : Bytes) (g : Grid HS) :
    Ensures (encrypt E c clear) g
      (fun packet g' => ∃ o rotateMs persistMs, g.objects[c]? = some o ∧
        g.world.outcome E (.encrypt o.secure clear rotateMs persistMs) = .data (.ok packet) ∧
        SameBoard (calling E o.secure (.encrypt o.secure clear rotateMs persistMs) g) g')
      (fun _ g' => SameBoard g g' ∨ ∃ o rotateMs persistMs, g.objects[c]? = some o ∧
        SameBoard (calling E o.secure (.encrypt o.secure clear rotateMs persistMs) g) g') := by
  unfold encrypt
  rw [ensures_bind, Books.ensures_object]
  refine ⟨fun o there => ?_, fun _ => Or.inl (.refl g)⟩
  rw [ensures_bind]
  show Ensures (_ >>= _) { g with tick := g.tick + 1 } _ _
  rw [ensures_bind]
  show Ensures (_ >>= _) { g with tick := g.tick + 1 + 1 } _ _
  rw [ensures_bind]
  generalize rotate : g.inputs.secureNow g.tick = rotateMs
  generalize persist : g.inputs.secureNow (g.tick + 1) = persistMs
  show Ensures (returned (g.world.outcome E (.encrypt o.secure clear rotateMs persistMs))) _ _ _
  have called : SameBoard (calling E o.secure (.encrypt o.secure clear rotateMs persistMs) g)
      (calling E o.secure (.encrypt o.secure clear rotateMs persistMs)
        { g with tick := g.tick + 1 + 1 }) := ⟨rfl, rfl, rfl, rfl, rfl, rfl, [], by simp [calling]⟩
  have failed : SameBoard g (calling E o.secure (.encrypt o.secure clear rotateMs persistMs)
        { g with tick := g.tick + 1 + 1 }) ∨ ∃ o rotateMs persistMs, g.objects[c]? = some o ∧
      SameBoard (calling E o.secure (.encrypt o.secure clear rotateMs persistMs) g) _ :=
    Or.inr ⟨o, rotateMs, persistMs, there, called⟩
  cases out : g.world.outcome E (.encrypt o.secure clear rotateMs persistMs) with
  | data result =>
    cases result with
    | ok packet => exact ⟨o, rotateMs, persistMs, there, out, called⟩
    | error e => exact failed
  | _ => exact failed

/-! Runs of moves. -/

private theorem Move.closed {V : ServerEnv HS} {e : ServerEvent} {g g' : Grid HS}
    (move : Move V e g g') {c : Nat} (closed : ∃ o, g.objects[c]? = some o ∧ o.phase = .closed) :
    ∃ o, g'.objects[c]? = some o ∧ o.phase = .closed := by
  obtain ⟨o, there, closed⟩ := closed
  have edited {d : Nat} {f : Connection → Connection}
      (kept : d = c → (f o).phase = .closed) :
      ∃ o', (g.objects.modify d f)[c]? = some o' ∧ o'.phase = .closed := by
    refine ⟨_, object_modified there, ?_⟩
    split
    · rename_i same
      exact kept same.symm
    · exact closed
  have other {d : Nat} {u : Connection} (found : g.objects[d]? = some u)
      (opened : u.phase ≠ .closed) : d ≠ c := by
    rintro rfl
    rw [there] at found
    cases Option.some.inj found
    exact opened closed
  cases move with
  | quiet same =>
    obtain ⟨o', there', cards⟩ := same.object' there
    exact ⟨o', there', (shown Connection.phase cards fun _ => rfl).trans closed⟩
  | called => exact ⟨o, there, closed⟩
  | returned => exact ⟨o, there, closed⟩
  | passed => exact ⟨o, there, closed⟩
  | opened =>
    refine ⟨o, ?_, closed⟩
    exact (List.getElem?_append_left (List.getElem?_eq_some_iff.mp there).1).trans there
  | identified => exact edited fun _ => closed
  | answered found msg1 => exact edited fun same => absurd same (other found (by rw [msg1]; decide))
  | keyed => exact edited fun _ => closed
  | entered => exact ⟨o, there, closed⟩
  | completed found msg3 =>
      exact edited fun same => absurd same (other found (by rw [msg3]; decide))
  | discarded => exact edited fun _ => rfl
  | retired => exact edited fun _ => rfl
  | freed => exact edited fun _ => closed
  | armed => exact ⟨o, there, closed⟩

/-- In its work on `e` the server came from one state to the other by elementary moves. -/
structure Reaches (V : ServerEnv HS) (e : ServerEvent) (s s' : ServerState HS) : Prop where
  self : s'.serverPeerId = serverPeerId
  moves : Relation.ReflTransGen (Move V e) s.host.ambient s'.host.ambient

section Reaching

variable {V : ServerEnv HS} {e : ServerEvent} {s₀ s : ServerState HS} {g g' : Grid HS}

theorem Reaches.refl (self : s.serverPeerId = serverPeerId) : Reaches V e s s :=
  ⟨self, Relation.ReflTransGen.refl⟩

theorem Reaches.trans {s' : ServerState HS} (first : Reaches V e s₀ s) (second : Reaches V e s s') :
    Reaches V e s₀ s' :=
  ⟨second.self, first.moves.trans second.moves⟩

theorem Reaches.move (reached : Reaches V e s₀ s) (move : Move V e s.host.ambient g) :
    Reaches V e s₀ (withGrid s g) :=
  ⟨reached.self, reached.moves.tail move⟩

theorem Reaches.quiet (reached : Reaches V e s₀ s) (same : SameBoard s.host.ambient g) :
    Reaches V e s₀ (withGrid s g) :=
  reached.move (.quiet same)

theorem Reaches.closed (reached : Reaches V e s₀ s) {c : Nat}
    (closed : ∃ o, s₀.host.ambient.objects[c]? = some o ∧ o.phase = .closed) :
    ∃ o, s.host.ambient.objects[c]? = some o ∧ o.phase = .closed := by
  have moves := reached.moves
  generalize s.host.ambient = g at moves
  induction moves with
  | refl => exact closed
  | tail _ move ih => exact move.closed ih

theorem Reaches.same {s' : ServerState HS} (reached : Reaches V e s₀ s) (host : s'.host = s.host)
    (self : s'.serverPeerId = s.serverPeerId) : Reaches V e s₀ s' :=
  ⟨self.trans reached.self, host ▸ reached.moves⟩

theorem moves_handed {c : Nat} {o : Connection} {call : Event} {packet : Bytes} {g₁ : Grid HS}
    (there : g.objects[c]? = some o) (returned : Returned V g.world o.secure call packet)
    (called : SameBoard (calling V.secure o.secure call g) g₁) (handed : Handed c packet g₁ g') :
    Relation.ReflTransGen (Move V e) g g' := by
  rcases handed with refused | ⟨time, sent⟩
  · have first : Move V e g (calling V.secure o.secure call g) :=
      .called there returned.permitted
    exact (Relation.ReflTransGen.single first).tail (.quiet (called.trans refused))
  · have first : Move V e g { calling V.secure o.secure call g with
        sends := g.sends ++ [⟨c, time, packet⟩] } := .returned there returned
    have after : SameBoard { calling V.secure o.secure call g with
        sends := g.sends ++ [⟨c, time, packet⟩] }
        { g₁ with sends := g₁.sends ++ [⟨c, time, packet⟩] } :=
      ⟨called.cards, called.connections, called.rooms, called.maintenanceTimer, called.world,
        congrArg (· ++ [_]) called.sends, called.forwards⟩
    exact (Relation.ReflTransGen.single first).tail (.quiet (after.trans sent))

private theorem keeps_sendControl (peer : RpcPeer) (packetType : UInt8) (payload : Bytes) :
    Keeps (Reaches V e s₀) (EasyTierRpc.sendControl (host V) peer packetType payload) := by
  intro s reached
  unfold EasyTierRpc.sendControl
  rw [ensures_bind, ensures_get]
  cases framed : Packet.buildPacket s.serverPeerId peer.peerId packetType payload with
  | error e => exact reached
  | ok clear =>
    dsimp only
    rw [ensures_bind, ensures_onHost]
    show Ensures (onAmbient (encrypt V.secure peer.handle clear)) _ _ _
    rw [ensures_onAmbient]
    refine (encrypt_called V.secure peer.handle clear s.host.ambient).mono ?_ ?_
    · rintro packet g₁ ⟨o, rotateMs, persistMs, there, ran, called⟩
      rw [ensures_onHost]
      show Ensures (onAmbient (sendConnection peer.handle packet)) _ _ _
      rw [ensures_onAmbient]
      rw [reached.self] at framed
      have returned : Returned V s.host.ambient.world o.secure
          (.encrypt o.secure clear rotateMs persistMs) packet := .control framed ran
      have ended (g' : Grid HS) (handed : Handed peer.handle packet g₁ g') :
          Reaches V e s₀ (withGrid s g') :=
        ⟨reached.self, reached.moves.trans (moves_handed there returned called handed)⟩
      exact (sendConnection_handed V.secure peer.handle packet g₁).mono
        (fun _ g' handed => ended g' handed) fun _ g' handed => ended g' handed
    · rintro e g₁ (same | ⟨o, rotateMs, persistMs, there, called⟩)
      · exact reached.quiet same
      · exact (reached.move (.called there (.encrypt _ _ _))).quiet called

/-- Whatever a call does to the core, the board stays. -/
private theorem Reaches.core {host : Hosted (Grid HS)} (reached : Reaches V e s₀ s)
    (ticked : host.ambient = { s.host.ambient with tick := s.host.ambient.tick + 1 }) :
    Reaches V e s₀ { s with host } := by
  refine ⟨reached.self, ?_⟩
  show Relation.ReflTransGen _ _ host.ambient
  rw [ticked]
  exact reached.moves.tail (.quiet (.tick _ 1))

theorem keeps_core {α : Type} {call : Rpc.CoreRuns.CoreCall}
    (op : Rpc.Routes.Host → Rpc.Core.CoreM α) :
    Keeps (Reaches V e s₀) (Rpc.Scheduler.onHost (onCore (surroundings V.secure) call op)) := by
  intro s reached
  rw [ensures_onHost, ensures_onCore]
  exact ensures_of_forall (fun _ _ => reached.core rfl) fun _ _ => reached.core rfl

theorem atoms : Atoms (host V) (Reaches V e s₀) fun _ => True := by
  constructor
  · exact fun s reached => reached.core rfl
  · exact fun nowMs => keeps_core fun host => WasmRpcCore.cleanExpired V.rpc host nowMs
  · exact fun peer _ payload nowMs => keeps_core fun host =>
      WasmRpcCore.handleRequest V.rpc host peer.networkName peer.peerId payload nowMs
  · exact fun peer _ payload nowMs => keeps_core fun host =>
      WasmRpcCore.handleResponse V.rpc host peer.networkName peer.peerId payload nowMs
  · exact fun peer _ forceFull nowMs => keeps_core fun host =>
      WasmRpcCore.buildRouteUpdate V.rpc host peer.networkName peer.peerId peer.serverSessionId
        forceFull nowMs
  · exact fun peer _ packetType payload => keeps_sendControl peer packetType payload
  · exact fun n s reached => reached.same rfl rfl
  · exact fun key f _ s reached => reached.same rfl rfl
  · exact fun peer _ s reached => reached.same rfl rfl
  · exact fun peer _ f _ s reached => reached.same rfl rfl
  · exact fun _ _ _ _ _ => trivial

end Reaching

end EasyTierEdge.Server.Moves
