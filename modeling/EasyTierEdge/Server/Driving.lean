/- module: EasyTierEdge/Server/Driving
   source: cloudflare/src/server.ts, cloudflare/src/core/rpc.ts
   digest: A run of the server drives its core through a run of proper calls. -/

import EasyTierEdge.Rpc.CoreRuns
import EasyTierEdge.Rpc.SchedulerRules
import EasyTierEdge.Server.Naming

set_option autoImplicit false
set_option relaxedAutoImplicit false

namespace EasyTierEdge.Server.Driving

open Lib.AscendingMap Lib.Fallible Lib.FiniteMap Lib.Machine Lib.OrderedMap
open Packet (Bytes PacketHeader)
open Rpc.Core (WasmRpcCore CoreM)
open Rpc.CoreRuns (CoreCall CoreEvent)
open Rpc.Routes (RouteState Host)
open Rpc.Scheduler (EasyTierRpc RpcPeer RouteSyncFailure ensures_onHost)
open Rpc.CoreHost (Hosted onCore onAmbient ensures_onCore ensures_onAmbient)
open Rpc.RouteMembers (Member roll enroll addPeer_members Steady steady_cleanExpired
  steady_handleRequest steady_handleResponse steady_buildRouteUpdate)
open Rpc.SchedulerRules (Atoms HostKeeps)
open Secure.Session Secure.Peer Secure.Connections
open Rooms Sockets Relay Books Ledger Milestones Cascade Handlers Registries Moves Refinement
open Naming
open Relay.EasyTierServer

variable {HS : Type}

/-- What the server asks of its core: it adds peers that are not members yet, under ids other than
its own and in configured networks, and all else is about members. -/
inductive Asked (V : ServerEnv HS) (routes : RouteState) : CoreCall → Prop
  | addPeer {network : String} {peerId : UInt32} {remotePublicKey : Bytes}
      (configured : (V.config.rooms.lookup network).isSome = true)
      (other : peerId ≠ serverPeerId) (absent : (roll routes network peerId).1 = none) :
      Asked V routes (.addPeer network peerId remotePublicKey)
  | removePeer {network : String} {peerId : UInt32} (member : Member routes network peerId) :
      Asked V routes (.removePeer network peerId)
  | handleRequest {network : String} {peerId : UInt32} {payload : Bytes} {nowMs : UInt64}
      (member : Member routes network peerId) :
      Asked V routes (.handleRequest network peerId payload nowMs)
  | handleResponse {network : String} {peerId : UInt32} {payload : Bytes} {nowMs : UInt64}
      (member : Member routes network peerId) :
      Asked V routes (.handleResponse network peerId payload nowMs)
  | buildRouteUpdate {network : String} {peerId : UInt32} {serverSessionId nowMs : UInt64}
      {forceFull : Bool} (member : Member routes network peerId) :
      Asked V routes (.buildRouteUpdate network peerId serverSessionId forceFull nowMs)
  | cleanExpired {nowMs : UInt64} : Asked V routes (.cleanExpired nowMs)

/-- Each of the calls was proper when it was made, and together they lead from `core₀` to `core`. -/
structure Driven (V : ServerEnv HS) (core₀ core : WasmRpcCore) (calls : List CoreEvent) : Prop where
  asked : AllSteps (Rpc.CoreRuns.step V.rpc) (fun _ c e => Asked V c.routes e.call) core₀ calls
  reached : Lib.Machine.run (Rpc.CoreRuns.step V.rpc) core₀ calls = core

/-! Calls of the host. -/

section Calls

variable {V : ServerEnv HS} {core₀ : WasmRpcCore} {P : RpcPeer → Prop} {h : Hosted (Grid HS)}

private theorem final_map {σ α β : Type} (op : EStateM String σ α) (f : α → β) (s : σ) :
    final ((do return f (← op) : EStateM String σ β) s) = final (op s) := by
  show final (EStateM.bind op (fun a => pure (f a)) s) = final (op s)
  unfold EStateM.bind
  cases op s with
  | ok a s' => rfl
  | error e s' => rfl

private theorem Driven.onCore {α : Type} {call : CoreCall} {op : Host → CoreM α}
    {f : α → Rpc.CoreRuns.CoreReply} (driven : Driven V core₀ h.core h.calls)
    (asked : Asked V h.core.routes call)
    (performed : ∀ host, Rpc.CoreRuns.perform V.rpc host call = do return f (← op host)) :
    Ensures (onCore (surroundings V.secure) call op) h
      (fun _ h' => Driven V core₀ h'.core h'.calls)
      (fun _ h' => Driven V core₀ h'.core h'.calls) := by
  rw [ensures_onCore]
  generalize supplied : ((surroundings V.secure).supply h.ambient).1 = supply
  have made {core : WasmRpcCore} (ran : final (op supply h.core) = core) :
      Driven V core₀ core (h.called (surroundings V.secure) call core).calls := by
    constructor
    · refine driven.asked.snoc ?_
      rw [driven.reached]
      exact asked
    · show Lib.Machine.run _ core₀ (h.calls ++ [_]) = core
      rw [run_snoc, driven.reached, supplied, Rpc.CoreRuns.step, performed, final_map, ran]
  cases ran : op supply h.core with
  | ok a core =>
    have after : final (op supply h.core) = core := by rw [ran, final_ok]
    simp only [Ensures, ran]
    exact made after
  | error e core =>
    have after : final (op supply h.core) = core := by rw [ran, final_error]
    simp only [Ensures, ran]
    exact made after

private theorem keeps_driven_onAmbient {α : Type} (op : GridM HS α) :
    Keeps (fun h' => Driven V core₀ h'.core h'.calls ∧ roll h'.core.routes = roll h.core.routes)
      (onAmbient op) := by
  intro h' kept
  rw [ensures_onAmbient]
  exact ensures_of_forall (fun _ _ => kept)
    fun _ _ => kept

private theorem driven_host
    (members : ∀ peer, P peer → Member h.core.routes peer.networkName peer.peerId) :
    HostKeeps (host V)
      (fun h' => Driven V core₀ h'.core h'.calls ∧ roll h'.core.routes = roll h.core.routes) P := by
  have called {α : Type} {call : CoreCall} (op : Host → CoreM α) (f : α → Rpc.CoreRuns.CoreReply)
      (proper : ∀ routes, roll routes = roll h.core.routes → Asked V routes call)
      (steady : ∀ host c, Ensures (op host) c (fun _ c' => Steady c c') fun _ c' => Steady c c')
      (performed : ∀ host, Rpc.CoreRuns.perform V.rpc host call = do return f (← op host)) :
      Keeps (fun h' => Driven V core₀ h'.core h'.calls ∧ roll h'.core.routes = roll h.core.routes)
        (onCore (surroundings V.secure) call op) := by
    rintro h' ⟨driven, same⟩
    have stays : Ensures (onCore (surroundings V.secure) call op) h'
        (fun _ h₁ => roll h₁.core.routes = roll h.core.routes)
        (fun _ h₁ => roll h₁.core.routes = roll h.core.routes) := by
      rw [ensures_onCore]
      exact (steady _ h'.core).mono (fun _ _ kept => kept.members.trans same)
        fun _ _ kept => kept.members.trans same
    exact (driven.onCore (proper _ same) performed).and stays
  have member {routes : RouteState} {peer : RpcPeer} (chosen : P peer)
      (same : roll routes = roll h.core.routes) : Member routes peer.networkName peer.peerId := by
    unfold Member
    rw [same]
    exact members peer chosen
  constructor
  · exact fun h' kept => kept
  · intro nowMs
    exact called (fun host => WasmRpcCore.cleanExpired V.rpc host nowMs) (fun _ => .done)
      (fun _ _ => .cleanExpired) (fun _ _ => steady_cleanExpired nowMs) fun _ => rfl
  · intro peer chosen payload nowMs
    exact called
      (fun host => WasmRpcCore.handleRequest V.rpc host peer.networkName peer.peerId payload nowMs)
      .bytes (fun _ same => .handleRequest (member chosen same))
      (fun _ _ => steady_handleRequest payload nowMs) fun _ => rfl
  · intro peer chosen payload nowMs
    exact called
      (fun host => WasmRpcCore.handleResponse V.rpc host peer.networkName peer.peerId payload nowMs)
      .completed (fun _ same => .handleResponse (member chosen same))
      (fun _ _ => steady_handleResponse payload nowMs) fun _ => rfl
  · intro peer chosen forceFull nowMs
    exact called
      (fun host => WasmRpcCore.buildRouteUpdate V.rpc host peer.networkName peer.peerId
        peer.serverSessionId forceFull nowMs)
      .bytes (fun _ same => .buildRouteUpdate (member chosen same))
      (fun _ _ => steady_buildRouteUpdate peer.serverSessionId forceFull nowMs) fun _ => rfl
  · exact fun peer _ packet => keeps_driven_onAmbient _
  · exact fun peer _ packet => keeps_driven_onAmbient _

end Calls

/-! Closing. -/

variable {V : ServerEnv HS} {core₀ : WasmRpcCore} {joining leaving : Option Nat} {held : List Nat}
  {k : Nat} {F : List Forward} {s s' : ServerState HS} {c : Nat} {o : Connection}

private theorem Sound.member (sound : Sound V joining none held k F s)
    (there : s.host.ambient.objects[c]? = some o) (ready : o.phase = .ready) :
    Member s.host.core.routes o.networkName o.peerId := by
  refine (sound.registered.routed o.networkName o.peerId (by simp)).mpr ⟨c, ?_, ?_⟩
  · exact sound.registered.ready c o there ready (by simp)
  · intro joins
    obtain ⟨u, found, msg3, _⟩ := sound.registered.joined c joins
    rw [there] at found
    cases Option.some.inj found
    rw [ready] at msg3
    cases msg3

/-- The core has every ready connection under the key of that connection. -/
def Keyed (s : ServerState HS) : Prop :=
  ∀ (c : Nat) (o : Connection), s.host.ambient.objects[c]? = some o → o.phase = .ready →
    (roll s.host.core.routes o.networkName o.peerId).2.map Vector.toList = some o.remotePublicKey

/-- The core came from `core₀` through proper calls, and has the right keys. -/
structure Steered (V : ServerEnv HS) (core₀ : WasmRpcCore) (s : ServerState HS) : Prop where
  driven : Driven V core₀ s.host.core s.host.calls
  keyed : Keyed s

private theorem Keyed.shrink (keyed : Keyed s)
    (others : ∀ (c : Nat) (o' : Connection), s'.host.ambient.objects[c]? = some o' →
      o'.phase = .ready → (∃ o, s.host.ambient.objects[c]? = some o ∧ o.phase = .ready ∧
        rpcPeer c o = rpcPeer c o') ∧
      roll s'.host.core.routes o'.networkName o'.peerId =
        roll s.host.core.routes o'.networkName o'.peerId) : Keyed s' := by
  intro c o' there' ready'
  obtain ⟨⟨o, there, ready, peer⟩, same⟩ := others c o' there' ready'
  have name : o.networkName = o'.networkName := congrArg RpcPeer.networkName peer
  have id : o.peerId = o'.peerId := congrArg RpcPeer.peerId peer
  have key : o.remotePublicKey = o'.remotePublicKey := congrArg RpcPeer.remotePublicKey peer
  rw [same, ← name, ← id, ← key]
  exact keyed c o there ready

private theorem Keyed.follow (keyed : Keyed s) (follows : Follows V s s') : Keyed s' := by
  refine keyed.shrink fun c o' there' ready' => ?_
  obtain ⟨o, there, cards⟩ := follows.1.books.object there'
  refine ⟨⟨o, there, (shown Connection.phase cards fun _ => rfl).symm.trans ready', ?_⟩, ?_⟩
  · rw [← rpcPeer_card c o, ← cards, rpcPeer_card]
  · rw [follows.1.core.members]

private theorem Steered.follow (steered : Steered V core₀ s) (follows : Follows V s s')
    (driven : Driven V core₀ s'.host.core s'.host.calls) : Steered V core₀ s' :=
  ⟨driven, steered.keyed.follow follows⟩

private theorem Steered.regrid {g : Grid HS} (steered : Steered V core₀ s)
    (others : ∀ (c : Nat) (o' : Connection), g.objects[c]? = some o' → o'.phase = .ready →
      ∃ o, s.host.ambient.objects[c]? = some o ∧ o.phase = .ready ∧ rpcPeer c o = rpcPeer c o') :
    Steered V core₀ (withGrid s g) where
  driven := steered.driven
  keyed := by
    refine @Keyed.shrink _ s (withGrid s g) steered.keyed fun c o' there' ready' => ⟨?_, rfl⟩
    exact others c o' there' ready'

private theorem Steered.edit {g : Grid HS} {f : Connection → Connection}
    (steered : Steered V core₀ s) (objects : g.objects = s.host.ambient.objects.modify c f)
    (kept : ∀ o, s.host.ambient.objects[c]? = some o → (f o).phase = .ready →
      o.phase = .ready ∧ rpcPeer c o = rpcPeer c (f o)) : Steered V core₀ (withGrid s g) := by
  refine steered.regrid fun d o' there' ready' => ?_
  rw [objects] at there'
  obtain ⟨o, there, same⟩ := modified_object there'
  rw [same] at ready' ⊢
  split at ready'
  · rename_i own
    subst own
    obtain ⟨ready, peer⟩ := kept o there ready'
    rw [if_pos rfl]
    exact ⟨o, there, ready, peer⟩
  · rename_i other
    rw [if_neg other]
    exact ⟨o, there, ready', rfl⟩

private theorem keeps_onGrid {α : Type} (op : GridM HS α) :
    Keeps (fun s : ServerState HS => Driven V core₀ s.host.core s.host.calls) (onGrid op) := by
  intro s driven
  rw [ensures_onGrid]
  exact ensures_of_forall (fun _ _ => driven) fun _ _ => driven

private theorem steered_scheduler {α : Type} {op : ServerM HS α}
    (sound : Sound V joining none held k F s)
    (kept : ∀ {I : ServerState HS → Prop}, Atoms (host V) I (Enrolled s.host.ambient) → Keeps I op)
    (steered : Steered V core₀ s) :
    Ensures op s (fun _ s' => Follows V s s' ∧ Steered V core₀ s')
      (fun _ s' => Follows V s s' ∧ Steered V core₀ s') := by
  have members (peer : RpcPeer) (enrolled : Enrolled s.host.ambient peer) :
      Member s.host.core.routes peer.networkName peer.peerId := by
    obtain ⟨c, o, there, ready, rfl⟩ := enrolled
    exact Sound.member sound there ready
  have driven := kept (driven_host members).atoms s
    ⟨⟨steered.driven, rfl⟩, sound.registered.entries⟩
  refine ((kept sound.atoms s sound.follows).and driven).mono ?_ ?_
  · exact fun _ s' ended => ⟨ended.1, steered.follow ended.1 ended.2.1.1⟩
  · exact fun _ s' ended => ⟨ended.1, steered.follow ended.1 ended.2.1.1⟩

private theorem steered_grid {α : Type} {op : GridM HS α}
    (sound : Sound V joining leaving held k F s)
    (kept : Keeps (SameBooks V.secure s.host.ambient) op) (steered : Steered V core₀ s) :
    Ensures (onGrid op) s (fun _ s' => Follows V s s' ∧ Steered V core₀ s')
      (fun _ s' => Follows V s s' ∧ Steered V core₀ s') := by
  have follows := Sound.keeps_onGrid kept s sound.follows
  exact (follows.and (keeps_onGrid op s steered.driven)).mono
    (fun _ s' ended => ⟨ended.1, steered.follow ended.1 ended.2⟩)
    fun _ s' ended => ⟨ended.1, steered.follow ended.1 ended.2⟩

/-- `close` may be called on a member that leaves. -/
def Drives (V : ServerEnv HS) (core₀ : WasmRpcCore) (close : CloseM HS) (joining : Option Nat)
    (held : List Nat) (k : Nat) (F : List Forward) : Prop :=
  ∀ (c : Nat) (o : Connection) (code : Nat) (reason : String) (s : ServerState HS),
    Sound V joining (some c) held k F s → s.host.ambient.objects[c]? = some o → o.phase = .ready →
    Member s.host.core.routes o.networkName o.peerId → Steered V core₀ s →
    Ensures (close c code reason) s (fun _ s' => Steered V core₀ s')
      (fun _ s' => Steered V core₀ s')

section Closings

variable {close : CloseM HS}

private theorem broadcastTo_steered (closes : Closes V close joining held k F)
    (drives : Drives V core₀ close joining held k F) (networkName : String)
    (excludePeerId : Option UInt32) (peers : List UInt32) (sound : Sound V joining none held k F s)
    (steered : Steered V core₀ s) :
    Ensures (broadcastTo V close networkName excludePeerId peers) s
      (fun _ s' => Steered V core₀ s') (fun _ s' => Steered V core₀ s') := by
  induction peers generalizing s with
  | nil => exact steered
  | cons peerId rest ih =>
    rw [broadcastTo, ensures_bind, ensures_grid]
    cases s.host.ambient.rooms.get networkName peerId with
    | none => exact ih sound steered
    | some c =>
      dsimp only
      rw [ensures_bind, Cascade.ensures_object]
      refine ⟨fun o there => ?_, fun _ => steered⟩
      rw [ensures_ite]
      refine ⟨fun _ => ih sound steered, fun chosen => ?_⟩
      have ready : o.phase = .ready := by
        by_contra other
        exact chosen (Or.inr other)
      have enrolled : Enrolled s.host.ambient (rpcPeer c o) := ⟨c, o, there, ready, rfl⟩
      rw [ensures_bind, ensures_tryCatch, ensures_bind]
      have called := steered_scheduler sound
        (fun atoms => atoms.request (rpcPeer c o) enrolled false) steered
      refine called.mono ?_ ?_
      · rintro _ s' ⟨follows, steered'⟩
        rw [ensures_onGrid]
        exact ih ((sound.follow follows).noted (.updated c)) ⟨steered'.driven, steered'.keyed⟩
      · rintro e s' ⟨follows, steered'⟩
        have sound' := sound.follow follows
        obtain ⟨o', there', cards⟩ := follows.1.books.object' there
        have ready' : o'.phase = .ready := (shown Connection.phase cards fun _ => rfl).trans ready
        have left := sound'.leave there' ready'
        have closed := closes c o' 1011 "route synchronization failed" s' left there' ready'
        have member := Sound.member sound' there' ready'
        have steered'' :=
          drives c o' 1011 "route synchronization failed" s' left there' ready' member
          steered'
        exact (closed.and steered'').mono (fun _ _ ended => ih ended.1.1 ended.2)
          fun _ _ ended => ended.2

private theorem Sound.retired {s₁ : ServerState HS}
    (sound : Sound V joining (some c) held (k + 1) F s)
    (there : s.host.ambient.objects[c]? = some o) (ready : o.phase = .ready)
    (after : After (withGrid s (closing c o s.host.ambient)) s₁
      (enroll (roll s.host.core.routes) o.networkName o.peerId (none, none)))
    (states : s₁.routeSyncStates = s.routeSyncStates.erase (o.networkName, o.peerId)) :
    Sound V joining none (c :: held) k F s₁ := by
  have opened : o.phase ≠ .closed := by
    rw [ready]
    decide
  have living := sound.living.closing there opened
  have registered := sound.registered.retire there ready
  constructor
  · rw [after.ambient]
    exact living.same (.tick _)
  · rw [after.ambient, after.members, states]
    exact @Registered.same _ V.secure _ _ _ _ _ _ _ registered (.tick _) registered.entries
  · rw [after.publicKey]
    exact sound.sized
  · rw [after.ambient]
    have counted := openCount_closing there opened
    have bound := sound.opened
    show openCount (closing c o s.host.ambient) ≤ k
    omega
  · rw [after.ambient]
    exact sound.forwards

private theorem Sound.apart (sound : Sound V joining (some c) held k F s)
    (there : s.host.ambient.objects[c]? = some o) {d : Nat} {u : Connection}
    (there' : s.host.ambient.objects[d]? = some u) (ready' : u.phase = .ready) (other : d ≠ c) :
    ¬ (u.networkName = o.networkName ∧ u.peerId = o.peerId) := by
  rintro ⟨name, id⟩
  have placed := sound.registered.ready d u there' ready' fun same =>
    other (Option.some.inj same).symm
  rw [name, id] at placed
  rcases sound.registered.replaced c o d rfl there placed with same | joins
  · exact other same
  · obtain ⟨u', found, msg3, _⟩ := sound.registered.joined d joins
    rw [there'] at found
    cases Option.some.inj found
    rw [ready'] at msg3
    cases msg3

private theorem closing_steered (steered : Steered V core₀ s) :
    Steered V core₀ (withGrid s (closing c o s.host.ambient)) :=
  @Steered.edit _ V core₀ s c _ (fun o => { o with phase := .closed }) steered rfl
    fun _ _ impossible => by cases impossible

private theorem Sound.keyed_retired {s₁ : ServerState HS}
    (sound : Sound V joining (some c) held k F s)
    (there : s.host.ambient.objects[c]? = some o) (keyed : Keyed s)
    (after : After (withGrid s (closing c o s.host.ambient)) s₁
      (enroll (roll s.host.core.routes) o.networkName o.peerId (none, none))) : Keyed s₁ := by
  refine keyed.shrink fun d u' there' ready' => ?_
  rw [after.ambient] at there'
  obtain ⟨u, found, same⟩ := @modified_object s.host.ambient.objects c d
    (fun o => { o with phase := .closed }) u' there'
  split at same
  · rw [same] at ready'
    cases ready'
  · rename_i other
    subst same
    refine ⟨⟨u', found, ready', rfl⟩, ?_⟩
    rw [after.members]
    exact if_neg (Sound.apart sound there found ready' other)

private theorem removePeer_driven (member : Member s.host.core.routes o.networkName o.peerId)
    (driven : Driven V core₀ s.host.core s.host.calls) :
    Ensures (EasyTierRpc.removePeer (host V) (rpcPeer c o)) s

      (fun _ s' => Driven V core₀ s'.host.core s'.host.calls)
      (fun _ s' => Driven V core₀ s'.host.core s'.host.calls) := by
  unfold EasyTierRpc.removePeer
  rw [ensures_bind, ensures_onHost]
  exact (driven.onCore (.removePeer member) (f := fun _ => .done) fun _ => rfl).mono
    (fun _ _ driven' => driven') fun _ _ driven' => driven'

private theorem disposeConnection_steered (steered : Steered V core₀ s) :
    Ensures (onGrid (disposeConnection V.secure c)) s (fun _ s' => Steered V core₀ s')
      (fun _ s' => Steered V core₀ s') := by
  have kept (g : Grid HS) (objects : g.objects = s.host.ambient.objects.modify c fun o =>
      { o with handshakeTimer := false }) : Steered V core₀ (withGrid s g) :=
    steered.edit objects fun _ _ ready => ⟨ready, rfl⟩
  rw [ensures_onGrid]
  unfold disposeConnection
  rw [ensures_bind]
  show Ensures (object c >>= _) _ _ _
  rw [ensures_bind, Books.ensures_object]
  exact ⟨fun _ _ => kept _ rfl, fun _ => kept _ rfl⟩

/-- A member that leaves is removed from the core before the others hear of it. -/
private theorem removeWith_steered (closes : Closes V close joining (c :: held) k F)
    (drives : Drives V core₀ close joining (c :: held) k F)
    (sound : Sound V joining (some c) held (k + 1) F s)
    (there : s.host.ambient.objects[c]? = some o) (ready : o.phase = .ready)
    (member : Member s.host.core.routes o.networkName o.peerId)
    (steered : Steered V core₀ s) :
    Ensures (removeWith V close c) s (fun _ s' => Steered V core₀ s')
      (fun _ s' => Steered V core₀ s') := by
  unfold removeWith
  rw [ensures_bind]
  apply ensures_there there
  rw [ensures_ite]
  refine ⟨fun _ => steered, fun _ => ?_⟩
  rw [ensures_bind]
  show Ensures (onGrid (unregister c o) >>= _) _ _ _
  rw [ensures_bind]
  show Ensures _ (withGrid s (closing c o s.host.ambient)) _ _
  rw [ensures_ite]
  refine ⟨fun _ => ?_, fun unready => absurd ready unready⟩
  rw [ensures_bind]
  have asked := @removePeer_driven _ V core₀ (withGrid s (closing c o s.host.ambient)) c o member
    steered.driven
  refine ((removePeer_after (V := V)).and asked).mono ?_ fun _ _ impossible => impossible.1.elim
  rintro _ s₁ ⟨⟨after, states⟩, driven₁⟩
  have sound₁ := Sound.retired sound there ready after states
  have steered₁ : Steered V core₀ s₁ :=
    ⟨driven₁, Sound.keyed_retired sound there steered.keyed after⟩
  rw [ensures_bind]
  unfold broadcastWith
  rw [ensures_bind, ensures_grid]
  refine (broadcastTo_steered closes drives o.networkName none _ sound₁ steered₁).mono ?_
    fun _ _ ended => ended
  exact fun _ s₂ steered₂ => disposeConnection_steered steered₂

private theorem removeWith_unknown
    (unready : ∀ o, s.host.ambient.objects[c]? = some o → o.phase ≠ .ready)
    (steered : Steered V core₀ s) :
    Ensures (removeWith V close c) s (fun _ s' => Steered V core₀ s')
      (fun _ s' => Steered V core₀ s') := by
  unfold removeWith
  rw [ensures_bind, Cascade.ensures_object]
  refine ⟨fun o there => ?_, fun _ => steered⟩
  rw [ensures_ite]
  refine ⟨fun _ => steered, fun _ => ?_⟩
  rw [ensures_bind]
  show Ensures (onGrid (unregister c o) >>= _) _ _ _
  rw [ensures_bind]
  show Ensures _ (withGrid s (closing c o s.host.ambient)) _ _
  rw [ensures_ite]
  exact ⟨fun ready => absurd ready (unready o there),
    fun _ => disposeConnection_steered (closing_steered steered)⟩

end Closings

/-- The induction is on the depth, as in the proof that the recursion is never cut off. -/
private theorem closeWithin_drives (depth : Nat) :
    ∀ {joining : Option Nat} {held : List Nat} {k : Nat}, k ≤ depth →
      Drives V core₀ (closeWithin V depth) joining held k F := by
  induction depth with
  | zero =>
    intro joining held k bound c o code reason s sound there ready member steered
    rw [closeWithin]
    exact ⟨steered.driven, steered.keyed⟩
  | succ depth ih =>
    intro joining held k bound c o code reason s sound there ready member steered
    have opened : o.phase ≠ .closed := by
      rw [ready]
      decide
    have counted := openCount_closing there opened
    have few := sound.opened
    obtain ⟨k, rfl⟩ := Nat.exists_eq_succ_of_ne_zero (show k ≠ 0 by omega)
    have removed := removeWith_steered (closeWithin_closes depth (by omega)) (ih (by omega))
      (sound.noted (.closing c)).tick there ready member ⟨steered.driven, steered.keyed⟩
    apply closeWithin_open there opened
    exact removed.mono (fun _ _ ended => ⟨ended, fun _ => ended⟩) fun _ _ ended => ended

private theorem close_drives : Drives V core₀ (EasyTierServer.close V) joining held k F := by
  intro c o code reason s sound there ready member steered
  unfold EasyTierServer.close
  rw [ensures_bind, ensures_depth]
  exact closeWithin_drives _ (openCount_depth s.host.ambient) c o code reason s sound.tight there
    ready member steered

private theorem close_steered (sound : Sound V joining none held k F s)
    (steered : Steered V core₀ s) (c code : Nat) (reason : String) :
    Ensures (EasyTierServer.close V c code reason) s (fun _ s' => Steered V core₀ s')
      (fun _ s' => Steered V core₀ s') := by
  by_cases ready : ∃ o, s.host.ambient.objects[c]? = some o ∧ o.phase = .ready
  · obtain ⟨o, there, ready⟩ := ready
    exact close_drives c o code reason s (sound.leave there ready) there ready
      (Sound.member sound there ready) steered
  · have unready (o : Connection) (there : s.host.ambient.objects[c]? = some o) :
        o.phase ≠ .ready := fun is_ready => ready ⟨o, there, is_ready⟩
    rw [EasyTierServer.close, ensures_bind, ensures_depth, closeWithin, ensures_bind,
      Cascade.ensures_object]
    refine ⟨fun o there => ?_, fun _ => steered⟩
    rw [ensures_ite]
    refine ⟨fun _ => steered, fun _ => ?_⟩
    rw [ensures_bind]
    show Ensures (runFinally _ _) (withGrid s (Cascade.noted (.closing c) s.host.ambient)) _ _
    rw [ensures_runFinally]
    refine (socketClose_ticked code _).mono ?_ ?_
    · rintro _ s' rfl
      exact removeWith_unknown unready ⟨steered.driven, steered.keyed⟩
    · rintro e s' ⟨rfl, _⟩
      exact removeWith_unknown unready ⟨steered.driven, steered.keyed⟩

private theorem removeConnection_steered (sound : Sound V none none held k F s)
    (steered : Steered V core₀ s) (c : Nat) :
    Ensures (removeConnection V c) s (fun _ s' => Steered V core₀ s')
      (fun _ s' => Steered V core₀ s') := by
  unfold removeConnection
  rw [ensures_bind, ensures_depth]
  by_cases ready : ∃ o, s.host.ambient.objects[c]? = some o ∧ o.phase = .ready
  · obtain ⟨o, there, ready⟩ := ready
    have counted := openCount_closing there (by rw [ready]; decide)
    have bound := openCount_depth s.host.ambient
    have left : Sound V none (some c) held (openCount (closing c o s.host.ambient) + 1) F s := by
      rw [counted]
      exact sound.tight.leave there ready
    exact removeWith_steered (closeWithin_closes _ (by omega)) (closeWithin_drives _ (by omega))
      left
      there ready (Sound.member sound there ready) steered
  · exact removeWith_unknown (fun o there is_ready => ready ⟨o, there, is_ready⟩) steered

private theorem broadcastRouteUpdate_steered (sound : Sound V none none held k F s)
    (steered : Steered V core₀ s) (networkName : String) (excludePeerId : Option UInt32) :
    Ensures (broadcastRouteUpdate V networkName excludePeerId) s
      (fun _ s' => Steered V core₀ s') (fun _ s' => Steered V core₀ s') := by
  unfold broadcastRouteUpdate broadcastWith
  rw [ensures_bind, ensures_depth, ensures_bind, ensures_grid]
  exact broadcastTo_steered (closeWithin_closes _ (openCount_depth s.host.ambient))
    (closeWithin_drives _ (openCount_depth s.host.ambient)) networkName excludePeerId _ sound.tight
    steered

/-! The handshake. -/

private theorem keeps_still {α : Type} {op : GridM HS α}
    (still : ∀ g, Keeps (SameBooks V.secure g) op) :
    Keeps (Steered V core₀) (onGrid op) := by
  intro s steered
  have kept (g : Grid HS) (books : SameBooks V.secure s.host.ambient g) :
      Steered V core₀ (withGrid s g) := by
    refine steered.regrid fun c o' there' ready' => ?_
    obtain ⟨o, there, cards⟩ := books.object there'
    refine ⟨o, there, (shown Connection.phase cards fun _ => rfl).symm.trans ready', ?_⟩
    rw [← rpcPeer_card c o, ← cards, rpcPeer_card]
  rw [ensures_onGrid]
  exact (still s.host.ambient s.host.ambient (.refl _)).mono (fun _ => kept) fun _ => kept

private theorem keeps_scheduleMaintenance :
    Keeps (Steered V core₀) (onGrid (scheduleMaintenance : GridM HS Unit)) :=
  fun _ steered => steered.regrid fun _ u there ready => ⟨u, there, ready, rfl⟩

private theorem keeps_callSecure (call : Nat → Event) :
    Keeps (Steered V core₀) (callSecure V c call) := by
  intro s steered
  unfold callSecure
  rw [ensures_bind, Cascade.ensures_object]
  refine ⟨fun o _ => ?_, fun _ => steered⟩
  exact steered.regrid fun d u there ready => ⟨u, there, ready, rfl⟩

private theorem Sound.unjoined (sound : Sound V (some c) none held k F s)
    (there : s.host.ambient.objects[c]? = some o) {d : Nat} {u : Connection}
    (there' : s.host.ambient.objects[d]? = some u) (ready' : u.phase = .ready) :
    ¬ (u.networkName = o.networkName ∧ u.peerId = o.peerId) := by
  rintro ⟨name, id⟩
  have placed' := sound.registered.ready d u there' ready' (by simp)
  obtain ⟨o', found, msg3, placed⟩ := sound.registered.joined c rfl
  rw [there] at found
  cases Option.some.inj found
  rw [name, id, placed] at placed'
  cases Option.some.inj placed'
  rw [there] at there'
  cases Option.some.inj there'
  rw [msg3] at ready'
  cases ready'

/-- The core has the key of a connection. -/
def Known (o : Connection) (s : ServerState HS) : Prop :=
  (roll s.host.core.routes o.networkName o.peerId).2.map Vector.toList = some o.remotePublicKey

private theorem Known.same {o' : Connection} (same : rpcPeer c o' = rpcPeer c o)
    (known : Known o' s) :
    Known o s := by
  have name : o'.networkName = o.networkName := congrArg RpcPeer.networkName same
  have id : o'.peerId = o.peerId := congrArg RpcPeer.peerId same
  have key : o'.remotePublicKey = o.remotePublicKey := congrArg RpcPeer.remotePublicKey same
  unfold Known at known ⊢
  rw [← name, ← id, ← key]
  exact known

private theorem addPeer_driven (proper : Proper V o)
    (absent : (roll s.host.core.routes o.networkName o.peerId).1 = none)
    (driven : Driven V core₀ s.host.core s.host.calls) :
    Ensures (EasyTierServer.addPeer V (rpcPeer c o)) s

      (fun _ s' => Driven V core₀ s'.host.core s'.host.calls)
      (fun _ s' => Driven V core₀ s'.host.core s'.host.calls) := by
  unfold EasyTierServer.addPeer
  rw [ensures_bind, ensures_get, ensures_bind]
  show Ensures (EasyTierRpc.addPeer (host V) (rpcPeer c o)) (meeting s (rpcPeer c o)) _ _
  unfold EasyTierRpc.addPeer
  rw [ensures_bind, ensures_onHost]
  have met : Driven V core₀ (meeting s (rpcPeer c o)).host.core
    (meeting s (rpcPeer c o)).host.calls := driven
  exact (met.onCore (.addPeer proper.configured proper.other absent) (f := fun _ => .done)
    fun _ => rfl).mono (fun _ _ driven' => driven') fun _ _ driven' => driven'

private theorem addPeer_keyed (sound : Sound V (some c) none held k F s)
    (there : s.host.ambient.objects[c]? = some o) (keyed : Keyed s) :
    Ensures (EasyTierServer.addPeer V (rpcPeer c o)) s (fun _ s' => Keyed s' ∧ Known o s')
      (fun _ s' => Keyed s') := by
  have sized := (Sound.meeting sound there).sized
  unfold EasyTierServer.addPeer
  rw [ensures_bind, ensures_get, ensures_bind]
  show Ensures (EasyTierRpc.addPeer (host V) (rpcPeer c o)) (meeting s (rpcPeer c o)) _ _
  unfold EasyTierRpc.addPeer
  rw [ensures_bind, ensures_onHost]
  show Ensures (onCore (surroundings V.secure) _ fun host =>
    WasmRpcCore.addPeer host o.networkName o.peerId o.remotePublicKey) _ _ _
  rw [ensures_onCore]
  refine (addPeer_members sized).mono ?_ ?_
  · rintro _ core ⟨_, key, read, joined⟩
    constructor
    · refine keyed.shrink fun d u there' ready' => ⟨⟨u, there', ready', rfl⟩, ?_⟩
      show roll core.routes _ _ = _
      rw [joined]
      exact if_neg (Sound.unjoined sound there there' ready')
    · show (roll core.routes _ _).2.map Vector.toList = _
      rw [joined, enroll, if_pos ⟨rfl, rfl⟩]
      exact congrArg some (Packet.keyOfBytes_eq_some.mp read)
  · intro _ core steady
    refine keyed.shrink fun d u there' ready' => ⟨⟨u, there', ready', rfl⟩, ?_⟩
    exact congrFun (congrFun steady.members _) _

private theorem addPeer_steered (sound : Sound V (some c) none held k F s)
    (there : s.host.ambient.objects[c]? = some o) (proper : Proper V o)
    (steered : Steered V core₀ s) :
    Ensures (EasyTierServer.addPeer V (rpcPeer c o)) s (fun _ s' => Steered V core₀ s' ∧ Known o s')
      (fun _ s' => Steered V core₀ s') := by
  obtain ⟨u, found, _, placed⟩ := sound.registered.joined c rfl
  rw [there] at found
  cases Option.some.inj found
  have absent : (roll s.host.core.routes o.networkName o.peerId).1 = none := by
    rw [← Option.not_isSome_iff_eq_none]
    intro known
    obtain ⟨d, found, other⟩ := (sound.registered.routed _ _ (by simp)).mp known
    rw [placed] at found
    exact other found
  refine ((addPeer_driven proper absent steered.driven).and
    (addPeer_keyed sound there steered.keyed)).mono ?_ ?_
  · exact fun _ _ ended => ⟨⟨ended.1, ended.2.1⟩, ended.2.2⟩
  · exact fun _ _ ended => ⟨ended.1, ended.2⟩

private theorem registerConnection_steered (sound : Sound V none none held k F s)
    (there : s.host.ambient.objects[c]? = some o) (msg3 : o.phase = .msg3)
    (authentic : Authentic s.host.ambient o) (proper : Proper V o)
    (steered : Steered V core₀ s) :
    Ensures (registerConnection V c) s (fun _ s' => Steered V core₀ s' ∧ Known o s')
      (fun _ s' => Steered V core₀ s') := by
  unfold registerConnection
  rw [ensures_bind]
  apply ensures_there there
  rw [ensures_bind]
  have entered := Sound.entering sound there msg3 authentic
  have steered₀ : Steered V core₀ (entering c o s) := ⟨steered.driven, steered.keyed⟩
  show Ensures _ (entering c o s) _ _
  rw [RoomRegistry.set_previous]
  cases found : s.host.ambient.rooms.get o.networkName o.peerId with
  | none =>
    rw [found] at entered
    exact addPeer_steered entered there proper steered₀
  | some d =>
    rw [found] at entered
    obtain ⟨u, there', _, _, standing⟩ := sound.registered.rooms _ _ d found
    have ready : u.phase = .ready := by
      rcases standing with ready | ⟨impossible, _⟩
      · exact ready
      · cases impossible
    have other : d ≠ c := by
      rintro rfl
      rw [there] at there'
      cases Option.some.inj there'
      rw [msg3] at ready
      cases ready
    rw [ensures_ite]
    refine ⟨fun _ => ?_, fun same => absurd other same⟩
    rw [ensures_bind]
    have closed := close_closes d u 4000 "replaced by an authenticated reconnect" (entering c o s)
      entered there' ready
    have member : Member s.host.core.routes u.networkName u.peerId :=
      Sound.member sound there' ready
    have steered' := close_drives d u 4000 "replaced by an authenticated reconnect" (entering c o s)
      entered there' ready member steered₀
    refine (closed.and steered').mono ?_ fun _ _ ended => ended.2
    rintro _ s₁ ⟨⟨sound₁, news, progress, _⟩, steered₁⟩
    obtain ⟨o₁, there₁, msg3₁, _⟩ := sound₁.registered.joined c rfl
    obtain ⟨o₀, there₀, _, same⟩ := progress.kept c o₁ there₁ (by rw [msg3₁]; decide)
    have there₀' : s.host.ambient.objects[c]? = some o₀ := there₀
    rw [there] at there₀'
    cases Option.some.inj there₀'
    have added := addPeer_steered sound₁ there₁ (proper.same same) steered₁
    rw [same] at added
    exact added.mono (fun _ _ ended => ⟨ended.1, Known.same same ended.2⟩) fun _ _ ended => ended

private theorem completeHandshake_steered (steered : Steered V core₀ s)
    (there : s.host.ambient.objects[c]? = some o) (known : Known o s) :
    Ensures (onGrid (completeHandshake c)) s (fun _ s' => Steered V core₀ s')
      (fun _ _ => False) := by
  let completed : Connection → Connection := fun o =>
    { o with handshakeTimer := false, phase := .ready }
  show Steered V core₀ (withGrid s { s.host.ambient with
    objects := s.host.ambient.objects.modify c completed })
  refine ⟨steered.driven, fun d u' there' ready' => ?_⟩
  obtain ⟨u, found, same⟩ := @modified_object s.host.ambient.objects c d completed u' there'
  split at same
  · rename_i own
    subst own
    rw [there] at found
    cases Option.some.inj found
    rw [same]
    exact known
  · subst same
    exact steered.keyed d u' found ready'

private theorem handleHandshakeMessage3_steered (sound : Sound V none none held k F s)
    (there : s.host.ambient.objects[c]? = some o) (msg3 : o.phase = .msg3) (proper : Proper V o)
    (steered : Steered V core₀ s) (frame : Bytes) (packetType : UInt8) :
    Ensures (handleHandshakeMessage3 V c frame packetType) s
      (fun _ s' => Steered V core₀ s') (fun _ s' => Steered V core₀ s') := by
  have finished : Keeps (Steered V core₀) (Relay.finishMsg3 V c frame) := by
    refine (keeps_still fun _ => keeps_reading _).bind fun nowMs => ?_
    refine (keeps_callSecure _).bind fun out => ?_
    split
    · exact keeps_pure _
    · exact keeps_throw _
    · exact keeps_throw _
  refine handleHandshakeMessage3_until sound there msg3 packetType steered (finished s steered)
    (fun _ steered' => steered') ?_
  rintro s₁ o₁ remotePublicKey steered₁ cards₁ sound₁ there₁ authentic₁ ⟨o₀, there₀, msg3₀, _⟩
  have phase₁ : o₁.phase = .msg3 := (shown Connection.phase cards₁ fun _ => rfl).trans msg3
  have proper₁ : Proper V o₁ := by
    refine ⟨?_, ?_⟩
    · rw [shown Connection.networkName cards₁ fun _ => rfl]
      exact proper.configured
    · rw [shown Connection.peerId cards₁ fun _ => rfl]
      exact proper.other
  have steered₁' : Steered V core₀ (keyed remotePublicKey c s₁) := by
    refine Steered.edit steered₁ rfl fun o there' ready => ?_
    rw [there₀] at there'
    cases Option.some.inj there'
    have impossible : o₀.phase = .ready := ready
    rw [msg3₀] at impossible
    cases impossible
  have registered := registerConnection_sound sound₁ there₁ phase₁ authentic₁
  have called := registerConnection_steered sound₁ there₁ phase₁ authentic₁ proper₁ steered₁'
  rw [ensures_bind]
  refine (registered.and called).mono ?_ fun _ _ failed => failed.2
  rintro _ s₂ ⟨⟨s', o', key, sound', added, same⟩, steered₂, known⟩
  have there₂ : s₂.host.ambient.objects[c]? = some o' := by
    rw [added.after.ambient]
    exact added.there
  rw [ensures_bind]
  refine ((completeHandshake_sound sound' added).and
    (completeHandshake_steered steered₂ there₂ (Known.same same.symm known))).mono ?_
    fun _ _ impossible => impossible.1.elim
  rintro _ s₃ ⟨sound₃, steered₃⟩
  exact broadcastRouteUpdate_steered sound₃ steered₃ _ none

private theorem handleHandshakeMessage1_steered (sound : Sound V none none held k F s)
    (there : s.host.ambient.objects[c]? = some o) (msg1 : o.phase = .msg1)
    (steered : Steered V core₀ s) (frame : Bytes) (packetType : UInt8) :
    Ensures (handleHandshakeMessage1 V c frame packetType) s
      (fun _ s' => Steered V core₀ s') (fun _ s' => Steered V core₀ s') := by
  have read : Keeps (Steered V core₀) (Relay.readMsg1 V c frame) := by
    refine (keeps_callSecure _).bind fun out => ?_
    split
    · exact keeps_pure _
    · exact keeps_throw _
    · exact keeps_throw _
  have built (networkSecret : String) : Keeps (Steered V core₀)
      (Relay.buildMsg2 V c networkSecret) := by
    refine (keeps_still fun _ => keeps_reading _).bind fun draws => ?_
    refine (keeps_still fun _ => keeps_reading _).bind fun upsertMs => ?_
    refine (keeps_still fun _ => keeps_reading _).bind fun attachMs => ?_
    refine (keeps_callSecure _).bind fun out => ?_
    split
    · exact keeps_pure _
    · exact keeps_throw _
    · exact keeps_throw _
  unfold handleHandshakeMessage1
  rw [ensures_ite]
  refine ⟨fun _ => steered, fun _ => ?_⟩
  rw [ensures_bind]
  refine ((readMsg1_follows sound there (by rw [msg1]; decide) frame).and (read s steered)).mono ?_
    fun _ _ failed => failed.2
  rintro info s₁ ⟨⟨follows, _⟩, steered₁⟩
  rw [ensures_bind, ensures_orThrow]
  refine ⟨fun parsed _ => ?_, fun _ _ => steered₁⟩
  cases V.config.rooms.lookup parsed.networkName with
  | none => exact close_steered (sound.follow follows) steered₁ c _ _
  | some networkSecret =>
    obtain ⟨o₁, there₁, cards₁⟩ := follows.1.books.object' there
    have phase₁ : o₁.phase = .msg1 := (shown Connection.phase cards₁ fun _ => rfl).trans msg1
    let named : Connection → Connection := fun connection =>
      { connection with peerId := parsed.peerId, networkName := parsed.networkName }
    have steered₂ : Steered V core₀ (withGrid s₁ { s₁.host.ambient with
        objects := s₁.host.ambient.objects.modify c named }) := by
      refine steered₁.edit rfl fun u there' ready => ?_
      rw [there₁] at there'
      cases Option.some.inj there'
      have impossible : o₁.phase = .ready := ready
      rw [phase₁] at impossible
      cases impossible
    dsimp only
    rw [ensures_bind]
    show Ensures _ (withGrid s₁ { s₁.host.ambient with
      objects := s₁.host.ambient.objects.modify c named }) _ _
    refine ((built networkSecret).bind fun msg2 => ?_) _ steered₂
    refine (keeps_still fun _ => keeps_sendConnection c msg2).bind fun _ s₃ steered₃ => ?_
    exact Steered.edit steered₃ rfl fun _ _ impossible => by cases impossible

/-! Ready connections. -/

private theorem Sound.handed (sound : Sound V none none held k F s) (f : Forward) :
    Sound V none none held k (F ++ [f])
      (withGrid s { s.host.ambient with forwards := s.host.ambient.forwards ++ [f] }) where
  living := ⟨sound.living.connected, sound.living.alive, sound.living.resting, sound.living.own,
    sound.living.made, sound.living.answered, sound.living.reached, sound.living.freedCalls,
    sound.living.keysMet, sound.living.cutOff⟩
  registered := ⟨sound.registered.rooms, sound.registered.ready, sound.registered.joined,
    sound.registered.routed, sound.registered.replaced, sound.registered.keyless,
    sound.registered.entries, sound.registered.authentic⟩
  sized := sound.sized
  opened := sound.opened
  forwards := congrArg (· ++ [f]) sound.forwards

private theorem forward_steered (sound : Sound V none none held k F s) (steered : Steered V core₀ s)
    (c : Nat) (o : Connection) (frame : Bytes) (header : PacketHeader) :
    Ensures (forward V c o frame header) s (fun _ s' => Steered V core₀ s')
      (fun _ s' => Steered V core₀ s') := by
  unfold forward
  rw [ensures_bind, ensures_grid]
  cases s.host.ambient.rooms.get o.networkName header.toPeerId with
  | none => exact steered
  | some t =>
    dsimp only
    rw [ensures_bind, Cascade.ensures_object]
    refine ⟨fun target _ => ?_, fun _ => steered⟩
    rw [ensures_ite]
    refine ⟨fun _ => steered, fun _ => ?_⟩
    rw [ensures_bind, ensures_orThrow]
    refine ⟨fun forwarded _ => ?_, fun _ _ => steered⟩
    have sound₁ := Sound.handed sound ⟨c, t, frame, forwarded⟩
    rw [ensures_bind]
    show Ensures _ (withGrid s { s.host.ambient with
      forwards := s.host.ambient.forwards ++ [⟨c, t, frame, forwarded⟩] }) _ _
    rw [ensures_tryCatch]
    refine (steered_grid sound₁ (keeps_sendConnection t forwarded)
      ⟨steered.driven, steered.keyed⟩).mono (fun _ _ ended => ended.2) ?_
    rintro e s₂ ⟨follows, steered₂⟩
    exact close_steered (sound₁.follow follows) steered₂ t _ _

section Ready

variable (sound : Sound V none none held k F s) (there : s.host.ambient.objects[c]? = some o)
  (ready : o.phase = .ready) (steered : Steered V core₀ s)

include sound there ready steered

private theorem handleRpcPacket_steered (frame : Bytes) (header : PacketHeader) :
    Ensures (handleRpcPacket V c o frame header) s (fun _ s' => Steered V core₀ s')
      (fun _ s' => Steered V core₀ s') := by
  have decrypted : Keeps (Steered V core₀) (Relay.decryptPacket V c frame) := by
    refine (keeps_still fun _ => keeps_reading _).bind fun receivedMs => ?_
    refine (keeps_still fun _ => keeps_reading _).bind fun persistMs => ?_
    refine (keeps_callSecure _).bind fun out => ?_
    split
    · exact keeps_pure _
    · exact keeps_throw _
    · exact keeps_throw _
  unfold handleRpcPacket
  rw [ensures_bind]
  refine ((decryptPacket_follows sound there (by rw [ready]; decide) frame).and
    (decrypted s steered)).mono ?_ fun _ _ failed => failed.2
  rintro clear s₁ ⟨follows, steered₁⟩
  rw [ensures_ite]
  refine ⟨fun _ => steered₁, fun _ => ?_⟩
  rw [ensures_bind, ensures_orThrow]
  refine ⟨fun _ _ => ?_, fun _ _ => steered₁⟩
  have sound₁ := sound.follow follows
  obtain ⟨o₁, there₁, cards⟩ := follows.1.books.object' there
  have ready₁ : o₁.phase = .ready := (shown Connection.phase cards fun _ => rfl).trans ready
  have enrolled : Enrolled s₁.host.ambient (rpcPeer c o) := by
    refine ⟨c, o₁, there₁, ready₁, ?_⟩
    rw [← rpcPeer_card c o₁, cards, rpcPeer_card]
  rw [ensures_ite]
  constructor
  · intro _
    rw [ensures_bind]
    have called := steered_scheduler sound₁
      (fun atoms =>
      atoms.parts.keeps_handleRequest enrolled (clear.drop Packet.headerSize)) steered₁
    refine called.mono ?_ fun _ _ failed => failed.2
    rintro result s₂ ⟨follows₂, steered₂⟩
    rw [ensures_ite]
    exact ⟨fun _ => broadcastRouteUpdate_steered (sound₁.follow follows₂) steered₂ _ _,
      fun _ => steered₂⟩
  · intro _
    exact (steered_scheduler sound₁ (fun atoms =>
      atoms.parts.keeps_handleResponse enrolled _) steered₁).mono (fun _ _ ended => ended.2)
      fun _ _ ended => ended.2

private theorem handleReadyPacket_steered (frame : Bytes) (header : PacketHeader) :
    Ensures (handleReadyPacket V c frame header) s (fun _ s' => Steered V core₀ s')
      (fun _ s' => Steered V core₀ s') := by
  unfold handleReadyPacket
  rw [ensures_bind]
  apply ensures_there there
  rw [ensures_ite]
  constructor
  · exact fun _ => forward_steered sound steered c o frame header
  · intro _
    rw [ensures_ite]
    refine ⟨fun _ => steered, fun _ => ?_⟩
    rw [ensures_ite]
    refine ⟨fun _ => steered, fun _ => ?_⟩
    rw [ensures_ite]
    constructor
    · intro _
      rw [ensures_bind, ensures_orThrow]
      exact ⟨fun pong _ => keeps_still (fun _ => keeps_sendConnection c pong) s steered,
        fun _ _ => steered⟩
    · intro _
      rw [ensures_ite]
      refine ⟨fun _ => steered, fun _ => ?_⟩
      rw [ensures_ite]
      refine ⟨fun _ => steered, fun _ => ?_⟩
      rw [ensures_ite]
      exact ⟨fun _ => steered, fun _ =>
        handleRpcPacket_steered sound there ready steered frame header⟩

end Ready

/-! Events. -/

private theorem handleMessage_steered (sound : Sound V none none held k F s)
    (proper : AllProper V s.host.ambient) (steered : Steered V core₀ s) (c : Nat)
    (data : MessageData) :
    Ensures (handleMessage V c data) s (fun _ s' => Steered V core₀ s')
      (fun _ s' => Steered V core₀ s') := by
  unfold handleMessage
  cases data with
  | text => exact steered
  | binary frame =>
    dsimp only
    rw [ensures_ite]
    refine ⟨fun _ => steered, fun _ => ?_⟩
    rw [ensures_bind, ensures_orThrow]
    refine ⟨fun header _ => ?_, fun _ _ => steered⟩
    rw [ensures_bind, Cascade.ensures_object]
    refine ⟨fun o there => ?_, fun _ => steered⟩
    cases phase : o.phase with
    | msg1 => exact handleHandshakeMessage1_steered sound there phase steered frame _
    | msg3 =>
      exact handleHandshakeMessage3_steered sound there phase (proper c o there phase) steered
        frame _
    | ready => exact handleReadyPacket_steered sound there phase steered frame header
    | closed => exact steered

private theorem closeFailed_steered (failures : List RouteSyncFailure)
    (sound : Sound V none none [] k F s) (steered : Steered V core₀ s) :
    Ensures (closeFailed V failures) s (fun _ s' => Steered V core₀ s')
      (fun _ s' => Steered V core₀ s') := by
  induction failures generalizing s with
  | nil => exact steered
  | cons failure rest ih =>
    rw [closeFailed, ensures_bind, ensures_grid]
    cases s.host.ambient.rooms.get failure.peer.networkName failure.peer.peerId with
    | none => exact ih sound steered
    | some c =>
      dsimp only
      rw [ensures_bind]
      exact ((close_sound sound (Or.inl rfl) _ _).and (close_steered sound steered c _ _)).mono
        (fun _ _ ended => ih ended.1 ended.2) fun _ _ ended => ended.2

private theorem maintainAll_steered (now : Nat) (connections : List Nat)
    (sound : Sound V none none [] k F s) (steered : Steered V core₀ s) :
    Ensures (maintainAll V now connections) s (fun _ s' => Steered V core₀ s')
      (fun _ s' => Steered V core₀ s') := by
  induction connections generalizing s with
  | nil => exact steered
  | cons c rest ih =>
    rw [maintainAll, ensures_bind, ensures_grid, ensures_ite]
    refine ⟨fun _ => ih sound steered, fun _ => ?_⟩
    rw [ensures_bind, Cascade.ensures_object]
    refine ⟨fun o there => ?_, fun _ => steered⟩
    rw [ensures_ite]
    refine ⟨fun _ => ih sound steered, fun unready => ?_⟩
    have enrolled : Enrolled s.host.ambient (rpcPeer c o) := ⟨c, o, there, not_not.mp unready, rfl⟩
    have called := steered_scheduler sound (fun atoms =>
      atoms.parts.keeps_maintainPeer enrolled now) steered
    rw [ensures_bind, ensures_tryCatch]
    refine called.mono (fun _ _ ended => ih (sound.follow ended.1) ended.2) ?_
    rintro e s' ⟨follows, steered'⟩
    have sound' := sound.follow follows
    exact ((close_sound sound' (Or.inl rfl) _ _).and (close_steered sound' steered' c _ _)).mono
      (fun _ _ ended => ih ended.1 ended.2) fun _ _ ended => ended.2

private theorem maintain_steered (sound : Sound V none none [] k F s)
    (steered : Steered V core₀ s) :
    Ensures (maintain V) s (fun _ s' => Steered V core₀ s')
      (fun _ s' => Steered V core₀ s') := by
  unfold maintain
  rw [ensures_bind]
  have sound₁ := (Sound.timer sound false).tick
  show Ensures (onGrid (reading Inputs.dateNow) >>= _) _ _ _
  rw [ensures_bind]
  show Ensures (EasyTierRpc.cleanExpired (host V) _ >>= _) (ticked (withGrid s { s.host.ambient with
    maintenanceTimer := false })) _ _
  rw [ensures_bind]
  have called := steered_scheduler sound₁ (fun atoms => atoms.parts.keeps_cleanExpired
      (s.host.ambient.inputs.dateNow s.host.ambient.tick)) ⟨steered.driven, steered.keyed⟩
  refine called.mono ?_ fun _ _ ended => ended.2
  rintro failures s₂ ⟨follows, steered₂⟩
  have sound₂ := sound₁.follow follows
  rw [ensures_bind]
  refine ((closeFailed_sound failures sound₂).and
    (closeFailed_steered failures sound₂ steered₂)).mono
    ?_ fun _ _ ended => ended.2
  rintro _ s₃ ⟨sound₃, steered₃⟩
  rw [ensures_bind, ensures_grid, ensures_bind]
  exact (maintainAll_steered _ _ sound₃ steered₃).mono
    (fun _ s₄ steered₄ => keeps_scheduleMaintenance s₄ steered₄)
    fun _ _ ended => ended

private theorem keeps_fetch (pathname : String) (upgrade : Option String) :
    Keeps (Steered V core₀) (fetch V pathname upgrade) := by
  unfold fetch
  apply Keeps.ite (fun _ => keeps_pure _)
  intro _
  apply Keeps.ite (fun _ => keeps_pure _)
  intro _ s steered
  rw [ensures_bind, ensures_grid, ensures_ite]
  refine ⟨fun _ => steered, fun _ => ?_⟩
  rw [ensures_bind, ensures_grid]
  refine ((keeps_still fun _ => keeps_reading _).bind fun nowMs => ?_) s steered
  refine Keeps.bind ?_ fun made => ?_
  · exact fun _ steered => steered.regrid fun _ u there ready => ⟨u, there, ready, rfl⟩
  · split
    · refine (keeps_still fun _ => keeps_reading _).bind fun serverSessionId => ?_
      refine (keeps_still fun _ => keeps_reading _).bind fun now => ?_
      refine Keeps.bind ?_ fun _ => keeps_scheduleMaintenance.bind fun _ => keeps_pure _
      intro s steered
      refine Steered.regrid steered fun d u there ready => ?_
      rcases opened_object there with before | ⟨rfl, rfl⟩
      · exact ⟨u, before, ready, rfl⟩
      · cases ready
    · exact keeps_pure _

private theorem perform_steered (sound : Sound V none none [] k F s)
    (proper : AllProper V s.host.ambient) (steered : Steered V core₀ s) (e : ServerEvent) :
    Ensures (perform V e) s (fun _ s' => Steered V core₀ s')
      (fun _ s' => Steered V core₀ s') := by
  cases e with
  | fetch pathname upgrade =>
    exact (keeps_fetch pathname upgrade).bind (fun _ => keeps_pure _) s steered
  | message c data =>
    show Ensures (tryCatch (handleMessage V c data) fun _ => failConnection V c) s _ _
    rw [ensures_tryCatch]
    refine ((handleMessage_sound sound data).and
      (handleMessage_steered sound proper steered c data)).mono (fun _ _ ended => ended.2) ?_
    rintro _ s' ⟨⟨joining, F', _, sound', _⟩, steered'⟩
    exact close_steered sound' steered' c _ _
  | socketClosed c => exact removeConnection_steered sound steered c
  | socketError c => exact removeConnection_steered sound steered c
  | handshakeTimeout c =>
    show Ensures (onGrid (object c) >>= _) s _ _
    rw [ensures_bind, Cascade.ensures_object]
    refine ⟨fun o _ => ?_, fun _ => steered⟩
    rw [ensures_ite]
    exact ⟨fun _ => close_steered sound steered c _ _, fun _ => steered⟩
  | maintenance =>
    show Ensures (grid >>= _) s _ _
    rw [ensures_bind, ensures_grid, ensures_ite]
    exact ⟨fun _ => maintain_steered sound steered, fun _ => steered⟩

/-! Runs. -/

section Runs

variable {core : WasmRpcCore}
  (built : WasmRpcCore.new V.config.localPublicKeyBytes V.config.hostname serverPeerId = .ok core)

include built

theorem run_steered (inputs : Inputs) (hs : List Happening) :
    Steered V core (run (step V) (start core inputs) hs) := by
  induction hs using List.reverseRecOn with
  | nil => exact ⟨⟨.nil, rfl⟩, fun c o there => by cases there⟩
  | append_singleton hs h ih =>
    obtain ⟨k, F, sound⟩ := run_sound built inputs hs
    have proper := run_proper built inputs hs
    rw [run_snoc]
    generalize run (step V) (start core inputs) hs = s at ih sound proper ⊢
    have steered : Steered V core (arriving s h.inputs) := ⟨ih.driven, ih.keyed⟩
    have proper' : AllProper V (arriving s h.inputs).host.ambient := proper
    exact ensures_final (perform_steered (Sound.arriving sound h.inputs) proper' steered h.event)

end Runs

/-- Whatever happens to the server, each call its core was ever given was proper when it was made,
and these calls made the core what it is: peers are added once, under ids that are not the relay's
and in configured networks, and only members are removed, answered and sent updates. -/
theorem core_driven {core : WasmRpcCore}
    (built : WasmRpcCore.new V.config.localPublicKeyBytes V.config.hostname serverPeerId = .ok core)
    (inputs : Inputs) (hs : List Happening) :
    Driven V core (Lib.Machine.run (step V) (start core inputs) hs).host.core
      (Lib.Machine.run (step V) (start core inputs) hs).host.calls :=
  (run_steered built inputs hs).driven

theorem core_driven_two :
    Driven plainServer plainCore (plainRun (joins 0 5 ++ joins 1 6)).host.core
      (plainRun (joins 0 5 ++ joins 1 6)).host.calls ∧
    Member (plainRun (joins 0 5 ++ joins 1 6)).host.core.routes "n" 6 :=
  ⟨@core_driven Turn plainServer plainCore rfl plainInputs (joins 0 5 ++ joins 1 6), by
    unfold Member
    decide +kernel⟩

end EasyTierEdge.Server.Driving
