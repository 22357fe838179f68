/- module: EasyTierEdge/Server/Cascade
   source: cloudflare/src/server.ts, close, removeConnection and broadcastRouteUpdate
   digest: However many sends fail, a cascade of closings leaves fitting registries behind. -/

import EasyTierEdge.Server.Milestones

set_option autoImplicit false
set_option relaxedAutoImplicit false

namespace EasyTierEdge.Server.Cascade

open Lib.AscendingMap Lib.Fallible Lib.FiniteMap Lib.OrderedMap
open Rpc.Core (WasmRpcCore)
open Rpc.Scheduler (EasyTierRpc RpcPeer routeSyncKey ensures_onHost)
open Rpc.CoreHost (ensures_onCore ensures_onAmbient)
open Rpc.RouteMembers (Entry enroll roll removePeer_members addPeer_members)
open Rpc.SchedulerRules (Atoms Enlisted)
open Secure.Session Secure.Peer Secure.Connections
open Rooms Sockets Relay Books Ledger Milestones
open Relay.EasyTierServer

variable {HS : Type}

/-! Counting the connections that are not closed. -/

def isOpen (o : Connection) : Bool := o.phase ≠ .closed

def openCount (g : Grid HS) : Nat := g.objects.countP isOpen

theorem openCount_le (g : Grid HS) : openCount g ≤ g.objects.length := List.countP_le_length

theorem openCount_same {E : SecureEnv HS} {g g' : Grid HS} (books : SameBooks E g g') :
    openCount g' = openCount g := by
  have counted (objects : List Connection) :
      objects.countP isOpen = (objects.map card).countP isOpen := by
    rw [List.countP_map]
    rfl
  unfold openCount
  rw [counted, books.cards, ← counted]

private theorem countP_modify {objects : List Connection} {c : Nat} {o : Connection}
    {f : Connection → Connection} (there : objects[c]? = some o) :
    (objects.modify c f).countP isOpen + (if isOpen o then 1 else 0) =
      objects.countP isOpen + if isOpen (f o) then 1 else 0 := by
  induction objects generalizing c with
  | nil => simp at there
  | cons u objects ih =>
    cases c with
    | zero =>
      have same : u = o := by simpa using there
      rw [List.modify_zero_cons, List.countP_cons, List.countP_cons, same]
      omega
    | succ c =>
      have rest := ih (c := c) (by simpa using there)
      rw [List.modify_succ_cons, List.countP_cons, List.countP_cons]
      omega

theorem openCount_closing {g : Grid HS} {c : Nat} {o : Connection} (there : g.objects[c]? = some o)
    (opened : o.phase ≠ .closed) : openCount (closing c o g) + 1 = openCount g := by
  have counted := @countP_modify g.objects c o (fun o => { o with phase := .closed }) there
  rw [if_pos (by simpa [isOpen] using opened), if_neg (by simp [isOpen])] at counted
  exact counted

theorem openCount_edit {g : Grid HS} {c : Nat} {o : Connection} {f : Connection → Connection}
    (there : g.objects[c]? = some o) (closed : (f o).phase = .closed ↔ o.phase = .closed) :
    openCount { g with objects := g.objects.modify c f } = openCount g := by
  have counted := @countP_modify g.objects c o f there
  have same : isOpen (f o) = isOpen o := by
    unfold isOpen
    simp [closed]
  rw [same] at counted
  exact Nat.add_right_cancel counted

/-! The state of the server. -/

/-- The state with another grid. -/
def withGrid (s : ServerState HS) (g : Grid HS) : ServerState HS :=
  { s with host := { s.host with ambient := g } }

theorem ensures_onGrid {α : Type} {op : GridM HS α} {s : ServerState HS}
    {ok : α → ServerState HS → Prop} {err : String → ServerState HS → Prop} :
    Ensures (onGrid op) s ok err ↔
      Ensures op s.host.ambient (fun a g => ok a (withGrid s g)) fun e g =>
        err e (withGrid s g) := by
  unfold onGrid
  rw [ensures_onHost, ensures_onAmbient]
  rfl

theorem ensures_grid {s : ServerState HS} {ok : Grid HS → ServerState HS → Prop}
    {err : String → ServerState HS → Prop} : Ensures grid s ok err ↔ ok s.host.ambient s :=
  Iff.rfl

theorem ensures_runFinally {α : Type} {op : ServerM HS α} {last : ServerM HS Unit}
    {s : ServerState HS} {ok : α → ServerState HS → Prop} {err : String → ServerState HS → Prop} :
    Ensures (runFinally op last) s ok err ↔
      Ensures op s (fun a s' => Ensures last s' (fun _ s'' => ok a s'') err)
        fun e s' => Ensures last s' (fun _ s'' => err e s'') err := by
  unfold runFinally
  rw [ensures_bind, ensures_tryCatch]
  simp only [ensures_bind, ensures_throw, ensures_pure]

variable {V : ServerEnv HS} {joining leaving : Option Nat} {held : List Nat} {k : Nat}
  {F : List Forward}

/-- The registries fit, `k` bounds the connections that are not closed, and these frames were
forwarded so far. -/
structure Sound (V : ServerEnv HS) (joining leaving : Option Nat) (held : List Nat) (k : Nat)
    (F : List Forward) (s : ServerState HS) : Prop where
  living : Living V.secure held s.host.ambient
  registered : Registered joining leaving s.host.ambient (roll s.host.core.routes)
    s.routeSyncStates
  sized : s.host.core.publicKey.length = 32
  opened : openCount s.host.ambient ≤ k
  forwards : s.host.ambient.forwards = F

/-- What the scheduler's calls leave behind. -/
abbrev Follows (V : ServerEnv HS) (s s' : ServerState HS) : Prop :=
  Quiet V s.host s'.host ∧ Enlisted (Enrolled s.host.ambient) s'.routeSyncStates

namespace Sound

variable {s s' : ServerState HS}

theorem follows (sound : Sound V joining leaving held k F s) : Follows V s s :=
  ⟨.refl s.host, sound.registered.entries⟩

theorem follow (sound : Sound V joining leaving held k F s) (follows : Follows V s s') :
    Sound V joining leaving held k F s' where
  living := sound.living.same follows.1.books
  registered := by
    rw [follows.1.core.members]
    exact sound.registered.same follows.1.books follows.2
  sized := by
    rw [follows.1.core.publicKey]
    exact sound.sized
  opened := by
    rw [openCount_same follows.1.books]
    exact sound.opened
  forwards := follows.1.books.forwards.trans sound.forwards

theorem mono {k' : Nat} (sound : Sound V joining leaving held k F s) (le : k ≤ k') :
    Sound V joining leaving held k' F s :=
  { sound with opened := Nat.le_trans sound.opened le }

theorem tight (sound : Sound V joining leaving held k F s) :
    Sound V joining leaving held (openCount s.host.ambient) F s :=
  { sound with opened := Nat.le_refl _ }

theorem nobody {c : Nat} (sound : Sound V joining leaving held k F s)
    (alone : joining = none ∨ joining = some c)
    (other : ∀ o, s.host.ambient.objects[c]? = some o → o.phase ≠ .msg3) : joining = none := by
  rcases alone with nobody | same
  · exact nobody
  · obtain ⟨o, there, msg3, _⟩ := sound.registered.joined c same
    exact absurd msg3 (other o there)

theorem atoms (sound : Sound V joining leaving held k F s) :
    Atoms (host V) (Follows V s) (Enrolled s.host.ambient) :=
  (quiet_host sound.living.readyAlive).atoms

theorem keeps_onGrid {α : Type} {op : GridM HS α}
    (kept : Keeps (SameBooks V.secure s.host.ambient) op) : Keeps (Follows V s) (onGrid op) := by
  intro s' follows
  unfold onGrid
  rw [ensures_onHost]
  exact (keeps_onAmbient kept s'.host follows.1).mono (fun _ _ quiet => ⟨quiet, follows.2⟩)
    fun _ _ quiet => ⟨quiet, follows.2⟩

theorem tick (sound : Sound V joining leaving held k F s) :
    Sound V joining leaving held k F
      (withGrid s { s.host.ambient with tick := s.host.ambient.tick + 1 }) :=
  sound.follow ⟨⟨.tick s.host.ambient, .refl s.host.core⟩, sound.registered.entries⟩

end Sound

theorem ensures_object {c : Nat} {s : ServerState HS} {ok : Connection → ServerState HS → Prop}
    {err : String → ServerState HS → Prop} :
    Ensures (onGrid (object c)) s ok err ↔
      (∀ o, s.host.ambient.objects[c]? = some o → ok o s) ∧
        (s.host.ambient.objects[c]? = none → err "undefined connection" s) := by
  rw [ensures_onGrid, Books.ensures_object]
  rfl

theorem ensures_there {c : Nat} {o : Connection} {s : ServerState HS}
    {ok : Connection → ServerState HS → Prop} {err : String → ServerState HS → Prop}
    (there : s.host.ambient.objects[c]? = some o) (holds : ok o s) :
    Ensures (onGrid (object c)) s ok err := by
  rw [ensures_object]
  constructor
  · intro o' there'
    rw [there] at there'
    cases Option.some.inj there'
    exact holds
  · intro missing
    rw [there] at missing
    cases missing

/-! The core's part in joining and leaving. -/

section Members

variable {peer : RpcPeer} {s : ServerState HS}

/-- What a call into the core leaves behind. -/
structure After (s s' : ServerState HS) (members : String → UInt32 → Entry) : Prop where
  ambient : s'.host.ambient = { s.host.ambient with tick := s.host.ambient.tick + 1 }
  publicKey : s'.host.core.publicKey = s.host.core.publicKey
  members : roll s'.host.core.routes = members

theorem removePeer_after :
    Ensures (EasyTierRpc.removePeer (host V) peer) s
      (fun _ s' => After s s'
          (enroll (roll s.host.core.routes) peer.networkName peer.peerId (none, none)) ∧
        s'.routeSyncStates = s.routeSyncStates.erase (routeSyncKey peer))
      (fun _ _ => False) := by
  unfold EasyTierRpc.removePeer
  rw [ensures_bind, ensures_onHost]
  show Ensures (Rpc.CoreHost.onCore (surroundings V.secure) _ fun host =>
    WasmRpcCore.removePeer V.rpc host peer.networkName peer.peerId) s.host _ _
  rw [ensures_onCore]
  refine removePeer_members.mono ?_ fun _ _ impossible => impossible
  intro _ core removed
  exact ⟨⟨rfl, removed.1, removed.2⟩, rfl⟩

theorem addPeer_after (sized : s.host.core.publicKey.length = 32) :
    Ensures (EasyTierRpc.addPeer (host V) peer) s
      (fun _ s' => (∃ key, After s s'
          (enroll (roll s.host.core.routes) peer.networkName peer.peerId (some (), some key))) ∧
        s'.routeSyncStates = s.routeSyncStates.erase (routeSyncKey peer))
      (fun _ s' => After s s' (roll s.host.core.routes) ∧
        s'.routeSyncStates = s.routeSyncStates) := by
  unfold EasyTierRpc.addPeer
  rw [ensures_bind, ensures_onHost]
  show Ensures (Rpc.CoreHost.onCore (surroundings V.secure) _ fun host =>
    WasmRpcCore.addPeer host peer.networkName peer.peerId peer.remotePublicKey) s.host _ _
  rw [ensures_onCore]
  refine (addPeer_members sized).mono ?_ ?_
  · intro _ core added
    obtain ⟨publicKey, key, _, members⟩ := added
    exact ⟨⟨key, rfl, publicKey, members⟩, rfl⟩
  · intro e core steady
    exact ⟨⟨rfl, steady.publicKey, steady.members⟩, rfl⟩

end Members

/-! Broadcasts. -/

/-- A cascade from `s` came to its end: what it did to the connections, and that it left nobody of
the network stale. -/
def Settled (networkName : String) (s s' : ServerState HS) : Prop :=
  ∃ news, Progress s.host.ambient news s'.host.ambient ∧
    Fresh networkName news s'.host.ambient

/-- Only a socket that throws from its own `close` stops a cascade. -/
def Stopped (s : ServerState HS) : Prop := ¬ Calm s.host.ambient.inputs

/-- `close` may be called on a ready connection that leaves, and has it closed. -/
def Closes (V : ServerEnv HS) (close : CloseM HS) (joining : Option Nat) (held : List Nat) (k : Nat)
    (F : List Forward) : Prop :=
  ∀ (c : Nat) (o : Connection) (code : Nat) (reason : String) (s : ServerState HS),
    Sound V joining (some c) held k F s → s.host.ambient.objects[c]? = some o → o.phase = .ready →
    Ensures (close c code reason) s
      (fun _ s' => Sound V joining none held k F s' ∧ Settled o.networkName s s')
      (fun _ s' => Sound V joining none held k F s' ∧ Stopped s)

theorem Sound.leave {s : ServerState HS} {c : Nat} {o : Connection}
    (sound : Sound V joining none held k F s) (there : s.host.ambient.objects[c]? = some o)
    (ready : o.phase = .ready) : Sound V joining (some c) held k F s :=
  { sound with registered := sound.registered.leave there ready }

/-- The state with one more milestone. -/
def noted (milestone : Milestone) (g : Grid HS) : Grid HS :=
  { g with history := g.history ++ [milestone] }

theorem Sound.noted {s : ServerState HS} (sound : Sound V joining leaving held k F s)
    (milestone : Milestone) :
    Sound V joining leaving held k F (withGrid s (Cascade.noted milestone s.host.ambient)) where
  living := ⟨sound.living.connected, sound.living.alive, sound.living.resting, sound.living.own,
    sound.living.made, sound.living.answered, sound.living.reached, sound.living.freedCalls,
    sound.living.keysMet,
    sound.living.cutOff⟩
  registered := ⟨sound.registered.rooms, sound.registered.ready, sound.registered.joined,
    sound.registered.routed, sound.registered.replaced, sound.registered.keyless,
    sound.registered.entries, sound.registered.authentic⟩
  sized := sound.sized
  opened := sound.opened
  forwards := sound.forwards

section Broadcasts

variable {networkName : String} {s₀ s : ServerState HS}

private theorem Sound.only (sound : Sound V joining none held k F s) {c : Nat} {peerId : UInt32}
    (found : s.host.ambient.rooms.get networkName peerId = some c) (d : Nat) (o : Connection)
    (there : s.host.ambient.objects[d]? = some o) (ready : o.phase = .ready)
    (name : o.networkName = networkName) (id : o.peerId = peerId) : d = c := by
  have room := sound.registered.ready d o there ready (by simp)
  rw [name, id, found] at room
  exact (Option.some.inj room).symm

/-- One round after another; the induction is on the peers that are still to be visited, and the
invariant says that a nested cascade has left the network fresh or that there was none. -/
private theorem broadcastTo_sound {close : CloseM HS} (closes : Closes V close joining held k F)
    (excludePeerId : Option UInt32) (peers : List UInt32) {news : List Milestone}
    (sound : Sound V joining none held k F s)
    (progress : Progress s₀.host.ambient news s.host.ambient)
    (pending : excludePeerId = none → Pending networkName peers news s.host.ambient) :
    Ensures (broadcastTo V close networkName excludePeerId peers) s
      (fun _ s' => Sound V joining none held k F s' ∧
        ∃ news', Progress s₀.host.ambient news' s'.host.ambient ∧
          (excludePeerId = none → Fresh networkName news' s'.host.ambient))
      (fun _ s' => Sound V joining none held k F s' ∧ Stopped s₀) := by
  induction peers generalizing s news with
  | nil => exact ⟨sound, news, progress, fun all => (pending all).done⟩
  | cons peerId rest ih =>
    rw [broadcastTo, ensures_bind, ensures_grid]
    cases found : s.host.ambient.rooms.get networkName peerId with
    | none =>
      refine ih sound progress fun all => (pending all).skip ?_
      intro d o there ready name id
      have room := sound.registered.ready d o there ready (by simp)
      rw [name, id, found] at room
      cases room
    | some c =>
      obtain ⟨o, there, name, id, _⟩ := sound.registered.rooms networkName peerId c found
      rw [ensures_bind]
      apply ensures_there there
      rw [ensures_ite]
      refine ⟨fun skipped => ?_, fun chosen => ?_⟩
      · refine ih sound progress fun all => (pending all).skip ?_
        intro d u there' ready' name' id'
        have own := sound.only found d u there' ready' name' id'
        subst own
        rw [there] at there'
        cases Option.some.inj there'
        rcases skipped with excluded | unready
        · rw [all] at excluded
          cases excluded
        · exact unready ready'
      · have ready : o.phase = .ready := by
          by_contra other
          exact chosen (Or.inr other)
        rw [ensures_bind, ensures_tryCatch, ensures_bind]
        have sent :=
          sound.atoms.request (rpcPeer c o) ⟨c, o, there, ready, rfl⟩ false s sound.follows
        refine sent.mono ?_ ?_
        · intro _ s' follows
          rw [ensures_onGrid]
          have books := follows.1.books
          refine ih ((sound.follow follows).noted (.updated c))
            (progress.trans ((Progress.same books).trans (Progress.updated c))) fun all => ?_
          have visited := (pending all).visit books (sound.only found)
          exact visited
        · intro e s' follows
          have sound' := sound.follow follows
          have books := follows.1.books
          obtain ⟨o', there', cards⟩ := books.object' there
          have ready' : o'.phase = .ready := (shown Connection.phase cards fun _ => rfl).trans ready
          have name' : o'.networkName = networkName :=
            (shown Connection.networkName cards fun _ => rfl).trans name
          have nested := closes c o' 1011 "route synchronization failed" s'
            (sound'.leave there' ready') there' ready'
          refine nested.mono ?_ ?_
          · intro _ s'' closed
            obtain ⟨sound'', news', progress', fresh⟩ := closed
            rw [name'] at fresh
            have whole := (progress.trans (Progress.same books)).trans progress'
            exact ih sound'' whole fun _ => Or.inr (fresh.later (news ++ []))
          · intro _ s'' stopped
            refine ⟨stopped.1, ?_⟩
            unfold Stopped
            rw [← progress.inputs, ← books.inputs]
            exact stopped.2

theorem broadcastWith_sound {close : CloseM HS} (closes : Closes V close joining held k F)
    (excludePeerId : Option UInt32) (sound : Sound V joining none held k F s) :
    Ensures (broadcastWith V close networkName excludePeerId) s
      (fun _ s' => Sound V joining none held k F s' ∧
        ∃ news, Progress s.host.ambient news s'.host.ambient ∧
          (excludePeerId = none → Fresh networkName news s'.host.ambient))
      (fun _ s' => Sound V joining none held k F s' ∧ Stopped s) := by
  unfold broadcastWith
  rw [ensures_bind, ensures_grid]
  refine broadcastTo_sound closes excludePeerId _ sound
    (Progress.still rfl rfl fun _ o there opened => ⟨o, there, opened, rfl⟩) fun _ =>
      Or.inl ⟨rfl, ?_⟩
  intro c o there ready name
  have room := sound.registered.ready c o there ready (by simp)
  rw [name] at room
  exact Or.inr (RoomRegistry.mem_peers room)

end Broadcasts

/-! Removals. -/

section Removals

variable {s : ServerState HS} {c : Nat} {o : Connection}

/-- The state after a connection that rests was disposed of. -/
def disposed (V : ServerEnv HS) (c : Nat) (o : Connection) (s : ServerState HS) : ServerState HS :=
  let g := s.host.ambient
  withGrid s (calling V.secure o.secure (.drop o.secure (g.inputs.secureNow g.tick)) { g with
    objects := g.objects.modify c fun o => { o with handshakeTimer := false }
    tick := g.tick + 1 })

theorem disposeConnection_disposed (there : s.host.ambient.objects[c]? = some o) :
    Ensures (onGrid (disposeConnection V.secure c)) s (fun _ s' => s' = disposed V c o s)
      (fun _ _ => False) := by
  have there' : (s.host.ambient.objects.modify c fun o => { o with handshakeTimer := false })[c]? =
      some { o with handshakeTimer := false } := by
    have found := @object_modified _ c c (fun o => { o with handshakeTimer := false }) o there
    rwa [if_pos rfl] at found
  unfold disposeConnection
  rw [ensures_onGrid, ensures_bind]
  show Ensures (object c >>= _) _ _ _
  rw [ensures_bind, Books.ensures_object]
  constructor
  · intro o' found
    have found' : (s.host.ambient.objects.modify c fun o =>
      { o with handshakeTimer := false })[c]? = some o' := found
    rw [there'] at found'
    cases Option.some.inj found'
    exact rfl
  · intro missing
    have missing' : (s.host.ambient.objects.modify c fun o =>
      { o with handshakeTimer := false })[c]? = none := missing
    rw [there'] at missing'
    cases missing'

private theorem disposed_object (resting : o.phase = .closed)
    (there : s.host.ambient.objects[c]? = some o)
    {d : Nat} {u : Connection} (found : (disposed V c o s).host.ambient.objects[d]? = some u)
    (opened : u.phase ≠ .closed) : s.host.ambient.objects[d]? = some u := by
  obtain ⟨v, before, same⟩ := modified_object found
  by_cases own : d = c
  · subst own
    rw [there] at before
    cases Option.some.inj before
    rw [if_pos rfl] at same
    rw [same] at opened
    exact absurd resting opened
  · rw [if_neg own] at same
    exact same ▸ before

private theorem Sound.disposed (sound : Sound V joining none (c :: held) k F s)
    (there : s.host.ambient.objects[c]? = some o) (last : c ∉ held) :
    Sound V joining none held k F (Cascade.disposed V c o s) := by
  obtain ⟨u, found, resting⟩ := sound.living.resting c List.mem_cons_self
  rw [there] at found
  cases Option.some.inj found
  have idle : joining ≠ some c := by
    intro joins
    obtain ⟨v, found', msg3, _⟩ := sound.registered.joined c joins
    rw [there] at found'
    cases Option.some.inj found'
    rw [resting] at msg3
    cases msg3
  have unready : o.phase ≠ .ready := by
    rw [resting]
    decide
  let untimed : Connection → Connection := fun o => { o with handshakeTimer := false }
  let g : Grid HS := { s.host.ambient with objects := s.host.ambient.objects.modify c untimed }
  have living : Living V.secure (c :: held) g := by
    refine sound.living.edit (fun _ => rfl) there Iff.rfl ?_
    intro msg3
    rw [resting] at msg3
    cases msg3
  have registered : Registered joining none g (roll s.host.core.routes) s.routeSyncStates :=
    sound.registered.edit there unready unready idle
  have edited : Sound V joining none (c :: held) k F (withGrid s { g with tick := g.tick + 1 }) := {
    living := living.same (.tick g)
    registered := @Registered.same _ V.secure _ _ _ _ _ _ _ registered (.tick g) registered.entries
    sized := sound.sized
    opened := (openCount_edit there Iff.rfl).trans_le sound.opened
    forwards := sound.forwards }
  have there' : (s.host.ambient.objects.modify c untimed)[c]? = some (untimed o) := by
    have same := @object_modified _ c c untimed o there
    rwa [if_pos rfl] at same
  exact {
    living := edited.living.free there' last _
    registered := edited.registered.free edited.living there' _
    sized := edited.sized
    opened := edited.opened
    forwards := edited.forwards }

private theorem progress_disposed (resting : o.phase = .closed)
    (there : s.host.ambient.objects[c]? = some o) :
    Progress s.host.ambient [] (disposed V c o s).host.ambient := by
  refine @Progress.still _ s.host.ambient (disposed V c o s).host.ambient rfl rfl ?_
  intro d u found standing
  exact ⟨u, disposed_object resting there found standing, standing, rfl⟩

/-- A ready connection that leaves is removed: its peers hear of it, whoever of them fails. -/
theorem removeWith_ready {close : CloseM HS} (closes : Closes V close joining (c :: held) k F)
    (sound : Sound V joining (some c) held (k + 1) F s)
    (there : s.host.ambient.objects[c]? = some o) (ready : o.phase = .ready) :
    Ensures (removeWith V close c) s
      (fun _ s' => Sound V joining none held k F s' ∧ ∃ news,
        Progress (closing c o s.host.ambient) news s'.host.ambient ∧
          Fresh o.networkName news s'.host.ambient)
      (fun _ s' => Sound V joining none held k F s' ∧ Stopped s) := by
  have opened : o.phase ≠ .closed := by
    rw [ready]
    decide
  have last : c ∉ held := by
    intro member
    obtain ⟨u, found, resting⟩ := sound.living.resting c member
    rw [there] at found
    cases Option.some.inj found
    exact opened resting
  unfold removeWith
  rw [ensures_bind]
  apply ensures_there there
  rw [ensures_ite]
  refine ⟨fun closed => absurd closed opened, fun _ => ?_⟩
  rw [ensures_bind]
  show Ensures (onGrid (unregister c o) >>= _) _ _ _
  rw [ensures_bind]
  show Ensures _ (withGrid s (closing c o s.host.ambient)) _ _
  rw [ensures_ite]
  refine ⟨fun _ => ?_, fun unready => absurd ready unready⟩
  rw [ensures_bind]
  refine (removePeer_after (V := V)).mono ?_ fun _ _ impossible => impossible.elim
  rintro _ s₁ ⟨after, states⟩
  have living := sound.living.closing there opened
  have registered := sound.registered.retire there ready
  have sound₁ : Sound V joining none (c :: held) k F s₁ := by
    constructor
    · rw [after.ambient]
      exact living.same (.tick _)
    · rw [after.ambient, after.members, states]
      exact @Registered.same _ V.secure _ _ _ _ _ _ _ registered (.tick _) registered.entries
    · rw [after.publicKey]
      exact sound.sized
    · rw [after.ambient]
      have counted := openCount_closing there opened
      have bound := sound.opened
      show openCount (closing c o s.host.ambient) ≤ k
      omega
    · rw [after.ambient]
      exact sound.forwards
  have moved : Progress (closing c o s.host.ambient) [] s₁.host.ambient := by
    rw [after.ambient]
    exact @Progress.same _ _ _ V.secure (.tick _)
  have stopped {s' : ServerState HS}
      (ended : Sound V joining none (c :: held) k F s' ∧ Stopped s₁) :
      Sound V joining none held k F s' ∧ Stopped s := by
    refine ⟨{ ended.1 with living := ended.1.living.release }, ?_⟩
    have throws := ended.2
    unfold Stopped at throws ⊢
    rw [moved.inputs] at throws
    exact throws
  rw [ensures_bind]
  refine (broadcastWith_sound closes none sound₁).mono ?_ fun _ _ ended => stopped ended
  rintro _ s₂ ⟨sound₂, news, progress, fresh⟩
  obtain ⟨o₂, there₂, resting⟩ := sound₂.living.resting c List.mem_cons_self
  refine (disposeConnection_disposed there₂).mono ?_ fun _ _ impossible => impossible.elim
  rintro _ s₃ rfl
  refine ⟨sound₂.disposed there₂ last, news ++ [], ?_, ?_⟩
  · exact (moved.trans progress).trans (progress_disposed resting there₂)
  · intro d u found ready' name
    have before := disposed_object resting there₂ found (by rw [ready']; decide)
    rw [List.append_nil]
    exact fresh rfl d u before ready' name

end Removals

section Closings

variable {s : ServerState HS} {c : Nat} {o : Connection}

theorem removeWith_unready (close : CloseM HS) (sound : Sound V joining none held k F s)
    (there : s.host.ambient.objects[c]? = some o) (opened : o.phase ≠ .closed)
    (unready : o.phase ≠ .ready) (alone : joining = none ∨ joining = some c) :
    Ensures (removeWith V close c) s
      (fun _ s' => Sound V none none held k F s' ∧
        Progress (closing c o s.host.ambient) [] s'.host.ambient)
      (fun _ _ => False) := by
  have last : c ∉ held := by
    intro member
    obtain ⟨u, found, resting⟩ := sound.living.resting c member
    rw [there] at found
    cases Option.some.inj found
    exact opened resting
  unfold removeWith
  rw [ensures_bind]
  apply ensures_there there
  rw [ensures_ite]
  refine ⟨fun closed => absurd closed opened, fun _ => ?_⟩
  rw [ensures_bind]
  show Ensures (onGrid (unregister c o) >>= _) _ _ _
  rw [ensures_bind]
  show Ensures _ (withGrid s (closing c o s.host.ambient)) _ _
  rw [ensures_ite]
  refine ⟨fun ready => absurd ready unready, fun _ => ?_⟩
  have sound₁ : Sound V none none (c :: held) k F (withGrid s (closing c o s.host.ambient)) := {
    living := sound.living.closing there opened
    registered := sound.registered.abandon there unready alone
    sized := sound.sized
    opened := by
      have counted := openCount_closing there opened
      have bound := sound.opened
      show openCount (closing c o s.host.ambient) ≤ k
      omega
    forwards := sound.forwards }
  obtain ⟨o₁, there₁, resting⟩ := sound₁.living.resting c List.mem_cons_self
  refine (disposeConnection_disposed there₁).mono ?_ fun _ _ impossible => impossible
  rintro _ s₂ rfl
  exact ⟨sound₁.disposed there₁ last, progress_disposed resting there₁⟩

theorem removeWith_closed (close : CloseM HS) (there : s.host.ambient.objects[c]? = some o)
    (closed : o.phase = .closed) :
    Ensures (removeWith V close c) s (fun _ s' => s' = s) (fun _ _ => False) := by
  unfold removeWith
  rw [ensures_bind]
  apply ensures_there there
  rw [ensures_ite]
  exact ⟨fun _ => rfl, fun opened => absurd closed opened⟩

/-- The state after one reading. -/
def ticked (s : ServerState HS) : ServerState HS :=
  withGrid s { s.host.ambient with tick := s.host.ambient.tick + 1 }

theorem socketClose_ticked (code : Nat) (reason : String) :
    Ensures (socketClose code reason) s (fun _ s' => s' = ticked s)
      (fun _ s' => s' = ticked s ∧ Stopped s) := by
  unfold socketClose
  rw [ensures_bind, ensures_onGrid]
  show Ensures (Relay.orThrow (s.host.ambient.inputs.socketClose s.host.ambient.tick code reason))
    (ticked s) _ _
  cases answer : s.host.ambient.inputs.socketClose s.host.ambient.tick code reason with
  | ok _ => exact rfl
  | error e =>
    refine ⟨rfl, ?_⟩
    intro calm
    rw [calm] at answer
    cases answer

theorem closeWithin_open {depth code : Nat} {reason : String}
    (there : s.host.ambient.objects[c]? = some o) (opened : o.phase ≠ .closed)
    {ok : ServerState HS → Prop} {err : ServerState HS → Prop}
    (removed : Ensures (removeWith V (closeWithin V depth) c)
      (ticked (withGrid s (noted (.closing c) s.host.ambient)))
      (fun _ s' => ok s' ∧ (Stopped s → err s')) (fun _ s' => err s')) :
    Ensures (closeWithin V (depth + 1) c code reason) s (fun _ s' => ok s')
      (fun _ s' => err s') := by
  rw [closeWithin, ensures_bind]
  apply ensures_there there
  rw [ensures_ite]
  refine ⟨fun closed => absurd closed opened, fun _ => ?_⟩
  rw [ensures_bind]
  show Ensures (runFinally _ _) (withGrid s (noted (.closing c) s.host.ambient)) _ _
  rw [ensures_runFinally]
  refine (socketClose_ticked code _).mono ?_ ?_
  · rintro _ s' rfl
    exact removed.mono (fun _ _ ended => ended.1) fun _ _ ended => ended
  · rintro e s' ⟨rfl, stopped⟩
    exact removed.mono (fun _ _ ended => ended.2 stopped) fun _ _ ended => ended

/-- The recursion is never cut off: every nested call has one open connection less. -/
theorem closeWithin_closes (depth : Nat) :
    ∀ {joining : Option Nat} {held : List Nat} {k : Nat}, k ≤ depth →
      Closes V (closeWithin V depth) joining held k F := by
  have counted {joining : Option Nat} {held : List Nat} {k c : Nat} {o : Connection}
      {s : ServerState HS} (sound : Sound V joining (some c) held k F s)
      (there : s.host.ambient.objects[c]? = some o) (ready : o.phase = .ready) : k ≠ 0 := by
    have opened := openCount_closing there (by rw [ready]; decide)
    have bound := sound.opened
    omega
  induction depth with
  | zero =>
    intro joining held k bound c o code reason s sound there ready
    exact absurd (Nat.le_zero.mp bound) (counted sound there ready)
  | succ depth ih =>
    intro joining held k bound c o code reason s sound there ready
    obtain ⟨k, rfl⟩ := Nat.exists_eq_succ_of_ne_zero (counted sound there ready)
    have opened : o.phase ≠ .closed := by
      rw [ready]
      decide
    have nested : Closes V (closeWithin V depth) joining (c :: held) k F := ih (by omega)
    have removed := removeWith_ready nested (sound.noted (.closing c)).tick there ready
    apply closeWithin_open there opened
    refine removed.mono ?_ ?_
    · rintro _ s' ⟨sound', news, progress, fresh⟩
      have grown := sound'.mono (Nat.le_succ k)
      refine ⟨⟨grown, .closing c :: .removed c :: news, ?_, ?_⟩, fun stopped => ⟨grown, stopped⟩⟩
      · let g₁ := (ticked (withGrid s (noted (.closing c) s.host.ambient))).host.ambient
        exact @Progress.announced _ s.host.ambient g₁ _ _ c o rfl rfl rfl there opened progress
      · exact fresh.later [.closing c, .removed c]
    · rintro e s' ⟨sound', stopped⟩
      exact ⟨sound'.mono (Nat.le_succ k), stopped⟩

end Closings

end EasyTierEdge.Server.Cascade
