/- module: EasyTierEdge/Server/Ledger
   source: cloudflare/src/server.ts, the registries of EasyTierServer
   digest: How connections, rooms, route state and scheduler fit, also while a handler runs. -/

import EasyTierEdge.Server.Books

set_option autoImplicit false
set_option relaxedAutoImplicit false

namespace EasyTierEdge.Server.Ledger

open Lib.AscendingMap Lib.Fallible Lib.FiniteMap Lib.Machine Lib.OrderedMap
open Packet (Key)
open Rpc.Scheduler (RouteSyncState RouteSyncKey)
open Rpc.RouteMembers (Entry enroll)
open Rpc.SchedulerRules (Enlisted)
open Secure.Session Secure.Peer Secure.Connections
open Secure.LiveSession (AuthenticatedOn BoundOn alive_step authenticatedOn_step boundOn_step)
open Secure.ObjectMoves (length_step)
open Rooms Sockets Relay Books

variable {HS : Type}

/-! The connections by themselves. -/

/-- The `SecurePeer` of a connection is bound to the session of the id and the network that the
connection has. -/
def Answered (g : Grid HS) (o : Connection) : Prop :=
  ∃ key, BoundOn g.world o.secure key ∧ key.networkName = o.networkName ∧ key.peerId = o.peerId

/-- Every connection that is not closed, or is `held` by a handler that closes it, has a
`SecurePeer` of its own; no other was called, and no recursion was cut off. -/
structure Living (E : SecureEnv HS) (held : List Nat) (g : Grid HS) : Prop where
  connected : ∀ (c : Nat) (o : Connection), g.objects[c]? = some o → o.phase ≠ .closed →
    c ∈ g.connections
  alive : ∀ (c : Nat) (o : Connection), g.objects[c]? = some o → o.phase ≠ .closed ∨ c ∈ held →
    (g.world.peer? o.secure).isSome = true
  resting : ∀ c ∈ held, ∃ o, g.objects[c]? = some o ∧ o.phase = .closed
  own : ∀ (c d : Nat) (o o' : Connection), g.objects[c]? = some o → g.objects[d]? = some o' →
    o.secure = o'.secure → c = d
  made : ∀ (c : Nat) (o : Connection), g.objects[c]? = some o → o.secure < g.world.peers.length
  answered : ∀ (c : Nat) (o : Connection), g.objects[c]? = some o → o.phase = .msg3 → Answered g o
  reached : ∃ es, g.world = World.after E es
  freedCalls : g.freedCalls = []
  keysMet : ∀ met ∈ g.keysMet, met.before = none
  cutOff : g.cutOff = false

/-- The `SecurePeer` of a connection has authenticated the id that the connection has, in the
network that it has. -/
def Authentic (g : Grid HS) (o : Connection) : Prop :=
  ∃ key, AuthenticatedOn g.world o.secure key ∧ key.networkName = o.networkName ∧
    key.peerId = o.peerId

/-- The registries fit. A connection that is `joining` is in its room, but not a member yet; one
that is `leaving` is a member, but may have been replaced in its room. -/
structure Registered (joining leaving : Option Nat) (g : Grid HS)
    (members : String → UInt32 → Entry) (states : OMap RouteSyncKey RouteSyncState) : Prop where
  rooms : ∀ n p c, g.rooms.get n p = some c → ∃ o, g.objects[c]? = some o ∧ o.networkName = n ∧
    o.peerId = p ∧ (o.phase = .ready ∨ (joining = some c ∧ o.phase = .msg3))
  ready : ∀ (c : Nat) (o : Connection), g.objects[c]? = some o → o.phase = .ready →
    leaving ≠ some c → g.rooms.get o.networkName o.peerId = some c
  joined : ∀ c, joining = some c → ∃ o, g.objects[c]? = some o ∧ o.phase = .msg3 ∧
    g.rooms.get o.networkName o.peerId = some c
  routed : ∀ n p, (∀ (c : Nat) (o : Connection), leaving = some c → g.objects[c]? = some o →
      ¬ (o.networkName = n ∧ o.peerId = p)) →
    ((members n p).1.isSome = true ↔ ∃ c, g.rooms.get n p = some c ∧ joining ≠ some c)
  replaced : ∀ (c : Nat) (o : Connection) (d : Nat), leaving = some c → g.objects[c]? = some o →
    g.rooms.get o.networkName o.peerId = some d → d = c ∨ joining = some d
  keyless : ∀ n p, (members n p).1 = none → (members n p).2 = none
  entries : Enlisted (Enrolled g) states
  authentic : ∀ (c : Nat) (o : Connection), g.objects[c]? = some o →
    o.phase = .ready ∨ joining = some c → Authentic g o

theorem modified_object {objects : List Connection} {c d : Nat} {f : Connection → Connection}
    {o' : Connection} (there : (objects.modify c f)[d]? = some o') :
    ∃ o, objects[d]? = some o ∧ o' = if d = c then f o else o := by
  rw [List.getElem?_modify] at there
  obtain ⟨o, found, same⟩ := Option.map_eq_some_iff.mp there
  refine ⟨o, found, ?_⟩
  by_cases own : c = d
  · subst own
    simpa using same.symm
  · have other : ¬ d = c := fun equal => own equal.symm
    simpa [own, other] using same.symm

theorem object_modified {objects : List Connection} {c d : Nat} {f : Connection → Connection}
    {o : Connection} (there : objects[d]? = some o) :
    (objects.modify c f)[d]? = some (if d = c then f o else o) := by
  rw [List.getElem?_modify, there]
  by_cases own : c = d
  · simp [own]
  · have other : ¬ d = c := fun equal => own equal.symm
    simp [own, other]

section Same

variable {E : SecureEnv HS} {joining leaving : Option Nat} {held : List Nat} {g g' : Grid HS}
  {members : String → UInt32 → Entry} {states states' : OMap RouteSyncKey RouteSyncState}

theorem Living.readyAlive (inv : Living E held g) : ReadyAlive g := by
  intro c o there ready
  refine inv.alive c o there (Or.inl ?_)
  rw [ready]
  decide

theorem Living.same (inv : Living E held g) (books : SameBooks E g g') : Living E held g' := by
  have phase {o o' : Connection} (cards : card o' = card o) : o'.phase = o.phase :=
    shown Connection.phase cards fun _ => rfl
  have secure {o o' : Connection} (cards : card o' = card o) : o'.secure = o.secure :=
    shown Connection.secure cards fun _ => rfl
  constructor
  · intro c o' there' opened
    obtain ⟨o, there, cards⟩ := books.object there'
    rw [books.connections]
    exact inv.connected c o there (phase cards ▸ opened)
  · intro c o' there' standing
    obtain ⟨o, there, cards⟩ := books.object there'
    rw [secure cards]
    exact books.alive (inv.alive c o there (phase cards ▸ standing))
  · intro c member
    obtain ⟨o, there, closed⟩ := inv.resting c member
    obtain ⟨o', there', cards⟩ := books.object' there
    exact ⟨o', there', (phase cards).trans closed⟩
  · intro c d o' u' there' there'' equal
    obtain ⟨o, there, cards⟩ := books.object there'
    obtain ⟨u, thereu, cardsu⟩ := books.object there''
    rw [secure cards, secure cardsu] at equal
    exact inv.own c d o u there thereu equal
  · intro c o' there'
    obtain ⟨o, there, cards⟩ := books.object there'
    rw [secure cards, books.length]
    exact inv.made c o there
  · intro c o' there' msg3
    obtain ⟨o, there, cards⟩ := books.object there'
    obtain ⟨key, on, name, id⟩ := inv.answered c o there ((phase cards).symm.trans msg3)
    refine ⟨key, ?_, name.trans (shown Connection.networkName cards fun _ => rfl).symm,
      id.trans (shown Connection.peerId cards fun _ => rfl).symm⟩
    rw [secure cards]
    exact books.boundOn on
  · obtain ⟨es, before⟩ := inv.reached
    obtain ⟨es', moved, _⟩ := books.world
    refine ⟨es ++ es', ?_⟩
    unfold World.after
    rw [run_append]
    rw [before] at moved
    exact moved
  · exact books.freedCalls.trans inv.freedCalls
  · rw [books.keysMet]
    exact inv.keysMet
  · exact books.cutOff.trans inv.cutOff

theorem Registered.same (inv : Registered joining leaving g members states)
    (books : SameBooks E g g') (entries : Enlisted (Enrolled g) states') :
    Registered joining leaving g' members states' := by
  have phase {o o' : Connection} (cards : card o' = card o) : o'.phase = o.phase :=
    shown Connection.phase cards fun _ => rfl
  have network {o o' : Connection} (cards : card o' = card o) : o'.networkName = o.networkName :=
    shown Connection.networkName cards fun _ => rfl
  have peerId {o o' : Connection} (cards : card o' = card o) : o'.peerId = o.peerId :=
    shown Connection.peerId cards fun _ => rfl
  constructor
  · intro n p c found
    rw [books.rooms] at found
    obtain ⟨o, there, name, id, standing⟩ := inv.rooms n p c found
    obtain ⟨o', there', cards⟩ := books.object' there
    refine ⟨o', there', (network cards).trans name, (peerId cards).trans id, ?_⟩
    rw [phase cards]
    exact standing
  · intro c o' there' ready stays
    obtain ⟨o, there, cards⟩ := books.object there'
    rw [books.rooms, network cards, peerId cards]
    exact inv.ready c o there ((phase cards).symm.trans ready) stays
  · intro c joins
    obtain ⟨o, there, msg3, found⟩ := inv.joined c joins
    obtain ⟨o', there', cards⟩ := books.object' there
    refine ⟨o', there', (phase cards).trans msg3, ?_⟩
    rw [books.rooms, network cards, peerId cards]
    exact found
  · intro n p other
    rw [books.rooms]
    apply inv.routed n p
    intro c o leaves there
    obtain ⟨o', there', cards⟩ := books.object' there
    rw [← network cards, ← peerId cards]
    exact other c o' leaves there'
  · intro c o' d leaves there' found
    obtain ⟨o, there, cards⟩ := books.object there'
    rw [books.rooms, network cards, peerId cards] at found
    exact inv.replaced c o d leaves there found
  · exact inv.keyless
  · intro key state found
    obtain ⟨enrolled, own⟩ := entries key state found
    exact ⟨enrolled.same books, own⟩
  · intro c o' there' standing
    obtain ⟨o, there, cards⟩ := books.object there'
    obtain ⟨key, on, name, id⟩ := inv.authentic c o there (phase cards ▸ standing)
    refine ⟨key, ?_, name.trans (network cards).symm, id.trans (peerId cards).symm⟩
    rw [shown Connection.secure cards fun _ => rfl]
    exact books.authenticatedOn on

theorem Registered.leave {c : Nat} {o : Connection}
    (inv : Registered joining none g members states) (there : g.objects[c]? = some o)
    (ready : o.phase = .ready) : Registered joining (some c) g members states where
  rooms := inv.rooms
  ready := fun d o' there' ready' _ => inv.ready d o' there' ready' (by simp)
  joined := inv.joined
  routed := fun n p _ => inv.routed n p (by simp)
  replaced := by
    intro d o' e leaves there' found
    cases Option.some.inj leaves
    rw [there] at there'
    cases Option.some.inj there'
    rw [inv.ready c o there ready (by simp)] at found
    exact Or.inl (Option.some.inj found).symm
  keyless := inv.keyless
  entries := inv.entries
  authentic := inv.authentic

theorem Living.release {c : Nat} (inv : Living E (c :: held) g) : Living E held g where
  connected := inv.connected
  alive := fun d o there standing =>
    inv.alive d o there (standing.imp_right (List.mem_cons_of_mem c))
  resting := fun d member => inv.resting d (List.mem_cons_of_mem c member)
  own := inv.own
  made := inv.made
  answered := inv.answered
  reached := inv.reached
  freedCalls := inv.freedCalls
  keysMet := inv.keysMet
  cutOff := inv.cutOff

end Same

/-! Closing. -/

/-- The server after a connection was marked closed and taken out of the maps. -/
def closing (c : Nat) (o : Connection) (g : Grid HS) : Grid HS :=
  let connections := g.connections.erase c
  { g with
    objects := g.objects.modify c fun o => { o with phase := .closed }
    connections
    maintenanceTimer := g.maintenanceTimer && !connections.isEmpty
    rooms := g.rooms.delete o.networkName o.peerId c
    history := g.history ++ [.removed c] }

section Closing

variable {E : SecureEnv HS} {joining : Option Nat} {held : List Nat} {g : Grid HS} {c : Nat}
  {o : Connection} {members : String → UInt32 → Entry}
  {states : OMap RouteSyncKey RouteSyncState}

theorem closing_object {d : Nat} {u' : Connection}
    (there : (closing c o g).objects[d]? = some u') (opened : u'.phase ≠ .closed) :
    d ≠ c ∧ g.objects[d]? = some u' := by
  obtain ⟨u, found, same⟩ := modified_object there
  by_cases own : d = c
  · rw [if_pos own] at same
    rw [same] at opened
    exact absurd rfl opened
  · rw [if_neg own] at same
    exact ⟨own, same ▸ found⟩

private theorem object_closing {d : Nat} {u : Connection} (there : g.objects[d]? = some u)
    (other : d ≠ c) : (closing c o g).objects[d]? = some u := by
  show (g.objects.modify c _)[d]? = some u
  rw [object_modified there, if_neg other]

private theorem Registered.placed {leaving : Option Nat}
    (inv : Registered joining leaving g members states) {n : String} {p : UInt32}
    (found : g.rooms.get n p = some c) (there : g.objects[c]? = some o) :
    o.networkName = n ∧ o.peerId = p := by
  obtain ⟨u, there', name, id, _⟩ := inv.rooms n p c found
  rw [there] at there'
  cases Option.some.inj there'
  exact ⟨name, id⟩

private theorem Registered.closing_rooms {leaving : Option Nat}
    (inv : Registered joining leaving g members states) (there : g.objects[c]? = some o)
    (n : String) (p : UInt32) (d : Nat) :
    (closing c o g).rooms.get n p = some d ↔ g.rooms.get n p = some d ∧ d ≠ c := by
  show (g.rooms.delete o.networkName o.peerId c).get n p = some d ↔ _
  rw [RoomRegistry.get_delete]
  constructor
  · intro found
    split at found
    · cases found
    · rename_i stays
      refine ⟨found, ?_⟩
      rintro rfl
      obtain ⟨name, id⟩ := inv.placed found there
      subst name id
      exact stays ⟨rfl, rfl, found⟩
  · rintro ⟨found, other⟩
    rw [if_neg, found]
    rintro ⟨rfl, rfl, own⟩
    rw [found] at own
    exact other (Option.some.inj own)

/-- Every object keeps its `secure` object, and the others keep all they have. -/
private theorem closing_kept {d : Nat} {u' : Connection}
    (there : (closing c o g).objects[d]? = some u') :
    ∃ u, g.objects[d]? = some u ∧ u'.secure = u.secure ∧ (d ≠ c → u' = u) := by
  obtain ⟨u, found, same⟩ := modified_object there
  refine ⟨u, found, ?_⟩
  by_cases own : d = c
  · rw [if_pos own] at same
    exact ⟨by rw [same], fun other => absurd own other⟩
  · rw [if_neg own] at same
    exact ⟨by rw [same], fun _ => same⟩

theorem Living.closing (inv : Living E held g) (there : g.objects[c]? = some o)
    (opened : o.phase ≠ .closed) : Living E (c :: held) (closing c o g) := by
  constructor
  · intro d u there' opened'
    obtain ⟨other, found⟩ := closing_object there' opened'
    exact (List.mem_erase_of_ne other).mpr (inv.connected d u found opened')
  · intro d u' there' standing
    obtain ⟨u, found, secure, same⟩ := closing_kept there'
    show (g.world.peer? u'.secure).isSome = true
    rw [secure]
    by_cases own : d = c
    · subst own
      rw [there] at found
      cases Option.some.inj found
      exact inv.alive d o there (Or.inl opened)
    · obtain rfl := same own
      refine inv.alive d u' found (standing.imp_right fun member => ?_)
      exact (List.mem_cons.mp member).resolve_left own
  · intro d member
    by_cases own : d = c
    · subst own
      have closed := @object_modified g.objects d d (fun o => { o with phase := .closed }) o there
      rw [if_pos rfl] at closed
      exact ⟨_, closed, rfl⟩
    · obtain ⟨u, found, closed⟩ := inv.resting d ((List.mem_cons.mp member).resolve_left own)
      exact ⟨u, object_closing found own, closed⟩
  · intro d e u' v' there' there'' equal
    obtain ⟨u, found, secure, _⟩ := closing_kept there'
    obtain ⟨v, found', secure', _⟩ := closing_kept there''
    rw [secure, secure'] at equal
    exact inv.own d e u v found found' equal
  · intro d u' there'
    obtain ⟨u, found, secure, _⟩ := closing_kept there'
    rw [secure]
    exact inv.made d u found
  · intro d u there' msg3
    obtain ⟨_, found⟩ := closing_object there' (by rw [msg3]; decide)
    exact inv.answered d u found msg3
  · exact inv.reached
  · exact inv.freedCalls
  · exact inv.keysMet
  · exact inv.cutOff

theorem Registered.retire (inv : Registered joining (some c) g members states)
    (there : g.objects[c]? = some o) (ready : o.phase = .ready) :
    Registered joining none (Ledger.closing c o g)
      (enroll members o.networkName o.peerId (none, none))
      (states.erase (o.networkName, o.peerId)) := by
  have rooms := inv.closing_rooms there
  have waiting (d : Nat) (joins : joining = some d) : d ≠ c := by
    rintro rfl
    obtain ⟨u, there', msg3, _⟩ := inv.joined d joins
    rw [there] at there'
    cases Option.some.inj there'
    rw [ready] at msg3
    cases msg3
  constructor
  · intro n p d found
    obtain ⟨before, other⟩ := (rooms n p d).mp found
    obtain ⟨u, there', name, id, standing⟩ := inv.rooms n p d before
    exact ⟨u, object_closing there' other, name, id, standing⟩
  · intro d u there' ready' _
    obtain ⟨other, found⟩ := closing_object there' (by rw [ready']; decide)
    apply (rooms _ _ d).mpr
    refine ⟨inv.ready d u found ready' ?_, other⟩
    intro same
    exact other (Option.some.inj same).symm
  · intro d joins
    obtain ⟨u, found, msg3, room⟩ := inv.joined d joins
    have other := waiting d joins
    exact ⟨u, object_closing found other, msg3, (rooms _ _ d).mpr ⟨room, other⟩⟩
  · intro n p _
    by_cases own : n = o.networkName ∧ p = o.peerId
    · rw [enroll, if_pos own]
      constructor
      · intro impossible
        cases impossible
      · rintro ⟨d, found, stays⟩
        obtain ⟨before, other⟩ := (rooms n p d).mp found
        rw [own.1, own.2] at before
        rcases inv.replaced c o d rfl there before with same | joins
        · exact absurd same other
        · exact absurd joins stays
    · rw [enroll, if_neg own, inv.routed n p ?_]
      · constructor
        · rintro ⟨d, found, stays⟩
          refine ⟨d, (rooms n p d).mpr ⟨found, ?_⟩, stays⟩
          rintro rfl
          obtain ⟨name, id⟩ := inv.placed found there
          exact own ⟨name.symm, id.symm⟩
        · rintro ⟨d, found, stays⟩
          exact ⟨d, ((rooms n p d).mp found).1, stays⟩
      · intro d u leaves there' key
        cases Option.some.inj leaves
        rw [there] at there'
        cases Option.some.inj there'
        exact own ⟨key.1.symm, key.2.symm⟩
  · intro d u e impossible
    cases impossible
  · intro n p
    unfold enroll
    split
    · exact fun _ => rfl
    · exact inv.keyless n p
  · intro key state found
    rw [OMap.lookup_erase_eq_ite] at found
    split at found
    · cases found
    · rename_i other
      obtain ⟨⟨d, u, found', ready', same⟩, own⟩ := inv.entries key state found
      refine ⟨⟨d, u, object_closing found' ?_, ready', same⟩, own⟩
      rintro rfl
      rw [there] at found'
      cases Option.some.inj found'
      rw [same] at own
      exact other own.symm
  · intro d u there' standing
    have other : d ≠ c ∧ g.objects[d]? = some u := by
      rcases standing with ready' | joins
      · exact closing_object there' (by rw [ready']; decide)
      · have other := waiting d joins
        obtain ⟨v, found, same⟩ := modified_object there'
        rw [if_neg other] at same
        exact ⟨other, same ▸ found⟩
    exact inv.authentic d u other.2 standing

theorem Registered.abandon (inv : Registered joining none g members states)
    (there : g.objects[c]? = some o) (unready : o.phase ≠ .ready)
    (alone : joining = none ∨ joining = some c) :
    Registered none none (Ledger.closing c o g) members states := by
  have rooms := inv.closing_rooms there
  have other {d : Nat} {u : Connection} (there' : g.objects[d]? = some u)
      (ready' : u.phase = .ready) : d ≠ c := by
    rintro rfl
    rw [there] at there'
    cases Option.some.inj there'
    exact unready ready'
  have joins {d : Nat} (joins : joining = some d) : d = c := by
    rcases alone with nobody | same
    · rw [nobody] at joins
      cases joins
    · rw [same] at joins
      exact (Option.some.inj joins).symm
  constructor
  · intro n p d found
    obtain ⟨before, distinct⟩ := (rooms n p d).mp found
    obtain ⟨u, there', name, id, ready' | ⟨same, _⟩⟩ := inv.rooms n p d before
    · exact ⟨u, object_closing there' distinct, name, id, Or.inl ready'⟩
    · exact absurd (joins same) distinct
  · intro d u there' ready' _
    obtain ⟨distinct, found⟩ := closing_object there' (by rw [ready']; decide)
    exact (rooms _ _ d).mpr ⟨inv.ready d u found ready' (by simp), distinct⟩
  · intro d impossible
    cases impossible
  · intro n p _
    rw [inv.routed n p (by simp)]
    constructor
    · rintro ⟨d, found, stays⟩
      obtain ⟨u, there', _, _, ready' | ⟨same, _⟩⟩ := inv.rooms n p d found
      · exact ⟨d, (rooms n p d).mpr ⟨found, other there' ready'⟩, by simp⟩
      · exact absurd same stays
    · rintro ⟨d, found, _⟩
      obtain ⟨before, distinct⟩ := (rooms n p d).mp found
      exact ⟨d, before, fun same => distinct (joins same)⟩
  · intro d u e impossible
    cases impossible
  · exact inv.keyless
  · intro key state found
    obtain ⟨⟨d, u, found', ready', same⟩, own⟩ := inv.entries key state found
    exact ⟨⟨d, u, object_closing found' (other found' ready'), ready', same⟩, own⟩
  · intro d u there' standing
    rcases standing with ready' | impossible
    · obtain ⟨distinct, found⟩ := closing_object there' (by rw [ready']; decide)
      exact inv.authentic d u found (Or.inl ready')
    · cases impossible

end Closing

/-! Changes to one object. -/

section Edits

variable {E : SecureEnv HS} {joining : Option Nat} {held : List Nat} {g : Grid HS} {c : Nat}
  {o : Connection} {f : Connection → Connection} {members : String → UInt32 → Entry}
  {states : OMap RouteSyncKey RouteSyncState}

theorem Living.edit (inv : Living E held g) (secure : ∀ o, (f o).secure = o.secure)
    (there : g.objects[c]? = some o) (closed : (f o).phase = .closed ↔ o.phase = .closed)
    (answered : (f o).phase = .msg3 → Answered g (f o)) :
    Living E held { g with objects := g.objects.modify c f } := by
  have before {d : Nat} {u' : Connection} (there' : (g.objects.modify c f)[d]? = some u') :
      ∃ u, g.objects[d]? = some u ∧ u'.secure = u.secure ∧
        (u'.phase = .closed ↔ u.phase = .closed) := by
    obtain ⟨u, found, same⟩ := modified_object there'
    refine ⟨u, found, ?_⟩
    by_cases own : d = c
    · subst own
      rw [there] at found
      cases Option.some.inj found
      rw [same, if_pos rfl]
      exact ⟨secure o, closed⟩
    · rw [same, if_neg own]
      exact ⟨rfl, Iff.rfl⟩
  constructor
  · intro d u' there' opened
    obtain ⟨u, found, _, phase⟩ := before there'
    exact inv.connected d u found fun same => opened (phase.mpr same)
  · intro d u' there' standing
    obtain ⟨u, found, same, phase⟩ := before there'
    rw [same]
    exact inv.alive d u found (standing.imp_left fun opened same => opened (phase.mpr same))
  · intro d member
    obtain ⟨u, found, rests⟩ := inv.resting d member
    refine ⟨_, object_modified found, ?_⟩
    by_cases own : d = c
    · subst own
      rw [there] at found
      cases Option.some.inj found
      rw [if_pos rfl]
      exact closed.mpr rests
    · rw [if_neg own]
      exact rests
  · intro d e u' v' there' there'' equal
    obtain ⟨u, found, same, _⟩ := before there'
    obtain ⟨v, found', same', _⟩ := before there''
    rw [same, same'] at equal
    exact inv.own d e u v found found' equal
  · intro d u' there'
    obtain ⟨u, found, same, _⟩ := before there'
    rw [same]
    exact inv.made d u found
  · intro d u' there' msg3
    obtain ⟨u, found, same⟩ := modified_object there'
    by_cases own : d = c
    · subst own
      rw [there] at found
      cases Option.some.inj found
      rw [if_pos rfl] at same
      subst same
      exact answered msg3
    · rw [if_neg own] at same
      subst same
      exact inv.answered d u' found msg3
  · exact inv.reached
  · exact inv.freedCalls
  · exact inv.keysMet
  · exact inv.cutOff

theorem Registered.edit (inv : Registered joining none g members states)
    (there : g.objects[c]? = some o) (before : o.phase ≠ .ready) (after : (f o).phase ≠ .ready)
    (idle : joining ≠ some c) :
    Registered joining none { g with objects := g.objects.modify c f } members states := by
  have other {d : Nat} {u : Connection} (there' : g.objects[d]? = some u)
      (standing : u.phase = .ready ∨ joining = some d) :
      d ≠ c ∧ (g.objects.modify c f)[d]? = some u := by
    have distinct : d ≠ c := by
      rintro rfl
      rcases standing with ready | joins
      · rw [there] at there'
        cases Option.some.inj there'
        exact before ready
      · exact idle joins
    have found := @object_modified g.objects c d f u there'
    rw [if_neg distinct] at found
    exact ⟨distinct, found⟩
  have earlier {d : Nat} {u : Connection} (there' : (g.objects.modify c f)[d]? = some u)
      (standing : u.phase = .ready ∨ joining = some d) : g.objects[d]? = some u := by
    obtain ⟨v, found, same⟩ := modified_object there'
    by_cases own : d = c
    · subst own
      rw [there] at found
      cases Option.some.inj found
      rw [if_pos rfl] at same
      rcases standing with ready | joins
      · rw [same] at ready
        exact absurd ready after
      · exact absurd joins idle
    · rw [if_neg own] at same
      exact same ▸ found
  constructor
  · intro n p d found
    obtain ⟨u, there', name, id, standing⟩ := inv.rooms n p d found
    have stands : u.phase = .ready ∨ joining = some d := standing.imp_right And.left
    exact ⟨u, (other there' stands).2, name, id, standing⟩
  · intro d u there' ready _
    exact inv.ready d u (earlier there' (Or.inl ready)) ready (by simp)
  · intro d joins
    obtain ⟨u, found, msg3, room⟩ := inv.joined d joins
    exact ⟨u, (other found (Or.inr joins)).2, msg3, room⟩
  · intro n p _
    exact inv.routed n p (by simp)
  · intro d u e impossible
    cases impossible
  · exact inv.keyless
  · intro key state found
    obtain ⟨⟨d, u, found', ready, same⟩, own⟩ := inv.entries key state found
    exact ⟨⟨d, u, (other found' (Or.inl ready)).2, ready, same⟩, own⟩
  · intro d u there' standing
    exact inv.authentic d u (earlier there' standing) standing

end Edits

/-! Freeing a `SecurePeer`. -/

section Freeing

variable {E : SecureEnv HS} {joining : Option Nat} {held : List Nat} {g : Grid HS} {c : Nat}
  {o : Connection} {members : String → UInt32 → Entry}
  {states : OMap RouteSyncKey RouteSyncState}

/-- The server after a call on a `SecurePeer`. -/
def calling (E : SecureEnv HS) (secure : Nat) (call : Event) (g : Grid HS) : Grid HS :=
  { g with
    world := (g.world.perform E call).1
    freedCalls := if (g.world.peer? secure).isNone then g.freedCalls ++ [secure]
      else g.freedCalls }

private theorem calling_freedCalls {secure : Nat} (call : Event)
    (alive : (g.world.peer? secure).isSome = true) :
    (calling E secure call g).freedCalls = g.freedCalls := by
  obtain ⟨p, live⟩ := Option.isSome_iff_exists.mp alive
  show (if (g.world.peer? secure).isNone then _ else _) = _
  rw [live]
  exact if_neg (by simp)

theorem Living.free (inv : Living E (c :: held) g) (there : g.objects[c]? = some o)
    (last : c ∉ held) (nowMs : UInt64) :
    Living E held (calling E o.secure (.drop o.secure nowMs) g) := by
  obtain ⟨u, found, closed⟩ := inv.resting c List.mem_cons_self
  rw [there] at found
  cases Option.some.inj found
  have distinct {d : Nat} {v : Connection} (there' : g.objects[d]? = some v) (other : d ≠ c)
      (t : UInt64) : Event.drop o.secure nowMs ≠ .drop v.secure t := by
    intro same
    injection same with equal
    exact other (inv.own d c v o there' there equal.symm)
  constructor
  · exact inv.connected
  · intro d v found' standing
    have there' : g.objects[d]? = some v := found'
    have other : d ≠ c := by
      rintro rfl
      rw [there] at there'
      cases Option.some.inj there'
      rcases standing with opened | member
      · exact opened closed
      · exact last member
    exact alive_step _ (inv.alive d v there' (standing.imp_right (List.mem_cons_of_mem c)))
      (distinct there' other)
  · exact fun d member => inv.resting d (List.mem_cons_of_mem c member)
  · exact inv.own
  · exact fun d v there' => lt_of_lt_of_le (inv.made d v there') (length_step g.world _)
  · intro d v found' msg3
    have there' : g.objects[d]? = some v := found'
    have other : d ≠ c := by
      rintro rfl
      rw [there] at there'
      cases Option.some.inj there'
      rw [closed] at msg3
      cases msg3
    obtain ⟨key, on, name, id⟩ := inv.answered d v there' msg3
    exact ⟨key, boundOn_step on (distinct there' other), name, id⟩
  · obtain ⟨es, before⟩ := inv.reached
    refine ⟨es ++ [.drop o.secure nowMs], ?_⟩
    unfold World.after at before ⊢
    rw [run_snoc, ← before]
    rfl
  · rw [calling_freedCalls _ (inv.alive c o there (Or.inr List.mem_cons_self))]
    exact inv.freedCalls
  · exact inv.keysMet
  · exact inv.cutOff

theorem Registered.free (inv : Registered joining none g members states)
    (living : Living E (c :: held) g) (there : g.objects[c]? = some o) (nowMs : UInt64) :
    Registered joining none (calling E o.secure (.drop o.secure nowMs) g) members states := by
  obtain ⟨u, found, closed⟩ := living.resting c List.mem_cons_self
  rw [there] at found
  cases Option.some.inj found
  refine ⟨inv.rooms, inv.ready, inv.joined, inv.routed, inv.replaced, inv.keyless, inv.entries, ?_⟩
  intro d v found' standing
  have there' : g.objects[d]? = some v := found'
  have other : d ≠ c := by
    rintro rfl
    rw [there] at there'
    cases Option.some.inj there'
    rcases standing with ready | joins
    · rw [closed] at ready
      cases ready
    · obtain ⟨w, found', msg3, _⟩ := inv.joined d joins
      rw [there] at found'
      cases Option.some.inj found'
      rw [closed] at msg3
      cases msg3
  obtain ⟨key, on, name, id⟩ := inv.authentic d v there' standing
  refine ⟨key, authenticatedOn_step on ?_, name, id⟩
  intro t same
  injection same with equal
  exact other (living.own d c v o there' there equal.symm)

end Freeing

/-! Registration. -/

section Joining

variable {E : SecureEnv HS} {held : List Nat} {g : Grid HS} {c : Nat} {o : Connection}
  {members : String → UInt32 → Entry} {states : OMap RouteSyncKey RouteSyncState}

theorem Registered.enter (inv : Registered none none g members states)
    (there : g.objects[c]? = some o) (msg3 : o.phase = .msg3) (authentic : Authentic g o) :
    Registered (some c) (g.rooms.get o.networkName o.peerId)
      { g with rooms := (g.rooms.set o.networkName o.peerId c).2 } members states := by
  have ready_other {d : Nat} {u : Connection} (there' : g.objects[d]? = some u)
      (ready : u.phase = .ready) : d ≠ c := by
    rintro rfl
    rw [there] at there'
    cases Option.some.inj there'
    rw [msg3] at ready
    cases ready
  have room_ready {n : String} {p : UInt32} {d : Nat} (found : g.rooms.get n p = some d) :
      ∃ u, g.objects[d]? = some u ∧ u.networkName = n ∧ u.peerId = p ∧ u.phase = .ready := by
    obtain ⟨u, there', name, id, ready | ⟨impossible, _⟩⟩ := inv.rooms n p d found
    · exact ⟨u, there', name, id, ready⟩
    · cases impossible
  constructor
  · intro n p d found
    rw [RoomRegistry.get_set] at found
    by_cases own : n = o.networkName ∧ p = o.peerId
    · rw [if_pos own] at found
      cases Option.some.inj found
      exact ⟨o, there, own.1.symm, own.2.symm, Or.inr ⟨rfl, msg3⟩⟩
    · rw [if_neg own] at found
      obtain ⟨u, there', name, id, ready⟩ := room_ready found
      exact ⟨u, there', name, id, Or.inl ready⟩
  · intro d u there' ready stays
    have found := inv.ready d u there' ready (by simp)
    rw [RoomRegistry.get_set, if_neg, found]
    rintro ⟨name, id⟩
    rw [name, id] at found
    exact stays found
  · intro d joins
    cases Option.some.inj joins
    refine ⟨o, there, msg3, ?_⟩
    rw [RoomRegistry.get_set, if_pos ⟨rfl, rfl⟩]
  · intro n p other
    rw [inv.routed n p (by simp)]
    by_cases own : n = o.networkName ∧ p = o.peerId
    · obtain ⟨rfl, rfl⟩ := own
      constructor
      · rintro ⟨d, found, _⟩
        obtain ⟨u, there', name, id, _⟩ := room_ready found
        exact absurd ⟨name, id⟩ (other d u found there')
      · rintro ⟨d, found, stays⟩
        rw [RoomRegistry.get_set, if_pos ⟨rfl, rfl⟩] at found
        exact absurd found stays
    · rw [RoomRegistry.get_set, if_neg own]
      constructor
      · rintro ⟨d, found, _⟩
        obtain ⟨u, there', _, _, ready⟩ := room_ready found
        refine ⟨d, found, ?_⟩
        intro same
        exact ready_other there' ready (Option.some.inj same).symm
      · rintro ⟨d, found, _⟩
        exact ⟨d, found, by simp⟩
  · intro d u e leaves there' found
    obtain ⟨v, there'', name, id, _⟩ := room_ready leaves
    have same : u = v := Option.some.inj (there'.symm.trans there'')
    rw [RoomRegistry.get_set, if_pos ⟨same ▸ name, same ▸ id⟩] at found
    exact Or.inr found
  · exact inv.keyless
  · exact inv.entries
  · intro d u there' standing
    rcases standing with ready | joins
    · exact inv.authentic d u there' (Or.inl ready)
    · cases Option.some.inj joins
      rw [there] at there'
      cases Option.some.inj there'
      exact authentic

theorem Registered.complete (inv : Registered (some c) none g members states)
    (there : g.objects[c]? = some o) (key : Key) {f : Connection → Connection}
    (ready : (f o).phase = .ready) (name : (f o).networkName = o.networkName)
    (id : (f o).peerId = o.peerId) (secure : (f o).secure = o.secure) :
    Registered none none { g with objects := g.objects.modify c f }
      (enroll members o.networkName o.peerId (some (), some key))
      (states.erase (o.networkName, o.peerId)) := by
  obtain ⟨o', there', msg3, room⟩ := inv.joined c rfl
  rw [there] at there'
  cases Option.some.inj there'
  have completed : (g.objects.modify c f)[c]? = some (f o) := by
    have found := @object_modified g.objects c c f o there
    rw [if_pos rfl] at found
    exact found
  have later {d : Nat} {u : Connection} (found : g.objects[d]? = some u)
      (standing : u.phase = .ready) : d ≠ c ∧ (g.objects.modify c f)[d]? = some u := by
    have other : d ≠ c := by
      rintro rfl
      rw [there] at found
      cases Option.some.inj found
      rw [msg3] at standing
      cases standing
    have found' := @object_modified g.objects c d f u found
    rw [if_neg other] at found'
    exact ⟨other, found'⟩
  have earlier {d : Nat} {u : Connection} (found : (g.objects.modify c f)[d]? = some u) :
      d = c ∧ u = f o ∨ d ≠ c ∧ g.objects[d]? = some u := by
    obtain ⟨v, found', same⟩ := modified_object found
    by_cases own : d = c
    · subst own
      rw [there] at found'
      cases Option.some.inj found'
      rw [if_pos rfl] at same
      exact Or.inl ⟨rfl, same⟩
    · rw [if_neg own] at same
      exact Or.inr ⟨own, same ▸ found'⟩
  constructor
  · intro n p d found
    obtain ⟨u, found', name', id', standing | ⟨joins, _⟩⟩ := inv.rooms n p d found
    · exact ⟨u, (later found' standing).2, name', id', Or.inl standing⟩
    · cases Option.some.inj joins
      rw [there] at found'
      cases Option.some.inj found'
      exact ⟨f o, completed, name.trans name', id.trans id', Or.inl ready⟩
  · intro d u found standing _
    rcases earlier found with ⟨rfl, rfl⟩ | ⟨_, found'⟩
    · rw [name, id]
      exact room
    · exact inv.ready d u found' standing (by simp)
  · intro d impossible
    cases impossible
  · intro n p _
    by_cases own : n = o.networkName ∧ p = o.peerId
    · rw [enroll, if_pos own]
      obtain ⟨rfl, rfl⟩ := own
      exact iff_of_true rfl ⟨c, room, by simp⟩
    · rw [enroll, if_neg own, inv.routed n p (by simp)]
      constructor
      · rintro ⟨d, found, _⟩
        exact ⟨d, found, by simp⟩
      · rintro ⟨d, found, _⟩
        refine ⟨d, found, ?_⟩
        intro joins
        cases Option.some.inj joins
        obtain ⟨name', id'⟩ := inv.placed found there
        exact own ⟨name'.symm, id'.symm⟩
  · intro d u e impossible
    cases impossible
  · intro n p
    unfold enroll
    split
    · intro impossible
      cases impossible
    · exact inv.keyless n p
  · intro key' state found
    obtain ⟨⟨d, u, found', standing, same⟩, own⟩ :=
      inv.entries.erase (o.networkName, o.peerId) key' state found
    exact ⟨⟨d, u, (later found' standing).2, standing, same⟩, own⟩
  · intro d u found standing
    rcases earlier found with ⟨rfl, rfl⟩ | ⟨_, found'⟩
    · obtain ⟨key', on, name', id'⟩ := inv.authentic d o there (Or.inr rfl)
      refine ⟨key', ?_, name'.trans name.symm, id'.trans id.symm⟩
      rw [secure]
      exact on
    · refine inv.authentic d u found' (Or.inl ?_)
      rcases standing with standing | impossible
      · exact standing
      · cases impossible

theorem Registered.unbound (inv : Registered (some c) none g members states)
    (there : g.objects[c]? = some o) : (members o.networkName o.peerId).2 = none := by
  apply inv.keyless
  obtain ⟨o', there', _, room⟩ := inv.joined c rfl
  rw [there] at there'
  cases Option.some.inj there'
  rw [← Option.not_isSome_iff_eq_none, inv.routed o.networkName o.peerId (by simp)]
  rintro ⟨d, found, stays⟩
  rw [room] at found
  exact stays found

end Joining

/-! New connections. -/

section Opening

variable {E : SecureEnv HS} {g : Grid HS} {members : String → UInt32 → Entry}
  {states : OMap RouteSyncKey RouteSyncState} {o : Connection}

/-- The server with a new connection. -/
def opening (E : SecureEnv HS) (call : Event) (o : Connection) (g : Grid HS) : Grid HS :=
  { g with
    world := (g.world.perform E call).1
    objects := g.objects ++ [o]
    connections := g.connections ++ [g.objects.length] }

theorem opened_object {d : Nat} {u : Connection} (there : (g.objects ++ [o])[d]? = some u) :
    g.objects[d]? = some u ∨ d = g.objects.length ∧ u = o := by
  rw [List.getElem?_append] at there
  split at there
  · exact Or.inl there
  · rename_i beyond
    have last : d - g.objects.length = 0 := by
      by_contra more
      rw [List.getElem?_singleton, if_neg more] at there
      cases there
    rw [last] at there
    exact Or.inr ⟨by omega, (Option.some.inj there).symm⟩

theorem object_opened {d : Nat} {u : Connection} (there : g.objects[d]? = some u) :
    (g.objects ++ [o])[d]? = some u := by
  rw [List.getElem?_append_left (List.getElem?_eq_some_iff.mp there).1]
  exact there

theorem Living.opening {call : Event} (inv : Living E [] g)
    (kept : ∀ i nowMs, call ≠ .drop i nowMs) (secure : o.secure = g.world.peers.length)
    (unanswered : o.phase ≠ .msg3)
    (grown : ((g.world.perform E call).1.peer? o.secure).isSome = true) :
    Living E [] (Ledger.opening E call o g) := by
  constructor
  · intro d u there' opened
    rcases opened_object there' with there | ⟨rfl, _⟩
    · exact List.mem_append_left _ (inv.connected d u there opened)
    · exact List.mem_append_right _ List.mem_cons_self
  · intro d u there' standing
    rcases opened_object there' with there | ⟨_, rfl⟩
    · exact alive_step _ (inv.alive d u there standing) (kept u.secure)
    · exact grown
  · intro d impossible
    cases impossible
  · intro d e u v there' there'' equal
    rcases opened_object there' with there | ⟨rfl, rfl⟩
    · rcases opened_object there'' with other | ⟨_, rfl⟩
      · exact inv.own d e u v there other equal
      · have old := inv.made d u there
        omega
    · rcases opened_object there'' with other | ⟨rfl, _⟩
      · have old := inv.made e v other
        omega
      · rfl
  · intro d u there'
    rcases opened_object there' with there | ⟨_, rfl⟩
    · exact lt_of_lt_of_le (inv.made d u there) (length_step g.world call)
    · obtain ⟨p, live⟩ := Option.isSome_iff_exists.mp grown
      exact Secure.Steps.peer?_lt live
  · intro d u there' msg3
    rcases opened_object there' with there | ⟨_, rfl⟩
    · obtain ⟨key, on, name, id⟩ := inv.answered d u there msg3
      exact ⟨key, boundOn_step on (kept u.secure), name, id⟩
    · exact absurd msg3 unanswered
  · obtain ⟨es, before⟩ := inv.reached
    refine ⟨es ++ [call], ?_⟩
    unfold World.after at before ⊢
    rw [run_snoc, ← before]
    rfl
  · exact inv.freedCalls
  · exact inv.keysMet
  · exact inv.cutOff

theorem Registered.opening {call : Event} (inv : Registered none none g members states)
    (kept : ∀ i nowMs, call ≠ .drop i nowMs) (unready : o.phase ≠ .ready) :
    Registered none none (Ledger.opening E call o g) members states := by
  have earlier {d : Nat} {u : Connection} (there : (g.objects ++ [o])[d]? = some u)
      (ready : u.phase = .ready) : g.objects[d]? = some u := by
    rcases opened_object there with before | ⟨_, rfl⟩
    · exact before
    · exact absurd ready unready
  constructor
  · intro n p d found
    obtain ⟨u, there, name, id, standing⟩ := inv.rooms n p d found
    exact ⟨u, object_opened there, name, id, standing⟩
  · intro d u there ready stays
    exact inv.ready d u (earlier there ready) ready stays
  · intro d impossible
    cases impossible
  · intro n p _
    exact inv.routed n p (by simp)
  · intro d u e impossible
    cases impossible
  · exact inv.keyless
  · intro key state found
    obtain ⟨⟨d, u, there, ready, same⟩, own⟩ := inv.entries key state found
    exact ⟨⟨d, u, object_opened there, ready, same⟩, own⟩
  · intro d u there standing
    rcases standing with ready | impossible
    · obtain ⟨key, on, name, id⟩ := inv.authentic d u (earlier there ready) (Or.inl ready)
      exact ⟨key, authenticatedOn_step on (kept u.secure), name, id⟩
    · cases impossible

end Opening

end EasyTierEdge.Server.Ledger
