/- module: EasyTierEdge/Server/Books
   source: cloudflare/src/server.ts, cloudflare/src/runtime/connection.ts
   digest: What sends, readings and calls into the core leave as it is. -/

import EasyTierEdge.Rpc.RouteMembers
import EasyTierEdge.Rpc.SchedulerRules
import EasyTierEdge.Secure.LiveSession
import EasyTierEdge.Server.Relay

set_option autoImplicit false
set_option relaxedAutoImplicit false

namespace EasyTierEdge.Server.Books

open Lib.Fallible Lib.FiniteMap Lib.Machine Lib.OrderedMap
open Packet (Bytes)
open Rpc.Core (WasmRpcCore)
open Rpc.Scheduler (RpcPeer)
open Rpc.CoreHost (Hosted onCore onAmbient ensures_onCore ensures_onAmbient)
open Rpc.RouteMembers (Steady)
open Rpc.SchedulerRules (HostKeeps)
open Secure.Session Secure.Peer Secure.Connections Secure.Steps
open Secure.LiveSession (AuthenticatedOn BoundOn alive_step authenticatedOn_step boundOn_step)
open Rooms Sockets Relay

variable {HS : Type}

/-! Calls that neither make nor free an object. -/

def Lasting : Event → Prop
  | .construct .. => False
  | .drop .. => False
  | _ => True

private theorem Lasting.kept {e : Event} (lasting : Lasting e) (i : Nat) (nowMs : UInt64) :
    e ≠ .drop i nowMs := by
  rintro rfl
  exact lasting

section World

variable {E : SecureEnv HS} {w : World HS}

private theorem length_lasting {e : Event} (lasting : Lasting e) :
    (w.step E e).peers.length = w.peers.length := by
  have moved := perform_cases E w e
  unfold World.step
  generalize w.perform E e = out at moved ⊢
  cases moved with
  | idle => rfl
  | constructed => exact lasting.elim
  | readMsg1 => simp [World.put]
  | buildMsg2 => simp [World.put]
  | finishMsg3 => simp [World.put]
  | encrypt => simp [World.put]
  | decrypt => simp [World.put]
  | dropped => exact lasting.elim

variable {es : List Event} (lasting : ∀ e ∈ es, Lasting e)

include lasting

private theorem length_run_lasting : (run (World.step E) w es).peers.length = w.peers.length := by
  induction es generalizing w with
  | nil => rfl
  | cons e es ih =>
    rw [run_cons, ih fun e' member => lasting e' (List.mem_cons_of_mem e member)]
    exact length_lasting (lasting e List.mem_cons_self)

private theorem alive_run {i : Nat} (alive : (w.peer? i).isSome = true) :
    ((run (World.step E) w es).peer? i).isSome = true := by
  induction es generalizing w with
  | nil => exact alive
  | cons e es ih =>
    rw [run_cons]
    apply ih fun e' member => lasting e' (List.mem_cons_of_mem e member)
    exact alive_step e alive ((lasting e List.mem_cons_self).kept i)

private theorem authenticatedOn_run {i : Nat} {key : SessionKey} (on : AuthenticatedOn w i key) :
    AuthenticatedOn (run (World.step E) w es) i key := by
  induction es generalizing w with
  | nil => exact on
  | cons e es ih =>
    rw [run_cons]
    apply ih fun e' member => lasting e' (List.mem_cons_of_mem e member)
    exact authenticatedOn_step on ((lasting e List.mem_cons_self).kept i)

private theorem boundOn_run {i : Nat} {key : SessionKey} (on : BoundOn w i key) :
    BoundOn (run (World.step E) w es) i key := by
  induction es generalizing w with
  | nil => exact on
  | cons e es ih =>
    rw [run_cons]
    apply ih fun e' member => lasting e' (List.mem_cons_of_mem e member)
    exact boundOn_step on ((lasting e List.mem_cons_self).kept i)

end World

/-! The books of the server: everything but readings, send windows and the insides of the live
`SecurePeer`s. -/

/-- A connection without its send window. -/
def card (o : Connection) : Connection :=
  { o with sendWindowStartedAt := 0, sentBytesInWindow := 0, sentFramesInWindow := 0 }

theorem rpcPeer_card (c : Nat) (o : Connection) : rpcPeer c (card o) = rpcPeer c o := rfl

theorem shown {α : Type} (field : Connection → α) {o o' : Connection} (cards : card o' = card o)
    (kept : ∀ o, field (card o) = field o) : field o' = field o := by
  rw [← kept o', cards, kept]

structure SameBooks (E : SecureEnv HS) (g g' : Grid HS) : Prop where
  cards : g'.objects.map card = g.objects.map card
  connections : g'.connections = g.connections
  rooms : g'.rooms = g.rooms
  world : ∃ es, g'.world = run (World.step E) g.world es ∧ ∀ e ∈ es, Lasting e
  freedCalls : g'.freedCalls = g.freedCalls
  forwards : g'.forwards = g.forwards
  keysMet : g'.keysMet = g.keysMet
  history : g'.history = g.history
  inputs : g'.inputs = g.inputs
  cutOff : g'.cutOff = g.cutOff

namespace SameBooks

variable {E : SecureEnv HS} {g g' g'' : Grid HS}

theorem refl (g : Grid HS) : SameBooks E g g :=
  ⟨rfl, rfl, rfl, ⟨[], rfl, by simp⟩, rfl, rfl, rfl, rfl, rfl, rfl⟩

theorem trans (first : SameBooks E g g') (second : SameBooks E g' g'') : SameBooks E g g'' := by
  obtain ⟨es, moved, lasting⟩ := first.world
  obtain ⟨es', moved', lasting'⟩ := second.world
  refine ⟨second.cards.trans first.cards, second.connections.trans first.connections,
    second.rooms.trans first.rooms, ⟨es ++ es', ?_, ?_⟩, second.freedCalls.trans first.freedCalls,
    second.forwards.trans first.forwards, second.keysMet.trans first.keysMet,
    second.history.trans first.history, second.inputs.trans first.inputs,
    second.cutOff.trans first.cutOff⟩
  · rw [run_append, ← moved, moved']
  · intro e member
    rcases List.mem_append.mp member with before | after
    · exact lasting e before
    · exact lasting' e after

theorem tick (g : Grid HS) : SameBooks E g { g with tick := g.tick + 1 } :=
  ⟨rfl, rfl, rfl, ⟨[], rfl, by simp⟩, rfl, rfl, rfl, rfl, rfl, rfl⟩

theorem modified (g : Grid HS) (c : Nat) {f : Connection → Connection}
    (same : ∀ o, card (f o) = card o) :
    SameBooks E g { g with objects := g.objects.modify c f } := by
  refine ⟨?_, rfl, rfl, ⟨[], rfl, by simp⟩, rfl, rfl, rfl, rfl, rfl, rfl⟩
  apply List.ext_getElem?
  intro d
  simp only [List.getElem?_map, List.getElem?_modify]
  cases g.objects[d]? with
  | none => rfl
  | some o =>
    by_cases own : c = d
    · simp [own, same]
    · simp [own]

theorem called {call : Event} {secure : Nat} (alive : (g.world.peer? secure).isSome = true)
    (lasting : Lasting call) :
    SameBooks E g { g with
      world := (g.world.perform E call).1
      freedCalls := if (g.world.peer? secure).isNone then g.freedCalls ++ [secure]
        else g.freedCalls } := by
  refine ⟨rfl, rfl, rfl, ⟨[call], rfl, ?_⟩, if_neg ?_, rfl, rfl, rfl, rfl, rfl⟩
  · intro e member
    rw [List.mem_singleton.mp member]
    exact lasting
  · obtain ⟨p, live⟩ := Option.isSome_iff_exists.mp alive
    rw [live]
    simp

private theorem card_eq (same : SameBooks E g g') (c : Nat) :
    (g'.objects[c]?).map card = (g.objects[c]?).map card := by
  rw [← List.getElem?_map, same.cards, List.getElem?_map]

theorem object (same : SameBooks E g g') {c : Nat} {o' : Connection}
    (there : g'.objects[c]? = some o') : ∃ o, g.objects[c]? = some o ∧ card o' = card o := by
  have equal := same.card_eq c
  rw [there] at equal
  obtain ⟨o, found, cards⟩ := Option.map_eq_some_iff.mp equal.symm
  exact ⟨o, found, cards.symm⟩

theorem object' (same : SameBooks E g g') {c : Nat} {o : Connection}
    (there : g.objects[c]? = some o) : ∃ o', g'.objects[c]? = some o' ∧ card o' = card o := by
  have equal := same.card_eq c
  rw [there] at equal
  obtain ⟨o', found, cards⟩ := Option.map_eq_some_iff.mp equal
  exact ⟨o', found, cards⟩

theorem alive (same : SameBooks E g g') {i : Nat} (alive : (g.world.peer? i).isSome = true) :
    (g'.world.peer? i).isSome = true := by
  obtain ⟨es, moved, lasting⟩ := same.world
  rw [moved]
  exact alive_run lasting alive

theorem length (same : SameBooks E g g') : g'.world.peers.length = g.world.peers.length := by
  obtain ⟨es, moved, lasting⟩ := same.world
  rw [moved]
  exact length_run_lasting lasting

theorem authenticatedOn (same : SameBooks E g g') {i : Nat} {key : SessionKey}
    (on : AuthenticatedOn g.world i key) : AuthenticatedOn g'.world i key := by
  obtain ⟨es, moved, lasting⟩ := same.world
  rw [moved]
  exact authenticatedOn_run lasting on

theorem boundOn (same : SameBooks E g g') {i : Nat} {key : SessionKey}
    (on : BoundOn g.world i key) : BoundOn g'.world i key := by
  obtain ⟨es, moved, lasting⟩ := same.world
  rw [moved]
  exact boundOn_run lasting on

end SameBooks

/-! Operations that keep the books. -/

section Operations

variable {E : SecureEnv HS} {g : Grid HS}

theorem keeps_reading {α : Type} (input : Inputs → Nat → α) :
    Keeps (SameBooks E g) (reading input : GridM HS α) :=
  fun g' same => same.trans (.tick g')

private theorem keeps_update (c : Nat) {f : Connection → Connection}
    (kept : ∀ o, card (f o) = card o) :
    Keeps (SameBooks E g) (update c f : GridM HS Unit) :=
  fun g' same => same.trans (.modified g' c kept)

theorem ensures_object {c : Nat} {ok : Connection → Grid HS → Prop}
    {err : String → Grid HS → Prop} :
    Ensures (object c) g ok err ↔
      (∀ o, g.objects[c]? = some o → ok o g) ∧
        (g.objects[c]? = none → err "undefined connection" g) := by
  unfold object
  rw [ensures_bind, ensures_get]
  cases g.objects[c]? with
  | none => simp
  | some o => simp

private theorem keeps_secureCall {secure : Nat} {call : Event}
    (alive : (g.world.peer? secure).isSome = true) (lasting : Lasting call) :
    Keeps (SameBooks E g) (secureCall E secure call) :=
  fun _ same => same.trans (.called (same.alive alive) lasting)

private theorem keeps_returned (outcome : Outcome) :
    Keeps (SameBooks E g) (returned outcome : GridM HS Bytes) := by
  intro g' same
  cases outcome with
  | data result =>
    cases result with
    | ok bytes => exact same
    | error e => exact same
  | _ => exact same

private theorem keeps_encrypt {c : Nat} {o : Connection} (there : g.objects[c]? = some o)
    (alive : (g.world.peer? o.secure).isSome = true) (packet : Bytes) :
    Keeps (SameBooks E g) (encrypt E c packet) := by
  intro g' same
  unfold encrypt
  rw [ensures_bind, ensures_object]
  refine ⟨?_, fun _ => same⟩
  intro o' there'
  obtain ⟨o₀, there₀, cards⟩ := same.object there'
  have same_object : o₀ = o := Option.some.inj (there₀.symm.trans there)
  have own : o'.secure = o.secure := by
    rw [← same_object]
    exact shown Connection.secure cards fun _ => rfl
  rw [own]
  have rest : Keeps (SameBooks E g) (do
      let rotateMs ← reading Inputs.secureNow
      let persistMs ← reading Inputs.secureNow
      let outcome ← secureCall E o.secure (.encrypt o.secure packet rotateMs persistMs)
      returned outcome) := by
    apply (keeps_reading _).bind
    intro rotateMs
    apply (keeps_reading _).bind
    intro persistMs
    have lasting : Lasting (.encrypt o.secure packet rotateMs persistMs) := trivial
    exact (keeps_secureCall alive lasting).bind keeps_returned
  exact rest g' same

private theorem keeps_sent (sent : Sent) : Keeps (SameBooks E g)
    (modify fun g => { g with sends := g.sends ++ [sent] } : GridM HS Unit) :=
  fun _ same => same.trans ⟨rfl, rfl, rfl, ⟨[], rfl, by simp⟩, rfl, rfl, rfl, rfl, rfl, rfl⟩

theorem keeps_sendConnection (c : Nat) (packet : Bytes) :
    Keeps (SameBooks E g) (sendConnection c packet : GridM HS Unit) := by
  apply (keeps_reading _).bind
  intro now
  refine (keeps_update c ?_).bind fun _ => ?_
  · intro o
    unfold Connection.window
    split
    · rfl
    · rfl
  · intro g' same
    rw [ensures_bind, ensures_object]
    refine ⟨?_, fun _ => same⟩
    intro o _
    refine Keeps.ite (fun _ => keeps_throw _) (fun _ => ?_) g' same
    apply (keeps_reading _).bind
    intro readyState
    apply Keeps.ite (fun _ => keeps_throw _)
    intro _
    refine (keeps_update c ?_).bind fun _ => ?_
    · exact fun _ => rfl
    · refine (keeps_sent _).bind fun _ => ?_
      apply (keeps_reading _).bind
      intro sent
      cases sent with
      | ok _ => exact keeps_pure _
      | error e => exact keeps_throw e

end Operations

/-! Calls of the scheduler. -/

/-- The peer is a ready connection. -/
def Enrolled (g : Grid HS) (peer : RpcPeer) : Prop :=
  ∃ c o, g.objects[c]? = some o ∧ o.phase = .ready ∧ peer = rpcPeer c o

/-- Ready connections have a `SecurePeer`. -/
def ReadyAlive (g : Grid HS) : Prop :=
  ∀ (c : Nat) (o : Connection), g.objects[c]? = some o → o.phase = .ready →
    (g.world.peer? o.secure).isSome = true

theorem Enrolled.same {E : SecureEnv HS} {g g' : Grid HS} (same : SameBooks E g g')
    {peer : RpcPeer} (enrolled : Enrolled g peer) : Enrolled g' peer := by
  obtain ⟨c, o, there, ready, rfl⟩ := enrolled
  obtain ⟨o', there', cards⟩ := same.object' there
  refine ⟨c, o', there', ?_, ?_⟩
  · exact (shown Connection.phase cards fun _ => rfl).trans ready
  · rw [← rpcPeer_card c o', cards, rpcPeer_card]

variable (V : ServerEnv HS)

/-- The books are the same, and the core knows the same members. -/
structure Quiet (h h' : Hosted (Grid HS)) : Prop where
  books : SameBooks V.secure h.ambient h'.ambient
  core : Steady h.core h'.core

variable {V} {h : Hosted (Grid HS)}

theorem Quiet.refl (h : Hosted (Grid HS)) : Quiet V h h := ⟨.refl h.ambient, .refl h.core⟩

theorem keeps_onAmbient {α : Type} {op : GridM HS α}
    (kept : Keeps (SameBooks V.secure h.ambient) op) :
    Keeps (Quiet V h) (onAmbient op) := by
  intro h' quiet
  rw [ensures_onAmbient]
  exact (kept h'.ambient quiet.books).mono (fun _ _ books => ⟨books, quiet.core⟩)
    fun _ _ books => ⟨books, quiet.core⟩

private theorem keeps_onCore {α : Type} {call : Rpc.CoreRuns.CoreCall}
    {op : Rpc.Routes.Host → Rpc.Core.CoreM α}
    (steady : ∀ host c, Ensures (op host) c (fun _ c' => Steady c c') (fun _ c' => Steady c c')) :
    Keeps (Quiet V h) (onCore (surroundings V.secure) call op) := by
  intro h' quiet
  rw [ensures_onCore]
  have ticked : SameBooks V.secure h.ambient ((surroundings V.secure).supply h'.ambient).2 :=
    quiet.books.trans (.tick h'.ambient)
  exact (steady _ h'.core).mono (fun _ _ kept => ⟨ticked, quiet.core.trans kept⟩)
    fun _ _ kept => ⟨ticked, quiet.core.trans kept⟩

theorem quiet_host (alive : ReadyAlive h.ambient) :
    HostKeeps (host V) (Quiet V h) (Enrolled h.ambient) := by
  constructor
  · exact fun h' quiet => ⟨quiet.books.trans (.tick h'.ambient), quiet.core⟩
  · intro nowMs
    exact @keeps_onCore HS V h Unit _ (fun host => WasmRpcCore.cleanExpired V.rpc host nowMs)
      fun _ _ => Rpc.RouteMembers.steady_cleanExpired nowMs
  · intro peer _ payload nowMs
    exact @keeps_onCore HS V h Bytes _
      (fun host => WasmRpcCore.handleRequest V.rpc host peer.networkName peer.peerId payload nowMs)
      fun _ _ => Rpc.RouteMembers.steady_handleRequest payload nowMs
  · intro peer _ payload nowMs
    exact @keeps_onCore HS V h Bool _
      (fun host => WasmRpcCore.handleResponse V.rpc host peer.networkName peer.peerId payload nowMs)
      fun _ _ => Rpc.RouteMembers.steady_handleResponse payload nowMs
  · intro peer _ forceFull nowMs
    exact @keeps_onCore HS V h Bytes _
      (fun host => WasmRpcCore.buildRouteUpdate V.rpc host peer.networkName peer.peerId
        peer.serverSessionId forceFull nowMs)
      fun _ _ => Rpc.RouteMembers.steady_buildRouteUpdate peer.serverSessionId forceFull nowMs
  · intro peer enrolled packet
    obtain ⟨c, o, there, ready, rfl⟩ := enrolled
    exact keeps_onAmbient (keeps_encrypt there (alive c o there ready) packet)
  · exact fun peer _ packet => keeps_onAmbient (keeps_sendConnection peer.handle packet)

end EasyTierEdge.Server.Books
