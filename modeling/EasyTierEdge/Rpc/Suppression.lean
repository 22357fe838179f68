/- module: EasyTierEdge/Rpc/Suppression
   source: cloudflare/wasm/src/rpc.rs, build_route_update and handle_response
   digest: Every run of the core is a run of its route state; what it leaves out is known. -/

import EasyTierEdge.Rpc.TopologyKnown
import EasyTierEdge.Rpc.Transactions

set_option autoImplicit false
set_option relaxedAutoImplicit false

namespace EasyTierEdge.Rpc.Suppression

open Lib.AscendingMap Lib.Fallible Lib.FiniteMap Lib.Machine
open Packet (Bytes)
open Proto Routes PeerCenter Fragments Rpc.Core CoreMoves CoreRuns Transactions
open RouteRuns (RouteCall Built)
open RouteMoves (dst)
open RouteWorld (World Op Event Acked calls)
open TopologyKnown (SameTopologyInfo freshConnInfo topologyOf)

variable (E : Env)

/-- How often the topology of a network changes in a run. -/
def topologyChanges (network : String) (c : WasmRpcCore) (es : List CoreEvent) : Nat :=
  (log (step E) (fun c e =>
    if topologyOf network (step E c e).routes = topologyOf network c.routes then none
    else some e.call) c es).length

/-- Updates are built for members only, and the relay itself does not join. -/
structure MembersOnly (network : String) (serverPeerId : UInt32) (_pre : List CoreEvent)
    (c : WasmRpcCore) (e : CoreEvent) : Prop where
  target : ∀ t serverSessionId forceFull nowMs,
    e.call = .buildRouteUpdate network t serverSessionId forceFull nowMs →
    ∃ g, c.routes.groups.lookup network = some g ∧ t ∈ g.peers.keys
  joining : ∀ publicKey, e.call ≠ .addPeer network serverPeerId publicKey

/-- Nor does the relay leave, where it never was. -/
structure Orderly (network : String) (serverPeerId : UInt32) (pre : List CoreEvent)
    (c : WasmRpcCore) (e : CoreEvent) : Prop extends
    MembersOnly network serverPeerId pre c e where
  leaving : e.call ≠ .removePeer network serverPeerId

variable {E}

private theorem topologyChanges_snoc (network : String) (c : WasmRpcCore) (es : List CoreEvent)
    (e : CoreEvent) :
    topologyChanges E network c (es ++ [e]) = topologyChanges E network c es +
      if topologyOf network (step E (run (step E) c es) e).routes =
        topologyOf network (run (step E) c es).routes then 0 else 1 := by
  rw [topologyChanges, log_snoc, List.length_append]
  congr 1
  split
  · rfl
  · rfl

/-! What one call of the core asks of the route state. -/

/-- An operation on the relay's own info. -/
inductive Field : Op → Prop
  | info (network field value : String) : Field (.setMyInfoField network field value)
  | key (network : String) (publicKey : Bytes) : Field (.setMyNoisePublicKey network publicKey)

/-- The operations of a call that is not a response. -/
inductive Shadow (c : WasmRpcCore) (e : CoreEvent) : List Op → Prop
  | idle (unbuilt : ∀ network peerId serverSessionId forceFull nowMs,
      e.call ≠ .buildRouteUpdate network peerId serverSessionId forceFull nowMs) : Shadow c e []
  | joined (network : String) (peerId : UInt32) (publicKey : Bytes) (fields : List Op)
      (call : e.call = .addPeer network peerId publicKey) (own : ∀ op ∈ fields, Field op) :
      Shadow c e (.addPeer network peerId publicKey :: fields)
  | left (network : String) (peerId : UInt32) (call : e.call = .removePeer network peerId) :
      Shadow c e [.removePeer network peerId]
  | synced (network : String) (peerId : UInt32) (payload request : Bytes) (nowMs : UInt64)
      (call : e.call = .handleRequest network peerId payload nowMs) :
      Shadow c e [.sync network peerId request]
  | built (network : String) (peerId : UInt32) (serverSessionId : UInt64) (forceFull : Bool)
      (nowMs : UInt64)
      (call : e.call = .buildRouteUpdate network peerId serverSessionId forceFull nowMs) :
      Shadow c e [.build network peerId serverSessionId
        ((c.peerInitiator.lookup (network, peerId)).getD true) forceFull]

/-- The calls of operations that acknowledge nothing. -/
def plainCalls (host : Host) (ops : List Op) : List RouteRuns.RouteEvent :=
  (ops.flatMap (calls [])).map (⟨host, ·⟩)

private theorem shadow_of_step {c : WasmRpcCore} {e : CoreEvent}
    (other : ∀ network peerId payload nowMs,
      e.call ≠ .handleResponse network peerId payload nowMs) :
    ∃ ops, Shadow c e ops ∧ (step E c e).routes =
      run (RouteRuns.step E.codec) c.routes (plainCalls e.host ops) := by
  obtain ⟨host, call⟩ := e
  have move := @step_moves E c ⟨host, call⟩
  generalize left : step E c ⟨host, call⟩ = c' at move ⊢
  generalize answer : outcome E c ⟨host, call⟩ = r at move
  have joins {network : String} {peerId : UInt32} {publicKey : Bytes}
      {initiators : FMap (String × UInt32) Bool}
      (joined : Joined E host network peerId publicKey c c' initiators) :
      ∃ ops, Shadow c ⟨host, .addPeer network peerId publicKey⟩ ops ∧ c'.routes =
        run (RouteRuns.step E.codec) c.routes (plainCalls host ops) := by
    obtain ⟨made, groups, some_of, occupied, rfl⟩ := joined.after
    cases made with
    | nil => exact absurd rfl occupied
    | cons first rest =>
      obtain ⟨rfl, some_rest⟩ := List.cons_prefix_cons.mp some_of
      have fields (ops : List Op) (own : ∀ op ∈ ops, Field op)
          (same : rest = ops.flatMap (calls [])) :
          ∃ ops, Shadow c ⟨host, .addPeer network peerId publicKey⟩ ops ∧
            run (RouteRuns.step E.codec) c.routes
              ((RouteCall.addPeer network peerId publicKey :: rest).map (⟨host, ·⟩)) =
            run (RouteRuns.step E.codec) c.routes (plainCalls host ops) :=
        ⟨.addPeer network peerId publicKey :: ops, .joined network peerId publicKey ops rfl own,
          by rw [same]; rfl⟩
      cases rest with
      | nil => exact fields [] (by simp) rfl
      | cons second rest =>
        obtain ⟨rfl, some_last⟩ := List.cons_prefix_cons.mp some_rest
        cases rest with
        | nil =>
          refine fields [.setMyInfoField network "hostname" c.hostname] ?_ rfl
          intro op member
          rw [List.mem_singleton.mp member]
          exact .info _ _ _
        | cons third rest =>
          obtain ⟨rfl, none_left⟩ := List.cons_prefix_cons.mp some_last
          obtain rfl := List.prefix_nil.mp none_left
          refine fields [.setMyInfoField network "hostname" c.hostname,
            .setMyNoisePublicKey network c.publicKey] ?_ rfl
          intro op member
          rcases List.mem_cons.mp member with rfl | member
          · exact .info _ _ _
          · rw [List.mem_singleton.mp member]
            exact .key _ _
  cases move with
  | added network peerId publicKey _ _ joined => exact joins joined
  | unadded network peerId publicKey _ _ joined => exact joins joined
  | removed network peerId => exact ⟨_, .left network peerId rfl, rfl⟩
  | requested network peerId payload nowMs _ _ move =>
    cases move with
    | rejected => exact ⟨[], .idle (by simp), rfl⟩
    | merged packet decoded envelope r fragments move _ served =>
      cases served with
      | nothing => exact ⟨[], .idle (by simp), rfl⟩
      | synced request sync decoded =>
        exact ⟨_, .synced network peerId payload request nowMs rfl, rfl⟩
      | centered => exact ⟨[], .idle (by simp), rfl⟩
  | accepted network peerId payload nowMs => exact absurd rfl (other network peerId payload nowMs)
  | unaccepted network peerId payload nowMs => exact absurd rfl (other network peerId payload nowMs)
  | built network peerId serverSessionId forceFull nowMs payload _ transactionId update move =>
    rw [move.after]
    exact ⟨_, .built network peerId serverSessionId forceFull nowMs rfl, rfl⟩
  | unbuilt network peerId serverSessionId forceFull nowMs e =>
    exact ⟨_, .built network peerId serverSessionId forceFull nowMs rfl, rfl⟩
  | cleaned nowMs => exact ⟨[], .idle (by simp), rfl⟩

/-! The same operations on the route state alone. -/

section Shadowing

variable {codec : Codec} {host : Host} {network : String} {c : WasmRpcCore} {e : CoreEvent}
  {op : Op} {ops : List Op} {w : World} {ws : List Event}

def shadowing (host : Host) (ops : List Op) : List Event := ops.map (⟨host, ·⟩)

/-- An operation that acknowledges nothing. -/
def Plain (op : Op) : Prop := ∀ k sid weAreInitiator, op ≠ .ack k sid weAreInitiator

private theorem Field.plain (own : Field op) : Plain op := by
  intro k sid weAreInitiator named
  cases own with
  | info => cases named
  | key => cases named

private theorem Shadow.plain (shadow : Shadow c e ops) : ∀ op ∈ ops, Plain op := by
  have single {op : Op} (plain : Plain op) : ∀ op' ∈ [op], Plain op' := by
    intro op' member
    rw [List.mem_singleton.mp member]
    exact plain
  cases shadow with
  | idle => simp
  | joined network peerId publicKey fields call own =>
    intro op member
    rcases List.mem_cons.mp member with rfl | member
    · intro k sid weAreInitiator named
      cases named
    · exact (own op member).plain
  | left => exact single fun _ _ _ named => by cases named
  | synced => exact single fun _ _ _ named => by cases named
  | built => exact single fun _ _ _ named => by cases named

private theorem calls_plain (plain : Plain op) (built : List Built) :
    calls built op = calls [] op := by
  cases op with
  | ack k sid weAreInitiator => exact absurd rfl (plain k sid weAreInitiator)
  | _ => rfl

private theorem run_shadowing (w : World) (plain : ∀ op ∈ ops, Plain op) :
    (run (RouteWorld.step codec) w (shadowing host ops)).routes =
      run (RouteRuns.step codec) w.routes (plainCalls host ops) := by
  induction ops generalizing w with
  | nil => rfl
  | cons op ops ih =>
    have first : (RouteWorld.step codec w ⟨host, op⟩).routes =
        run (RouteRuns.step codec) w.routes ((calls [] op).map (⟨host, ·⟩)) := by
      rw [← calls_plain (plain op List.mem_cons_self) w.built]
      rfl
    have rest := ih (RouteWorld.step codec w ⟨host, op⟩)
      fun op' member => plain op' (List.mem_cons_of_mem op member)
    have split : plainCalls host (op :: ops) =
        (calls [] op).map (⟨host, ·⟩) ++ plainCalls host ops := by
      unfold plainCalls
      rw [List.flatMap_cons, List.map_append]
    rw [split, run_append, ← first]
    exact rest

private theorem acked_of_snoc {x : Event} {sid : UInt64} {b : Built}
    (acked : Acked codec w (ws ++ [x]) sid b) :
    Acked codec w ws sid b ∨ ∃ k weAreInitiator, x.op = .ack k sid weAreInitiator ∧
      (run (RouteWorld.step codec) w ws).built[k]? = some b := by
  obtain ⟨pre, y, post, k, weAreInitiator, split, named, found⟩ := acked
  rcases split_snoc split with ⟨_, rfl, rfl⟩ | ⟨post', _, earlier⟩
  · exact Or.inr ⟨k, weAreInitiator, named, found⟩
  · exact Or.inl ⟨pre, y, post', k, weAreInitiator, earlier, named, found⟩

private theorem acked_of_shadowing {sid : UInt64} {b : Built} (plain : ∀ op ∈ ops, Plain op)
    (acked : Acked codec w (ws ++ shadowing host ops) sid b) : Acked codec w ws sid b := by
  induction ops using List.reverseRecOn with
  | nil => simpa [shadowing] using acked
  | append_singleton ops op ih =>
    have split : ws ++ shadowing host (ops ++ [op]) = ws ++ shadowing host ops ++ [⟨host, op⟩] := by
      simp [shadowing]
    rw [split] at acked
    rcases acked_of_snoc acked with before | ⟨k, weAreInitiator, named, _⟩
    · exact ih (fun op' member => plain op' (List.mem_append_left [op] member)) before
    · exact absurd named (plain op (by simp) k sid weAreInitiator)

private theorem field_topologyOf (w : World) (own : Field op) :
    topologyOf network (RouteWorld.step codec w ⟨host, op⟩).routes =
      topologyOf network w.routes := by
  rcases @RouteWorld.step_groups codec w ⟨host, op⟩ network with
    ⟨same, _⟩ | ⟨g', move, moved⟩
  · rw [topologyOf, topologyOf, same]
  · have before := TopologyKnown.topologyOf_ensureGroup network host w.routes
    rw [before, topologyOf, moved]
    show g'.topologyVersion = _
    cases move with
    | ack k sid weAreInitiator b named => exact absurd named (own.plain k sid weAreInitiator)
    | call call groupOp _ asked accepted =>
      have quiet := Topology.groupOp_topology accepted w.routes.myPeerId
        (w.routes.ensureGroup host network)
      generalize final (groupOp w.routes.myPeerId (w.routes.ensureGroup host network)) = left
        at quiet
      cases own with
      | info =>
        cases asked
        cases quiet with
        | quiet same => exact same.topologyVersion
      | key =>
        cases asked
        cases quiet with
        | quiet same => exact same.topologyVersion

private theorem changes_fields (w : World) (ws : List Event) {fields : List Op}
    (own : ∀ op ∈ fields, Field op) :
    TopologyKnown.topologyChanges codec network w (ws ++ shadowing host fields) =
        TopologyKnown.topologyChanges codec network w ws ∧
      topologyOf network (run (RouteWorld.step codec) w (ws ++ shadowing host fields)).routes =
        topologyOf network (run (RouteWorld.step codec) w ws).routes := by
  induction fields using List.reverseRecOn with
  | nil => simp [shadowing]
  | append_singleton fields op ih =>
    obtain ⟨changes, topology⟩ := ih fun op' member => own op' (List.mem_append_left [op] member)
    have split : ws ++ shadowing host (fields ++ [op]) =
        ws ++ shadowing host fields ++ [⟨host, op⟩] := by
      simp [shadowing]
    have last := @field_topologyOf codec host network op
      (run (RouteWorld.step codec) w (ws ++ shadowing host fields)) (own op (by simp))
    rw [split, TopologyKnown.topologyChanges_snoc, if_pos last, run_snoc, last]
    exact ⟨changes, topology⟩

private theorem Shadow.changes (shadow : Shadow c e ops) (w : World) (ws : List Event) :
    TopologyKnown.topologyChanges codec network w (ws ++ shadowing host ops) =
      TopologyKnown.topologyChanges codec network w ws +
        if topologyOf network (run (RouteWorld.step codec) w (ws ++ shadowing host ops)).routes =
          topologyOf network (run (RouteWorld.step codec) w ws).routes then 0 else 1 := by
  have single (op : Op) :
    TopologyKnown.topologyChanges codec network w (ws ++ shadowing host [op]) =
      TopologyKnown.topologyChanges codec network w ws +
        if topologyOf network (run (RouteWorld.step codec) w (ws ++ shadowing host [op])).routes =
          topologyOf network (run (RouteWorld.step codec) w ws).routes then 0 else 1 := by
    show TopologyKnown.topologyChanges codec network w (ws ++ [⟨host, op⟩]) = _
    rw [TopologyKnown.topologyChanges_snoc, ← run_snoc (RouteWorld.step codec)]
    rfl
  cases shadow with
  | idle => simp [shadowing]
  | joined network' peerId publicKey fields call own =>
    have split : ws ++ shadowing host (.addPeer network' peerId publicKey :: fields) =
        ws ++ shadowing host [.addPeer network' peerId publicKey] ++ shadowing host fields := by
      simp [shadowing]
    obtain ⟨changes, topology⟩ := @changes_fields codec host network w
      (ws ++ shadowing host [.addPeer network' peerId publicKey]) fields own
    rw [split, changes, topology]
    exact single _
  | left => exact single _
  | synced => exact single _
  | built => exact single _

private theorem inert_orderly {serverPeerId : UInt32} {pre : List Event} {w : World} {op : Op}
    (unbuilt : ∀ groupKey t serverSessionId weAreInitiator forceFull,
      op ≠ .build groupKey t serverSessionId weAreInitiator forceFull)
    (unjoined : ∀ groupKey peerId publicKey, op ≠ .addPeer groupKey peerId publicKey)
    (stays : ∀ groupKey peerId, op ≠ .removePeer groupKey peerId) :
    TopologyKnown.Orderly network serverPeerId pre w ⟨host, op⟩ where
  target t serverSessionId weAreInitiator forceFull named :=
    absurd named (unbuilt _ t serverSessionId weAreInitiator forceFull)
  joining publicKey := unjoined _ _ publicKey
  leaving := stays _ _

private theorem Shadow.orderly {serverPeerId : UInt32} {pre : List CoreEvent}
    (shadow : Shadow c e ops) (orderly : Orderly network serverPeerId pre c e)
    (same : (run (RouteWorld.step codec) w ws).routes = c.routes)
    (steps : AllSteps (RouteWorld.step codec) (TopologyKnown.Orderly network serverPeerId) w ws) :
    AllSteps (RouteWorld.step codec) (TopologyKnown.Orderly network serverPeerId) w
      (ws ++ shadowing host ops) := by
  have fields (own : List Op) (all : ∀ op ∈ own, Field op) (ws : List Event)
      (steps : AllSteps (RouteWorld.step codec) (TopologyKnown.Orderly network serverPeerId) w ws) :
      AllSteps (RouteWorld.step codec) (TopologyKnown.Orderly network serverPeerId) w
        (ws ++ shadowing host own) := by
    induction own using List.reverseRecOn with
    | nil => simpa [shadowing] using steps
    | append_singleton own op ih =>
      have split : ws ++ shadowing host (own ++ [op]) =
        ws ++ shadowing host own ++ [⟨host, op⟩] := by
        simp [shadowing]
      rw [split]
      refine (ih fun op' member => all op' (List.mem_append_left [op] member)).snoc ?_
      cases all op (by simp) with
      | info => exact inert_orderly (by simp) (by simp) (by simp)
      | key => exact inert_orderly (by simp) (by simp) (by simp)
  cases shadow with
  | idle => simpa [shadowing] using steps
  | joined network' peerId publicKey own call all =>
    have split : ws ++ shadowing host (.addPeer network' peerId publicKey :: own) =
        ws ++ [⟨host, .addPeer network' peerId publicKey⟩] ++ shadowing host own := by
      simp [shadowing]
    rw [split]
    refine fields own all _ (steps.snoc ⟨fun _ _ _ _ named => (by cases named), ?_,
      fun named => (by cases named)⟩)
    intro publicKey' named
    cases named
    exact orderly.joining publicKey call
  | left network' peerId call =>
    refine steps.snoc ⟨fun _ _ _ _ named => (by cases named), fun _ named => (by cases named), ?_⟩
    intro named
    cases named
    exact orderly.leaving call
  | synced => exact steps.snoc (inert_orderly (by simp) (by simp) (by simp))
  | built network' peerId serverSessionId forceFull nowMs call =>
    refine steps.snoc ⟨?_, fun _ named => (by cases named), fun named => (by cases named)⟩
    intro t serverSessionId' weAreInitiator forceFull' named
    cases named
    rw [same]
    exact orderly.target _ _ _ _ call

end Shadowing

/-! Both runs side by side. -/

/-- The run `ws` of the route state does what the run `es` of the core does to it. -/
structure Mirrors (E : Env) (network : String) (c₀ : WasmRpcCore) (es : List CoreEvent)
    (ws : List Event) : Prop where
  routes : (run (RouteWorld.step E.codec) (World.new c₀.serverPeerId) ws).routes =
    (run (step E) c₀ es).routes
  changes : TopologyKnown.topologyChanges E.codec network (World.new c₀.serverPeerId) ws =
    topologyChanges E network c₀ es
  orderly : AllSteps (RouteWorld.step E.codec) (TopologyKnown.Orderly network c₀.serverPeerId)
    (World.new c₀.serverPeerId) ws
  handed : ∀ before b mid key nowMs update, es = before ++ b :: mid →
    Builds E (run (step E) c₀ before) b key nowMs update →
    ⟨key.network, key.peerId, update⟩ ∈
      (run (RouteWorld.step E.codec) (World.new c₀.serverPeerId) ws).built
  acked : ∀ sid u, Acked E.codec (World.new c₀.serverPeerId) ws sid u →
    ∃ before b mid f post key nowMs, es = before ++ b :: (mid ++ f :: post) ∧
      Due E c₀ before b mid f key nowMs u.update sid ∧ key.network = u.groupKey ∧
      key.peerId = u.targetPeerId

section Mirroring

variable {network : String} {c₀ : WasmRpcCore} {es : List CoreEvent} {e : CoreEvent}
  {ws : List Event}

private theorem Mirrors.acked_before (mirrors : Mirrors E network c₀ es ws) (e : CoreEvent)
    {sid : UInt64} {u : Built} (acked : Acked E.codec (World.new c₀.serverPeerId) ws sid u) :
    ∃ before b mid f post key nowMs, es ++ [e] = before ++ b :: (mid ++ f :: post) ∧
      Due E c₀ before b mid f key nowMs u.update sid ∧ key.network = u.groupKey ∧
      key.peerId = u.targetPeerId := by
  obtain ⟨before, b, mid, f, post, key, nowMs, rfl, rest⟩ := mirrors.acked sid u acked
  exact ⟨before, b, mid, f, post ++ [e], key, nowMs, by simp, rest⟩

private theorem Mirrors.handed_before (mirrors : Mirrors E network c₀ es ws) (later : List Event)
    {before mid : List CoreEvent} {b : CoreEvent} {key : RpcKey} {nowMs : UInt64}
    {update : RouteUpdate} (split : es = before ++ b :: mid)
    (builds : Builds E (run (step E) c₀ before) b key nowMs update) :
    ⟨key.network, key.peerId, update⟩ ∈
      (run (RouteWorld.step E.codec) (World.new c₀.serverPeerId) (ws ++ later)).built := by
  obtain ⟨more, same⟩ := @RouteWorld.built_append E.codec (World.new c₀.serverPeerId) ws later
  rw [same]
  exact List.mem_append_left more (mirrors.handed before b mid key nowMs update split builds)

private theorem Mirrors.snoc_changes {later : List Event} (mirrors : Mirrors E network c₀ es ws)
    (routes : (run (RouteWorld.step E.codec) (World.new c₀.serverPeerId) (ws ++ later)).routes =
      (step E (run (step E) c₀ es) e).routes)
    (once :
      TopologyKnown.topologyChanges E.codec network (World.new c₀.serverPeerId) (ws ++ later) =
      TopologyKnown.topologyChanges E.codec network (World.new c₀.serverPeerId) ws +
        if topologyOf network (run (RouteWorld.step E.codec) (World.new c₀.serverPeerId)
            (ws ++ later)).routes =
          topologyOf network (run (RouteWorld.step E.codec) (World.new c₀.serverPeerId) ws).routes
        then 0 else 1) :
    TopologyKnown.topologyChanges E.codec network (World.new c₀.serverPeerId) (ws ++ later) =
      topologyChanges E network c₀ (es ++ [e]) := by
  rw [once, topologyChanges_snoc, mirrors.changes, routes, mirrors.routes]

/-- The route state hands out the update that the core builds. -/
private theorem handedOut_of_move {w : World} {host : Host} {c c' : WasmRpcCore} {peerId : UInt32}
    {serverSessionId nowMs : UInt64} {forceFull : Bool} {transactionId : Int64}
    {update : RouteUpdate} (routes : w.routes = c.routes)
    (move : BuiltMove E host network peerId serverSessionId forceFull nowMs c c' transactionId
      update) :
    RouteWorld.handedOut E.codec w ⟨host, .build network peerId serverSessionId
      ((c.peerInitiator.lookup (network, peerId)).getD true) forceFull⟩ =
      some ⟨network, peerId, update⟩ := by
  simp only [RouteWorld.handedOut, RouteWorld.events, calls, List.map_cons, List.head?_cons,
    Option.bind_some, RouteRuns.built, routes]
  rw [eq_ok_of_value move.ran]

private theorem Mirrors.plain (mirrors : Mirrors E network c₀ es ws)
    (orderly : Orderly network c₀.serverPeerId es (run (step E) c₀ es) e)
    (other : ∀ network peerId payload nowMs,
      e.call ≠ .handleResponse network peerId payload nowMs) :
    ∃ ws', Mirrors E network c₀ (es ++ [e]) ws' := by
  obtain ⟨ops, shadow, after⟩ := @shadow_of_step E (run (step E) c₀ es) e other
  have routes : (run (RouteWorld.step E.codec) (World.new c₀.serverPeerId)
      (ws ++ shadowing e.host ops)).routes = (step E (run (step E) c₀ es) e).routes := by
    rw [run_append, run_shadowing _ shadow.plain, mirrors.routes, after]
  refine ⟨ws ++ shadowing e.host ops, ?_, ?_, ?_, ?_, ?_⟩
  · rw [routes, run_snoc]
  · exact mirrors.snoc_changes routes (shadow.changes _ ws)
  · exact shadow.orderly orderly mirrors.routes mirrors.orderly
  · intro before b mid key nowMs update split builds
    rcases split_snoc split with ⟨rfl, rfl, rfl⟩ | ⟨mid', rfl, earlier⟩
    · obtain ⟨network', peerId, serverSessionId, forceFull, _, _, call, _, rfl, move⟩ := builds
      cases shadow with
      | idle unbuilt => exact absurd call (unbuilt _ _ _ _ _)
      | joined _ _ _ _ call' => exact absurd (call.symm.trans call') (by simp)
      | left _ _ call' => exact absurd (call.symm.trans call') (by simp)
      | synced _ _ _ _ _ call' => exact absurd (call.symm.trans call') (by simp)
      | built _ _ _ _ _ call' =>
        rw [call] at call'
        cases call'
        rw [shadowing, List.map_singleton, run_snoc]
        refine List.mem_append_right _ (Option.mem_toList.mpr ?_)
        exact handedOut_of_move mirrors.routes move
    · exact mirrors.handed_before _ earlier builds
  · intro sid u acked
    exact mirrors.acked_before e (acked_of_shadowing shadow.plain acked)

private theorem Mirrors.response (mirrors : Mirrors E network c₀ es ws)
    (start : c₀.outstandingRoutes = ∅)
    {n : String} {peerId : UInt32} {payload : Bytes} {nowMs : UInt64}
    (call : e.call = .handleResponse n peerId payload nowMs) :
    ∃ ws', Mirrors E network c₀ (es ++ [e]) ws' := by
  have unbuilt {key : RpcKey} {nowMs : UInt64} {update : RouteUpdate} :
      ¬ Builds E (run (step E) c₀ es) e key nowMs update :=
    not_builds fun _ _ _ _ _ built => by rw [call] at built; cases built
  have acknowledges := @acknowledges_run E c₀ start (es ++ [e]) es e [] rfl
  by_cases completed : outcome E (run (step E) c₀ es) e = .ok (.completed true)
  · obtain ⟨before, b, mid, key, builtMs, update, sid, split, due, rfl, rfl, _, after⟩ :=
      acknowledges.accepted n peerId payload nowMs call completed
    obtain ⟨k, found⟩ := List.mem_iff_getElem?.mp
      (mirrors.handed before b mid key builtMs update split due.built)
    let ack : Event := ⟨e.host, .ack k sid
      (((run (step E) c₀ es).peerInitiator.lookup (key.network, key.peerId)).getD true)⟩
    have routes : (run (RouteWorld.step E.codec) (World.new c₀.serverPeerId)
        (ws ++ [ack])).routes = (step E (run (step E) c₀ es) e).routes := by
      rw [run_snoc, after, ← mirrors.routes]
      simp [RouteWorld.step, RouteWorld.events, ack, calls, found]
    refine ⟨ws ++ [ack], ?_, ?_, ?_, ?_, ?_⟩
    · rw [routes, run_snoc]
    · refine mirrors.snoc_changes routes ?_
      rw [TopologyKnown.topologyChanges_snoc, run_snoc]
    · exact mirrors.orderly.snoc (inert_orderly (by simp) (by simp) (by simp))
    · intro before b mid key nowMs update split builds
      rcases split_snoc split with ⟨rfl, rfl, rfl⟩ | ⟨mid', rfl, earlier⟩
      · exact absurd builds unbuilt
      · exact mirrors.handed_before _ earlier builds
    · intro sid' u acked
      rcases acked_of_snoc acked with before | ⟨k', weAreInitiator, named, found'⟩
      · exact mirrors.acked_before e before
      · cases named
        cases Option.some.inj (found.symm.trans found')
        exact ⟨before, b, mid, e, [], key, builtMs, by rw [split]; simp, due, rfl, rfl⟩
  · have after := acknowledges.unaccepted n peerId payload nowMs call completed
    refine ⟨ws, ?_, ?_, mirrors.orderly, ?_, fun sid u acked => mirrors.acked_before e acked⟩
    · rw [run_snoc, after, mirrors.routes]
    · rw [topologyChanges_snoc, after, if_pos rfl, mirrors.changes]
      rfl
    · intro before b mid key nowMs update split builds
      rcases split_snoc split with ⟨rfl, rfl, rfl⟩ | ⟨mid', rfl, earlier⟩
      · exact absurd builds unbuilt
      · exact mirrors.handed before b mid' key nowMs update earlier builds

/-- Every orderly run of the core is mirrored by a run of its route state. -/
private theorem mirrors_run (routes : c₀.routes = RouteState.new c₀.serverPeerId)
    (start : c₀.outstandingRoutes = ∅)
    (orderly : AllSteps (step E) (Orderly network c₀.serverPeerId) c₀ es) :
    ∃ ws, Mirrors E network c₀ es ws := by
  induction es using List.reverseRecOn with
  | nil =>
    refine ⟨[], routes.symm, rfl, AllSteps.nil, ?_, ?_⟩
    · intro before b mid _ _ _ split
      simp at split
    · rintro sid u ⟨pre, x, post, _, _, split, _⟩
      simp at split
  | append_singleton es e ih =>
    obtain ⟨ws, mirrors⟩ := ih orderly.init
    by_cases response : ∃ n peerId payload nowMs, e.call = .handleResponse n peerId payload nowMs
    · obtain ⟨n, peerId, payload, nowMs, call⟩ := response
      exact mirrors.response start call
    · refine mirrors.plain orderly.last ?_
      intro n peerId payload nowMs call
      exact response ⟨n, peerId, payload, nowMs, call⟩

end Mirroring

/-- In this run `t` has acknowledged, under its current session id, an update whose connection
info says what a fresh one would say now. -/
def Told (E : Env) (network : String) (serverPeerId : UInt32) (c₀ : WasmRpcCore)
    (es : List CoreEvent) (t : UInt32) : Prop :=
  ∃ g sid before b mid f post key nowMs earlier conn,
    (run (step E) c₀ es).routes.groups.lookup network = some g ∧ dst g t = some sid ∧
    es = before ++ b :: (mid ++ f :: post) ∧
    Due E c₀ before b mid f key nowMs earlier sid ∧ key.network = network ∧ key.peerId = t ∧
    earlier.request.connInfo = some conn ∧
    SameTopologyInfo conn (freshConnInfo g serverPeerId t)

/-- In every run of the core in which updates are built for members only and the relay's own id
neither joins nor leaves, an update carries no connection info only if its target was told. -/
theorem withheld_topology_told {publicKey : Bytes} {hostname network : String}
    {serverPeerId : UInt32} {c₀ : WasmRpcCore} {es : List CoreEvent} {e : CoreEvent} {key : RpcKey}
    {nowMs : UInt64} {update : RouteUpdate}
    (created : WasmRpcCore.new publicKey hostname serverPeerId = .ok c₀)
    (orderly : AllSteps (step E) (Orderly network serverPeerId) c₀ (es ++ [e]))
    (few : topologyChanges E network c₀ es < 2 ^ 64)
    (builds : Builds E (run (step E) c₀ es) e key nowMs update) (own : key.network = network)
    (withheld : update.request.connInfo = none) :
    Told E network serverPeerId c₀ es key.peerId := by
  obtain ⟨routes, named⟩ : c₀.routes = RouteState.new serverPeerId ∧
      c₀.serverPeerId = serverPeerId := by
    rw [WasmRpcCore.new] at created
    split at created
    · cases created
    · split at created
      · cases created
      · cases created
        exact ⟨rfl, rfl⟩
  subst named
  subst own
  obtain ⟨ws, mirrors⟩ := mirrors_run routes (new_outstandingRoutes created) orderly.init
  obtain ⟨network, peerId, serverSessionId, forceFull, _, _, call, _, rfl, move⟩ := builds
  have shadow := @Shadow.built (run (step E) c₀ es) e network peerId serverSessionId forceFull
    nowMs call
  have steps := @Shadow.orderly E.codec e.host _ _ _ _ _ _ _ _ shadow orderly.last mirrors.routes
    mirrors.orderly
  have handed := handedOut_of_move mirrors.routes move
  obtain ⟨g, sid, earlier, conn, found, current, acked, sameNetwork, target, carried, told⟩ :=
    TopologyKnown.suppression_sound steps (mirrors.changes ▸ few) handed rfl withheld
  obtain ⟨before, b, mid, f, post, key, builtMs, split, due, ofNetwork, toPeer⟩ :=
    mirrors.acked sid earlier acked
  rw [mirrors.routes] at found
  exact ⟨g, sid, before, b, mid, f, post, key, builtMs, earlier.update, conn, found, current, split,
    due, ofNetwork.trans sameNetwork, toPeer.trans target, carried, told⟩

/-! Two runs of the relay 1: peer 5 acknowledges an update, and then nothing has changed; or the
relay is removed from the network first. -/

/-- The connection info in the update that an event builds. -/
def shownBy (E : Env) (c : WasmRpcCore) (e : CoreEvent) : Option (Option ConnInfo) :=
  match e.call with
  | .buildRouteUpdate network peerId serverSessionId forceFull _ =>
    match RouteState.buildSyncRouteInfoRequest E.codec e.host network peerId serverSessionId
        ((c.peerInitiator.lookup (network, peerId)).getD true) forceFull c.routes with
    | .ok u _ => some u.request.connInfo
    | .error _ _ => none
  | _ => none

private theorem shownBy_of_builds {c : WasmRpcCore} {e : CoreEvent} {key : RpcKey} {nowMs : UInt64}
    {update : RouteUpdate} (builds : Builds E c e key nowMs update) :
    shownBy E c e = some update.request.connInfo := by
  obtain ⟨network, peerId, serverSessionId, forceFull, _, _, call, _, _, move⟩ := builds
  simp only [shownBy, call]
  rw [eq_ok_of_value move.ran]

private theorem builds_of_ok {c : WasmRpcCore} {e : CoreEvent} {network : String} {peerId : UInt32}
    {serverSessionId nowMs : UInt64} {forceFull : Bool} {reply : CoreReply}
    (call : e.call = .buildRouteUpdate network peerId serverSessionId forceFull nowMs)
    (answer : outcome E c e = .ok reply) :
    ∃ key update, Builds E c e key nowMs update ∧ key.network = network ∧ key.peerId = peerId := by
  have move := @step_moves E c e
  generalize left : step E c e = c' at move
  rw [call, answer] at move
  cases move with
  | built _ _ _ _ _ payload _ transactionId update move =>
    subst left
    exact ⟨rpcKey network peerId transactionId false, update, ⟨network, peerId, serverSessionId,
      forceFull, transactionId, payload, call, answer, rfl, move⟩, rfl, rfl⟩

def checkMembers (network : String) (serverPeerId : UInt32) (_ : List CoreEvent)
    (c : WasmRpcCore) (e : CoreEvent) : Bool :=
  match e.call with
  | .buildRouteUpdate n t _ _ _ =>
    n != network || (c.routes.groups.lookup network).any fun g => decide (t ∈ g.peers.keys)
  | .addPeer n p _ => n != network || p != serverPeerId
  | _ => true

private theorem checkMembers_sound {network : String} {serverPeerId : UInt32} {pre : List CoreEvent}
    {c : WasmRpcCore} {e : CoreEvent} (checked : checkMembers network serverPeerId pre c e = true) :
    MembersOnly network serverPeerId pre c e := by
  constructor
  · intro t serverSessionId forceFull nowMs call
    simp only [checkMembers, call, bne_self_eq_false, Bool.false_or] at checked
    obtain ⟨g, found, member⟩ := (Option.any_eq_true _ _).mp checked
    exact ⟨g, found, of_decide_eq_true member⟩
  · intro publicKey call
    simp [checkMembers, call] at checked

def updating : CoreEvent := ⟨ackHost, .buildRouteUpdate "net" 5 3 false 1_000⟩

def ackStart : WasmRpcCore := ackCore.toOption.get (by decide +kernel)

private theorem ackCore_eq : ackCore = .ok ackStart := rfl

/-- The update that repeats nothing is for a peer that was told. -/
theorem withheld_topology_told_acknowledged :
    shownBy ackEnv (run (step ackEnv) ackStart ackRun) updating = some none ∧
      Told ackEnv "net" 1 ackStart ackRun 5 := by
  have orderly : AllSteps (step ackEnv) (Orderly "net" 1) ackStart (ackRun ++ [updating]) := by
    refine allSteps_of_check (fun pre c e => checkMembers "net" 1 pre c e &&
      decide (e.call ≠ .removePeer "net" 1)) ?_ (by decide +kernel)
    intro pre c e checked
    obtain ⟨members, stays⟩ := Bool.and_eq_true_iff.mp checked
    exact ⟨checkMembers_sound members, of_decide_eq_true stays⟩
  have answered : (outcome ackEnv (run (step ackEnv) ackStart ackRun) updating).toOption.isSome =
      true := by
    decide +kernel
  have withheld : shownBy ackEnv (run (step ackEnv) ackStart ackRun) updating = some none := by
    decide +kernel
  cases answer : outcome ackEnv (run (step ackEnv) ackStart ackRun) updating with
  | error e =>
    rw [answer] at answered
    cases answered
  | ok reply =>
    obtain ⟨key, update, builds, network, peer⟩ := builds_of_ok rfl answer
    have none_shown : update.request.connInfo = none :=
      Option.some.inj ((shownBy_of_builds builds).symm.trans withheld)
    have told := withheld_topology_told ackCore_eq orderly (by decide +kernel) builds network
      none_shown
    rw [peer] at told
    exact ⟨withheld, told⟩

/-- Peer 5 has acknowledged the topology, the relay is removed and the next update acknowledged. -/
def removedRun : List CoreEvent :=
  ackRun ++ [⟨ackHost, .removePeer "net" 1⟩] ++ ackRun.tail

/-- A relay that is removed, without having been added, is not told of: peer 5 has only ever
acknowledged the relay's connection version 2, and a fresh connection info has version 1. -/
theorem removed_relay_untold :
    ¬ ∀ (E : Env) (publicKey : Bytes) (hostname network : String) (serverPeerId : UInt32)
      (c₀ : WasmRpcCore) (es : List CoreEvent) (e : CoreEvent) (key : RpcKey) (nowMs : UInt64)
      (update : RouteUpdate), WasmRpcCore.new publicKey hostname serverPeerId = .ok c₀ →
      AllSteps (step E) (MembersOnly network serverPeerId) c₀ (es ++ [e]) →
      topologyChanges E network c₀ es < 2 ^ 64 →
      Builds E (run (step E) c₀ es) e key nowMs update → key.network = network →
      update.request.connInfo = none → Told E network serverPeerId c₀ es key.peerId := by
  intro always
  have members : AllSteps (step ackEnv) (MembersOnly "net" 1) ackStart (removedRun ++ [updating]) :=
    allSteps_of_check (checkMembers "net" 1) (fun pre c e checked => checkMembers_sound checked)
      (by decide +kernel)
  have answered :
      (outcome ackEnv (run (step ackEnv) ackStart removedRun) updating).toOption.isSome = true := by
    decide +kernel
  have withheld : shownBy ackEnv (run (step ackEnv) ackStart removedRun) updating = some none := by
    decide +kernel
  -- whatever was shown listed the relay with version 2
  have shown : ∀ conn ∈ log (step ackEnv) (shownBy ackEnv) ackStart removedRun,
      conn.map ConnBitmap.listed = some [⟨1, 2⟩, ⟨5, 2⟩] := by
    decide +kernel
  have fresh : ((run (step ackEnv) ackStart removedRun).routes.groups.lookup "net").map
      (fun g => ConnBitmap.listed (freshConnInfo g 1 5)) = some [⟨1, 1⟩, ⟨5, 2⟩] := by
    decide +kernel
  cases answer : outcome ackEnv (run (step ackEnv) ackStart removedRun) updating with
  | error e =>
    rw [answer] at answered
    cases answered
  | ok reply =>
    obtain ⟨key, update, builds, network, peer⟩ := builds_of_ok rfl answer
    have none_shown : update.request.connInfo = none :=
      Option.some.inj ((shownBy_of_builds builds).symm.trans withheld)
    obtain ⟨g, sid, before, b, mid, f, post, key', builtMs, earlier, conn, found, _, split, due, _,
      _, carried, same⟩ := always ackEnv _ _ "net" 1 ackStart removedRun updating key _ update
        ackCore_eq members (by decide +kernel) builds network none_shown
    have logged : some conn ∈ log (step ackEnv) (shownBy ackEnv) ackStart removedRun := by
      rw [split, log_append]
      refine List.mem_append_right _ (List.mem_append_left _ ?_)
      rw [shownBy_of_builds due.built, carried]
      exact List.mem_singleton.mpr rfl
    have old := shown _ logged
    rw [found, Option.map_some] at fresh
    have versions := same.1
    rw [peer, Option.some.inj old, Option.some.inj fresh] at versions
    exact absurd versions (by decide)

end EasyTierEdge.Rpc.Suppression
