/- module: EasyTierEdge/Rpc/RouteWorld
   source: cloudflare/wasm/src/route_state.rs, as rpc.rs drives it
   digest: Route updates that are built, and acknowledged later in any order. -/

import EasyTierEdge.Rpc.RouteIdentity

set_option autoImplicit false
set_option relaxedAutoImplicit false

namespace EasyTierEdge.Rpc.RouteWorld

open Lib.AscendingMap Lib.Fallible Lib.FiniteMap Lib.Machine
open Packet (Bytes)
open Proto Routes RouteMoves RouteRuns Rpc.Topology RouteIdentity

/-- The route state with all updates that were handed out, in their order. -/
structure World where
  routes : RouteState
  built : List Built

/-- A call from outside, or a response that acknowledges the `k`-th update and names the session
id of its sender. -/
inductive Op
  | addPeer (groupKey : String) (peerId : UInt32) (publicKey : Bytes)
  | removePeer (groupKey : String) (peerId : UInt32)
  | setMyInfoField (groupKey field value : String)
  | setMyNoisePublicKey (groupKey : String) (publicKey : Bytes)
  | build (groupKey : String) (targetPeerId : UInt32) (serverSessionId : UInt64)
      (weAreInitiator forceFull : Bool)
  | sync (groupKey : String) (fromPeerId : UInt32) (requestBytes : Bytes)
  | ack (k : Nat) (theirSessionId : UInt64) (weAreInitiator : Bool)
  deriving DecidableEq

structure Event where
  host : Host
  op : Op

/-- An acknowledgement is two calls: the session id first, then the versions of the update. -/
def calls (built : List Built) : Op → List RouteCall
  | .addPeer groupKey peerId publicKey => [.addPeer groupKey peerId publicKey]
  | .removePeer groupKey peerId => [.removePeer groupKey peerId]
  | .setMyInfoField groupKey field value => [.setMyInfoField groupKey field value]
  | .setMyNoisePublicKey groupKey publicKey => [.setMyNoisePublicKey groupKey publicKey]
  | .build groupKey targetPeerId serverSessionId weAreInitiator forceFull =>
    [.buildSyncRouteInfoRequest groupKey targetPeerId serverSessionId weAreInitiator forceFull]
  | .sync groupKey fromPeerId requestBytes =>
    [.handleSyncRouteInfoRequest groupKey fromPeerId requestBytes]
  | .ack k theirSessionId weAreInitiator =>
    match built[k]? with
    | none => []
    | some b =>
      [.onRouteSessionAck b.groupKey b.targetPeerId theirSessionId weAreInitiator,
        .commitRouteUpdate b.groupKey b.targetPeerId b.update.peerInfoVersions
          b.update.topologyVersion]

def World.new (myPeerId : UInt32) : World := ⟨RouteState.new myPeerId, []⟩

variable (E : Codec)

def events (w : World) (e : Event) : List RouteEvent := (calls w.built e.op).map (⟨e.host, ·⟩)

/-- The update that an event hands out. -/
def handedOut (w : World) (e : Event) : Option Built :=
  (events w e).head?.bind (RouteRuns.built E w.routes)

def step (w : World) (e : Event) : World where
  routes := run (RouteRuns.step E) w.routes (events w e)
  built := w.built ++ (handedOut E w e).toList

private theorem run_routes (myPeerId : UInt32) (es : List Event) :
    ∃ calls, (run (step E) (World.new myPeerId) es).routes =
      run (RouteRuns.step E) (RouteState.new myPeerId) calls := by
  induction es using List.reverseRecOn with
  | nil => exact ⟨[], rfl⟩
  | append_singleton es e ih =>
    obtain ⟨calls, same⟩ := ih
    refine ⟨calls ++ events (run (step E) (World.new myPeerId) es) e, ?_⟩
    rw [run_snoc, run_append, ← same]
    rfl

/-- `b` was acknowledged in the run, under the session id `sid`. -/
def Acked (w : World) (es : List Event) (sid : UInt64) (b : Built) : Prop :=
  ∃ pre e post k weAreInitiator, es = pre ++ e :: post ∧ e.op = .ack k sid weAreInitiator ∧
    (run (step E) w pre).built[k]? = some b

section Moves

variable {E} {w : World} {es : List Event} {e : Event} {groupKey : String}

theorem Acked.snoc {sid : UInt64} {b : Built} (acked : Acked E w es sid b) (e : Event) :
    Acked E w (es ++ [e]) sid b := by
  obtain ⟨pre, f, post, k, weAreInitiator, rfl, named, found⟩ := acked
  exact ⟨pre, f, post ++ [e], k, weAreInitiator, by simp, named, found⟩

theorem Acked.last {sid : UInt64} {b : Built} {k : Nat} {weAreInitiator : Bool}
    (named : e.op = .ack k sid weAreInitiator) (found : (run (step E) w es).built[k]? = some b) :
    Acked E w (es ++ [e]) sid b :=
  ⟨es, e, [], k, weAreInitiator, rfl, named, found⟩

/-- What an event does to a group: a call on it, or the acknowledgement of one of its updates. -/
inductive GroupMove (E : Codec) (w : World) (e : Event) (groupKey : String) (g : RouteGroupData) :
    RouteGroupData → Prop
  | call (c : RouteCall) (op : UInt32 → GroupM RouteReply) (own : c.groupKey = groupKey)
      (asked : calls w.built e.op = [c]) (accepted : groupOp E e.host c = .ok op) :
      GroupMove E w e groupKey g (final (op w.routes.myPeerId g))
  | ack (k : Nat) (sid : UInt64) (weAreInitiator : Bool) (b : Built)
      (named : e.op = .ack k sid weAreInitiator) (found : w.built[k]? = some b)
      (own : b.groupKey = groupKey) :
      GroupMove E w e groupKey g
        ((g.onRouteSessionAck b.targetPeerId sid weAreInitiator (e.host.clock 0)).commitRouteUpdate
          b.targetPeerId b.update.peerInfoVersions b.update.topologyVersion (e.host.clock 1))

theorem calls_eq {built : List Built} {op : Op} {c : RouteCall} (asked : calls built op = [c]) :
    (∀ groupKey t sid weAreInitiator forceFull,
        c = .buildSyncRouteInfoRequest groupKey t sid weAreInitiator forceFull →
        op = .build groupKey t sid weAreInitiator forceFull) ∧
      (∀ groupKey p publicKey, c = .addPeer groupKey p publicKey →
        op = .addPeer groupKey p publicKey) ∧
      (∀ groupKey p, c = .removePeer groupKey p → op = .removePeer groupKey p) ∧
      (∀ groupKey p bytes, c = .handleSyncRouteInfoRequest groupKey p bytes →
        op = .sync groupKey p bytes) ∧
      ∀ groupKey p versions v, c ≠ .commitRouteUpdate groupKey p versions v := by
  cases op with
  | ack k sid weAreInitiator =>
    simp only [calls] at asked
    split at asked
    · cases asked
    · cases asked
  | _ =>
    cases asked
    simp

theorem ack_or_call (built : List Built) (op : Op) :
    (∃ k sid weAreInitiator, op = .ack k sid weAreInitiator) ∨ ∃ c, calls built op = [c] := by
  cases op with
  | ack k sid weAreInitiator => exact Or.inl ⟨k, sid, weAreInitiator, rfl⟩
  | _ => exact Or.inr ⟨_, rfl⟩

/-- The two calls of an acknowledgement work on one group, one after the other. -/
private theorem acknowledged_groups (E : Codec) (s : RouteState) (host : Host)
    (own groupKey : String) (targetPeerId : UInt32) (sid : UInt64) (weAreInitiator : Bool)
    (versions : List (UInt32 × UInt32)) (topologyVersion : Option UInt64) :
    (run (RouteRuns.step E) s
        [⟨host, .onRouteSessionAck own targetPeerId sid weAreInitiator⟩,
          ⟨host, .commitRouteUpdate own targetPeerId versions topologyVersion⟩]).groups.lookup
        groupKey =
      if groupKey = own then
        some (((s.ensureGroup host own).onRouteSessionAck targetPeerId sid weAreInitiator
          (host.clock 0)).commitRouteUpdate targetPeerId versions topologyVersion (host.clock 1))
      else s.groups.lookup groupKey := by
  have first : (RouteRuns.step E s
      ⟨host, .onRouteSessionAck own targetPeerId sid weAreInitiator⟩).groups = s.groups.insert own
        ((s.ensureGroup host own).onRouteSessionAck targetPeerId sid weAreInitiator
          (host.clock 0)) := by
    have accepted : groupOp E host (.onRouteSessionAck own targetPeerId sid weAreInitiator) =
        .ok _ := rfl
    exact @step_accepted E _ ⟨host, _⟩ _ accepted
  have second (s : RouteState) : (RouteRuns.step E s
      ⟨host, .commitRouteUpdate own targetPeerId versions topologyVersion⟩).groups =
        s.groups.insert own ((s.ensureGroup host own).commitRouteUpdate targetPeerId versions
          topologyVersion (host.clock 1)) := by
    have accepted : groupOp E host (.commitRouteUpdate own targetPeerId versions topologyVersion) =
        .ok _ := rfl
    exact @step_accepted E _ ⟨host, _⟩ _ accepted
  rw [run_cons, run_cons, run_nil, second, RouteState.ensureGroup, first,
    FMap.lookup_insert_eq_ite, FMap.lookup_insert_eq_ite, FMap.lookup_insert_eq_ite, if_pos rfl]
  split
  · rfl
  · rfl

theorem step_groups (w : World) (e : Event) (groupKey : String) :
    ((step E w e).routes.groups.lookup groupKey = w.routes.groups.lookup groupKey ∧
        ∀ b, handedOut E w e = some b → b.groupKey ≠ groupKey) ∨
      ∃ g', GroupMove E w e groupKey (w.routes.ensureGroup e.host groupKey) g' ∧
        (step E w e).routes.groups.lookup groupKey = some g' := by
  rcases ack_or_call w.built e.op with ⟨k, sid, weAreInitiator, named⟩ | ⟨c, asked⟩
  · cases found : w.built[k]? with
    | none =>
      have idle : (step E w e).routes = w.routes := by
        simp [step, events, named, calls, found]
      rw [idle]
      refine Or.inl ⟨rfl, ?_⟩
      intro b handed
      simp [handedOut, events, named, calls, found] at handed
    | some b =>
      have moved : (step E w e).routes.groups.lookup groupKey = if groupKey = b.groupKey then
          some (((w.routes.ensureGroup e.host b.groupKey).onRouteSessionAck b.targetPeerId sid
            weAreInitiator (e.host.clock 0)).commitRouteUpdate b.targetPeerId
              b.update.peerInfoVersions b.update.topologyVersion (e.host.clock 1))
          else w.routes.groups.lookup groupKey := by
        rw [← acknowledged_groups E]
        simp [step, events, named, calls, found]
      by_cases own : groupKey = b.groupKey
      · subst own
        rw [if_pos rfl] at moved
        exact Or.inr ⟨_, .ack k sid weAreInitiator b named found rfl, moved⟩
      · rw [if_neg own] at moved
        refine Or.inl ⟨moved, ?_⟩
        intro b' handed
        simp [handedOut, events, named, calls, found, RouteRuns.built] at handed
  · have single : (step E w e).routes = RouteRuns.step E w.routes ⟨e.host, c⟩ := by
      simp [step, events, asked]
    have handed_by : handedOut E w e = RouteRuns.built E w.routes ⟨e.host, c⟩ := by
      simp [handedOut, events, asked]
    rw [single, handed_by]
    rcases RouteRuns.step_groups E w.routes ⟨e.host, c⟩ groupKey with
      same | ⟨op, own, accepted, moved⟩
    · exact Or.inl same
    · exact Or.inr ⟨_, .call c op own asked accepted, moved⟩

end Moves

section Runs

variable {E} {myPeerId : UInt32} {groupKey : String}

theorem built_append (w : World) (es fs : List Event) :
    ∃ later, (run (step E) w (es ++ fs)).built = (run (step E) w es).built ++ later := by
  induction fs using List.reverseRecOn with
  | nil => exact ⟨[], by simp⟩
  | append_singleton fs e ih =>
    obtain ⟨later, same⟩ := ih
    refine ⟨later ++ (handedOut E (run (step E) w (es ++ fs)) e).toList, ?_⟩
    rw [← List.append_assoc, run_snoc, ← List.append_assoc, ← same]
    rfl

/-- The acknowledgements of a run, each with the session id it names. -/
def acknowledgements (E : Codec) (w : World) (es : List Event) : List (UInt64 × Built) :=
  log (step E) (fun w e => match e.op with
    | .ack k sid _ => w.built[k]?.map fun b => (sid, b)
    | _ => none) w es

theorem Acked.mem_acknowledgements {w : World} {es : List Event} {sid : UInt64} {b : Built}
    (acked : Acked E w es sid b) : (sid, b) ∈ acknowledgements E w es := by
  obtain ⟨pre, e, post, k, weAreInitiator, rfl, named, found⟩ := acked
  rw [acknowledgements, log_append]
  refine List.mem_append_right _ ?_
  simp [log, named, found]

theorem Acked.mem_built {w : World} {es : List Event} {sid : UInt64} {b : Built}
    (acked : Acked E w es sid b) : b ∈ (run (step E) w es).built := by
  obtain ⟨pre, e, post, k, weAreInitiator, rfl, _, found⟩ := acked
  obtain ⟨later, same⟩ := built_append w pre (e :: post)
  rw [same]
  exact List.mem_append_left later (List.mem_of_getElem? found)

theorem mem_built_snoc {w : World} {es : List Event} {e : Event} {b : Built}
    (member : b ∈ (run (step E) w (es ++ [e])).built) :
    b ∈ (run (step E) w es).built ∨ handedOut E (run (step E) w es) e = some b := by
  rw [run_snoc] at member
  rcases List.mem_append.mp member with old | new
  · exact Or.inl old
  · exact Or.inr (Option.mem_toList.mp new)

theorem handedOut_of_ok {w : World} {e : Event} {t : UInt32} {serverSessionId : UInt64}
    {weAreInitiator forceFull : Bool} {u : RouteUpdate} {g' : RouteGroupData}
    (building : e.op = .build groupKey t serverSessionId weAreInitiator forceFull)
    (ran : RouteGroupData.buildSyncRouteInfoRequest E e.host w.routes.myPeerId t serverSessionId
      weAreInitiator forceFull (w.routes.ensureGroup e.host groupKey) = .ok u g') :
    handedOut E w e = some ⟨groupKey, t, u⟩ := by
  rw [handedOut, events, building]
  show RouteRuns.built E w.routes ⟨e.host, .buildSyncRouteInfoRequest ..⟩ = _
  simp only [RouteRuns.built, RouteState.buildSyncRouteInfoRequest, RouteState.onGroup, ran]

theorem run_myPeerId (es : List Event) :
    (run (step E) (World.new myPeerId) es).routes.myPeerId = myPeerId := by
  obtain ⟨calls, same⟩ := run_routes E myPeerId es
  rw [same]
  exact RouteRuns.run_myPeerId calls

theorem identity_run {es : List Event} {g : RouteGroupData}
    (found : (run (step E) (World.new myPeerId) es).routes.groups.lookup groupKey = some g) :
    Identity myPeerId g := by
  obtain ⟨calls, same⟩ := run_routes E myPeerId es
  rw [same] at found
  exact RouteIdentity.run_identity E found

theorem no_built_of_absent (es : List Event)
    (absent : (run (step E) (World.new myPeerId) es).routes.groups.lookup groupKey = none) :
    ∀ b ∈ (run (step E) (World.new myPeerId) es).built, b.groupKey ≠ groupKey := by
  induction es using List.reverseRecOn with
  | nil =>
    intro b member
    cases member
  | append_singleton es e ih =>
    intro b member
    have after := absent
    rw [run_snoc] at after
    rcases step_groups (run (step E) (World.new myPeerId) es) e groupKey with
      ⟨same, foreign⟩ | ⟨g', _, moved⟩
    · rcases mem_built_snoc member with old | new
      · exact ih (same ▸ after) b old
      · exact foreign b new
    · rw [moved] at after
      cases after

theorem group_history {R : List Event → RouteGroupData → Prop}
    {P : List Event → World → Event → Prop}
    (start : ∀ pre host,
      (run (step E) (World.new myPeerId) pre).routes.groups.lookup groupKey = none →
      R pre (RouteGroupData.new myPeerId host))
    (other : ∀ pre e g, R pre g →
      (run (step E) (World.new myPeerId) pre).routes.groups.lookup groupKey = some g →
      (step E (run (step E) (World.new myPeerId) pre) e).routes.groups.lookup groupKey = some g →
      (∀ b, handedOut E (run (step E) (World.new myPeerId) pre) e = some b →
        b.groupKey ≠ groupKey) →
      R (pre ++ [e]) g)
    (keep : ∀ pre e g g', R pre g → P pre (run (step E) (World.new myPeerId) pre) e →
      g = (run (step E) (World.new myPeerId) pre).routes.ensureGroup e.host groupKey →
      GroupMove E (run (step E) (World.new myPeerId) pre) e groupKey g g' →
      (step E (run (step E) (World.new myPeerId) pre) e).routes.groups.lookup groupKey = some g' →
      R (pre ++ [e]) g')
    {es : List Event} (steps : AllSteps (step E) P (World.new myPeerId) es) :
    ∀ g, (run (step E) (World.new myPeerId) es).routes.groups.lookup groupKey = some g →
      R es g := by
  induction es using List.reverseRecOn with
  | nil =>
    intro g found
    cases found
  | append_singleton es e ih =>
    intro g found
    rw [run_snoc] at found
    have before := ih steps.init
    rcases step_groups (run (step E) (World.new myPeerId) es) e groupKey with
      ⟨same, foreign⟩ | ⟨g', move, moved⟩
    · exact other es e g (before g (same ▸ found)) (same ▸ found) found foreign
    · rw [moved] at found
      cases Option.some.inj found
      refine keep es e _ _ ?_ steps.last rfl move moved
      refine ensureGroup_eq rfl before fun absent => ?_
      rw [run_myPeerId]
      exact start es e.host absent

end Runs

end EasyTierEdge.Rpc.RouteWorld
