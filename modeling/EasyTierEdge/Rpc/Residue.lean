/- module: EasyTierEdge/Rpc/Residue
   source: cloudflare/wasm/src/rpc.rs, cloudflare/wasm/src/route_state.rs
   digest: The core holds nothing about peers that are not members. -/

import EasyTierEdge.Rpc.ConnCaches
import EasyTierEdge.Rpc.CoreRoutes
import EasyTierEdge.Rpc.Reassembly
import EasyTierEdge.Rpc.RouteMembers

set_option autoImplicit false
set_option relaxedAutoImplicit false

namespace EasyTierEdge.Rpc.Residue

open Lib.AscendingMap Lib.Fallible Lib.FiniteMap Lib.Machine
open Packet (Bytes)
open Proto Routes PeerCenter Fragments FragmentMoves Rpc.Core CoreMoves CoreRuns CoreRoutes
open RouteRuns (RouteCall RouteEvent RouteReply)
open RouteMoves RouteMembers RouteIdentity
open MapDigest (CenterEvent centerStep)
open Reports

/-! Route sessions. -/

/-- The peer whose route session a call keeps. -/
def attends : RouteCall → Option (String × UInt32)
  | .onRouteSessionAck groupKey peerId .. => some (groupKey, peerId)
  | .commitRouteUpdate groupKey peerId .. => some (groupKey, peerId)
  | .buildSyncRouteInfoRequest groupKey targetPeerId .. => some (groupKey, targetPeerId)
  | .handleSyncRouteInfoRequest groupKey fromPeerId .. => some (groupKey, fromPeerId)
  | _ => none

private theorem attends_groupKey {call : RouteCall} {groupKey : String} {p : UInt32}
    (attended : attends call = some (groupKey, p)) : call.groupKey = groupKey := by
  cases call with
  | onRouteSessionAck => exact congrArg Prod.fst (Option.some.inj attended)
  | commitRouteUpdate => exact congrArg Prod.fst (Option.some.inj attended)
  | buildSyncRouteInfoRequest => exact congrArg Prod.fst (Option.some.inj attended)
  | handleSyncRouteInfoRequest => exact congrArg Prod.fst (Option.some.inj attended)
  | _ => cases attended

def sessionAt (s : RouteState) (groupKey : String) (p : UInt32) : Option SessionState :=
  (s.groups.lookup groupKey).bind fun g => g.sessions.get? p

section Sessions

variable {E : Codec} {g g' : RouteGroupData} {p : UInt32}

/-- Sessions are opened for `q` at most. -/
def Opens (q : Option UInt32) (g g' : RouteGroupData) : Prop :=
  ∀ p, (g'.sessions.get? p).isSome = true → (g.sessions.get? p).isSome = true ∨ q = some p

private theorem Opens.of_sessions {q : Option UInt32} (same : g'.sessions = g.sessions) :
    Opens q g g' := by
  intro p held
  rw [same] at held
  exact Or.inl held

private theorem opens_upsert {initial : SessionState} {f : SessionState → SessionState} {q : UInt32}
    (upserted : g'.sessions = g.sessions.upsert q initial f) : Opens (some q) g g' := by
  intro p held
  rw [upserted, AscMap.get?_upsert] at held
  by_cases own : p = q
  · exact Or.inr (congrArg some own.symm)
  · rw [if_neg own] at held
    exact Or.inl held

private theorem opens_ack (q : UInt32) (theirSessionId : UInt64) (weAreInitiator : Bool)
    (nowMs : UInt64) :
    Opens (some q) g (g.onRouteSessionAck q theirSessionId weAreInitiator nowMs) :=
  @opens_upsert g _ SessionState.default (fun s => s.follow theirSessionId weAreInitiator nowMs) q
    rfl

private theorem opens_commit (q : UInt32) (versions : List (UInt32 × UInt32))
    (topologyVersion : Option UInt64) (nowMs : UInt64) :
    Opens (some q) g (g.commitRouteUpdate q versions topologyVersion nowMs) :=
  @opens_upsert g _ SessionState.default (fun s => s.commit versions topologyVersion nowMs) q rfl

private theorem opens_touch (q : UInt32) (serverSessionId nowMs : UInt64) :
    Opens (some q) g (g.touchSession q serverSessionId nowMs) :=
  @opens_upsert g _ SessionState.default (fun s =>
    { s with mySessionId := some serverSessionId, lastTouchMs := nowMs }) q rfl

theorem Opens.trans {q : Option UInt32} {g'' : RouteGroupData} (first : Opens q g g')
    (second : Opens q g' g'') : Opens q g g'' := by
  intro p held
  rcases second p held with before | own
  · exact first p before
  · exact Or.inr own

private theorem opens_publish (q : Option UInt32) (p : UInt32) (stored : RoutePeerInfo) :
    Opens q g (publish p g stored) := by
  intro t held
  left
  simp only [publish] at held
  split at held
  · rw [AscMap.get?_mapValues, Option.isSome_map] at held
    exact held
  · exact held

private theorem opens_call {host : Host} {c : RouteCall} {op : UInt32 → GroupM RouteReply}
    (accepted : RouteRuns.groupOp E host c = .ok op) (myPeerId : UInt32) (g : RouteGroupData) :
    Opens ((attends c).map Prod.snd) g (final (op myPeerId g)) ∧
      ∀ q, c = .removePeer c.groupKey q → (final (op myPeerId g)).sessions.get? q = none := by
  have ran := RouteRuns.groupOp_final accepted myPeerId g
  cases c with
  | addPeer groupKey peerId publicKey =>
    obtain ⟨key, _, ran⟩ := ran
    rw [ran]
    refine ⟨.of_sessions ?_, by simp⟩
    exact ensures_final ((addPeer_cases myPeerId peerId key g).mono (fun _ _ after => after.2.2.2)
      fun _ _ same => same ▸ rfl)
  | removePeer groupKey peerId =>
    rw [ran]
    have sessions := (removePeer_tables g myPeerId peerId).2.2.2
    refine ⟨?_, ?_⟩
    · intro p held
      rw [sessions, AscMap.get?_mapValues, Option.isSome_map, AscMap.get?_erase] at held
      by_cases own : p = peerId
      · rw [if_pos own] at held
        cases held
      · rw [if_neg own] at held
        exact Or.inl held
    · intro q left
      cases left
      rw [sessions, AscMap.get?_mapValues, AscMap.get?_erase, if_pos rfl]
      rfl
  | onRouteSessionAck groupKey peerId theirSessionId weAreInitiator =>
    rw [ran]
    exact ⟨opens_ack _ _ _ _, by simp⟩
  | commitRouteUpdate groupKey peerId versions topologyVersion =>
    rw [ran]
    exact ⟨opens_commit _ _ _ _, by simp⟩
  | setMyInfoField groupKey field value =>
    refine ⟨.of_sessions ?_, by simp⟩
    rcases ran with ⟨myInfo, ran⟩ | ran
    · rw [ran]
      rfl
    · rw [ran]
  | setMyNoisePublicKey groupKey publicKey =>
    obtain ⟨myInfo, ran⟩ := ran
    rw [ran]
    exact ⟨.of_sessions rfl, by simp⟩
  | buildSyncRouteInfoRequest groupKey targetPeerId serverSessionId weAreInitiator forceFull =>
    rw [ran]
    refine ⟨ensures_final ((buildSyncRouteInfoRequest_cases g targetPeerId serverSessionId E host
      myPeerId weAreInitiator forceFull).mono ?_ ?_), by simp⟩
    · rintro u g' ⟨touched, missing, rfl, _, same, _⟩
      exact (opens_touch _ _ _).trans (.of_sessions same.sessions)
    · rintro e g' ⟨rfl, _⟩
      exact opens_touch _ _ _
  | handleSyncRouteInfoRequest groupKey fromPeerId requestBytes =>
    obtain ⟨req, _, _, ran⟩ := ran
    rw [ran]
    refine ⟨ensures_final (@handleSyncRouteInfoRequest_cases host fromPeerId
      (Opens (some fromPeerId) g) (Opens (some fromPeerId) g) E myPeerId req g
      (opens_ack _ _ _ _) ?_ ?_ ?_), by simp⟩
    · intro g' info _ stampMs opens _
      exact opens.trans (opens_publish _ _ _)
    · exact fun g' opens => opens
    · intro g' _ _ opens _ _
      exact opens.trans (.of_sessions rfl)

private theorem removed_session (s : RouteState) (host : Host) (groupKey : String) (p : UInt32) :
    sessionAt (RouteRuns.step E s ⟨host, .removePeer groupKey p⟩) groupKey p = none := by
  have accepted : RouteRuns.groupOp E host (.removePeer groupKey p) = .ok fun myPeerId => do
      modify fun g => g.removePeer myPeerId p
      return .done := rfl
  have moved := @RouteRuns.step_accepted E s ⟨host, .removePeer groupKey p⟩ _ accepted
  rw [sessionAt, moved, FMap.lookup_insert_eq_ite]
  show (if groupKey = groupKey then _ else _ : Option RouteGroupData).bind _ = none
  rw [if_pos rfl]
  exact (opens_call accepted s.myPeerId _).2 p rfl

private theorem step_sessions (s : RouteState) (e : RouteEvent) (groupKey : String) (p : UInt32)
    (held : (sessionAt (RouteRuns.step E s e) groupKey p).isSome = true) :
    attends e.call = some (groupKey, p) ∨
      ((sessionAt s groupKey p).isSome = true ∧ e.call ≠ .removePeer groupKey p) := by
  obtain ⟨host, call⟩ := e
  have stay : call ≠ .removePeer groupKey p := by
    rintro rfl
    rw [removed_session] at held
    cases held
  rw [sessionAt] at held
  rcases RouteRuns.step_groups E s ⟨host, call⟩ groupKey with
    ⟨same, _⟩ | ⟨op, own, accepted, moved⟩
  · rw [same] at held
    exact Or.inr ⟨held, stay⟩
  · rw [moved] at held
    rcases (opens_call accepted s.myPeerId _).1 p held with before | attended
    · refine Or.inr ⟨?_, stay⟩
      rw [RouteState.ensureGroup] at before
      rw [sessionAt]
      cases found : s.groups.lookup groupKey with
      | none =>
        rw [found] at before
        cases before
      | some g =>
        rw [found] at before
        exact before
    · left
      obtain ⟨⟨key, q⟩, attends_q, rfl⟩ := Option.map_eq_some_iff.mp attended
      have here : call.groupKey = key := attends_groupKey attends_q
      rw [attends_q, ← here]
      exact congrArg (fun n => some (n, q)) own

private theorem member_kept {s : RouteState} {network : String} (e : RouteEvent)
    (member : Member s network p) (stay : e.call ≠ .removePeer network p) :
    Member (RouteRuns.step E s e) network p := by
  obtain ⟨host, call⟩ := e
  have settled (quiet : Settled call) : Member (RouteRuns.step E s ⟨host, call⟩) network p := by
    rw [Member, step_roll s ⟨host, call⟩ quiet]
    exact member
  cases call with
  | addPeer groupKey peerId publicKey =>
    rw [RouteRuns.step, RouteRuns.perform, RouteRuns.final_bind_pure]
    refine @ensures_final _ _ _ s _ (fun s' => Member s' network p)
      ((addPeer_roll host groupKey peerId publicKey s).mono ?_ ?_)
    · rintro _ s' ⟨key, _, joined⟩
      rw [Member, joined, enroll]
      split
      · rfl
      · exact member
    · intro _ s' same
      rw [Member, same]
      exact member
  | removePeer groupKey peerId =>
    rw [RouteRuns.step, RouteRuns.perform, RouteRuns.final_bind_pure]
    refine @ensures_final _ _ _ s _ (fun s' => Member s' network p)
      ((removePeer_roll host groupKey peerId s).mono ?_
      fun _ _ impossible => impossible.elim)
    rintro _ s' left
    rw [Member, left, enroll, if_neg]
    · exact member
    · rintro ⟨rfl, rfl⟩
      exact stay rfl
  | _ => exact settled trivial

private theorem members_kept {s : RouteState} {network : String} (host : Host)
    {calls : List RouteCall}
    (member : Member s network p) (stay : ∀ call ∈ calls, call ≠ .removePeer network p) :
    Member (run (RouteRuns.step E) s (during host calls)) network p := by
  induction calls generalizing s with
  | nil => exact member
  | cons call calls ih =>
    refine ih ?_ fun other listed => stay other (List.mem_cons_of_mem call listed)
    exact member_kept ⟨host, call⟩ member (stay call List.mem_cons_self)

/-- Sessions are kept, and peers are removed, while they are members. -/
structure Proper (s : RouteState) (e : RouteEvent) : Prop where
  attended : ∀ network p, attends e.call = some (network, p) → Member s network p
  departed : ∀ network p, e.call = .removePeer network p → Member s network p

private theorem Proper.quiet {s : RouteState} {e : RouteEvent} (none : attends e.call = none)
    (stay : ∀ network p, e.call ≠ .removePeer network p) : Proper s e where
  attended := by
    intro network p attended
    rw [none] at attended
    cases attended
  departed := fun network p left => absurd left (stay network p)

private theorem Proper.attending {s : RouteState} {e : RouteEvent} {network : String}
    (attended : attends e.call = some (network, p)) (member : Member s network p) : Proper s e where
  attended := by
    intro n q attended'
    rw [attended] at attended'
    cases attended'
    exact member
  departed := by
    intro n q left
    rw [left] at attended
    cases attended

private theorem sessions_run {myPeerId : UInt32} {es : List RouteEvent}
    (proper : AllSteps (RouteRuns.step E) (fun _ => Proper) (RouteState.new myPeerId) es)
    (network : String) (p : UInt32)
    (held : (sessionAt (run (RouteRuns.step E) (RouteState.new myPeerId) es) network p).isSome =
      true) :
    Member (run (RouteRuns.step E) (RouteState.new myPeerId) es) network p := by
  induction es using List.reverseRecOn with
  | nil => cases held
  | append_singleton es e ih =>
    rw [run_snoc] at held ⊢
    rcases step_sessions _ e network p held with attended | ⟨before, stay⟩
    · refine member_kept e (proper.last.attended network p attended) fun left => ?_
      rw [left] at attended
      cases attended
    · exact member_kept e (ih proper.init before) stay

end Sessions

/-! The core. -/

/-- A call that is about one peer is about a member, unless it brings the peer in. -/
def AboutMember (c : WasmRpcCore) : CoreCall → Prop
  | .addPeer .. => True
  | .cleanExpired _ => True
  | .removePeer network peerId => Member c.routes network peerId
  | .handleRequest network peerId .. => Member c.routes network peerId
  | .handleResponse network peerId .. => Member c.routes network peerId
  | .buildRouteUpdate network peerId .. => Member c.routes network peerId

section Core

variable {E : Env} {c : WasmRpcCore} {es : List CoreEvent} {network : String} {p : UInt32}

private theorem made_proper {call : CoreCall} {host : Host} {calls : List RouteCall}
    (about : AboutMember c call) (made : Made c call calls) :
    AllSteps (RouteRuns.step E.codec) (fun _ => Proper) c.routes (during host calls) := by
  have one {call : RouteCall} (proper : Proper c.routes ⟨host, call⟩) :
      AllSteps (RouteRuns.step E.codec) (fun _ => Proper) c.routes (during host [call]) :=
    AllSteps.snoc .nil proper
  cases made with
  | idle => exact .nil
  | @joined network peerId publicKey calls some_of =>
    intro pre e post split
    have listed : e ∈ during host calls := split ▸ by simp
    obtain ⟨call, member, rfl⟩ := List.mem_map.mp listed
    have own : call ∈ joining c network peerId publicKey := some_of.subset member
    simp only [joining, List.mem_cons, List.not_mem_nil, or_false] at own
    rcases own with rfl | rfl | rfl
    · exact .quiet rfl (by simp)
    · exact .quiet rfl (by simp)
    · exact .quiet rfl (by simp)
  | left =>
    refine one ⟨fun n q attended => (by cases attended), fun n q left => ?_⟩
    cases left
    exact about
  | synced => exact one (.attending rfl about)
  | built => exact one (.attending rfl about)
  | @acknowledged network peerId payload nowMs sessionId weAreInitiator versions topologyVersion =>
    have kept : Member (RouteRuns.step E.codec c.routes ⟨host, .onRouteSessionAck network peerId
        sessionId weAreInitiator⟩) network peerId := member_kept _ about (by simp)
    exact AllSteps.snoc (one (.attending rfl about)) (Proper.attending rfl kept)

private theorem routes_proper {myPeerId : UInt32} (fresh : c.routes = RouteState.new myPeerId)
    (about : AllSteps (step E) (fun _ c e => AboutMember c e.call) c es) :
    ∃ events, AllSteps (RouteRuns.step E.codec) (fun _ => Proper) (RouteState.new myPeerId) events ∧
      run (RouteRuns.step E.codec) (RouteState.new myPeerId) events =
        (run (step E) c es).routes := by
  rw [← fresh]
  exact routes_run (about.mono fun _ _ _ about _ made => made_proper about made)

private theorem step_member (e : CoreEvent) (member : Member c.routes network p)
    (stay : e.call ≠ .removePeer network p) : Member (step E c e).routes network p := by
  obtain ⟨host, call⟩ := e
  obtain ⟨calls, made, after⟩ := @step_made E c ⟨host, call⟩
  rw [after]
  refine members_kept host member ?_
  rintro call listed rfl
  dsimp only at made
  cases made with
  | idle => cases listed
  | joined some_of =>
    have own := some_of.subset listed
    simp [joining] at own
  | left =>
    cases List.mem_singleton.mp listed
    exact stay rfl
  | synced => cases List.mem_singleton.mp listed
  | built => cases List.mem_singleton.mp listed
  | acknowledged => simp at listed

/-! What the core holds besides the route groups. -/

/-- The peer has reported latencies. -/
def Mentioned (s : Center) (network : String) (p : UInt32) : Prop :=
  (timeAt s network p).isSome = true ∨ ∃ dst entry, entryAt s network ⟨p, dst⟩ = some entry

/-- The core remembers the peer outside of the route groups. -/
inductive Remembered (c : WasmRpcCore) (network : String) (p : UInt32) : Prop
  | initiator (held : (c.peerInitiator.lookup (network, p)).isSome = true)
  | fragments (transactionId : Int64) (isRequest : Bool)
      (held : (c.fragments.pending.lookup ⟨network, p, transactionId, isRequest⟩).isSome = true)
  | transaction (transactionId : Int64) (isRequest : Bool)
      (held : (c.outstandingRoutes.lookup ⟨network, p, transactionId, isRequest⟩).isSome = true)
  | reports (held : Mentioned c.peerCenter network p)

private theorem centerStep_mentioned {codec : Codec} {hash : Bytes → Digest} (s : Center)
    (e : CenterEvent) (held : Mentioned (centerStep codec hash s e) network p) :
    (∃ reportBytes, e.call = .reportPeers network p reportBytes) ∨
      (Mentioned s network p ∧ e.call ≠ .removePeer network p) := by
  have reported {direct : AscMap UInt32 DirectConnectedPeerInfo}
      (report : Report codec network p e direct) :
      ∃ reportBytes, e.call = .reportPeers network p reportBytes := by
    obtain ⟨reportBytes, _, call, _⟩ := report
    exact ⟨reportBytes, call⟩
  rcases held with timed | ⟨dst, entry, held⟩
  · rcases timeAt_step s e p timed with ⟨direct, report⟩ | ⟨before, stay⟩
    · exact Or.inl (reported report)
    · exact Or.inr ⟨Or.inl before, stay⟩
  · rcases (entryAt_step s e ⟨p, dst⟩ entry).mp held with ⟨direct, report, _⟩ | ⟨before, left⟩
    · exact Or.inl (reported report)
    · exact Or.inr ⟨Or.inr ⟨dst, entry, before⟩, fun gone => (left.departed p gone).1 rfl⟩

/-- The member that a call serves. -/
def concerned : CoreCall → Option (String × UInt32)
  | .handleRequest network peerId .. => some (network, peerId)
  | .handleResponse network peerId .. => some (network, peerId)
  | .buildRouteUpdate network peerId .. => some (network, peerId)
  | _ => none

/-- Why the core remembers a peer after a call: it did before and the peer was not removed, the call
serves the peer, or the peer joined. -/
inductive Why (E : Env) (network : String) (p : UInt32) (c : WasmRpcCore) (e : CoreEvent)
    (before : Prop) : Prop
  | kept (held : before) (stay : e.call ≠ .removePeer network p) : Why E network p c e before
  | served (call : concerned e.call = some (network, p)) : Why E network p c e before
  | joined (member : Member (step E c e).routes network p) : Why E network p c e before

private theorem joined_member {host : Host} {publicKey : Bytes} {c' : WasmRpcCore}
    {initiators : FMap (String × UInt32) Bool}
    (accepted : value (RouteState.addPeer host network p publicKey c.routes) = .ok ())
    (joined : Joined E host network p publicKey c c' initiators) : Member c'.routes network p := by
  obtain ⟨calls, groups, some_of, occupied, rfl⟩ := joined.after
  cases calls with
  | nil => exact absurd rfl occupied
  | cons first rest =>
    obtain ⟨rfl, some_rest⟩ := List.cons_prefix_cons.mp some_of
    have came : Member (RouteRuns.step E.codec c.routes ⟨host, .addPeer network p publicKey⟩)
        network p := by
      rw [RouteRuns.step, RouteRuns.perform, RouteRuns.final_bind_pure]
      show Member (final (RouteState.addPeer host network p publicKey c.routes)) network p
      have spec := addPeer_roll host network p publicKey c.routes
      cases ran : RouteState.addPeer host network p publicKey c.routes with
      | ok a routes =>
        obtain ⟨key, _, rolled⟩ := ensures_of_ok spec ran
        show Member routes network p
        rw [Member, rolled, enroll, if_pos ⟨rfl, rfl⟩]
        rfl
      | error e routes =>
        rw [ran] at accepted
        cases accepted
    have fields : ∀ call ∈ rest, call ≠ .removePeer network p := by
      rintro call listed rfl
      have own := some_rest.subset listed
      simp at own
    show Member (run (RouteRuns.step E.codec) (RouteRuns.step E.codec c.routes
      ⟨host, .addPeer network p publicKey⟩) (during host rest)) network p
    exact members_kept host came fields

private theorem step_initiator (c : WasmRpcCore) (e : CoreEvent)
    (held : ((step E c e).peerInitiator.lookup (network, p)).isSome = true) :
    Why E network p c e ((c.peerInitiator.lookup (network, p)).isSome = true) := by
  obtain ⟨host, call⟩ := e
  have move := @step_moves E c ⟨host, call⟩
  have joins : Member (step E c ⟨host, call⟩).routes network p → Why E network p c ⟨host, call⟩
      ((c.peerInitiator.lookup (network, p)).isSome = true) := .joined
  generalize step E c ⟨host, call⟩ = c' at move held joins
  generalize outcome E c ⟨host, call⟩ = r at move
  have same (equal : c'.peerInitiator = c.peerInitiator) (stay : call ≠ .removePeer network p) :
      Why E network p c ⟨host, call⟩ ((c.peerInitiator.lookup (network, p)).isSome = true) :=
    .kept (equal ▸ held) stay
  cases move with
  | added n q publicKey _ accepted joined =>
    by_cases own : (network, p) = (n, q)
    · cases own
      exact joins (joined_member accepted joined)
    · obtain ⟨_, _, _, _, rfl⟩ := joined.after
      rw [FMap.lookup_insert_eq_ite, if_neg own] at held
      exact .kept held (by simp)
  | unadded n q publicKey e _ joined =>
    obtain ⟨_, _, _, _, rfl⟩ := joined.after
    exact .kept held (by simp)
  | removed n q =>
    have erased : ((c.peerInitiator.erase (n, q)).lookup (network, p)).isSome = true := held
    rw [FMap.lookup_erase_eq_ite] at erased
    by_cases own : (network, p) = (n, q)
    · rw [if_pos own] at erased
      cases erased
    · rw [if_neg own] at erased
      refine .kept erased fun left => own ?_
      cases left
      rfl
  | requested n q payload nowMs _ _ move =>
    cases move with
    | rejected => exact same rfl (by simp)
    | merged packet decoded envelope r fragments move _ served =>
      cases served with
      | nothing => exact same rfl (by simp)
      | synced request sync decoded =>
        by_cases own : (network, p) = (n, q)
        · exact .served (congrArg some own.symm)
        · rw [FMap.lookup_insert_eq_ite, if_neg own] at held
          exact .kept held (by simp)
      | centered => exact same rfl (by simp)
  | accepted n q payload nowMs _ packet route sessionId move =>
    obtain ⟨whole, fragments, _, _, rfl⟩ := move.merged
    exact same rfl (by simp)
  | unaccepted n q payload nowMs _ _ _ move =>
    cases move with
    | rejected => exact same rfl (by simp)
    | late => exact same rfl (by simp)
    | merged => exact same rfl (by simp)
  | built n q serverSessionId forceFull nowMs payload _ transactionId update move =>
    refine same ?_ (by simp)
    rw [move.after]
    rfl
  | unbuilt => exact same rfl (by simp)
  | cleaned => exact same rfl (by simp)

private theorem cleaned_fragment (t : PendingTable) (nowMs : UInt64) (key : RpcKey)
    (held : ((t.cleanPending nowMs).pending.lookup key).isSome = true) :
    (t.pending.lookup key).isSome = true := by
  rw [PendingTable.cleanPending, removeWhere_lookup] at held
  exact Option.isSome_of_isSome_filter _ _ held

private theorem merged_fragment {key other : RpcKey} {packet : RpcPacket} {nowMs : UInt64}
    {t t' : PendingTable} {r : Except String MergedPacket} (different : key ≠ other)
    (move : MergeMove other packet nowMs t r t')
    (held : (t'.pending.lookup key).isSome = true) : (t.pending.lookup key).isSome = true := by
  rcases Reassembly.MergeMove.frame different move with same | cleaned
  · exact same ▸ held
  · exact cleaned_fragment t nowMs key (cleaned ▸ held)

private theorem step_fragment (c : WasmRpcCore) (e : CoreEvent) (transactionId : Int64)
    (isRequest : Bool) (held : ((step E c e).fragments.pending.lookup
      ⟨network, p, transactionId, isRequest⟩).isSome = true) :
    Why E network p c e
      ((c.fragments.pending.lookup ⟨network, p, transactionId, isRequest⟩).isSome = true) := by
  obtain ⟨host, call⟩ := e
  have move := @step_moves E c ⟨host, call⟩
  generalize step E c ⟨host, call⟩ = c' at move held
  generalize outcome E c ⟨host, call⟩ = r at move
  have merged {packet : RpcPacket} {n : String} {q : UInt32} {id : Int64} {b : Bool}
      {nowMs : UInt64} {r : Except String MergedPacket} {fragments : PendingTable}
      (move : MergeMove (rpcKey n q id b) packet nowMs c.fragments r fragments)
      (held : (fragments.pending.lookup ⟨network, p, transactionId, isRequest⟩).isSome = true)
      (about : concerned call = some (n, q)) (stay : call ≠ .removePeer network p) :
      Why E network p c ⟨host, call⟩
        ((c.fragments.pending.lookup ⟨network, p, transactionId, isRequest⟩).isSome = true) := by
    by_cases own : (network, p) = (n, q)
    · exact .served (about.trans (congrArg some own.symm))
    · refine .kept (merged_fragment (fun same => own ?_) move held) stay
      exact Prod.ext (congrArg RpcKey.network same) (congrArg RpcKey.peerId same)
  cases move with
  | added n q publicKey _ accepted joined =>
    obtain ⟨_, _, _, _, rfl⟩ := joined.after
    exact .kept held (by simp)
  | unadded n q publicKey e _ joined =>
    obtain ⟨_, _, _, _, rfl⟩ := joined.after
    exact .kept held (by simp)
  | removed n q =>
    have kept : ((c.fragments.removePeer n q).pending.lookup
      ⟨network, p, transactionId, isRequest⟩).isSome = true := held
    rw [PendingTable.removePeer, removeWhere_lookup] at kept
    obtain ⟨pending, found⟩ := Option.isSome_iff_exists.mp kept
    obtain ⟨before, other⟩ := Option.filter_eq_some_iff.mp found
    refine .kept (by rw [before]; rfl) fun left => ?_
    cases left
    simp at other
  | requested n q payload nowMs _ _ move =>
    cases move with
    | rejected => exact .kept held (by simp)
    | merged packet decoded envelope r fragments move _ served =>
      rw [CoreRuns.Served.fragments served] at held
      exact merged move held rfl (by simp)
  | accepted n q payload nowMs _ packet route sessionId move =>
    obtain ⟨whole, fragments, merge, _, rfl⟩ := move.merged
    exact merged merge held rfl (by simp)
  | unaccepted n q payload nowMs _ _ _ move =>
    cases move with
    | rejected => exact .kept held (by simp)
    | late => exact .kept held (by simp)
    | merged packet decoded envelope route outstanding timely r fragments move =>
      exact merged move held rfl (by simp)
  | built n q serverSessionId forceFull nowMs payload _ transactionId update move =>
    rw [move.after] at held
    exact .kept (cleaned_fragment _ _ _ held) (by simp)
  | unbuilt n q serverSessionId forceFull nowMs e =>
    exact .kept (cleaned_fragment _ _ _ held) (by simp)
  | cleaned nowMs => exact .kept (cleaned_fragment _ _ _ held) (by simp)

private theorem step_transaction (c : WasmRpcCore) (e : CoreEvent) (transactionId : Int64)
    (isRequest : Bool) (held : ((step E c e).outstandingRoutes.lookup
      ⟨network, p, transactionId, isRequest⟩).isSome = true) :
    Why E network p c e
      ((c.outstandingRoutes.lookup ⟨network, p, transactionId, isRequest⟩).isSome = true) := by
  obtain ⟨host, call⟩ := e
  have move := @step_moves E c ⟨host, call⟩
  generalize step E c ⟨host, call⟩ = c' at move held
  generalize outcome E c ⟨host, call⟩ = r at move
  have retained {chosen : RpcKey → OutstandingRoute → Bool} {key : RpcKey}
      (held : ((FMap.retain chosen c.outstandingRoutes).lookup key).isSome = true) :
      (c.outstandingRoutes.lookup key).isSome = true := by
    rw [FMap.lookup_retain] at held
    exact Option.isSome_of_isSome_filter _ _ held
  have erased {key other : RpcKey}
      (held : ((c.outstandingRoutes.erase other).lookup key).isSome = true) :
      (c.outstandingRoutes.lookup key).isSome = true := by
    rw [FMap.lookup_erase_eq_ite] at held
    split at held
    · cases held
    · exact held
  cases move with
  | added n q publicKey _ accepted joined =>
    obtain ⟨_, _, _, _, rfl⟩ := joined.after
    exact .kept held (by simp)
  | unadded n q publicKey e _ joined =>
    obtain ⟨_, _, _, _, rfl⟩ := joined.after
    exact .kept held (by simp)
  | removed n q =>
    refine .kept (retained held) fun left => ?_
    cases left
    have gone : ((FMap.retain (fun key (_ : OutstandingRoute) => key.network != network ||
      key.peerId != p) c.outstandingRoutes).lookup
        ⟨network, p, transactionId, isRequest⟩).isSome = true := held
    obtain ⟨route, found⟩ := Option.isSome_iff_exists.mp gone
    have other := (FMap.lookup_of_lookup_retain found).2
    simp at other
  | requested n q payload nowMs _ _ move =>
    cases move with
    | rejected => exact .kept held (by simp)
    | merged packet decoded envelope r fragments move _ served =>
      rw [CoreRuns.Served.outstandingRoutes served] at held
      exact .kept held (by simp)
  | accepted n q payload nowMs _ packet route sessionId move =>
    obtain ⟨whole, fragments, _, _, rfl⟩ := move.merged
    exact .kept (erased held) (by simp)
  | unaccepted n q payload nowMs _ _ _ move =>
    cases move with
    | rejected => exact .kept held (by simp)
    | late => exact .kept (erased held) (by simp)
    | merged => exact .kept held (by simp)
  | built n q serverSessionId forceFull nowMs payload _ id update move =>
    rw [move.after] at held
    have inserted : (((c.cleanRpcState nowMs).outstandingRoutes.insert (rpcKey n q id false)
      ⟨Lib.Saturating.saturatingAdd nowMs routeRpcTimeoutMs, update.peerInfoVersions,
        update.topologyVersion⟩).lookup ⟨network, p, transactionId, isRequest⟩).isSome =
        true := held
    rw [FMap.lookup_insert_eq_ite] at inserted
    by_cases own : (network, p) = (n, q)
    · exact .served (congrArg some own.symm)
    · rw [if_neg] at inserted
      · exact .kept (retained inserted) (by simp)
      · intro same
        exact own (Prod.ext (congrArg RpcKey.network same) (congrArg RpcKey.peerId same))
  | unbuilt n q serverSessionId forceFull nowMs e => exact .kept (retained held) (by simp)
  | cleaned nowMs => exact .kept (retained held) (by simp)

private theorem step_mentioned (c : WasmRpcCore) (e : CoreEvent)
    (held : Mentioned (step E c e).peerCenter network p) :
    Why E network p c e (Mentioned c.peerCenter network p) := by
  obtain ⟨host, call⟩ := e
  obtain ⟨events, centered, after⟩ := @step_centered E c ⟨host, call⟩
  rw [after] at held
  dsimp only at centered
  have one {x : CenterEvent} (held : Mentioned (run (centerStep E.codec E.hash) c.peerCenter [x])
      network p) : (∃ reportBytes, x.call = .reportPeers network p reportBytes) ∨
        (Mentioned c.peerCenter network p ∧ x.call ≠ .removePeer network p) :=
    centerStep_mentioned c.peerCenter x held
  cases centered with
  | idle stay => exact .kept held (stay network p)
  | @reported n q payload request nowMs =>
    rcases one held with ⟨reportBytes, own⟩ | ⟨before, _⟩
    · cases own
      exact .served rfl
    · exact .kept before (by simp)
  | asked =>
    rcases one held with ⟨reportBytes, own⟩ | ⟨before, _⟩
    · cases own
    · exact .kept before (by simp)
  | @left n q =>
    rcases one held with ⟨reportBytes, own⟩ | ⟨before, stay⟩
    · cases own
    · refine .kept before fun gone => stay ?_
      cases gone
      rfl
  | cleaned =>
    rcases one held with ⟨reportBytes, own⟩ | ⟨before, _⟩
    · cases own
    · exact .kept before (by simp)

private theorem step_remembered (c : WasmRpcCore) (e : CoreEvent)
    (held : Remembered (step E c e) network p) :
    Why E network p c e (Remembered c network p) := by
  have because {before : Prop} (why : Why E network p c e before)
      (known : before → Remembered c network p) : Why E network p c e (Remembered c network p) := by
    cases why with
    | kept held stay => exact .kept (known held) stay
    | served call => exact .served call
    | joined member => exact .joined member
  cases held with
  | initiator held => exact because (step_initiator c e held) .initiator
  | fragments id isRequest held =>
      exact because (step_fragment c e id isRequest held) (.fragments _ _)
  | transaction id isRequest held =>
    exact because (step_transaction c e id isRequest held) (.transaction _ _)
  | reports held => exact because (step_mentioned c e held) .reports

private theorem AboutMember.of_concerned {call : CoreCall} (about : AboutMember c call)
    (served : concerned call = some (network, p)) : Member c.routes network p := by
  cases call with
  | handleRequest => cases served; exact about
  | handleResponse => cases served; exact about
  | buildRouteUpdate => cases served; exact about
  | _ => cases served

private theorem remembered_run (fresh : ¬ Remembered c network p)
    (about : AllSteps (step E) (fun _ c e => AboutMember c e.call) c es)
    (held : Remembered (run (step E) c es) network p) :
    Member (run (step E) c es).routes network p := by
  induction es using List.reverseRecOn with
  | nil => exact absurd held fresh
  | append_singleton es e ih =>
    rw [run_snoc] at held ⊢
    cases step_remembered _ e held with
    | kept before stay => exact step_member e (ih about.init before) stay
    | served call =>
      refine step_member e (about.last.of_concerned call) fun left => ?_
      rw [left] at call
      cases call
    | joined member => exact member

private theorem new_unremembered {publicKey : Bytes} {hostname : String} {serverPeerId : UInt32}
    (built : WasmRpcCore.new publicKey hostname serverPeerId = .ok c) :
    c.routes = RouteState.new serverPeerId ∧ ¬ Remembered c network p := by
  rw [WasmRpcCore.new] at built
  split at built
  · cases built
  · split at built
    · cases built
    · cases built
      refine ⟨rfl, fun held => ?_⟩
      cases held with
      | initiator held => cases held
      | fragments _ _ held => cases held
      | transaction _ _ held => cases held
      | reports held =>
        rcases held with timed | ⟨dst, entry, held⟩
        · cases timed
        · cases held

/-- What the core holds about one peer: its key, its info, its session or its version in the group
of the network, or anything outside of the groups. -/
inductive Held (c : WasmRpcCore) (network : String) (p : UInt32) : Prop
  | key {g : RouteGroupData} (group : c.routes.groups.lookup network = some g)
      (held : p ∈ g.authenticatedPeerKeys.keys) : Held c network p
  | info {g : RouteGroupData} (group : c.routes.groups.lookup network = some g)
      (held : p ∈ g.peerInfos.keys) : Held c network p
  | session {g : RouteGroupData} (group : c.routes.groups.lookup network = some g)
      (held : p ∈ g.sessions.keys) : Held c network p
  | version {g : RouteGroupData} (group : c.routes.groups.lookup network = some g)
      (held : p ∈ g.peerConnVersions.keys) (other : p ≠ c.routes.myPeerId) : Held c network p
  | remembered (held : Remembered c network p) : Held c network p

private theorem member_of_peers {s : RouteState} {g : RouteGroupData}
    (group : s.groups.lookup network = some g) (listed : p ∈ g.peers.keys) :
    Member s network p := by
  rw [Member, roll, group]
  exact (AscMap.mem_keys _).mp listed

/-- In a run about members, the core holds nothing about anybody else. -/
theorem held_members {publicKey : Bytes} {hostname : String} {serverPeerId : UInt32}
    (built : WasmRpcCore.new publicKey hostname serverPeerId = .ok c)
    (about : AllSteps (step E) (fun _ c e => AboutMember c e.call) c es)
    (held : Held (run (step E) c es) network p) :
    Member (run (step E) c es).routes network p := by
  obtain ⟨fresh, unremembered⟩ := @new_unremembered c network p _ _ _ built
  obtain ⟨events, proper, same⟩ := routes_proper fresh about
  have identity {g : RouteGroupData}
      (group : (run (step E) c es).routes.groups.lookup network = some g) :
      Identity serverPeerId g := by
    rw [← same] at group
    exact RouteRuns.group_invariant identity_new
      (fun _ _ _ _ inv accepted => identity_keep inv accepted)
      group
  cases held with
  | key group held => exact member_of_peers group (((identity group).keyed p).mpr held)
  | info group held =>
    obtain ⟨info, found⟩ := Option.isSome_iff_exists.mp ((AscMap.mem_keys _).mp held)
    exact member_of_peers group ((identity group).infos p info found).1
  | session group held =>
    rw [← same] at group ⊢
    refine sessions_run proper network p ?_
    rw [sessionAt, group]
    exact (AscMap.mem_keys _).mp held
  | version group held other =>
    rw [← same, RouteRuns.run_myPeerId] at other
    rcases (identity group).versions p held with member | relay
    · exact member_of_peers group member
    · exact absurd relay other
  | remembered held => exact remembered_run unremembered about held

/-! Networks. -/

/-- The network that a call is about. -/
def named : CoreCall → Option String
  | .addPeer network .. => some network
  | .removePeer network .. => some network
  | .handleRequest network .. => some network
  | .handleResponse network .. => some network
  | .buildRouteUpdate network .. => some network
  | .cleanExpired _ => none

/-- The core knows the network. -/
def Known (c : WasmRpcCore) (network : String) : Prop :=
  (c.routes.groups.lookup network).isSome = true ∨
    (c.configuredGroups.lookup network).isSome = true ∨
    (c.peerCenter.groups.lookup network).isSome = true

private theorem made_named {call : CoreCall} {calls : List RouteCall} (made : Made c call calls) :
    ∀ made ∈ calls, named call = some made.groupKey := by
  intro own listed
  cases made with
  | idle => cases listed
  | joined some_of =>
    have own := some_of.subset listed
    simp only [joining, List.mem_cons, List.not_mem_nil, or_false] at own
    rcases own with rfl | rfl | rfl
    · rfl
    · rfl
    · rfl
  | left => cases List.mem_singleton.mp listed; rfl
  | synced => cases List.mem_singleton.mp listed; rfl
  | built => cases List.mem_singleton.mp listed; rfl
  | acknowledged =>
    simp only [List.mem_cons, List.not_mem_nil, or_false] at listed
    rcases listed with rfl | rfl
    · rfl
    · rfl

private theorem during_groups {codec : Codec} (host : Host) {calls : List RouteCall}
    {s : RouteState}
    (held : ((run (RouteRuns.step codec) s (during host calls)).groups.lookup network).isSome =
      true) :
    (s.groups.lookup network).isSome = true ∨ ∃ call ∈ calls, call.groupKey = network := by
  induction calls generalizing s with
  | nil => exact Or.inl held
  | cons call calls ih =>
    rcases ih held with before | ⟨other, listed, own⟩
    · rcases RouteRuns.step_groups codec s ⟨host, call⟩ network with ⟨same, _⟩ | ⟨_, own, _⟩
      · rw [same] at before
        exact Or.inl before
      · exact Or.inr ⟨call, List.mem_cons_self, own⟩
    · exact Or.inr ⟨other, List.mem_cons_of_mem call listed, own⟩

private theorem centerStep_groups {codec : Codec} {hash : Bytes → Digest} (s : Center)
    (e : CenterEvent) (held : ((centerStep codec hash s e).groups.lookup network).isSome = true) :
    (s.groups.lookup network).isSome = true ∨
      (∃ peerId bytes, e.call = .reportPeers network peerId bytes) ∨
        ∃ bytes, e.call = .getGlobalPeerMap network bytes := by
  obtain ⟨nowMs, call⟩ := e
  cases call with
  | reportPeers key peerId reportBytes =>
    rcases @centerStep_report codec hash ⟨nowMs, .reportPeers key peerId reportBytes⟩ key peerId s
      reportBytes rfl with ⟨_, same⟩ | ⟨peers, _, written⟩
    · rw [same] at held
      exact Or.inl held
    · rw [written, FMap.lookup_insert_eq_ite] at held
      by_cases own : network = key
      · exact Or.inr (Or.inl ⟨peerId, reportBytes, by rw [own]⟩)
      · rw [if_neg own] at held
        exact Or.inl held
  | removePeer key peerId =>
    left
    have held : ((s.removePeer hash key peerId).groups.lookup network).isSome = true := held
    rw [Center.removePeer] at held
    cases present : s.groups.lookup key with
    | none =>
      rw [present] at held
      exact held
    | some data =>
      rw [present] at held
      dsimp only at held
      by_cases own : network = key
      · rw [own, present]
        rfl
      · split at held
        · rwa [FMap.lookup_erase_eq_ite, if_neg own] at held
        · rwa [FMap.lookup_insert_eq_ite, if_neg own] at held
  | cleanOutdated ttlSec =>
    left
    have held : ((s.cleanOutdated hash ttlSec nowMs).groups.lookup network).isSome = true := held
    rw [Center.cleanOutdated, FMap.lookup_retain, FMap.lookup_mapValues] at held
    have mapped := Option.isSome_of_isSome_filter _ _ held
    rwa [Option.isSome_map] at mapped
  | getGlobalPeerMap key requestBytes =>
    by_cases own : network = key
    · exact Or.inr (Or.inr ⟨requestBytes, by rw [own]⟩)
    · left
      cases decoded : codec.decodeGetGlobalPeerMapRequest requestBytes with
      | error error =>
        have same : centerStep codec hash s ⟨nowMs, .getGlobalPeerMap key requestBytes⟩ = s := by
          simp only [centerStep, Center.getGlobalPeerMap, Center.answerGlobalPeerMap, decoded]
          rfl
        rwa [same] at held
      | ok req =>
        have answer : MapDigest.answered codec s ⟨nowMs, .getGlobalPeerMap key requestBytes⟩ =
            some ⟨key, req.digest, (s.groupMut key).answer req.digest⟩ := by
          simp only [MapDigest.answered, decoded, MapDigest.getGlobalPeerMap_ran decoded]
        rw [(@MapDigest.answered_some codec hash s _ _ answer).2.2, FMap.lookup_insert_eq_ite,
          if_neg own] at held
        exact held

private theorem addPeer_configuredGroups {host : Host} {publicKey : Bytes} :
    Ensures (WasmRpcCore.addPeer host network p publicKey) c
      (fun _ c' => ∀ n, (c'.configuredGroups.lookup n).isSome = true →
        (c.configuredGroups.lookup n).isSome = true ∨ n = network)
      (fun _ c' => ∀ n, (c'.configuredGroups.lookup n).isSome = true →
        (c.configuredGroups.lookup n).isSome = true ∨ n = network) := by
  have inserted (n : String)
      (held : ((c.configuredGroups.insert network ()).lookup n).isSome = true) :
      (c.configuredGroups.lookup n).isSome = true ∨ n = network := by
    rw [FMap.lookup_insert_eq_ite] at held
    by_cases own : n = network
    · exact Or.inr own
    · rw [if_neg own] at held
      exact Or.inl held
  unfold WasmRpcCore.addPeer
  rw [ensures_bind, ensures_onRoutes]
  refine ensures_of_forall (fun _ routes => ?_) fun _ routes n held => Or.inl held
  simp only [ensures_bind, ensures_get, ensures_ite, ensures_set, ensures_modify,
    ensures_onRoutes]
  refine ⟨fun _ => ?_, fun _ n held => Or.inl held⟩
  refine ensures_of_forall (fun _ routes => ?_) fun _ routes n held => inserted n held
  exact ensures_of_forall (fun _ routes n held => inserted n held) fun _ routes n held =>
    inserted n held

private theorem step_configuredGroups (c : WasmRpcCore) (e : CoreEvent)
    (held : ((step E c e).configuredGroups.lookup network).isSome = true) :
    (c.configuredGroups.lookup network).isSome = true ∨ named e.call = some network := by
  obtain ⟨host, call⟩ := e
  have joins {n : String} {q : UInt32} {publicKey : Bytes} (held : ((step E c
      ⟨host, .addPeer n q publicKey⟩).configuredGroups.lookup network).isSome = true) :
      (c.configuredGroups.lookup network).isSome = true ∨
        named (.addPeer n q publicKey) = some network := by
    rw [step, perform, RouteRuns.final_bind_pure] at held
    have spec := @addPeer_configuredGroups c n q host publicKey
    rcases @ensures_final _ _ _ c _ (fun c' => ∀ n', (c'.configuredGroups.lookup n').isSome = true →
        (c.configuredGroups.lookup n').isSome = true ∨ n' = n) spec network held with before | own
    · exact Or.inl before
    · exact Or.inr (congrArg some own.symm)
  have move := @step_moves E c ⟨host, call⟩
  generalize after : step E c ⟨host, call⟩ = c' at move held
  generalize outcome E c ⟨host, call⟩ = r at move
  cases move with
  | added => exact joins (after.symm ▸ held)
  | unadded => exact joins (after.symm ▸ held)
  | removed => exact Or.inl held
  | requested n q payload nowMs _ _ move =>
    cases move with
    | rejected => exact Or.inl held
    | merged packet decoded envelope r fragments move _ served =>
      cases served with
      | nothing => exact Or.inl held
      | synced => exact Or.inl held
      | centered => exact Or.inl held
  | accepted n q payload nowMs _ packet route sessionId move =>
    obtain ⟨whole, fragments, _, _, rfl⟩ := move.merged
    exact Or.inl held
  | unaccepted n q payload nowMs _ _ _ move =>
    cases move with
    | rejected => exact Or.inl held
    | late => exact Or.inl held
    | merged => exact Or.inl held
  | built n q serverSessionId forceFull nowMs payload _ transactionId update move =>
    rw [move.after] at held
    exact Or.inl held
  | unbuilt => exact Or.inl held
  | cleaned => exact Or.inl held

theorem step_known (c : WasmRpcCore) (e : CoreEvent) (held : Known (step E c e) network) :
    Known c network ∨ named e.call = some network := by
  obtain ⟨host, call⟩ := e
  rcases held with grouped | configured | centered
  · obtain ⟨calls, made, after⟩ := @step_made E c ⟨host, call⟩
    rw [after] at grouped
    rcases during_groups host grouped with before | ⟨made_call, listed, own⟩
    · exact Or.inl (Or.inl before)
    · right
      rw [made_named made made_call listed, own]
  · rcases step_configuredGroups c _ configured with before | own
    · exact Or.inl (Or.inr (Or.inl before))
    · exact Or.inr own
  · obtain ⟨events, asked, after⟩ := @step_centered E c ⟨host, call⟩
    rw [after] at centered
    dsimp only at asked
    have one {x : CenterEvent} (held : ((run (centerStep E.codec E.hash) c.peerCenter
        [x]).groups.lookup network).isSome = true) : (c.peerCenter.groups.lookup network).isSome =
          true ∨ (∃ peerId bytes, x.call = .reportPeers network peerId bytes) ∨
            ∃ bytes, x.call = .getGlobalPeerMap network bytes := centerStep_groups _ x held
    have known (before : (c.peerCenter.groups.lookup network).isSome = true) :
        Known c network ∨ named call = some network := Or.inl (Or.inr (Or.inr before))
    cases asked with
    | idle => exact known centered
    | reported =>
      rcases one centered with before | ⟨_, _, own⟩ | ⟨_, own⟩
      · exact known before
      · cases own
        exact Or.inr rfl
      · cases own
    | asked =>
      rcases one centered with before | ⟨_, _, own⟩ | ⟨_, own⟩
      · exact known before
      · cases own
      · cases own
        exact Or.inr rfl
    | left =>
      rcases one centered with before | ⟨_, _, own⟩ | ⟨_, own⟩
      · exact known before
      · cases own
      · cases own
    | cleaned =>
      rcases one centered with before | ⟨_, _, own⟩ | ⟨_, own⟩
      · exact known before
      · cases own
      · cases own

theorem known_of_member (member : Member c.routes network p) : Known c network := by
  left
  rw [Member, roll] at member
  cases group : c.routes.groups.lookup network with
  | none =>
    rw [group] at member
    cases member
  | some g => rfl

theorem new_unknown {publicKey : Bytes} {hostname : String} {serverPeerId : UInt32}
    (built : WasmRpcCore.new publicKey hostname serverPeerId = .ok c) : ¬ Known c network := by
  rw [WasmRpcCore.new] at built
  split at built
  · cases built
  · split at built
    · cases built
    · cases built
      rintro (grouped | configured | centered)
      · cases grouped
      · cases configured
      · cases centered

end Core

end EasyTierEdge.Rpc.Residue
