/- module: EasyTierEdge/Rpc/Introductions
   source: cloudflare/wasm/src/rpc.rs, add_peer and configured_groups
   digest: The relay introduces itself once to every network, under its own name and key. -/

import EasyTierEdge.Rpc.Residue

set_option autoImplicit false
set_option relaxedAutoImplicit false

namespace EasyTierEdge.Rpc.Introductions

open Lib.AscendingMap Lib.Fallible Lib.FiniteMap Lib.Machine
open Packet (Bytes)
open Proto Routes PeerCenter Rpc.Core CoreMoves CoreRuns CoreRoutes
open RouteRuns (RouteCall RouteEvent RouteReply)
open RouteMoves RouteMembers

/-- The relay's own info in a network, and its version counter. -/
def infoAt (s : RouteState) (network : String) : Option (RoutePeerInfo × UInt32) :=
  (s.groups.lookup network).map fun g => (g.myInfo, g.myInfoVersion)

/-- The info of a group that was just created. -/
def freshInfo (myPeerId : UInt32) (host : Host) : RoutePeerInfo :=
  (RouteGroupData.new myPeerId host).myInfo

/-- The info after both fields were set. -/
def introduction (c : WasmRpcCore) (host : Host) : RoutePeerInfo :=
  { freshInfo c.routes.myPeerId host with
    hostname := some c.hostname
    noiseStaticPubkey := c.publicKey
    version := 3 }

/-- The relay has introduced itself to a configured network, and to no other. -/
def Introduced (c : WasmRpcCore) (network : String) : Prop :=
  match c.configuredGroups.lookup network with
  | some _ => ∃ host, infoAt c.routes network = some (introduction c host, 3)
  | none => ∀ info, infoAt c.routes network = some info →
      ∃ host, info = (freshInfo c.routes.myPeerId host, 1)

/-! Operations on one group. -/

section Groups

variable {host : Host} {network : String} {s : RouteState}

private theorem infoAt_ensureGroup (host : Host) (s : RouteState) (network : String) :
    ((s.ensureGroup host network).myInfo, (s.ensureGroup host network).myInfoVersion) =
      (infoAt s network).getD (freshInfo s.myPeerId host, 1) := by
  unfold RouteState.ensureGroup infoAt
  cases s.groups.lookup network with
  | none => rfl
  | some g => rfl

private theorem infoAt_written (g : RouteGroupData) (n : String) :
    infoAt { s with groups := s.groups.insert network g } n =
      if n = network then some (g.myInfo, g.myInfoVersion) else infoAt s n := by
  unfold infoAt
  rw [FMap.lookup_insert_eq_ite]
  split
  · rfl
  · rfl

private theorem published_info (f : RoutePeerInfo → RoutePeerInfo) (s : RouteState) :
    Ensures
      (RouteState.onGroup host network fun _ => modify fun g => g.publishMyInfo (f g.myInfo)) s
      (fun _ s' => s'.myPeerId = s.myPeerId ∧
        infoAt s' network =
          some ({ f ((infoAt s network).getD (freshInfo s.myPeerId host, 1)).1 with
              version := ((infoAt s network).getD (freshInfo s.myPeerId host, 1)).2 + 1 },
            ((infoAt s network).getD (freshInfo s.myPeerId host, 1)).2 + 1) ∧
        ∀ n, n ≠ network → infoAt s' n = infoAt s n)
      (fun _ _ => False) := by
  rw [← infoAt_ensureGroup]
  refine ⟨rfl, ?_, ?_⟩
  · exact (infoAt_written _ network).trans (if_pos rfl)
  · intro n other
    exact (infoAt_written _ n).trans (if_neg other)

/-- A call on the relay's own info. -/
def Field : RouteCall → Prop
  | .setMyInfoField .. => True
  | .setMyNoisePublicKey .. => True
  | _ => False

/-- The relay's info and its version are the same. -/
def SameInfo (g g' : RouteGroupData) : Prop :=
  (g'.myInfo, g'.myInfoVersion) = (g.myInfo, g.myInfoVersion)

private theorem keeps_info {E : Codec} {c : RouteCall} {op : UInt32 → GroupM RouteReply}
    (accepted : RouteRuns.groupOp E host c = .ok op) (plain : ¬ Field c) (myPeerId : UInt32)
    (g : RouteGroupData) : SameInfo g (final (op myPeerId g)) := by
  have ran := RouteRuns.groupOp_final accepted myPeerId g
  cases c with
  | addPeer groupKey peerId publicKey =>
    obtain ⟨key, _, ran⟩ := ran
    rw [ran]
    have kept : Ensures (RouteGroupData.addPeer myPeerId peerId key) g
        (fun _ g' => SameInfo g g') (fun _ g' => SameInfo g g') := by
      simp only [RouteGroupData.addPeer, ensures_bind, ensures_get, ensures_ite, ensures_throw,
        ensures_set]
      refine ⟨fun _ => rfl, fun _ => ?_⟩
      split
      · rfl
      · rfl
    exact ensures_final kept
  | removePeer groupKey peerId =>
    rw [ran, RouteGroupData.removePeer]
    split
    · rfl
    · rfl
  | onRouteSessionAck groupKey peerId theirSessionId weAreInitiator =>
    rw [ran]
    rfl
  | commitRouteUpdate groupKey peerId versions topologyVersion =>
    rw [ran]
    rfl
  | setMyInfoField => exact absurd trivial plain
  | setMyNoisePublicKey => exact absurd trivial plain
  | buildSyncRouteInfoRequest groupKey targetPeerId serverSessionId weAreInitiator forceFull =>
    rw [ran]
    have built := Topology.buildSyncRouteInfoRequest_built g targetPeerId myPeerId E host
      serverSessionId weAreInitiator forceFull
    refine @ensures_final _ _ _ g _ (SameInfo g) (built.mono ?_ ?_)
    · rintro u g' ⟨shown, _⟩
      generalize u.request.connInfo = conn at shown
      cases shown with
      | suppressed => rfl
      | peerList => rfl
      | bitmap => rfl
    · rintro e g' rfl
      rfl
  | handleSyncRouteInfoRequest groupKey fromPeerId requestBytes =>
    obtain ⟨req, _, _, ran⟩ := ran
    rw [ran]
    refine ensures_final (@handleSyncRouteInfoRequest_cases host fromPeerId (SameInfo g)
      (SameInfo g) E myPeerId req g rfl ?_ ?_ ?_)
    · exact fun g' info _ stampMs same _ => same
    · exact fun g' same => same
    · exact fun g' _ _ same _ _ => same

private theorem step_info {E : Codec} (s : RouteState) (e : RouteEvent) (plain : ¬ Field e.call)
    (n : String) :
    infoAt (RouteRuns.step E s e) n = infoAt s n ∨
      (infoAt s n = none ∧
        infoAt (RouteRuns.step E s e) n = some (freshInfo s.myPeerId e.host, 1)) := by
  rcases RouteRuns.step_groups E s e n with ⟨same, _⟩ | ⟨op, own, accepted, moved⟩
  · left
    unfold infoAt
    rw [same]
  · have kept := keeps_info accepted plain s.myPeerId (s.ensureGroup e.host n)
    rw [SameInfo, infoAt_ensureGroup] at kept
    have after : infoAt (RouteRuns.step E s e) n =
        some ((infoAt s n).getD (freshInfo s.myPeerId e.host, 1)) := by
      rw [← kept]
      unfold infoAt
      rw [moved]
      rfl
    cases before : infoAt s n with
    | none =>
      rw [before] at after
      exact Or.inr ⟨rfl, after⟩
    | some info =>
      rw [before] at after
      exact Or.inl after

end Groups

/-! The core. -/

section Core

variable {E : Env} {host : Host} {network : String} {peerId : UInt32} {c c' : WasmRpcCore}

/-- What a core is made with. -/
structure SameFixtures (c c' : WasmRpcCore) : Prop where
  publicKey : c'.publicKey = c.publicKey
  hostname : c'.hostname = c.hostname
  serverPeerId : c'.serverPeerId = c.serverPeerId
  myPeerId : c'.routes.myPeerId = c.routes.myPeerId

theorem SameFixtures.trans {c₁ c₂ c₃ : WasmRpcCore} (first : SameFixtures c₁ c₂)
    (second : SameFixtures c₂ c₃) : SameFixtures c₁ c₃ :=
  ⟨second.publicKey.trans first.publicKey, second.hostname.trans first.hostname,
    second.serverPeerId.trans first.serverPeerId, second.myPeerId.trans first.myPeerId⟩

private theorem run_myPeerId (codec : Codec) (s : RouteState) (events : List RouteEvent) :
    (run (RouteRuns.step codec) s events).myPeerId = s.myPeerId :=
  @run_invariant _ _ (RouteRuns.step codec) (fun s' => s'.myPeerId = s.myPeerId)
    (fun s' e same => (RouteRuns.step_myPeerId codec s' e).trans same) s rfl events

private theorem step_fixtures (c : WasmRpcCore) (e : CoreEvent) :
    SameFixtures c (step E c e) ∧ ((∀ n p key, e.call ≠ .addPeer n p key) →
      (step E c e).configuredGroups = c.configuredGroups) := by
  have relay : (step E c e).routes.myPeerId = c.routes.myPeerId := by
    obtain ⟨calls, _, after⟩ := @step_made E c e
    rw [after, run_myPeerId]
  obtain ⟨host, call⟩ := e
  have move := @step_moves E c ⟨host, call⟩
  generalize step E c ⟨host, call⟩ = c' at move relay ⊢
  generalize outcome E c ⟨host, call⟩ = r at move
  cases move with
  | added n p key _ _ joined =>
    obtain ⟨calls, configuredGroups, _, _, rfl⟩ := joined.after
    exact ⟨⟨rfl, rfl, rfl, relay⟩, fun other => absurd rfl (other n p key)⟩
  | unadded n p key _ _ joined =>
    obtain ⟨calls, configuredGroups, _, _, rfl⟩ := joined.after
    exact ⟨⟨rfl, rfl, rfl, relay⟩, fun other => absurd rfl (other n p key)⟩
  | removed => exact ⟨⟨rfl, rfl, rfl, relay⟩, fun _ => rfl⟩
  | requested n p payload nowMs _ _ move =>
    cases move with
    | rejected => exact ⟨⟨rfl, rfl, rfl, relay⟩, fun _ => rfl⟩
    | merged packet decoded envelope r fragments move _ served =>
      cases served with
      | nothing => exact ⟨⟨rfl, rfl, rfl, relay⟩, fun _ => rfl⟩
      | synced => exact ⟨⟨rfl, rfl, rfl, relay⟩, fun _ => rfl⟩
      | centered => exact ⟨⟨rfl, rfl, rfl, relay⟩, fun _ => rfl⟩
  | accepted n p payload nowMs _ packet route sessionId move =>
    obtain ⟨whole, fragments, _, _, rfl⟩ := move.merged
    exact ⟨⟨rfl, rfl, rfl, relay⟩, fun _ => rfl⟩
  | unaccepted n p payload nowMs _ _ _ move =>
    cases move with
    | rejected => exact ⟨⟨rfl, rfl, rfl, relay⟩, fun _ => rfl⟩
    | late => exact ⟨⟨rfl, rfl, rfl, relay⟩, fun _ => rfl⟩
    | merged => exact ⟨⟨rfl, rfl, rfl, relay⟩, fun _ => rfl⟩
  | built n p serverSessionId forceFull nowMs payload _ transactionId update move =>
    rw [move.after] at relay ⊢
    exact ⟨⟨rfl, rfl, rfl, relay⟩, fun _ => rfl⟩
  | unbuilt => exact ⟨⟨rfl, rfl, rfl, relay⟩, fun _ => rfl⟩
  | cleaned => exact ⟨⟨rfl, rfl, rfl, relay⟩, fun _ => rfl⟩

private theorem made_plain {call : CoreCall} {calls : List RouteCall} (made : Made c call calls)
    (other : ∀ n p key, call ≠ .addPeer n p key) : ∀ made ∈ calls, ¬ Field made := by
  intro own listed
  cases made with
  | idle => cases listed
  | joined => exact absurd rfl (other _ _ _)
  | left =>
    cases List.mem_singleton.mp listed
    exact id
  | synced =>
    cases List.mem_singleton.mp listed
    exact id
  | built =>
    cases List.mem_singleton.mp listed
    exact id
  | acknowledged =>
    simp only [List.mem_cons, List.not_mem_nil, or_false] at listed
    rcases listed with rfl | rfl
    · exact id
    · exact id

private theorem during_info (codec : Codec) (s : RouteState) {calls : List RouteCall}
    (plain : ∀ call ∈ calls, ¬ Field call) (n : String) :
    infoAt (run (RouteRuns.step codec) s (during host calls)) n = infoAt s n ∨
      (infoAt s n = none ∧ infoAt (run (RouteRuns.step codec) s (during host calls)) n =
        some (freshInfo s.myPeerId host, 1)) := by
  induction calls generalizing s with
  | nil => exact Or.inl rfl
  | cons call calls ih =>
    have later := ih (RouteRuns.step codec s ⟨host, call⟩)
      fun other listed => plain other (List.mem_cons_of_mem call listed)
    rw [RouteRuns.step_myPeerId] at later
    have now := @step_info codec s ⟨host, call⟩ (plain call List.mem_cons_self) n
    show infoAt (run (RouteRuns.step codec) (RouteRuns.step codec s ⟨host, call⟩)
      (during host calls)) n = _ ∨ _
    rcases now with same | ⟨absent, created⟩
    · rw [same] at later
      exact later
    · rcases later with same | ⟨impossible, _⟩
      · exact Or.inr ⟨absent, same.trans created⟩
      · rw [created] at impossible
        cases impossible

/-- The group of a network keeps its info, or is new to a network that is not configured. -/
private theorem Introduced.kept (introduced : Introduced c network) (same : SameFixtures c c')
    (configuration : c'.configuredGroups.lookup network = c.configuredGroups.lookup network)
    (kept : infoAt c'.routes network = infoAt c.routes network ∨
      (infoAt c.routes network = none ∧
        infoAt c'.routes network = some (freshInfo c.routes.myPeerId host, 1))) :
    Introduced c' network := by
  have again (host : Host) : introduction c' host = introduction c host := by
    rw [introduction, introduction, same.myPeerId, same.hostname, same.publicKey]
  unfold Introduced at introduced ⊢
  rw [configuration]
  cases configured : c.configuredGroups.lookup network with
  | some _ =>
    rw [configured] at introduced
    obtain ⟨host', found⟩ := introduced
    rcases kept with unchanged | ⟨absent, _⟩
    · exact ⟨host', by rw [unchanged, found, again]⟩
    · rw [found] at absent
      cases absent
  | none =>
    rw [configured] at introduced
    intro info found
    rcases kept with unchanged | ⟨_, created⟩
    · rw [unchanged] at found
      rw [same.myPeerId]
      exact introduced info found
    · rw [created] at found
      rw [same.myPeerId]
      exact ⟨host, (Option.some.inj found).symm⟩

private theorem introduced_fields {s : RouteState} (sized : c.publicKey.length = 32)
    (relay : s.myPeerId = c.routes.myPeerId)
    (fresh : ∀ info, infoAt s network = some info →
      ∃ host, info = (freshInfo c.routes.myPeerId host, 1)) :
    Ensures (do
        RouteState.setMyInfoField host network "hostname" c.hostname
        RouteState.setMyNoisePublicKey host network c.publicKey) s
      (fun _ s' => s'.myPeerId = c.routes.myPeerId ∧
        (∃ host, infoAt s' network = some (introduction c host, 3)) ∧
        ∀ n, n ≠ network → infoAt s' n = infoAt s n)
      (fun _ _ => False) := by
  have started : ∃ host', (infoAt s network).getD (freshInfo s.myPeerId host, 1) =
      (freshInfo c.routes.myPeerId host', 1) := by
    cases found : infoAt s network with
    | none => exact ⟨host, by rw [relay]; rfl⟩
    | some info => exact fresh info found
  obtain ⟨host', started⟩ := started
  rw [ensures_bind]
  refine (published_info (fun info => { info with hostname := some c.hostname }) s).mono ?_
    fun _ _ impossible => impossible
  rintro _ s₁ ⟨relay₁, named, others₁⟩
  rw [started] at named
  unfold RouteState.setMyNoisePublicKey
  rw [if_neg (not_not.mpr sized)]
  refine (published_info (fun info => { info with noiseStaticPubkey := c.publicKey }) s₁).mono ?_
    fun _ _ impossible => impossible
  rintro _ s₂ ⟨relay₂, keyed, others₂⟩
  rw [named, Option.getD_some] at keyed
  exact ⟨(relay₂.trans relay₁).trans relay, ⟨host', keyed⟩,
    fun n other => (others₂ n other).trans (others₁ n other)⟩

private theorem addPeer_introduces (E : Env) {key : Bytes} (sized : c.publicKey.length = 32)
    (introduced : ∀ n, Introduced c n) :
    Ensures (WasmRpcCore.addPeer host network peerId key) c
      (fun _ c' => (∀ n, Introduced c' n) ∧ ∀ n,
        n = network ∨ (c.configuredGroups.lookup n).isSome = true →
          (c'.configuredGroups.lookup n).isSome = true)
      (fun _ c' => (∀ n, Introduced c' n) ∧ c'.configuredGroups = c.configuredGroups) := by
  have routed : final (RouteState.addPeer host network peerId key c.routes) =
      RouteRuns.step E.codec c.routes ⟨host, .addPeer network peerId key⟩ :=
    (RouteRuns.final_bind_pure _ (fun _ => RouteReply.done) _).symm
  have info (n : String) := @step_info E.codec c.routes ⟨host, .addPeer network peerId key⟩ id n
  have relay := RouteRuns.step_myPeerId E.codec c.routes ⟨host, .addPeer network peerId key⟩
  rw [← routed] at info relay
  unfold WasmRpcCore.addPeer
  rw [ensures_bind, ensures_onRoutes]
  refine (ensures_self _ _).mono ?_ ?_
  · rintro _ s₁ rfl
    generalize final (RouteState.addPeer host network peerId key c.routes) = s₁ at info relay
    simp only [ensures_bind, ensures_get, ensures_ite, ensures_set, ensures_modify,
      ensures_onRoutes]
    constructor
    · intro new
      have unknown : c.configuredGroups.lookup network = none := by simpa using new
      have fresh : ∀ i, infoAt s₁ network = some i →
          ∃ host, i = (freshInfo c.routes.myPeerId host, 1) := by
        have before := introduced network
        rw [Introduced, unknown] at before
        intro i found
        rcases info network with same | ⟨_, created⟩
        · exact before i (same ▸ found)
        · rw [created] at found
          exact ⟨host, (Option.some.inj found).symm⟩
      have fields := @introduced_fields host network c s₁ sized relay fresh
      rw [ensures_bind] at fields
      refine fields.mono ?_ fun _ _ impossible => impossible.elim
      intro _ s₂ rest
      refine rest.mono ?_ fun _ _ impossible => impossible.elim
      rintro _ s₃ ⟨relay₃, ⟨host', named⟩, others⟩
      have inserted : (c.configuredGroups.insert network ()).lookup network = some () := by
        rw [FMap.lookup_insert_eq_ite, if_pos rfl]
      refine ⟨fun n => ?_, fun n held => ?_⟩
      swap
      · rw [FMap.lookup_insert_eq_ite]
        split
        · rfl
        · rename_i other
          exact held.resolve_left other
      by_cases own : n = network
      · subst own
        unfold Introduced
        dsimp only
        rw [inserted]
        refine ⟨host', named.trans ?_⟩
        rw [introduction, introduction, relay₃]
      · have kept := info n
        rw [← others n own] at kept
        refine (introduced n).kept ⟨rfl, rfl, rfl, relay₃⟩ ?_ kept
        exact (FMap.lookup_insert_eq_ite _ _ _ _).trans (if_neg own)
    · intro old
      refine ⟨fun n => (introduced n).kept ⟨rfl, rfl, rfl, relay⟩ rfl (info n), fun n held => ?_⟩
      rcases held with rfl | held
      · exact Option.isSome_iff_ne_none.mpr fun unknown => old (by simp [unknown])
      · exact held
  · rintro e s₁ rfl
    exact ⟨fun n => (introduced n).kept ⟨rfl, rfl, rfl, relay⟩ rfl (info n), rfl⟩

/-- The core has what it was made with, it introduced the relay to its networks, and the networks
that have members are among them. -/
structure Presented (core c : WasmRpcCore) : Prop where
  fixtures : SameFixtures core c
  introduced : ∀ n, Introduced c n
  configured : ∀ n p, Member c.routes n p → (c.configuredGroups.lookup n).isSome = true

variable {core : WasmRpcCore}

private theorem Presented.kept (presented : Presented core c) (e : CoreEvent)
    (other : ∀ n p key, e.call ≠ .addPeer n p key)
    (nobody : ∀ n p, Member (step E c e).routes n p → Member c.routes n p) :
    Presented core (step E c e) where
  fixtures := presented.fixtures.trans (step_fixtures c e).1
  introduced := by
    obtain ⟨calls, made, after⟩ := @step_made E c e
    intro n
    have kept := @during_info e.host E.codec c.routes calls (made_plain made other) n
    rw [← after] at kept
    exact (presented.introduced n).kept (step_fixtures c e).1
      (by rw [(step_fixtures c e).2 other]) kept
  configured := by
    intro n p member
    rw [(step_fixtures c e).2 other]
    exact presented.configured n p (nobody n p member)

private theorem steady_nobody {c' : WasmRpcCore} (steady : Steady c c') (n : String) (p : UInt32)
    (member : Member c'.routes n p) : Member c.routes n p := by
  rw [Member, ← steady.members]
  exact member

private theorem Presented.step (presented : Presented core c) (sized : core.publicKey.length = 32)
    (e : CoreEvent) : Presented core (step E c e) := by
  obtain ⟨host, call⟩ := e
  have same := @step_fixtures E c ⟨host, call⟩
  cases call with
  | addPeer n p key =>
    have keyed : c.publicKey.length = 32 := by
      rw [presented.fixtures.publicKey]
      exact sized
    have spec := (@addPeer_introduces host n p c E key keyed presented.introduced).and
      (@addPeer_members host n p c key keyed)
    have after : ∃ c', CoreRuns.step E c ⟨host, .addPeer n p key⟩ = c' ∧ (∀ n, Introduced c' n) ∧
        ∀ n' q, Member c'.routes n' q → (c'.configuredGroups.lookup n').isSome = true := by
      rw [CoreRuns.step, perform, RouteRuns.final_bind_pure]
      refine ⟨_, rfl, @ensures_final _ _ _ c _ (fun c' => (∀ n, Introduced c' n) ∧
        ∀ n' q, Member c'.routes n' q → (c'.configuredGroups.lookup n').isSome = true)
        (spec.mono ?_ ?_)⟩
      · rintro _ c' ⟨⟨introduced, configured⟩, _, key', _, members⟩
        refine ⟨introduced, fun n' q member => configured n' ?_⟩
        by_cases own : n' = n
        · exact Or.inl own
        · right
          rw [Member, members, enroll, if_neg fun both => own both.1] at member
          exact presented.configured n' q member
      · rintro _ c' ⟨⟨introduced, configured⟩, steady⟩
        refine ⟨introduced, fun n' q member => ?_⟩
        rw [Member, steady.members] at member
        rw [configured]
        exact presented.configured n' q member
    obtain ⟨c', rfl, introduced, configured⟩ := after
    exact ⟨presented.fixtures.trans same.1, introduced, configured⟩
  | removePeer n p =>
    refine presented.kept ⟨host, _⟩ (by simp) ?_
    have left : roll (CoreRuns.step E c ⟨host, .removePeer n p⟩).routes =
        enroll (roll c.routes) n p (none, none) := by
      rw [CoreRuns.step, perform, RouteRuns.final_bind_pure]
      exact @ensures_final _ _ _ c _ (fun c' => roll c'.routes = _)
        ((@removePeer_members E host n p c).mono (fun _ _ left => left.2)
          fun _ _ impossible => impossible.elim)
    intro n' q member
    rw [Member, left, enroll] at member
    split at member
    · cases member
    · exact member
  | handleRequest n p payload nowMs =>
    refine presented.kept ⟨host, _⟩ (by simp) (steady_nobody ?_)
    rw [CoreRuns.step, perform, RouteRuns.final_bind_pure]
    exact ensures_final (steady_handleRequest payload nowMs)
  | handleResponse n p payload nowMs =>
    refine presented.kept ⟨host, _⟩ (by simp) (steady_nobody ?_)
    rw [CoreRuns.step, perform, RouteRuns.final_bind_pure]
    exact ensures_final (steady_handleResponse payload nowMs)
  | buildRouteUpdate n p serverSessionId forceFull nowMs =>
    refine presented.kept ⟨host, _⟩ (by simp) (steady_nobody ?_)
    rw [CoreRuns.step, perform, RouteRuns.final_bind_pure]
    exact ensures_final (steady_buildRouteUpdate serverSessionId forceFull nowMs)
  | cleanExpired nowMs =>
    refine presented.kept ⟨host, _⟩ (by simp) (steady_nobody ?_)
    rw [CoreRuns.step, perform, RouteRuns.final_bind_pure]
    exact ensures_final (steady_cleanExpired nowMs)

theorem presented_new {publicKey : Bytes} {hostname : String} {serverPeerId : UInt32}
    (built : WasmRpcCore.new publicKey hostname serverPeerId = .ok core) :
    Presented core core ∧ core.publicKey = publicKey ∧ core.hostname = hostname ∧
      core.serverPeerId = serverPeerId ∧ core.routes = RouteState.new serverPeerId ∧
        publicKey.length = 32 := by
  rw [WasmRpcCore.new] at built
  split at built
  · cases built
  · rename_i sized
    split at built
    · cases built
    · cases built
      refine ⟨⟨⟨rfl, rfl, rfl, rfl⟩, ?_, ?_⟩, rfl, rfl, rfl, rfl, not_not.mp sized⟩
      · intro n info found
        cases found
      · intro n p impossible
        cases impossible

theorem presented_run {publicKey : Bytes} {hostname : String} {serverPeerId : UInt32}
    (built : WasmRpcCore.new publicKey hostname serverPeerId = .ok core) (es : List CoreEvent) :
    Presented core (run (CoreRuns.step E) core es) := by
  obtain ⟨presented, own, _, _, _, sized⟩ := presented_new built
  rw [← own] at sized
  exact @run_invariant _ _ (CoreRuns.step E) (Presented core)
    (fun _ e presented => Presented.step presented sized e) core presented es

end Core

end EasyTierEdge.Rpc.Introductions
