/- module: EasyTierEdge/Rpc/RouteMoves
   source: cloudflare/wasm/src/route_state.rs, every write to a group
   digest: What each operation does to the members, the infos and the saved versions of a group. -/

import EasyTierEdge.Lib.Fallible
import EasyTierEdge.Rpc.Routes

set_option autoImplicit false
set_option relaxedAutoImplicit false

namespace EasyTierEdge.Rpc.RouteMoves

open Lib.AscendingMap Lib.Fallible Lib.FiniteMap Lib.Saturating
open Packet (Key)
open Proto Routes

/-- The session id the peer `t` last named. -/
def dst (g : RouteGroupData) (t : UInt32) : Option UInt64 :=
  (g.sessions.get? t).bind SessionState.dstSessionId

/-- The version of the info of `x` that `t` has acknowledged. -/
def saved (g : RouteGroupData) (t x : UInt32) : Option SavedVersion :=
  (g.sessions.get? t).bind fun s => s.peerInfoVerMap.get? x

/-- The members of the group, their keys, their infos and their sessions are the same. -/
structure SameTables (g g' : RouteGroupData) : Prop where
  peers : g'.peers = g.peers
  peerInfos : g'.peerInfos = g.peerInfos
  authenticatedPeerKeys : g'.authenticatedPeerKeys = g.authenticatedPeerKeys
  sessions : g'.sessions = g.sessions

theorem SameTables.refl (g : RouteGroupData) : SameTables g g := ⟨rfl, rfl, rfl, rfl⟩

/-! Joining and leaving. -/

theorem addPeer_cases (myPeerId peerId : UInt32) (publicKey : Key) (g : RouteGroupData) :
    Ensures (RouteGroupData.addPeer myPeerId peerId publicKey) g
      (fun _ g' => g'.peers = g.peers.insert peerId () ∧ g'.peerInfos = g.peerInfos ∧
        g'.authenticatedPeerKeys = g.authenticatedPeerKeys.insert peerId publicKey ∧
        g'.sessions = g.sessions)
      (fun _ g' => g' = g) := by
  simp only [RouteGroupData.addPeer, ensures_bind, ensures_get, ensures_ite, ensures_throw,
    ensures_set]
  refine ⟨fun _ => trivial, fun _ => ?_⟩
  split
  · exact ⟨rfl, rfl, rfl, rfl⟩
  · exact ⟨rfl, rfl, rfl, rfl⟩

section Leaving

variable (g : RouteGroupData) (myPeerId peerId : UInt32)

theorem removePeer_tables :
    (g.removePeer myPeerId peerId).peers = g.peers.erase peerId ∧
      (g.removePeer myPeerId peerId).peerInfos = g.peerInfos.erase peerId ∧
      (g.removePeer myPeerId peerId).authenticatedPeerKeys = g.authenticatedPeerKeys.erase peerId ∧
      (g.removePeer myPeerId peerId).sessions = (g.sessions.erase peerId).mapValues fun s =>
        { s with peerInfoVerMap := s.peerInfoVerMap.erase peerId, lastTopologyVersion := 0 } := by
  unfold RouteGroupData.removePeer
  simp only
  split
  · exact ⟨rfl, rfl, rfl, rfl⟩
  · exact ⟨rfl, rfl, rfl, rfl⟩

theorem removePeer_dst (t : UInt32) :
    dst (g.removePeer myPeerId peerId) t = if t = peerId then none else dst g t := by
  rw [dst, (removePeer_tables g myPeerId peerId).2.2.2, AscMap.get?_mapValues, AscMap.get?_erase]
  split
  · rfl
  · rw [dst]
    cases g.sessions.get? t with
    | none => rfl
    | some s => rfl

theorem removePeer_saved (t x : UInt32) :
    saved (g.removePeer myPeerId peerId) t x =
      if t = peerId ∨ x = peerId then none else saved g t x := by
  rw [saved, (removePeer_tables g myPeerId peerId).2.2.2, AscMap.get?_mapValues, AscMap.get?_erase]
  by_cases left : t = peerId
  · rw [if_pos left, if_pos (Or.inl left)]
    rfl
  · rw [if_neg left, saved]
    cases g.sessions.get? t with
    | none => simp
    | some s =>
      show (s.peerInfoVerMap.erase peerId).get? x = _
      rw [AscMap.get?_erase]
      simp [left]

end Leaving

/-! Acknowledgements. -/

section Acknowledging

variable (g : RouteGroupData) (peerId : UInt32) (sid : UInt64) (init : Bool) (nowMs : UInt64)

theorem onRouteSessionAck_dst (t : UInt32) :
    dst (g.onRouteSessionAck peerId sid init nowMs) t =
      if t = peerId then some sid else dst g t := by
  rw [dst, RouteGroupData.onRouteSessionAck, AscMap.get?_upsert]
  split
  · rfl
  · rfl

theorem onRouteSessionAck_saved (t x : UInt32) :
    saved (g.onRouteSessionAck peerId sid init nowMs) t x =
      if t = peerId ∧ dst g peerId ≠ some sid then none else saved g t x := by
  rw [saved, RouteGroupData.onRouteSessionAck, AscMap.get?_upsert]
  by_cases own : t = peerId
  · subst own
    rw [if_pos rfl, Option.bind_some, saved, dst]
    cases g.sessions.get? t with
    | none => simp [SessionState.follow, SessionState.forget, SessionState.default,
        AscMap.get?_empty]
    | some s =>
      rw [Option.getD_some, SessionState.follow, Option.bind_some, Option.bind_some]
      by_cases moved : s.dstSessionId ≠ some sid
      · rw [if_pos moved, if_pos ⟨rfl, moved⟩]
        rfl
      · rw [if_neg moved, if_neg (fun h => moved h.2)]
  · rw [if_neg own, if_neg (fun h => own h.1), saved]

private theorem saveVersion_fold (currentMs : UInt64) (versions : List (UInt32 × UInt32))
    (m : AscMap UInt32 SavedVersion) (x : UInt32) {v : SavedVersion}
    (found : (versions.foldl (SessionState.saveVersion currentMs) m).get? x = some v) :
    (∃ old, m.get? x = some old ∧ v.version = old.version) ∨ (x, v.version) ∈ versions := by
  induction versions generalizing m with
  | nil => exact Or.inl ⟨v, found, rfl⟩
  | cons sent versions ih =>
    rcases ih _ found with ⟨old, present, same⟩ | later
    · rw [SessionState.saveVersion, AscMap.get?_upsert] at present
      by_cases own : x = sent.1
      · rw [if_pos own] at present
        have current := Option.some.inj present
        subst current
        cases before : m.get? sent.1 with
        | none =>
          rw [before] at same
          right
          have equal : v.version = sent.2 := by
            rw [same]
            exact max_self sent.2
          rw [equal, own]
          exact List.mem_cons_self
        | some w =>
          rw [before] at same
          have same : v.version = max w.version sent.2 := same
          rcases max_choice w.version sent.2 with kept | raised
          · exact Or.inl ⟨w, own ▸ before, same.trans kept⟩
          · right
            rw [same, raised, own]
            exact List.mem_cons_self
      · rw [if_neg own] at present
        exact Or.inl ⟨old, present, same⟩
    · exact Or.inr (List.mem_cons_of_mem sent later)

variable (versions : List (UInt32 × UInt32)) (topologyVersion : Option UInt64)

theorem commitRouteUpdate_dst (t : UInt32) :
    dst (g.commitRouteUpdate peerId versions topologyVersion nowMs) t = dst g t := by
  rw [dst, RouteGroupData.commitRouteUpdate, AscMap.get?_upsert, dst]
  by_cases own : t = peerId
  · subst own
    rw [if_pos rfl]
    cases g.sessions.get? t with
    | none => rfl
    | some s => rfl
  · rw [if_neg own]

theorem commitRouteUpdate_saved {t x : UInt32} {v : SavedVersion}
    (found : saved (g.commitRouteUpdate peerId versions topologyVersion nowMs) t x = some v) :
    (∃ old, saved g t x = some old ∧ v.version = old.version) ∨
      (t = peerId ∧ (x, v.version) ∈ versions) := by
  rw [saved, RouteGroupData.commitRouteUpdate, AscMap.get?_upsert] at found
  by_cases own : t = peerId
  · subst own
    rw [if_pos rfl, Option.bind_some] at found
    rcases saveVersion_fold nowMs versions _ x found with ⟨old, before, same⟩ | sent
    · left
      refine ⟨old, ?_, same⟩
      rw [saved]
      cases present : g.sessions.get? t with
      | none =>
        rw [present] at before
        exact absurd before (by simp [SessionState.default, AscMap.get?_empty])
      | some s =>
        rw [present] at before
        exact before
    · exact Or.inr ⟨rfl, sent⟩
  · rw [if_neg own] at found
    exact Or.inl ⟨v, found, rfl⟩

end Acknowledging

/-! Updates. -/

section Updates

variable (g : RouteGroupData) (targetPeerId : UInt32) (serverSessionId nowMs : UInt64)

theorem touchSession_dst (t : UInt32) :
    dst (g.touchSession targetPeerId serverSessionId nowMs) t = dst g t := by
  rw [dst, RouteGroupData.touchSession, AscMap.get?_upsert, dst]
  by_cases own : t = targetPeerId
  · subst own
    rw [if_pos rfl]
    cases g.sessions.get? t with
    | none => rfl
    | some s => rfl
  · rw [if_neg own]

theorem touchSession_saved (t x : UInt32) :
    saved (g.touchSession targetPeerId serverSessionId nowMs) t x = saved g t x := by
  rw [saved, RouteGroupData.touchSession, AscMap.get?_upsert, saved]
  by_cases own : t = targetPeerId
  · subst own
    rw [if_pos rfl]
    cases g.sessions.get? t with
    | none => rfl
    | some s => rfl
  · rw [if_neg own]

theorem forceFullLocal_eq (forceFull : Bool) :
    g.forceFullLocal targetPeerId forceFull = (forceFull || (dst g targetPeerId).isNone) := by
  rw [RouteGroupData.forceFullLocal, dst]
  cases g.sessions.get? targetPeerId with
  | none => rfl
  | some s => rfl

/-- What a session has saved is what the group says it has. -/
private theorem savedVersion_eq (pid : UInt32) :
    ((g.sessions.get? targetPeerId).getD SessionState.default).savedVersion pid nowMs =
      ((saved g targetPeerId pid).filter fun v =>
        saturatingSub nowMs v.touchedAtMs < savedRouteVersionTtlMs).elim 0
          SavedVersion.version := by
  rw [saved]
  cases g.sessions.get? targetPeerId with
  | none => rfl
  | some s => rfl

theorem mem_missingInfos (myPeerId : UInt32) (forceFull : Bool) {pid : UInt32}
    {info : RoutePeerInfo} :
    (pid, info) ∈ g.missingInfos myPeerId targetPeerId forceFull nowMs ↔
      pid ∈ g.relevantPeers myPeerId targetPeerId ∧ pid ≠ targetPeerId ∧
        g.infoOf myPeerId pid = some info ∧
        (forceFull = true ∨ ((saved g targetPeerId pid).filter fun v =>
          saturatingSub nowMs v.touchedAtMs < savedRouteVersionTtlMs).elim 0 SavedVersion.version <
            RouteGroupData.sentVersion info) := by
  simp only [RouteGroupData.missingInfos, List.mem_filterMap]
  constructor
  · rintro ⟨a, member, found⟩
    split at found
    · cases found
    · rename_i other
      obtain ⟨i, kept, same⟩ := Option.map_eq_some_iff.mp found
      cases same
      obtain ⟨listed, fresh⟩ := Option.filter_eq_some_iff.mp kept
      refine ⟨member, other, listed, ?_⟩
      rw [← savedVersion_eq]
      simpa using fresh
  · rintro ⟨member, other, listed, fresh⟩
    refine ⟨pid, member, ?_⟩
    rw [if_neg other, listed, Option.filter_some, if_pos]
    · rfl
    · rw [← savedVersion_eq] at fresh
      simpa using fresh

variable (E : Codec) (host : Host) (myPeerId : UInt32) (weAreInitiator forceFull : Bool)

private theorem buildConnInfo_cases (relevantPeers : List UInt32) (supportsConnList : Bool) :
    Ensures (RouteGroupData.buildConnInfo relevantPeers targetPeerId supportsConnList myPeerId
      nowMs) g (fun _ g' => SameTables g g')
      (fun _ g' => g' = g ∧ supportsConnList = false ∧
        relevantPeers.length > maxLegacyBitmapPeers) := by
  have same : SameTables g g := SameTables.refl g
  simp only [RouteGroupData.buildConnInfo, ensures_bind, ensures_ite, ensures_get, ensures_pure]
  refine ⟨fun _ => same, fun _ => ⟨fun _ => same, fun _ => ⟨fun _ => ?_, fun dense => ?_⟩⟩⟩
  · split
    · exact same
    · exact ⟨rfl, rfl, rfl, rfl⟩
  · split
    · exact same
    · simp only [ensures_bind, ensures_ite, ensures_throw, ensures_set, ensures_pure]
      exact ⟨fun large => ⟨trivial, Bool.eq_false_iff.mpr dense, large⟩,
        fun _ => ⟨rfl, rfl, rfl, rfl⟩⟩

/-- The infos an update carries. -/
def items (u : RouteUpdate) : List RoutePeerInfo :=
  u.request.peerInfos.elim [] RoutePeerInfos.items

theorem buildSyncRouteInfoRequest_cases :
    Ensures (RouteGroupData.buildSyncRouteInfoRequest E host myPeerId targetPeerId serverSessionId
        weAreInitiator forceFull) g
      (fun u g' => ∃ touched missing,
        touched = g.touchSession targetPeerId serverSessionId (host.clock 0) ∧
        missing = touched.missingInfos myPeerId targetPeerId
          (touched.forceFullLocal targetPeerId forceFull) (host.clock 1) ∧
        SameTables touched g' ∧ items u = missing.map Prod.snd ∧
        u.peerInfoVersions = missing.map fun sent => (sent.1, RouteGroupData.sentVersion sent.2))
      (fun _ g' => g' = g.touchSession targetPeerId serverSessionId (host.clock 0) ∧
        g.supportsConnList targetPeerId = false ∧
        (g.relevantPeers myPeerId targetPeerId).length > maxLegacyBitmapPeers) := by
  simp only [RouteGroupData.buildSyncRouteInfoRequest, ensures_bind, ensures_modify, ensures_get,
    ensures_pure]
  refine (buildConnInfo_cases _ targetPeerId _ myPeerId _ _).mono ?_ ?_
  · intro connInfo g' same
    refine ⟨_, _, rfl, rfl, same, ?_, rfl⟩
    show Option.elim (if _ then none else some _) [] RoutePeerInfos.items = _
    split
    · rename_i none_missing
      rw [List.isEmpty_iff.mp none_missing]
      rfl
    · rfl
  · rintro e g' ⟨rfl, dense, large⟩
    exact ⟨rfl, dense, large⟩

end Updates

/-! Sync requests. -/

section Publishing

variable (host : Host) (fromPeerId : UInt32)

/-- `stored` is published by a sync request of `fromPeerId` and replaces its current info, which
is of another instance or of a lower version. -/
structure Publishes (g : RouteGroupData) (stored : RoutePeerInfo) : Prop where
  peerId : stored.peerId = fromPeerId
  key : ∃ key : Key, g.authenticatedPeerKeys.get? fromPeerId = some key ∧
    stored.noiseStaticPubkey = key.toList
  newer : ∀ current, g.peerInfos.get? fromPeerId = some current →
    current.instId ≠ stored.instId ∨ stored.version > current.version

/-- The published info belongs to another instance of the peer than the current one. -/
def instanceChanged (g : RouteGroupData) (stored : RoutePeerInfo) : Bool :=
  (g.peerInfos.get? fromPeerId).any fun current => current.instId ≠ stored.instId

/-- The group after `stored` was taken over. -/
def publish (g : RouteGroupData) (stored : RoutePeerInfo) : RouteGroupData :=
  { g with
    sessions := if instanceChanged fromPeerId g stored then
        g.sessions.mapValues fun s =>
          { s with peerInfoVerMap := s.peerInfoVerMap.erase fromPeerId }
      else g.sessions
    peerInfos := g.peerInfos.insert fromPeerId stored }

/-- An info as it is stored. -/
def stamped (info : RoutePeerInfo) (stampMs : UInt64) : RoutePeerInfo :=
  { info with lastUpdate := some ⟨(stampMs / 1000).toInt64, 0⟩ }

private theorem storeRouteInfo_cases (stampMs : UInt64) (info : RoutePeerInfo)
    (g : RouteGroupData) :
    Ensures (RouteGroupData.storeRouteInfo fromPeerId stampMs info) g
      (fun stored g' => stored.2 = false ∧ g' = g ∨
        (Publishes fromPeerId g (stamped info stampMs) ∧
          g' = publish fromPeerId g (stamped info stampMs)))
      (fun _ g' => g' = g) := by
  simp only [RouteGroupData.storeRouteInfo, ensures_bind, ensures_ite, ensures_get, ensures_pure]
  refine ⟨fun _ => Or.inl ⟨trivial, trivial⟩, fun own => ?_⟩
  have own : info.peerId = fromPeerId := not_not.mp own
  cases bound : g.authenticatedPeerKeys.get? fromPeerId with
  | none => exact rfl
  | some key =>
    simp only [ensures_bind, ensures_ite, ensures_throw, ensures_set, ensures_pure]
    refine ⟨fun _ => trivial, fun matching =>
      ⟨fun _ => Or.inl ⟨trivial, trivial⟩, fun update => Or.inr ?_⟩⟩
    refine ⟨⟨own, ?_, ?_⟩, ?_⟩
    · exact ⟨key, bound, not_not.mp matching⟩
    · intro current found
      rw [own, found] at update
      have update : current.instId = info.instId → current.version < info.version := by
        simpa using update
      exact not_or_of_imp update
    · subst own
      rfl

/-- What storing one info preserves, storing all of them preserves, failed or not; a first info is
reported only if one was published. -/
private theorem storeRouteInfos_keep {R : RouteGroupData → Prop} (infos : List RoutePeerInfo)
    (keep : ∀ g, ∀ info ∈ infos, ∀ stampMs, R g → Publishes fromPeerId g (stamped info stampMs) →
      R (publish fromPeerId g (stamped info stampMs)))
    (k : Nat) {g : RouteGroupData} (start : R g) :
    Ensures (RouteGroupData.storeRouteInfos host fromPeerId k infos) g
      (fun stored g' => R g' ∧
        (stored.2 = true → ∃ g₀ info, R g₀ ∧ Publishes fromPeerId g₀ info))
      (fun _ g' => R g') := by
  induction infos generalizing k g with
  | nil => exact ⟨start, fun new => Bool.noConfusion new⟩
  | cons info infos ih =>
    simp only [RouteGroupData.storeRouteInfos, ensures_bind, ensures_pure]
    have rest := ih fun g later member => keep g later (List.mem_cons_of_mem info member)
    refine (storeRouteInfo_cases fromPeerId (host.clock k) info g).mono ?_ ?_
    · rintro stored g' (⟨old, rfl⟩ | ⟨publishes, rfl⟩)
      · refine (rest (k + 1) start).mono ?_ ?_
        · rintro others g' ⟨kept, new⟩
          rw [old]
          exact ⟨kept, new⟩
        · intro e g' kept
          exact kept
      · refine (rest (k + 1)
          (keep g info List.mem_cons_self (host.clock k) start publishes)).mono ?_ ?_
        · rintro others g' ⟨kept, _⟩
          exact ⟨kept, fun _ => ⟨g, _, start, publishes⟩⟩
        · intro e g' kept
          exact kept
    · rintro e g' rfl
      exact start

/-- A sync request is an acknowledgement of the session id it names, followed by the infos it
publishes; if one of them is the peer's first, there are new connection versions at the end. -/
theorem handleSyncRouteInfoRequest_cases {R Q : RouteGroupData → Prop} (E : Codec)
    (myPeerId : UInt32) (req : SyncRouteInfoRequest) (g : RouteGroupData)
    (start : R (g.onRouteSessionAck fromPeerId req.mySessionId (!req.isInitiator) (host.clock 0)))
    (keep : ∀ g, ∀ info ∈ req.peerInfos.elim [] RoutePeerInfos.items, ∀ stampMs, R g →
      Publishes fromPeerId g (stamped info stampMs) →
      R (publish fromPeerId g (stamped info stampMs)))
    (done : ∀ g, R g → Q g)
    (bump : ∀ g g₀ info, R g → R g₀ → Publishes fromPeerId g₀ info →
      Q (g.bumpAllConnVersions myPeerId)) :
    Ensures (RouteGroupData.handleSyncRouteInfoRequest E host myPeerId fromPeerId req) g
      (fun _ g' => Q g') (fun _ g' => Q g') := by
  simp only [RouteGroupData.handleSyncRouteInfoRequest, ensures_bind, ensures_get, ensures_set]
  cases published : req.peerInfos with
  | none => exact done _ start
  | some infos =>
    rw [published] at keep
    simp only [ensures_bind]
    refine (storeRouteInfos_keep host fromPeerId infos.items keep 1 start).mono ?_ ?_
    · rintro ⟨routeChanged, needBump⟩ g' ⟨kept, first⟩
      simp only [ensures_ite, ensures_modify, ensures_get, ensures_pure, ensures_bind]
      refine ⟨fun new => ?_, fun _ => done g' kept⟩
      obtain ⟨g₀, info, before, publishes⟩ := first new
      exact bump g' g₀ info kept before publishes
    · intro e g' kept
      exact done g' kept

end Publishing

end EasyTierEdge.Rpc.RouteMoves
