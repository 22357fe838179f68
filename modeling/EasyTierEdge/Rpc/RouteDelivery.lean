/- module: EasyTierEdge/Rpc/RouteDelivery
   source: cloudflare/wasm/src/route_state.rs, build_sync_route_info_request and what it relies on
   digest: When a route info that was never acknowledged is sent again, and when it is lost. -/

import EasyTierEdge.Rpc.RouteWorld
import EasyTierEdge.Wire

set_option autoImplicit false
set_option relaxedAutoImplicit false

namespace EasyTierEdge.Rpc.RouteDelivery

open Lib.AscendingMap Lib.Fallible Lib.FiniteMap Lib.Machine Lib.Saturating
open Packet (Bytes)
open RouteRuns hiding step run_myPeerId group_history step_groups
open Proto Routes RouteMoves Rpc.Topology RouteIdentity RouteWorld
open RouteGroupData (sentVersion)

/-- An info that a group sends is either newer than what each member has saved, or acknowledged
by the member under its current session id; `acked` says what was acknowledged. -/
def Delivered (acked : UInt32 → UInt64 → RoutePeerInfo → Prop) (g : RouteGroupData) : Prop :=
  ∀ t x sid v info, t ≠ x → dst g t = some sid → saved g t x = some v →
    g.peerInfos.get? x = some info → v.version < sentVersion info ∨ acked t sid info

/-- Every saved version of an info in `g'` was already saved for this info in `g`. -/
def Shrinks (g g' : RouteGroupData) (t x : UInt32) : Prop :=
  ∀ sid v info, dst g' t = some sid → saved g' t x = some v → g'.peerInfos.get? x = some info →
    dst g t = some sid ∧ saved g t x = some v ∧ g.peerInfos.get? x = some info

section Shrinking

variable {g g' g'' : RouteGroupData} {t x : UInt32}

private theorem Shrinks.of_same (sessions : g'.sessions = g.sessions)
    (infos : g'.peerInfos = g.peerInfos) :
    Shrinks g g' t x := by
  intro sid v info named known stored
  rw [dst, sessions] at named
  rw [saved, sessions] at known
  rw [infos] at stored
  exact ⟨named, known, stored⟩

theorem Shrinks.trans (h : Shrinks g g' t x) (k : Shrinks g' g'' t x) : Shrinks g g'' t x := by
  intro sid v info named known stored
  obtain ⟨named, known, stored⟩ := k sid v info named known stored
  exact h sid v info named known stored

private theorem Delivered.shrinks {acked : UInt32 → UInt64 → RoutePeerInfo → Prop}
    (delivered : Delivered acked g) (shrinks : ∀ t x, t ≠ x → Shrinks g g' t x) :
    Delivered acked g' := by
  intro t x sid v info different named known stored
  obtain ⟨named, known, stored⟩ := shrinks t x different sid v info named known stored
  exact delivered t x sid v info different named known stored

private theorem shrinks_removePeer (myPeerId p : UInt32) :
    Shrinks g (g.removePeer myPeerId p) t x := by
  intro sid v info named known stored
  rw [removePeer_dst] at named
  rw [removePeer_saved] at known
  rw [(removePeer_tables g myPeerId p).2.1, AscMap.get?_erase] at stored
  split at named
  · cases named
  · split at known
    · cases known
    · split at stored
      · cases stored
      · exact ⟨named, known, stored⟩

private theorem shrinks_touchSession (p : UInt32) (serverSessionId nowMs : UInt64) :
    Shrinks g (g.touchSession p serverSessionId nowMs) t x := by
  intro sid v info named known stored
  rw [touchSession_dst] at named
  rw [touchSession_saved] at known
  exact ⟨named, known, stored⟩

private theorem shrinks_onRouteSessionAck (p : UInt32) (sid : UInt64) (weAreInitiator : Bool)
    (nowMs : UInt64) : Shrinks g (g.onRouteSessionAck p sid weAreInitiator nowMs) t x := by
  intro sid' v info named known stored
  rw [onRouteSessionAck_dst] at named
  rw [onRouteSessionAck_saved] at known
  by_cases own : t = p
  · subst own
    rw [if_pos rfl] at named
    split at known
    · cases known
    · rename_i kept
      have same : dst g t = some sid := not_not.mp fun moved => kept ⟨rfl, moved⟩
      exact ⟨same.trans named, known, stored⟩
  · rw [if_neg own] at named
    rw [if_neg fun h => own h.1] at known
    exact ⟨named, known, stored⟩

end Shrinking

/-! Publishing. -/

section Publishing

variable {g g₁ g' : RouteGroupData} {p t x : UInt32} {infos : List RoutePeerInfo}

private theorem publish_dst (stored : RoutePeerInfo) : dst (publish p g stored) t = dst g t := by
  rw [dst, dst, publish]
  split
  · rw [AscMap.get?_mapValues]
    cases g.sessions.get? t with
    | none => rfl
    | some s => rfl
  · rfl

private theorem publish_saved (stored : RoutePeerInfo) :
    saved (publish p g stored) t x =
      if instanceChanged p g stored = true ∧ x = p then none else saved g t x := by
  rw [saved, saved, publish]
  by_cases changed : instanceChanged p g stored = true
  · rw [if_pos changed, AscMap.get?_mapValues]
    cases g.sessions.get? t with
    | none => simp
    | some s =>
      show (s.peerInfoVerMap.erase p).get? x = _
      rw [AscMap.get?_erase]
      simp [changed]
  · rw [if_neg changed, if_neg fun h => changed h.1]

/-- `current` is the info `first`, or one of the requested infos that continues it. -/
def Continues (p : UInt32) (infos : List RoutePeerInfo) (first current : Option RoutePeerInfo) :
    Prop :=
  current = first ∨ ∃ info ∈ infos, ∃ stampMs, current = some (stamped info stampMs) ∧
    info.peerId = p ∧ ∀ old, first = some old → old.instId = info.instId ∧
      info.version > old.version

/-- After some of the requested infos of `p` were taken over from `g₁` on. -/
structure Publishing (p : UInt32) (infos : List RoutePeerInfo) (g₁ g : RouteGroupData) : Prop where
  others : ∀ t x, x ≠ p → Shrinks g₁ g t x
  named : ∀ t, dst g t = dst g₁ t
  own : ∀ t, saved g t p = none ∨
    (saved g t p = saved g₁ t p ∧ Continues p infos (g₁.peerInfos.get? p) (g.peerInfos.get? p))

theorem Publishing.refl : Publishing p infos g₁ g₁ where
  others _ _ _ := Shrinks.of_same rfl rfl
  named _ := rfl
  own _ := Or.inr ⟨rfl, Or.inl rfl⟩

private theorem Publishing.publish (publishing : Publishing p infos g₁ g) {info : RoutePeerInfo}
    (member : info ∈ infos) (stampMs : UInt64) (publishes : Publishes p g (stamped info stampMs)) :
    Publishing p infos g₁ (publish p g (stamped info stampMs)) where
  others t x other := by
    refine (publishing.others t x other).trans ?_
    intro sid v stored named known found
    rw [publish_dst] at named
    rw [publish_saved, if_neg fun h => other h.2] at known
    have found : (g.peerInfos.insert p (stamped info stampMs)).get? x = some stored := found
    rw [AscMap.get?_insert, if_neg other] at found
    exact ⟨named, known, found⟩
  named t := (publish_dst _).trans (publishing.named t)
  own t := by
    rw [publish_saved]
    by_cases changed : instanceChanged p g (stamped info stampMs) = true
    · exact Or.inl (if_pos ⟨changed, rfl⟩)
    · rw [if_neg fun h => changed h.1]
      have after : (RouteMoves.publish p g (stamped info stampMs)).peerInfos.get? p =
          some (stamped info stampMs) := by
        show (g.peerInfos.insert p _).get? p = _
        rw [AscMap.get?_insert, if_pos rfl]
      have newer : ∀ current, g.peerInfos.get? p = some current →
          current.instId = info.instId ∧ info.version > current.version := by
        intro current found
        have same : current.instId = info.instId := by
          rw [instanceChanged, found] at changed
          exact not_not.mp fun differs => changed (decide_eq_true differs)
        exact ⟨same, (publishes.newer current found).resolve_left fun differs => differs same⟩
      rcases publishing.own t with cleared | ⟨known, continues⟩
      · exact Or.inl cleared
      · refine Or.inr ⟨known, Or.inr ⟨info, member, stampMs, after, publishes.peerId, ?_⟩⟩
        intro old first
        rcases continues with same | ⟨earlier, _, _, now, _, older⟩
        · exact newer old (same.trans first)
        · obtain ⟨inst, version⟩ := newer _ now
          obtain ⟨inst', version'⟩ := older old first
          exact ⟨inst'.trans inst, lt_trans version' version⟩

end Publishing

/-! What the calls preserve. -/

/-- An info of `p` that continues the stored one, or comes when none is stored, is sent with a
higher version than any that a member has saved. -/
def Fresh (g : RouteGroupData) (p : UInt32) (infos : List RoutePeerInfo) : Prop :=
  ∀ info ∈ infos, info.peerId = p →
    (∀ current, g.peerInfos.get? p = some current →
      current.instId = info.instId ∧ info.version > current.version) →
    ∀ t v, t ≠ p → saved g t p = some v → v.version < sentVersion info

/-- The infos of a request. -/
def requested (req : SyncRouteInfoRequest) : List RoutePeerInfo :=
  req.peerInfos.elim [] RoutePeerInfos.items

section Calls

variable {acked : UInt32 → UInt64 → RoutePeerInfo → Prop} {g g' : RouteGroupData} {p : UInt32}

private theorem Delivered.publishing {g₁ : RouteGroupData} {infos : List RoutePeerInfo}
    (delivered : Delivered acked g₁) (fresh : Fresh g₁ p infos)
    (publishing : Publishing p infos g₁ g) : Delivered acked g := by
  intro t x sid v info different named known stored
  by_cases own : x = p
  · subst own
    rcases publishing.own t with cleared | ⟨same, continues⟩
    · rw [cleared] at known
      cases known
    · rw [publishing.named] at named
      rw [same] at known
      rcases continues with first | ⟨new, member, stampMs, now, own, older⟩
      · exact delivered t x sid v info different named known (first.symm.trans stored)
      · rw [now] at stored
        obtain rfl := Option.some.inj stored
        exact Or.inl (fresh new member own older t v different known)
  · obtain ⟨named, known, stored⟩ := publishing.others t x own sid v info named known stored
    exact delivered t x sid v info different named known stored

private theorem fresh_onRouteSessionAck {infos : List RoutePeerInfo} (fresh : Fresh g p infos)
    (sid : UInt64) (weAreInitiator : Bool) (nowMs : UInt64) :
    Fresh (g.onRouteSessionAck p sid weAreInitiator nowMs) p infos := by
  intro info member own older t v other known
  rw [onRouteSessionAck_saved, if_neg fun h => other h.1] at known
  exact fresh info member own older t v other known

private theorem delivered_call {E : Codec} {host : Host} {c : RouteCall}
    {op : UInt32 → GroupM RouteReply} (accepted : groupOp E host c = .ok op) (myPeerId : UInt32)
    (outside : ∀ groupKey p versions v, c ≠ .commitRouteUpdate groupKey p versions v)
    (fresh : ∀ groupKey p bytes req, c = .handleSyncRouteInfoRequest groupKey p bytes →
      E.decodeSyncRouteInfoRequest bytes = .ok req → Fresh g p (requested req))
    (delivered : Delivered acked g) : Delivered acked (final (op myPeerId g)) := by
  have ran := groupOp_final accepted myPeerId g
  cases c with
  | addPeer groupKey p bytes =>
    obtain ⟨key, _, ran⟩ := ran
    rw [ran]
    refine ensures_final ((addPeer_cases myPeerId p key g).mono ?_ ?_)
    · rintro _ g' ⟨_, infos, _, sessions⟩
      exact delivered.shrinks fun t x _ => Shrinks.of_same sessions infos
    · rintro _ g' rfl
      exact delivered
  | removePeer groupKey p =>
    rw [ran]
    exact delivered.shrinks fun t x _ => shrinks_removePeer myPeerId p
  | onRouteSessionAck groupKey p sid weAreInitiator =>
    rw [ran]
    exact delivered.shrinks fun t x _ => shrinks_onRouteSessionAck p sid weAreInitiator _
  | commitRouteUpdate groupKey p versions v => exact absurd rfl (outside groupKey p versions v)
  | setMyInfoField groupKey field value =>
    rcases ran with ⟨myInfo, ran⟩ | ran
    · rw [ran]
      exact delivered
    · rw [ran]
      exact delivered
  | setMyNoisePublicKey groupKey publicKey =>
    obtain ⟨myInfo, ran⟩ := ran
    rw [ran]
    exact delivered
  | buildSyncRouteInfoRequest groupKey t serverSessionId weAreInitiator forceFull =>
    rw [ran]
    have touched : Delivered acked (g.touchSession t serverSessionId (host.clock 0)) :=
      delivered.shrinks fun t' x _ => shrinks_touchSession t serverSessionId _
    refine ensures_final ((buildSyncRouteInfoRequest_built g t myPeerId E host serverSessionId
      weAreInitiator forceFull).mono ?_ ?_)
    · rintro u g' ⟨shown, _⟩
      obtain ⟨same, _, _⟩ := shown.frame
      exact touched.shrinks fun t' x _ => Shrinks.of_same same.sessions same.peerInfos
    · rintro _ g' rfl
      exact touched
  | handleSyncRouteInfoRequest groupKey p bytes =>
    obtain ⟨req, decoded, _, ran⟩ := ran
    rw [ran]
    have heard : Delivered acked
        (g.onRouteSessionAck p req.mySessionId (!req.isInitiator) (host.clock 0)) :=
      delivered.shrinks fun t x _ => shrinks_onRouteSessionAck p _ _ _
    have fresh := fresh_onRouteSessionAck (fresh groupKey p bytes req rfl decoded)
      req.mySessionId (!req.isInitiator) (host.clock 0)
    refine ensures_final (@handleSyncRouteInfoRequest_cases host p (Publishing p (requested req)
      (g.onRouteSessionAck p req.mySessionId (!req.isInitiator) (host.clock 0)))
      (Delivered acked) E myPeerId req g Publishing.refl ?_ ?_ ?_)
    · intro g' info member stampMs publishing publishes
      exact publishing.publish member stampMs publishes
    · intro g' publishing
      exact heard.publishing fresh publishing
    · intro g' _ _ publishing _ _
      exact (heard.publishing fresh publishing).shrinks fun t x _ => Shrinks.of_same rfl rfl

private theorem Delivered.ack (delivered : Delivered acked g) {b : Built} {sid : UInt64}
    (now : ∀ info ∈ items b.update, acked b.targetPeerId sid info)
    (sent : ∀ x v, (x, v) ∈ b.update.peerInfoVersions → ∀ info, g.peerInfos.get? x = some info →
      ∃ old ∈ items b.update, old.peerId = x ∧ v = sentVersion old)
    (timely : ∀ old ∈ items b.update, ∀ info, g.peerInfos.get? old.peerId = some info →
      info = old ∨ sentVersion old < sentVersion info)
    (weAreInitiator : Bool) (heardMs nowMs : UInt64) :
    Delivered acked ((g.onRouteSessionAck b.targetPeerId sid weAreInitiator
      heardMs).commitRouteUpdate b.targetPeerId b.update.peerInfoVersions b.update.topologyVersion
        nowMs) := by
  have heard : Delivered acked (g.onRouteSessionAck b.targetPeerId sid weAreInitiator heardMs) :=
    delivered.shrinks fun t x _ => shrinks_onRouteSessionAck b.targetPeerId _ _ _
  intro t x sid' v info different named known stored
  rw [commitRouteUpdate_dst] at named
  rcases commitRouteUpdate_saved _ _ _ _ _ known with ⟨old, before, same⟩ | ⟨target, committed⟩
  · rw [same]
    exact heard t x sid' old info different named before stored
  · subst target
    rw [onRouteSessionAck_dst, if_pos rfl] at named
    obtain rfl := Option.some.inj named
    obtain ⟨old, member, own, version⟩ := sent x v.version committed info stored
    subst own
    rcases timely old member info stored with same | newer
    · subst same
      exact Or.inr (now info member)
    · exact Or.inl (version ▸ newer)

end Calls

/-! Runs. -/

/-- Some acknowledged update of `t` carried `info`. -/
def AckedInfo (E : Codec) (groupKey : String) (w : World) (es : List Event) (t : UInt32)
    (sid : UInt64) (info : RoutePeerInfo) : Prop :=
  ∃ b, Acked E w es sid b ∧ b.groupKey = groupKey ∧ b.targetPeerId = t ∧ info ∈ items b.update

/-- Infos that are published in place of the stored one are newer than what is saved, and an
acknowledged update does not speak about an info that was replaced by an older version. -/
structure Timely (E : Codec) (groupKey : String) (myPeerId : UInt32) (_pre : List Event) (w : World)
    (e : Event) : Prop where
  sync : ∀ p bytes req g, e.op = .sync groupKey p bytes →
    E.decodeSyncRouteInfoRequest bytes = .ok req → w.routes.groups.lookup groupKey = some g →
    Fresh g p (requested req)
  ack : ∀ k sid weAreInitiator b g, e.op = .ack k sid weAreInitiator → w.built[k]? = some b →
    b.groupKey = groupKey → w.routes.groups.lookup groupKey = some g →
    ∀ old ∈ items b.update, ∀ info, g.peerInfos.get? old.peerId = some info →
      info = old ∨ sentVersion old < sentVersion info
  joining : ∀ publicKey, e.op ≠ .addPeer groupKey myPeerId publicKey

section Runs

variable {E : Codec} {myPeerId : UInt32} {groupKey : String} {w : World} {es : List Event}

private theorem AckedInfo.snoc {t : UInt32} {sid : UInt64} {info : RoutePeerInfo}
    (acked : AckedInfo E groupKey w es t sid info) (e : Event) :
    AckedInfo E groupKey w (es ++ [e]) t sid info := by
  obtain ⟨b, was_acked, facts⟩ := acked
  exact ⟨b, was_acked.snoc e, facts⟩

/-- The versions of an update, apart from that of the relay, are those of its infos. -/
def VersionsOfItems (myPeerId : UInt32) (u : RouteUpdate) : Prop :=
  ∀ x v, (x, v) ∈ u.peerInfoVersions → x ≠ myPeerId →
    ∃ old ∈ items u, old.peerId = x ∧ v = sentVersion old

private theorem versionsOfItems_built {g g' : RouteGroupData} {host : Host} {t : UInt32}
    {serverSessionId : UInt64} {weAreInitiator forceFull : Bool} {u : RouteUpdate}
    (inv : Identity myPeerId g)
    (ran : RouteGroupData.buildSyncRouteInfoRequest E host myPeerId t serverSessionId weAreInitiator
      forceFull g = .ok u g') : VersionsOfItems myPeerId u := by
  obtain ⟨touched, missing, rfl, listing, _, carried, versions⟩ :=
    ensures_of_ok (buildSyncRouteInfoRequest_cases _ _ _ _ _ _ _ _) ran
  intro x v sent other
  rw [versions] at sent
  obtain ⟨⟨pid, info⟩, member, same⟩ := List.mem_map.mp sent
  obtain ⟨rfl, rfl⟩ := Prod.mk.inj same
  have listed := member
  rw [listing] at listed
  obtain ⟨_, _, found, _⟩ := (mem_missingInfos _ _ _ _ _).mp listed
  rw [RouteGroupData.infoOf, if_neg other] at found
  refine ⟨info, ?_, (inv.infos pid info found).2.1, rfl⟩
  rw [carried]
  exact List.mem_map.mpr ⟨(pid, info), member, rfl⟩

private theorem versionsOfItems_run (es : List Event) :
    ∀ b ∈ (run (step E) (World.new myPeerId) es).built, VersionsOfItems myPeerId b.update := by
  induction es using List.reverseRecOn with
  | nil =>
    intro b member
    cases member
  | append_singleton es e ih =>
    intro b member
    rcases mem_built_snoc member with old | new
    · exact ih b old
    · obtain ⟨c, _, handed⟩ := Option.bind_eq_some_iff.mp new
      obtain ⟨_, _, _, g', _, ran⟩ := built_some E handed
      rw [run_myPeerId] at ran
      refine versionsOfItems_built ?_ ran
      refine ensureGroup_eq rfl (fun g found => identity_run found) fun _ => ?_
      rw [run_myPeerId]
      exact identity_new _

/-- What every group satisfies in a timely run. -/
def Reached (E : Codec) (groupKey : String) (myPeerId : UInt32) (es : List Event)
    (g : RouteGroupData) : Prop :=
  Delivered (AckedInfo E groupKey (World.new myPeerId) es) g ∧ myPeerId ∉ g.peers.keys

private theorem Delivered.mono {acked acked' : UInt32 → UInt64 → RoutePeerInfo → Prop}
    {g : RouteGroupData}
    (delivered : Delivered acked g) (more : ∀ t sid info, acked t sid info → acked' t sid info) :
    Delivered acked' g := by
  intro t x sid v info different named known stored
  rcases delivered t x sid v info different named known stored with newer | was_acked
  · exact Or.inl newer
  · exact Or.inr (more t sid info was_acked)

private theorem reached_run
    (timely : AllSteps (step E) (Timely E groupKey myPeerId) (World.new myPeerId) es) :
    ∀ g, (run (step E) (World.new myPeerId) es).routes.groups.lookup groupKey = some g →
      Reached E groupKey myPeerId es g := by
  refine group_history ?_ ?_ ?_ timely
  · intro pre host _
    refine ⟨?_, fun inside => by cases inside⟩
    intro t x sid v info _ _ _ stored
    cases stored
  · rintro pre e g ⟨delivered, outside⟩ _ _ _
    exact ⟨delivered.mono fun t sid info acked => acked.snoc e, outside⟩
  · rintro pre e g g' ⟨delivered, outside⟩ timely started move moved
    have delivered := delivered.mono fun t sid info acked => AckedInfo.snoc acked e
    have relay : (run (step E) (World.new myPeerId) pre).routes.myPeerId = myPeerId :=
      run_myPeerId pre
    cases move with
    | call c op own asked accepted =>
      rw [relay]
      obtain ⟨_, joining, _, syncing, not_commit⟩ := calls_eq asked
      refine ⟨delivered_call accepted myPeerId not_commit ?_ delivered, ?_⟩
      · intro key p bytes req is_sync decoded
        have named := syncing key p bytes is_sync
        rw [is_sync] at own
        have own : key = groupKey := own
        subst own
        refine ensureGroup_eq started (fun g found => timely.sync p bytes req g named decoded found)
          fun _ => ?_
        intro info _ _ _ t v _ known
        cases known
      · refine (groupOp_topology accepted myPeerId g).outside outside ?_
        intro key publicKey joined
        have named := joining key myPeerId publicKey joined
        rw [joined] at own
        have own : key = groupKey := own
        exact timely.joining publicKey (own ▸ named)
    | ack k sid weAreInitiator b named found own =>
      refine ⟨delivered.ack ?_ ?_ ?_ weAreInitiator _ _, outside⟩
      · intro info member
        exact ⟨b, Acked.last named found, own, rfl, member⟩
      · intro x v sent info stored
        refine versionsOfItems_run pre b (List.mem_of_getElem? found) x v sent ?_
        rintro rfl
        have inv : Identity x g := ensureGroup_eq started (fun g found => identity_run found)
          fun _ => by
            rw [relay]
            exact identity_new _
        exact outside (inv.infos x info stored).1
      · refine ensureGroup_eq started
          (fun g present => timely.ack k sid weAreInitiator b g named found own present) fun _ => ?_
        intro old _ info stored
        cases stored

end Runs

private theorem one_le_sentVersion (info : RoutePeerInfo) : 0 < sentVersion info :=
  lt_of_lt_of_le (by decide) (le_max_right info.version 1)

/-- In a timely run an update for `t`, forced or not, carries every stored info of another peer
that `t` has not acknowledged under its current session id. -/
theorem unacknowledged_sent {E : Codec} {myPeerId : UInt32} {groupKey : String} {es : List Event}
    {e : Event} {g : RouteGroupData} {t x : UInt32} {info : RoutePeerInfo}
    {serverSessionId : UInt64} {weAreInitiator forceFull : Bool}
    (timely : AllSteps (step E) (Timely E groupKey myPeerId) (World.new myPeerId) es)
    (found : (run (step E) (World.new myPeerId) es).routes.groups.lookup groupKey = some g)
    (stored : g.peerInfos.get? x = some info) (different : t ≠ x)
    (unacknowledged : ∀ sid b, dst g t = some sid → Acked E (World.new myPeerId) es sid b →
      b.groupKey = groupKey → b.targetPeerId = t → info ∉ items b.update)
    (building : e.op = .build groupKey t serverSessionId weAreInitiator forceFull)
    (room : g.supportsConnList t = true ∨
      (g.relevantPeers myPeerId t).length ≤ maxLegacyBitmapPeers) :
    ∃ b, handedOut E (run (step E) (World.new myPeerId) es) e = some b ∧ b.groupKey = groupKey ∧
      b.targetPeerId = t ∧ info ∈ items b.update := by
  obtain ⟨delivered, outside⟩ := reached_run timely g found
  have inv : Identity myPeerId g := identity_run found
  have relay : (run (step E) (World.new myPeerId) es).routes.myPeerId = myPeerId := run_myPeerId es
  have spec := (buildSyncRouteInfoRequest_cases g t serverSessionId E e.host myPeerId
    weAreInitiator forceFull).ran
  cases ran : RouteGroupData.buildSyncRouteInfoRequest E e.host myPeerId t serverSessionId
      weAreInitiator forceFull g with
  | error error g' =>
    obtain ⟨⟨_, dense, large⟩, _⟩ := ensures_of_error spec ran
    rcases room with sparse | small
    · rw [sparse] at dense
      cases dense
    · exact absurd small (not_le.mpr large)
  | ok u g' =>
    obtain ⟨⟨touched, missing, rfl, listing, _, carried, _⟩, _⟩ := ensures_of_ok spec ran
    refine ⟨⟨groupKey, t, u⟩, ?_, rfl, rfl, ?_⟩
    · refine handedOut_of_ok building (?_ : _ = EStateM.Result.ok u g')
      rw [relay, RouteState.ensureGroup, found]
      exact ran
    · show info ∈ items u
      have member := (inv.infos x info stored).1
      have listed : (x, info) ∈ missing := by
        rw [listing, mem_missingInfos]
        refine ⟨?_, different.symm, ?_, ?_⟩
        · exact (AscMap.mem_keys_insert _).mpr (Or.inr ((AscMap.mem_keys_insert _).mpr
            (Or.inr member)))
        · have other : x ≠ myPeerId := by
            rintro rfl
            exact outside member
          rw [RouteGroupData.infoOf, if_neg other]
          exact stored
        · rw [forceFullLocal_eq, touchSession_dst, touchSession_saved]
          cases named : dst g t with
          | none =>
            left
            simp
          | some sid =>
            right
            cases known : saved g t x with
            | none => exact one_le_sentVersion info
            | some v =>
              rw [Option.filter_some]
              split
              · rcases delivered t x sid v info different named known stored with newer | acked
                · exact newer
                · obtain ⟨b, was_acked, own, target, inside⟩ := acked
                  exact absurd inside (unacknowledged sid b named was_acked own target)
              · exact one_le_sentVersion info
      rw [carried]
      exact List.mem_map.mpr ⟨(x, info), listed, rfl⟩

/-! Runs of the relay 1 with the peers 5 and 7 in one network. -/

def calmHost : Host where
  clock _ := 1_000
  instId := ⟨1, 2, 3, 4⟩
  peerRouteId := 9
  fill k := .ok (UInt64.ofNat k)

def keyBytes (b : UInt8) : Bytes := List.replicate 32 b

/-- What peer 7 publishes about one of its instances. -/
def publishing (instId : Uuid) (version : UInt32) : SyncRouteInfoRequest where
  myPeerId := 7
  mySessionId := 700
  isInitiator := true
  peerInfos := some ⟨[{ RoutePeerInfo.default with
    peerId := 7, instId := some instId, version, noiseStaticPubkey := keyBytes 70 }]⟩
  connInfo := none

/-- Peer 5 publishes nothing, but names its session id. -/
def greeting : SyncRouteInfoRequest := ⟨5, 500, true, none, none⟩

def firstInstance : Uuid := ⟨1, 1, 1, 1⟩
def secondInstance : Uuid := ⟨2, 2, 2, 2⟩

def netCodec : Codec := Wire.codec ⟨[], [], [],
  [publishing firstInstance 5, publishing firstInstance 6, publishing secondInstance 3, greeting],
  [], [], []⟩

def occur (op : Op) : Event := ⟨calmHost, op⟩

def published (req : SyncRouteInfoRequest) : Event :=
  occur (.sync "net" req.myPeerId (Wire.syncRouteInfoRequest req))

/-- An update for peer 5 that is not forced. -/
def updating : Event := occur (.build "net" 5 77 true false)

/-- Both peers are there, peer 5 knows its session and gets an update with the first info of
peer 7. -/
def opening : List Event :=
  [occur (.addPeer "net" 5 (keyBytes 50)), occur (.addPeer "net" 7 (keyBytes 70)),
    published (publishing firstInstance 5), published greeting, updating]

/-- Peer 7 starts again before peer 5 answers. -/
def lateRun : List Event :=
  opening ++ [published (publishing secondInstance 3), occur (.ack 0 500 true)]

/-- The info of the second instance as it is stored. -/
def secondInfo : RoutePeerInfo :=
  { RoutePeerInfo.default with
    peerId := 7, instId := some secondInstance, version := 3, noiseStaticPubkey := keyBytes 70
    lastUpdate := some ⟨1, 0⟩ }

def groupAfter (es : List Event) : Option RouteGroupData :=
  (run (step netCodec) (World.new 1) es).routes.groups.lookup "net"

/-- The condition of a timely run for the network "net" of the relay 1, checked before each
event. -/
def checkTimely (_pre : List Event) (w : World) (e : Event) : Bool :=
  match w.routes.groups.lookup "net", e.op with
  | _, .addPeer groupKey peerId _ => groupKey != "net" || peerId != 1
  | some g, .sync groupKey p bytes =>
    match netCodec.decodeSyncRouteInfoRequest bytes with
    | .error _ => true
    | .ok req => groupKey != "net" || (requested req).all fun info =>
        g.sessions.keys.all fun t =>
          t == p || (saved g t p).all fun v => v.version < sentVersion info
  | some g, .ack k _ _ =>
    (w.built[k]?).all fun b => (items b.update).all fun old =>
      (g.peerInfos.get? old.peerId).all fun info => info = old || sentVersion old < sentVersion info
  | _, _ => true

private theorem checkTimely_sound (pre : List Event) (w : World) (e : Event)
    (checked : checkTimely pre w e = true) : Timely netCodec "net" 1 pre w e where
  sync p bytes req g named decoded found info member _ _ t v other known := by
    simp only [checkTimely, found, named, decoded] at checked
    have session : t ∈ g.sessions.keys := by
      rw [AscMap.mem_keys]
      rw [saved] at known
      cases here : g.sessions.get? t with
      | none => simp [here] at known
      | some s => rfl
    have all := checked
    simp only [bne_self_eq_false, Bool.false_or, List.all_eq_true] at all
    have one := all info member t session
    rw [known] at one
    simpa [other] using one
  ack k sid weAreInitiator b g named found own present old member info stored := by
    simp only [checkTimely, present, named, found, Option.all_some, List.all_eq_true] at checked
    have one := checked old member
    rw [stored] at one
    simpa using one
  joining publicKey named := by
    simp [checkTimely, named] at checked

/-- The info of the first instance of peer 7 as it is stored in its version 6. -/
def firstInfo : RoutePeerInfo :=
  { RoutePeerInfo.default with
    peerId := 7, instId := some firstInstance, version := 6, noiseStaticPubkey := keyBytes 70
    lastUpdate := some ⟨1, 0⟩ }

/-- Peer 5 answers, and peer 7 publishes a newer version. -/
def timelyRun : List Event :=
  opening ++ [occur (.ack 0 500 true), published (publishing firstInstance 6)]

/-- Peer 5 has acknowledged version 5, and version 6 is in its next update. -/
theorem unacknowledged_sent_newer :
    ∃ g b, groupAfter timelyRun = some g ∧ saved g 5 7 = some ⟨5, 1_000⟩ ∧
      handedOut netCodec (run (step netCodec) (World.new 1) timelyRun) updating = some b ∧
      b.targetPeerId = 5 ∧ firstInfo ∈ items b.update := by
  obtain ⟨g, found⟩ := Option.isSome_iff_exists.mp
    (show (groupAfter timelyRun).isSome = true by decide +kernel)
  have facts : ∀ g ∈ groupAfter timelyRun, saved g 5 7 = some ⟨5, 1_000⟩ ∧
      g.peerInfos.get? 7 = some firstInfo ∧
      (g.relevantPeers 1 5).length ≤ maxLegacyBitmapPeers := by
    decide +kernel
  obtain ⟨known, stored, small⟩ := facts g found
  have timely : AllSteps (step netCodec) (Timely netCodec "net" 1) (World.new 1) timelyRun :=
    allSteps_of_check checkTimely checkTimely_sound (by decide +kernel)
  have unsent : ∀ a ∈ acknowledgements netCodec (World.new 1) timelyRun,
      firstInfo ∉ items a.2.update := by
    decide +kernel
  have unacknowledged : ∀ sid b, dst g 5 = some sid → Acked netCodec (World.new 1) timelyRun sid b →
      b.groupKey = "net" → b.targetPeerId = 5 → firstInfo ∉ items b.update :=
    fun sid b _ acked _ _ => unsent (sid, b) acked.mem_acknowledgements
  obtain ⟨b, handed, _, target, carried⟩ := unacknowledged_sent timely found stored (by decide)
    unacknowledged (show updating.op = .build "net" 5 77 true false from rfl) (Or.inr small)
  exact ⟨g, b, found, known, handed, target, carried⟩

/-- The late acknowledgement of version 5 hides version 3 of the new instance from peer 5, which
has never acknowledged it. -/
theorem restarted_peer_hidden :
    ¬ ∀ (E : Codec) (myPeerId : UInt32) (groupKey : String) (es : List Event) (e : Event)
        (g : RouteGroupData) (t x : UInt32) (info : RoutePeerInfo) (serverSessionId : UInt64)
        (weAreInitiator forceFull : Bool) (b : Built),
      (run (step E) (World.new myPeerId) es).routes.groups.lookup groupKey = some g →
      t ∈ g.peers.keys → g.peerInfos.get? x = some info → t ≠ x →
      (∀ sid b, dst g t = some sid → Acked E (World.new myPeerId) es sid b →
        b.groupKey = groupKey → b.targetPeerId = t → info ∉ items b.update) →
      e.op = .build groupKey t serverSessionId weAreInitiator forceFull →
      handedOut E (run (step E) (World.new myPeerId) es) e = some b →
      info ∈ items b.update := by
  intro never_lost
  obtain ⟨g, found⟩ := Option.isSome_iff_exists.mp
    (show (groupAfter lateRun).isSome = true by decide +kernel)
  have facts : ∀ g ∈ groupAfter lateRun,
      5 ∈ g.peers.keys ∧ g.peerInfos.get? 7 = some secondInfo := by
    decide +kernel
  obtain ⟨member, stored⟩ := facts g found
  obtain ⟨b, handed⟩ := Option.isSome_iff_exists.mp
    (show (handedOut netCodec (run (step netCodec) (World.new 1) lateRun) updating).isSome = true by
      decide +kernel)
  have lost : ∀ b ∈ handedOut netCodec (run (step netCodec) (World.new 1) lateRun) updating,
      secondInfo ∉ items b.update := by
    decide +kernel
  refine lost b handed (never_lost netCodec 1 "net" lateRun updating g 5 7 secondInfo 77 true false
    b found member stored (by decide) ?_ rfl handed)
  intro sid b _ acked _ _
  have unsent : ∀ a ∈ acknowledgements netCodec (World.new 1) lateRun,
      secondInfo ∉ items a.2.update := by
    decide +kernel
  exact unsent (sid, b) acked.mem_acknowledgements

end EasyTierEdge.Rpc.RouteDelivery
