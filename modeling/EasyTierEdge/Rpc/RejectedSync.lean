/- module: EasyTierEdge/Rpc/RejectedSync
   source: cloudflare/wasm/src/route_state.rs, handle_sync_route_info_request
   digest: What a sync request that is refused part way through leaves behind. -/

import EasyTierEdge.Rpc.RouteMoves
import EasyTierEdge.Wire

set_option autoImplicit false
set_option relaxedAutoImplicit false

namespace EasyTierEdge.Rpc.RejectedSync

open Lib.AscendingMap Lib.Fallible Lib.FiniteMap
open Packet (Bytes)
open Proto Routes RouteMoves

/-- The item is the sender's own and does not carry the key it was authenticated with. -/
def Refused (fromPeerId : UInt32) (g : RouteGroupData) (info : RoutePeerInfo) : Prop :=
  info.peerId = fromPeerId ∧
    ∀ key ∈ g.authenticatedPeerKeys.get? fromPeerId, info.noiseStaticPubkey ≠ key.toList

/-- The item is the sender's own and replaces what is stored about it: it is the first one, is of
another instance or has a higher version. -/
def Due (fromPeerId : UInt32) (g : RouteGroupData) (info : RoutePeerInfo) : Prop :=
  info.peerId = fromPeerId ∧
    (instanceChanged fromPeerId g info ∨
      (g.peerInfos.get? fromPeerId).all fun current => info.version > current.version)

instance (fromPeerId : UInt32) (g : RouteGroupData) (info : RoutePeerInfo) :
    Decidable (Due fromPeerId g info) :=
  inferInstanceAs (Decidable (_ ∧ (_ ∨ _)))

/-- The group after an item that is not refused. -/
def takeOver (fromPeerId : UInt32) (stampMs : UInt64) (info : RoutePeerInfo) (g : RouteGroupData) :
    RouteGroupData :=
  if Due fromPeerId g info then publish fromPeerId g (stamped info stampMs) else g

/-- The items in their order; the `k`-th reading of the clock stamps the first of them. -/
def takeOverAll (host : Host) (fromPeerId : UInt32) :
    Nat → List RoutePeerInfo → RouteGroupData → RouteGroupData
  | _, [], g => g
  | k, info :: infos, g =>
    takeOverAll host fromPeerId (k + 1) infos (takeOver fromPeerId (host.clock k) info g)

/-- The record of a peer's session; an absent one is an empty one. -/
def session (g : RouteGroupData) (t : UInt32) : SessionState :=
  (g.sessions.get? t).getD SessionState.default

/-- The session ids of a record, and the versions saved in it. -/
def marks (s : SessionState) :
    Option UInt64 × Option UInt64 × AscMap UInt32 SavedVersion × UInt32 × UInt64 :=
  (s.mySessionId, s.dstSessionId, s.peerInfoVerMap, s.foreignNetVer, s.lastTopologyVersion)

/-- The record without the version it has saved for `p`. -/
def forgetting (p : UInt32) (s : SessionState) : SessionState :=
  { s with peerInfoVerMap := s.peerInfoVerMap.erase p }

/-- Members, keys, connection versions, topology counter and caches are the same. -/
structure SameCore (g g' : RouteGroupData) : Prop where
  peers : g'.peers = g.peers
  authenticatedPeerKeys : g'.authenticatedPeerKeys = g.authenticatedPeerKeys
  peerConnVersions : g'.peerConnVersions = g.peerConnVersions
  topologyVersion : g'.topologyVersion = g.topologyVersion
  cachedConnBitmap : g'.cachedConnBitmap = g.cachedConnBitmap
  cachedConnPeerList : g'.cachedConnPeerList = g.cachedConnPeerList
  myInfo : g'.myInfo = g.myInfo
  myInfoVersion : g'.myInfoVersion = g.myInfoVersion

/-- Everything is as it was, apart from times and from empty records. -/
structure Unchanged (g g' : RouteGroupData) : Prop where
  core : SameCore g g'
  peerInfos : g'.peerInfos = g.peerInfos
  sessions : ∀ t, marks (session g' t) = marks (session g t)

/-- What is not the sender's is as it was, apart from the version that other sessions have saved
for the sender. -/
structure Confined (fromPeerId : UInt32) (g g' : RouteGroupData) : Prop where
  core : SameCore g g'
  peerInfos : ∀ p, p ≠ fromPeerId → g'.peerInfos.get? p = g.peerInfos.get? p
  mySessionId : (session g' fromPeerId).mySessionId = (session g fromPeerId).mySessionId
  sessions : ∀ t, t ≠ fromPeerId → session g' t = session g t ∨
    session g' t = forgetting fromPeerId (session g t)

section Items

variable {fromPeerId : UInt32} {g g' g'' : RouteGroupData}

theorem SameCore.refl (g : RouteGroupData) : SameCore g g :=
  ⟨rfl, rfl, rfl, rfl, rfl, rfl, rfl, rfl⟩

theorem SameCore.trans (h : SameCore g g') (k : SameCore g' g'') : SameCore g g'' where
  peers := k.peers.trans h.peers
  authenticatedPeerKeys := k.authenticatedPeerKeys.trans h.authenticatedPeerKeys
  peerConnVersions := k.peerConnVersions.trans h.peerConnVersions
  topologyVersion := k.topologyVersion.trans h.topologyVersion
  cachedConnBitmap := k.cachedConnBitmap.trans h.cachedConnBitmap
  cachedConnPeerList := k.cachedConnPeerList.trans h.cachedConnPeerList
  myInfo := k.myInfo.trans h.myInfo
  myInfoVersion := k.myInfoVersion.trans h.myInfoVersion

private theorem forgetting_idem (p : UInt32) (s : SessionState) :
    forgetting p (forgetting p s) = forgetting p s := by
  have gone : (s.peerInfoVerMap.erase p).get? p = none := by simp
  rw [forgetting, forgetting, AscMap.erase_of_get? gone]

theorem Confined.refl (fromPeerId : UInt32) (g : RouteGroupData) : Confined fromPeerId g g where
  core := .refl g
  peerInfos _ _ := rfl
  mySessionId := rfl
  sessions _ _ := Or.inl rfl

theorem Confined.trans (h : Confined fromPeerId g g') (k : Confined fromPeerId g' g'') :
    Confined fromPeerId g g'' where
  core := h.core.trans k.core
  peerInfos p other := (k.peerInfos p other).trans (h.peerInfos p other)
  mySessionId := k.mySessionId.trans h.mySessionId
  sessions t other := by
    rcases h.sessions t other with same | dropped
    · rw [← same]
      exact k.sessions t other
    · right
      rcases k.sessions t other with same | again
      · rw [same, dropped]
      · rw [again, dropped, forgetting_idem]

private theorem session_publish (stored : RoutePeerInfo) (t : UInt32) :
    session (publish fromPeerId g stored) t =
      if instanceChanged fromPeerId g stored then forgetting fromPeerId (session g t)
      else session g t := by
  rw [session, publish]
  split
  · rw [AscMap.get?_mapValues, session]
    cases g.sessions.get? t with
    | none => rfl
    | some s => rfl
  · rfl

private theorem confined_takeOver (stampMs : UInt64) (info : RoutePeerInfo) :
    Confined fromPeerId g (takeOver fromPeerId stampMs info g) := by
  rw [takeOver]
  split
  · refine ⟨⟨rfl, rfl, rfl, rfl, rfl, rfl, rfl, rfl⟩, ?_, ?_, ?_⟩
    · intro p other
      show (g.peerInfos.insert fromPeerId _).get? p = _
      rw [AscMap.get?_insert, if_neg other]
    · rw [session_publish]
      split
      · rfl
      · rfl
    · intro t _
      rw [session_publish]
      split
      · exact Or.inr rfl
      · exact Or.inl rfl
  · exact .refl fromPeerId g

private theorem confined_takeOverAll (host : Host) (infos : List RoutePeerInfo) (k : Nat) :
    Confined fromPeerId g (takeOverAll host fromPeerId k infos g) := by
  induction infos generalizing k g with
  | nil => exact .refl fromPeerId g
  | cons info infos ih => exact (confined_takeOver (host.clock k) info).trans (ih (k + 1))

/-- Items that replace nothing leave the group alone. -/
private theorem takeOverAll_of_not_due (host : Host) {infos : List RoutePeerInfo}
    (stale : ∀ info ∈ infos, ¬ Due fromPeerId g info) (k : Nat) :
    takeOverAll host fromPeerId k infos g = g := by
  induction infos generalizing k with
  | nil => rfl
  | cons info infos ih =>
    rw [takeOverAll, takeOver, if_neg (stale info List.mem_cons_self)]
    exact ih (fun later member => stale later (List.mem_cons_of_mem info member)) (k + 1)

private theorem refused_iff (same : g'.authenticatedPeerKeys = g.authenticatedPeerKeys)
    (info : RoutePeerInfo) : Refused fromPeerId g' info ↔ Refused fromPeerId g info := by
  rw [Refused, same, Refused]

private theorem storeRouteInfo_takesOver (stampMs : UInt64) (info : RoutePeerInfo)
    (g : RouteGroupData) :
    Ensures (RouteGroupData.storeRouteInfo fromPeerId stampMs info) g
      (fun _ g' => ¬ Refused fromPeerId g info ∧ g' = takeOver fromPeerId stampMs info g)
      (fun _ g' => Refused fromPeerId g info ∧ g' = g) := by
  simp only [RouteGroupData.storeRouteInfo, ensures_bind, ensures_ite, ensures_get, ensures_pure]
  refine ⟨fun foreign => ⟨fun refused => foreign refused.1, ?_⟩, fun own => ?_⟩
  · rw [takeOver, if_neg fun due => foreign due.1]
  · have own : info.peerId = fromPeerId := not_not.mp own
    cases bound : g.authenticatedPeerKeys.get? fromPeerId with
    | none =>
      refine ⟨⟨own, ?_⟩, rfl⟩
      rw [bound]
      simp
    | some key =>
      simp only [ensures_bind, ensures_ite, ensures_throw, ensures_set, ensures_pure]
      have accepted (matching : info.noiseStaticPubkey = key.toList) :
          ¬ Refused fromPeerId g info := fun refused => refused.2 key bound matching
      refine ⟨fun different => ⟨⟨own, ?_⟩, trivial⟩, fun matching => ?_⟩
      · rw [bound]
        intro other same
        obtain rfl := Option.some.inj same
        exact different
      · have matching := not_not.mp matching
        refine ⟨fun stale => ⟨accepted matching, ?_⟩, fun update => ⟨accepted matching, ?_⟩⟩
        · rw [takeOver, if_neg]
          rintro ⟨_, changed | newer⟩
          · rw [instanceChanged, ← own] at changed
            rw [changed] at stale
            simp at stale
          · rw [← own] at newer
            rw [newer] at stale
            simp at stale
        · subst own
          have due : Due info.peerId g info := by
            refine ⟨rfl, ?_⟩
            rw [Bool.not_eq_true, Bool.not_eq_false'] at update
            exact Bool.or_eq_true_iff.mp update
          rw [takeOver, if_pos due]
          rfl

private theorem storeRouteInfos_refused (host : Host) (infos : List RoutePeerInfo) (k : Nat)
    (g : RouteGroupData) :
    Ensures (RouteGroupData.storeRouteInfos host fromPeerId k infos) g (fun _ _ => True)
      (fun _ g' => ∃ before refused after, infos = before ++ refused :: after ∧
        Refused fromPeerId g refused ∧ (∀ info ∈ before, ¬ Refused fromPeerId g info) ∧
        g' = takeOverAll host fromPeerId k before g) := by
  induction infos generalizing k g with
  | nil => exact trivial
  | cons info infos ih =>
    simp only [RouteGroupData.storeRouteInfos, ensures_bind, ensures_pure]
    refine (storeRouteInfo_takesOver (host.clock k) info g).mono ?_ ?_
    · rintro _ g₁ ⟨accepted, rfl⟩
      refine (ih (k + 1) (takeOver fromPeerId (host.clock k) info g)).mono (fun _ _ _ => trivial) ?_
      rintro _ g' ⟨before, refused, after, rfl, here, earlier, rfl⟩
      have keys := (@confined_takeOver fromPeerId g (host.clock k) info).core.authenticatedPeerKeys
      refine ⟨info :: before, refused, after, rfl, (refused_iff keys refused).mp here, ?_, rfl⟩
      intro other member
      rcases List.mem_cons.mp member with rfl | member
      · exact accepted
      · exact fun refused => earlier other member ((refused_iff keys other).mpr refused)
    · rintro _ g' ⟨refused, rfl⟩
      exact ⟨[], info, infos, rfl, refused, by simp, rfl⟩

private theorem session_onRouteSessionAck (p : UInt32) (sid : UInt64) (weAreInitiator : Bool)
    (nowMs : UInt64) (t : UInt32) :
    session (g.onRouteSessionAck p sid weAreInitiator nowMs) t =
      if t = p then (session g p).follow sid weAreInitiator nowMs else session g t := by
  rw [session, RouteGroupData.onRouteSessionAck, AscMap.get?_upsert]
  split
  · rfl
  · rfl

private theorem marks_follow {s : SessionState} {sid : UInt64} (named : s.dstSessionId = some sid)
    (weAreInitiator : Bool) (nowMs : UInt64) :
    marks (s.follow sid weAreInitiator nowMs) = marks s := by
  rw [SessionState.follow, if_neg (not_not.mpr named), marks, marks, named]

private theorem mySessionId_follow (s : SessionState) (sid : UInt64) (weAreInitiator : Bool)
    (nowMs : UInt64) : (s.follow sid weAreInitiator nowMs).mySessionId = s.mySessionId := by
  rw [SessionState.follow]
  split
  · rfl
  · rfl

private theorem confined_onRouteSessionAck (sid : UInt64) (weAreInitiator : Bool) (nowMs : UInt64) :
    Confined fromPeerId g (g.onRouteSessionAck fromPeerId sid weAreInitiator nowMs) where
  core := ⟨rfl, rfl, rfl, rfl, rfl, rfl, rfl, rfl⟩
  peerInfos _ _ := rfl
  mySessionId := by
    rw [session_onRouteSessionAck, if_pos rfl, mySessionId_follow]
  sessions t other := by
    rw [session_onRouteSessionAck, if_neg other]
    exact Or.inl rfl

end Items

/-- The items a request carries. -/
def itemsOf (req : SyncRouteInfoRequest) : List RoutePeerInfo :=
  req.peerInfos.elim [] RoutePeerInfos.items

private theorem handleSyncRouteInfoRequest_refused (E : Codec) (host : Host)
    (myPeerId fromPeerId : UInt32) (req : SyncRouteInfoRequest) (g : RouteGroupData) :
    Ensures (RouteGroupData.handleSyncRouteInfoRequest E host myPeerId fromPeerId req) g
      (fun _ _ => True)
      (fun _ g' => ∃ before refused after, itemsOf req = before ++ refused :: after ∧
        Refused fromPeerId g refused ∧ (∀ info ∈ before, ¬ Refused fromPeerId g info) ∧
        g' = takeOverAll host fromPeerId 1 before
          (g.onRouteSessionAck fromPeerId req.mySessionId (!req.isInitiator) (host.clock 0))) := by
  simp only [RouteGroupData.handleSyncRouteInfoRequest, ensures_bind, ensures_get, ensures_set]
  rw [itemsOf]
  cases req.peerInfos with
  | none => exact trivial
  | some infos =>
    simp only [ensures_bind]
    refine (storeRouteInfos_refused host infos.items 1 _).mono ?_ ?_
    · rintro ⟨routeChanged, needBump⟩ g' _
      simp only [ensures_ite, ensures_modify, ensures_get, ensures_pure, ensures_bind]
      exact ⟨fun _ => trivial, fun _ => trivial⟩
    · rintro _ g' ⟨before, refused, after, listed, here, earlier, rfl⟩
      exact ⟨before, refused, after, listed, here, earlier, rfl⟩

/-- A sync request that is refused either changes nothing at all, because it does not decode or is
not the sender's, or it is refused at one of its items. Then the sender's session has followed the
session id it names, the items before the refused one are taken over in their order, and nothing
else has happened; in a session that has this id already and without an item to take over, all is
as it was. -/
theorem rejected_sync {E : Codec} {host : Host} {s s' : RouteState} {groupKey : String}
    {fromPeerId : UInt32} {bytes : Bytes} {error : String}
    (rejected : RouteState.handleSyncRouteInfoRequest E host groupKey fromPeerId bytes s =
      .error error s') :
    (s' = s ∧ ∀ req, E.decodeSyncRouteInfoRequest bytes = .ok req → req.myPeerId ≠ fromPeerId) ∨
      ∃ req before refused after g g',
        E.decodeSyncRouteInfoRequest bytes = .ok req ∧ req.myPeerId = fromPeerId ∧
        g = s.ensureGroup host groupKey ∧
        s' = { s with groups := s.groups.insert groupKey g' } ∧
        itemsOf req = before ++ refused :: after ∧
        Refused fromPeerId g refused ∧ (∀ info ∈ before, ¬ Refused fromPeerId g info) ∧
        g' = takeOverAll host fromPeerId 1 before
          (g.onRouteSessionAck fromPeerId req.mySessionId (!req.isInitiator) (host.clock 0)) ∧
        Confined fromPeerId g g' ∧
        (dst g fromPeerId = some req.mySessionId → (∀ info ∈ before, ¬ Due fromPeerId g info) →
          Unchanged g g') := by
  rw [RouteState.handleSyncRouteInfoRequest] at rejected
  cases decoded : E.decodeSyncRouteInfoRequest bytes with
  | error e =>
    rw [decoded] at rejected
    cases rejected
    left
    refine ⟨rfl, ?_⟩
    intro req read
    cases read
  | ok req =>
    rw [decoded] at rejected
    by_cases foreign : req.myPeerId ≠ fromPeerId
    · simp only [if_pos foreign] at rejected
      cases rejected
      left
      refine ⟨rfl, ?_⟩
      intro other read
      cases read
      exact foreign
    · right
      simp only [if_neg foreign] at rejected
      have ran : RouteState.onGroup host groupKey (fun myPeerId =>
          RouteGroupData.handleSyncRouteInfoRequest E host myPeerId fromPeerId req) s =
            .error error s' := rejected
      have spec := handleSyncRouteInfoRequest_refused E host s.myPeerId fromPeerId req
        (s.ensureGroup host groupKey)
      rw [RouteState.onGroup] at ran
      cases result : RouteGroupData.handleSyncRouteInfoRequest E host s.myPeerId fromPeerId req
          (s.ensureGroup host groupKey) with
      | ok outcome g' =>
        rw [result] at ran
        cases ran
      | error e g' =>
        rw [result] at ran
        cases ran
        obtain ⟨before, refused, after, listed, here, earlier, left_behind⟩ :=
          ensures_of_error spec result
        have acknowledged := @confined_onRouteSessionAck fromPeerId
          (s.ensureGroup host groupKey) req.mySessionId (!req.isInitiator) (host.clock 0)
        refine ⟨req, before, refused, after, _, g', rfl, not_not.mp foreign, rfl, rfl, listed, here,
          earlier, left_behind, ?_, ?_⟩
        · rw [left_behind]
          exact acknowledged.trans (confined_takeOverAll host before 1)
        · intro named stale
          have stale : ∀ info ∈ before, ¬ Due fromPeerId ((s.ensureGroup host
              groupKey).onRouteSessionAck fromPeerId req.mySessionId (!req.isInitiator)
                (host.clock 0)) info := stale
          have same : g' = (s.ensureGroup host groupKey).onRouteSessionAck fromPeerId
              req.mySessionId (!req.isInitiator) (host.clock 0) := by
            rw [left_behind]
            exact takeOverAll_of_not_due host stale 1
          refine ⟨same ▸ acknowledged.core, same ▸ rfl, ?_⟩
          intro t
          rw [same, session_onRouteSessionAck]
          split
          · rename_i own
            subst own
            refine marks_follow ?_ _ _
            rw [dst] at named
            rw [session]
            cases present : (s.ensureGroup host groupKey).sessions.get? t with
            | none =>
              rw [present] at named
              cases named
            | some record =>
              rw [present] at named
              exact named
          · rfl

/-! Peer 7 of the relay 1 sends two items about itself, the second with a foreign key. -/

def steadyHost : Host where
  clock _ := 1_000
  instId := ⟨1, 2, 3, 4⟩
  peerRouteId := 9
  fill k := .ok (UInt64.ofNat k)

/-- An item about peer 7 that carries the key of 32 bytes `b`. -/
def itemOf (version : UInt32) (b : UInt8) : RoutePeerInfo :=
  { RoutePeerInfo.default with
    peerId := 7, instId := some ⟨1, 1, 1, 1⟩, version, noiseStaticPubkey := List.replicate 32 b }

def requestOf (items : List RoutePeerInfo) : SyncRouteInfoRequest :=
  ⟨7, 700, true, some ⟨items⟩, none⟩

def mixedCodec : Codec := Wire.codec ⟨[], [], [],
  [requestOf [itemOf 5 70], requestOf [itemOf 6 70, itemOf 7 71],
    requestOf [itemOf 5 70, itemOf 7 71]], [], [], []⟩

def sending (items : List RoutePeerInfo) : RouteM RouteSyncOutcome :=
  RouteState.handleSyncRouteInfoRequest mixedCodec steadyHost "net" 7
    (Wire.syncRouteInfoRequest (requestOf items))

/-- Peer 7 has joined and published its version 5. -/
def publishedState : RouteState :=
  final (sending [itemOf 5 70]
    (final (RouteState.addPeer steadyHost "net" 7 (List.replicate 32 70) (RouteState.new 1))))

/-- The version of peer 7 that a state has stored. -/
def storedVersion (s : RouteState) : Option UInt32 :=
  (s.groups.lookup "net").bind fun g => (g.peerInfos.get? 7).map RoutePeerInfo.version

def keyMismatch : String :=
  "RoutePeerInfo public key does not match the authenticated Noise identity"

/-- An item that is stored already is followed by a refused one, and all is as it was. -/
theorem rejected_sync_stale :
    ∃ g', (final (sending [itemOf 5 70, itemOf 7 71] publishedState)).groups.lookup "net" =
        some g' ∧
      Unchanged (publishedState.ensureGroup steadyHost "net") g' := by
  have ran := eq_error_of_value (show
    value (sending [itemOf 5 70, itemOf 7 71] publishedState) =
      .error keyMismatch by decide +kernel)
  have decoded : mixedCodec.decodeSyncRouteInfoRequest (Wire.syncRouteInfoRequest
      (requestOf [itemOf 5 70, itemOf 7 71])) = .ok (requestOf [itemOf 5 70, itemOf 7 71]) := by
    decide +kernel
  rcases rejected_sync ran with ⟨_, foreign⟩ | ⟨req, before, refused, after, g, g', read, _, found,
    left_behind, listed, _, _, _, _, unchanged⟩
  · exact absurd rfl (foreign _ decoded)
  · obtain rfl := Except.ok.inj (decoded.symm.trans read)
    subst found
    have stored : ∀ info ∈ before, info = itemOf 5 70 := by
      rcases before with _ | ⟨first, _ | ⟨second, rest⟩⟩
      · simp
      · obtain ⟨rfl, _⟩ := List.cons.inj listed
        simp
      · obtain ⟨_, tail⟩ := List.cons.inj (List.cons.inj listed).2
        simp at tail
    have stale : ¬ Due 7 (publishedState.ensureGroup steadyHost "net") (itemOf 5 70) := by
      decide +kernel
    refine ⟨g', ?_, unchanged (by decide +kernel) ?_⟩
    · rw [left_behind]
      exact Finmap.lookup_insert _
    · intro info member
      rw [stored info member]
      exact stale

/-- An item that is due is stored, and stays stored when the next one is refused. -/
theorem rejected_sync_stores :
    ¬ ∀ (E : Codec) (host : Host) (s s' : RouteState) (groupKey : String) (fromPeerId : UInt32)
        (bytes : Bytes) (error : String) (g g' : RouteGroupData),
      RouteState.handleSyncRouteInfoRequest E host groupKey fromPeerId bytes s = .error error s' →
      s.groups.lookup groupKey = some g → s'.groups.lookup groupKey = some g' →
      (g.authenticatedPeerKeys.get? fromPeerId).isSome → Unchanged g g' := by
  intro nothing_changes
  have ran := eq_error_of_value (show
    value (sending [itemOf 6 70, itemOf 7 71] publishedState) =
      .error keyMismatch by decide +kernel)
  have before : storedVersion publishedState = some 5 := by decide +kernel
  have after : storedVersion (final (sending [itemOf 6 70, itemOf 7 71] publishedState)) =
    some 6 := by
    decide +kernel
  obtain ⟨g, found, version⟩ := Option.bind_eq_some_iff.mp before
  obtain ⟨g', found', version'⟩ := Option.bind_eq_some_iff.mp after
  have authenticated : ∀ g ∈ publishedState.groups.lookup "net",
      (g.authenticatedPeerKeys.get? 7).isSome = true := by
    decide +kernel
  have same := (nothing_changes mixedCodec steadyHost publishedState _ "net" 7 _ keyMismatch g g'
    ran found found' (authenticated g found)).peerInfos
  rw [same, version] at version'
  cases version'

end EasyTierEdge.Rpc.RejectedSync
