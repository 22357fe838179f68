/- module: EasyTierEdge/Rpc/Topology
   source: cloudflare/wasm/src/route_state.rs, bump_all_conn_versions and its callers
   digest: What each call does to the members of a group and to their connection versions. -/

import EasyTierEdge.Rpc.RouteRuns

set_option autoImplicit false
set_option relaxedAutoImplicit false

namespace EasyTierEdge.Rpc.Topology

open Lib.AscendingMap Lib.Fallible Lib.FiniteMap Lib.Machine
open Packet (Bytes Key)
open Proto Routes RouteMoves RouteRuns

/-- The version a peer is listed with. -/
def connVersion (g : RouteGroupData) (p : UInt32) : UInt32 := (g.peerConnVersions.get? p).getD 1

/-- The ids that a change of the topology gives new versions. -/
def ids (g : RouteGroupData) : List UInt32 :=
  (g.peerInfos.keys.foldl (fun s pid => s.insert pid ()) g.peers).keys

private theorem mem_inserted_keys {p : UInt32} (pids : List UInt32) (s : AscSet UInt32) :
    p ∈ (pids.foldl (fun s pid => s.insert pid ()) s).keys ↔ p ∈ s.keys ∨ p ∈ pids := by
  induction pids generalizing s with
  | nil => simp
  | cons pid pids ih =>
    rw [List.foldl_cons, ih, AscMap.mem_keys_insert, List.mem_cons]
    constructor
    · rintro ((new | old) | later)
      · exact Or.inr (Or.inl new)
      · exact Or.inl old
      · exact Or.inr (Or.inr later)
    · rintro (old | new | later)
      · exact Or.inl (Or.inr old)
      · exact Or.inl (Or.inl new)
      · exact Or.inr later

theorem mem_ids {g : RouteGroupData} {p : UInt32} :
    p ∈ ids g ↔ p ∈ g.peers.keys ∨ p ∈ g.peerInfos.keys :=
  mem_inserted_keys g.peerInfos.keys g.peers

private theorem bumped_get? {pids : List UInt32} (nodup : pids.Nodup)
    (versions : AscMap UInt32 UInt32) (p : UInt32) :
    (pids.foldl (fun versions pid => versions.insert pid ((versions.get? pid).getD 1 + 1))
        versions).get? p =
      if p ∈ pids then some ((versions.get? p).getD 1 + 1) else versions.get? p := by
  induction pids generalizing versions with
  | nil => simp
  | cons pid pids ih =>
    obtain ⟨fresh, nodup⟩ := List.nodup_cons.mp nodup
    rw [List.foldl_cons, ih nodup, AscMap.get?_insert]
    by_cases own : p = pid
    · subst own
      rw [if_neg fresh, if_pos rfl, if_pos List.mem_cons_self]
    · simp [own]

section Bump

variable (g : RouteGroupData) (myPeerId : UInt32)

private theorem bump_peerConnVersions (p : UInt32) :
    (g.bumpAllConnVersions myPeerId).peerConnVersions.get? p =
      if p ∈ ids g ∨ p = myPeerId then
        some (connVersion g p + (if p ∈ ids g then 1 else 0) + if p = myPeerId then 1 else 0)
      else g.peerConnVersions.get? p := by
  have nodup : (ids g).Nodup := AscMap.keys_nodup _
  have bumped := bumped_get? nodup g.peerConnVersions
  have written : (g.bumpAllConnVersions myPeerId).peerConnVersions =
      ((ids g).foldl (fun versions pid => versions.insert pid ((versions.get? pid).getD 1 + 1))
        g.peerConnVersions).upsert myPeerId 1 (· + 1) := rfl
  rw [written, AscMap.get?_upsert, bumped, bumped]
  by_cases own : p = myPeerId
  · subst own
    by_cases member : p ∈ ids g
    · simp [member, connVersion]
    · simp [member, connVersion]
  · by_cases member : p ∈ ids g
    · simp [own, member, connVersion]
    · simp [own, member]

theorem bump_connVersion (p : UInt32) :
    connVersion (g.bumpAllConnVersions myPeerId) p =
      connVersion g p + (if p ∈ ids g then 1 else 0) + if p = myPeerId then 1 else 0 := by
  rw [connVersion, bump_peerConnVersions]
  by_cases given : p ∈ ids g ∨ p = myPeerId
  · rw [if_pos given]
    rfl
  · rw [if_neg given]
    obtain ⟨outside, other⟩ := not_or.mp given
    rw [if_neg outside, if_neg other]
    simp [connVersion]

theorem mem_bumped_keys {p : UInt32} :
    p ∈ (g.bumpAllConnVersions myPeerId).peerConnVersions.keys ↔
      p ∈ g.peerConnVersions.keys ∨ p ∈ ids g ∨ p = myPeerId := by
  rw [AscMap.mem_keys, bump_peerConnVersions, AscMap.mem_keys]
  by_cases given : p ∈ ids g ∨ p = myPeerId
  · simp [given]
  · simp [given]

theorem bump_topologyVersion_toNat :
    (g.bumpAllConnVersions myPeerId).topologyVersion.toNat =
      if g.topologyVersion.toNat + 1 = 2 ^ 64 then 1 else g.topologyVersion.toNat + 1 := by
  have below := g.topologyVersion.toNat_lt
  show (if g.topologyVersion + 1 ≤ 1 then (1 : UInt64) else g.topologyVersion + 1).toNat = _
  have sum : (g.topologyVersion + 1).toNat = (g.topologyVersion.toNat + 1) % 2 ^ 64 := by
    rw [UInt64.toNat_add, UInt64.toNat_one]
  by_cases wraps : g.topologyVersion.toNat + 1 = 2 ^ 64
  · rw [wraps, Nat.mod_self] at sum
    rw [if_pos wraps, if_pos]
    · rfl
    · rw [UInt64.le_iff_toNat_le, sum]
      omega
  · rw [Nat.mod_eq_of_lt (by omega)] at sum
    rw [if_neg wraps]
    split
    · rename_i small
      rw [UInt64.le_iff_toNat_le, sum] at small
      simp only [UInt64.toNat_one] at small ⊢
      omega
    · exact sum

theorem bump_topologyVersion :
    (g.bumpAllConnVersions myPeerId).topologyVersion ≠ g.topologyVersion := by
  intro same
  have nat := bump_topologyVersion_toNat g myPeerId
  rw [same] at nat
  split at nat
  · omega
  · omega

end Bump

/-! Connection infos. -/

section ConnInfos

variable (g : RouteGroupData) (relevantPeers : List UInt32) (targetPeerId : UInt32)
  (supportsConnList : Bool) (myPeerId : UInt32) (nowMs : UInt64)

/-- The bitmap form of the topology. -/
def bitmapOf : RouteConnBitmap :=
  ⟨g.peerIdVersions relevantPeers, RouteGroupData.connBitmap relevantPeers myPeerId⟩

/-- A connection info is left out, or it is the one that is cached for the current topology, or
it is computed and cached. -/
inductive ConnInfoBuilt : Option ConnInfo → RouteGroupData → Prop
  | suppressed (known : relevantPeers = [] ∨ g.topologyKnown targetPeerId nowMs = true) :
      ConnInfoBuilt none g
  | peerList (l : RouteConnPeerList) (sparse : supportsConnList = true)
      (current : g.cachedConnPeerList = some (g.topologyVersion, l) ∨
        l = g.connPeerList relevantPeers myPeerId) :
      ConnInfoBuilt (some (.connPeerList l))
        { g with cachedConnPeerList := some (g.topologyVersion, l) }
  | bitmap (b : RouteConnBitmap) (dense : supportsConnList = false)
      (current : g.cachedConnBitmap = some (g.topologyVersion, b) ∨
        b = bitmapOf g relevantPeers myPeerId) :
      ConnInfoBuilt (some (.connBitmap b))
        { g with cachedConnBitmap := some (g.topologyVersion, b) }

theorem cached_current {α : Type} {cache : Option (UInt64 × α)} {version : UInt64}
    {cached : UInt64 × α}
    (found : cache.filter (fun cached => cached.1 == version) = some cached) :
    cache = some (version, cached.2) := by
  obtain ⟨present, current⟩ := Option.filter_eq_some_iff.mp found
  rw [present]
  exact congrArg some (Prod.ext (beq_iff_eq.mp current) rfl)

private theorem buildConnInfo_built :
    Ensures (RouteGroupData.buildConnInfo relevantPeers targetPeerId supportsConnList myPeerId
      nowMs) g (ConnInfoBuilt g relevantPeers targetPeerId supportsConnList myPeerId nowMs)
      (fun _ g' => g' = g) := by
  simp only [RouteGroupData.buildConnInfo, ensures_bind, ensures_ite, ensures_get, ensures_pure]
  refine ⟨fun empty => .suppressed (Or.inl (List.isEmpty_iff.mp empty)), fun _ =>
    ⟨fun known => .suppressed (Or.inr known), fun _ => ⟨fun sparse => ?_, fun dense => ?_⟩⟩⟩
  · cases found : g.cachedConnPeerList.filter fun cached => cached.1 == g.topologyVersion with
    | some cached =>
      have current := cached_current found
      have same : { g with cachedConnPeerList := some (g.topologyVersion, cached.2) } = g := by
        rw [← current]
      have built : ConnInfoBuilt g relevantPeers targetPeerId supportsConnList myPeerId nowMs _ _ :=
        .peerList cached.2 sparse (Or.inl current)
      rw [same] at built
      exact built
    | none => exact .peerList _ sparse (Or.inr rfl)
  · have dense : supportsConnList = false := Bool.eq_false_iff.mpr dense
    cases found : g.cachedConnBitmap.filter fun cached => cached.1 == g.topologyVersion with
    | some cached =>
      have current := cached_current found
      have same : { g with cachedConnBitmap := some (g.topologyVersion, cached.2) } = g := by
        rw [← current]
      have built : ConnInfoBuilt g relevantPeers targetPeerId supportsConnList myPeerId nowMs _ _ :=
        .bitmap cached.2 dense (Or.inl current)
      rw [same] at built
      exact built
    | none =>
      simp only [ensures_bind, ensures_ite, ensures_throw, ensures_set, ensures_pure]
      exact ⟨fun _ => trivial, fun _ => .bitmap _ dense (Or.inr rfl)⟩

theorem ConnInfoBuilt.frame {g g' : RouteGroupData} {conn : Option ConnInfo}
    (shown : ConnInfoBuilt g relevantPeers targetPeerId supportsConnList myPeerId nowMs conn g') :
    SameTables g g' ∧ g'.peerConnVersions = g.peerConnVersions ∧
      g'.topologyVersion = g.topologyVersion := by
  cases shown with
  | suppressed known => exact ⟨SameTables.refl g, rfl, rfl⟩
  | peerList l sparse current => exact ⟨⟨rfl, rfl, rfl, rfl⟩, rfl, rfl⟩
  | bitmap b dense current => exact ⟨⟨rfl, rfl, rfl, rfl⟩, rfl, rfl⟩

theorem buildSyncRouteInfoRequest_built (E : Codec) (host : Host) (serverSessionId : UInt64)
    (weAreInitiator forceFull : Bool) :
    Ensures (RouteGroupData.buildSyncRouteInfoRequest E host myPeerId targetPeerId serverSessionId
        weAreInitiator forceFull) g
      (fun u g' => ConnInfoBuilt (g.touchSession targetPeerId serverSessionId (host.clock 0))
          (g.relevantPeers myPeerId targetPeerId) targetPeerId (g.supportsConnList targetPeerId)
          myPeerId (host.clock 2) u.request.connInfo g' ∧
        u.topologyVersion = u.request.connInfo.map fun _ => g.topologyVersion)
      (fun _ g' => g' = g.touchSession targetPeerId serverSessionId (host.clock 0)) := by
  simp only [RouteGroupData.buildSyncRouteInfoRequest, ensures_bind, ensures_modify, ensures_get,
    ensures_pure]
  refine (buildConnInfo_built _ _ _ _ _ _).mono ?_ ?_
  · intro conn g' shown
    exact ⟨shown, rfl⟩
  · intro _ g' same
    exact same

end ConnInfos

/-- A connection info that is cached for the current topology. -/
def Cached (g : RouteGroupData) : ConnInfo → Prop
  | .connBitmap b => g.cachedConnBitmap = some (g.topologyVersion, b)
  | .connPeerList l => g.cachedConnPeerList = some (g.topologyVersion, l)

theorem cached_of_caches {g g' : RouteGroupData}
    (topologyVersion : g'.topologyVersion = g.topologyVersion)
    (bitmap : g'.cachedConnBitmap = g.cachedConnBitmap)
    (peerList : g'.cachedConnPeerList = g.cachedConnPeerList) {conn : ConnInfo}
    (cached : Cached g' conn) : Cached g conn := by
  cases conn with
  | connBitmap b =>
    rw [Cached, ← bitmap, ← topologyVersion]
    exact cached
  | connPeerList l =>
    rw [Cached, ← peerList, ← topologyVersion]
    exact cached

theorem not_cached_new (myPeerId : UInt32) (host : Host) (conn : ConnInfo) :
    ¬ Cached (RouteGroupData.new myPeerId host) conn := by
  intro cached
  cases conn with
  | connBitmap b => cases cached
  | connPeerList l => cases cached

theorem not_cached_bump (g : RouteGroupData) (myPeerId : UInt32) (conn : ConnInfo) :
    ¬ Cached (g.bumpAllConnVersions myPeerId) conn := by
  intro cached
  cases conn with
  | connBitmap b => cases cached
  | connPeerList l => cases cached

/-- A connection info that is handed out was cached already or describes the listed peers, and it
is the only one that its call adds to the caches. -/
theorem ConnInfoBuilt.sources {g g' : RouteGroupData} {relevantPeers : List UInt32}
    {targetPeerId myPeerId : UInt32} {supportsConnList : Bool} {nowMs : UInt64}
    {conn : Option ConnInfo}
    (shown : ConnInfoBuilt g relevantPeers targetPeerId supportsConnList myPeerId nowMs conn g') :
    (∀ c ∈ conn, Cached g c ∨ c = .connBitmap (bitmapOf g relevantPeers myPeerId) ∨
      c = .connPeerList (g.connPeerList relevantPeers myPeerId)) ∧
    ∀ c, Cached g' c → Cached g c ∨ c ∈ conn := by
  cases shown with
  | suppressed known => exact ⟨by simp, fun c cached => Or.inl cached⟩
  | peerList l sparse current =>
    constructor
    · intro c handed
      obtain rfl := Option.some.inj handed
      rcases current with cached | rfl
      · exact Or.inl cached
      · exact Or.inr (Or.inr rfl)
    · intro c cached
      cases c with
      | connBitmap b => exact Or.inl cached
      | connPeerList l' =>
        obtain rfl : l = l' := (Prod.mk.inj (Option.some.inj cached)).2
        exact Or.inr rfl
  | bitmap b dense current =>
    constructor
    · intro c handed
      obtain rfl := Option.some.inj handed
      rcases current with cached | rfl
      · exact Or.inl cached
      · exact Or.inr (Or.inl rfl)
    · intro c cached
      cases c with
      | connPeerList l => exact Or.inl cached
      | connBitmap b' =>
        obtain rfl : b = b' := (Prod.mk.inj (Option.some.inj cached)).2
        exact Or.inr rfl

/-! What a call does to the topology of its group. -/

/-- Members, connection versions and cached connection infos are the same. -/
structure SameTopology (g g' : RouteGroupData) : Prop where
  peers : g'.peers = g.peers
  peerConnVersions : g'.peerConnVersions = g.peerConnVersions
  topologyVersion : g'.topologyVersion = g.topologyVersion
  cachedConnBitmap : g'.cachedConnBitmap = g.cachedConnBitmap
  cachedConnPeerList : g'.cachedConnPeerList = g.cachedConnPeerList

theorem SameTopology.refl (g : RouteGroupData) : SameTopology g g := ⟨rfl, rfl, rfl, rfl, rfl⟩

theorem SameTopology.trans {g g' g'' : RouteGroupData} (h : SameTopology g g')
    (k : SameTopology g' g'') : SameTopology g g'' :=
  ⟨k.peers.trans h.peers, k.peerConnVersions.trans h.peerConnVersions,
    k.topologyVersion.trans h.topologyVersion, k.cachedConnBitmap.trans h.cachedConnBitmap,
    k.cachedConnPeerList.trans h.cachedConnPeerList⟩

theorem SameTopology.cached {g g' : RouteGroupData} (same : SameTopology g g') {conn : ConnInfo}
    (cached : Cached g' conn) : Cached g conn :=
  cached_of_caches same.topologyVersion same.cachedConnBitmap same.cachedConnPeerList cached

/-- The topology of a group after a call on it. -/
inductive TopologyMove (myPeerId : UInt32) : RouteCall → RouteGroupData → RouteGroupData → Prop
  | quiet {c : RouteCall} {g g' : RouteGroupData} (same : SameTopology g g') :
      TopologyMove myPeerId c g g'
  | joined {groupKey : String} {p : UInt32} {key : Bytes} {g g₁ : RouteGroupData}
      (absent : p ∉ g.peers.keys) (peers : g₁.peers = g.peers.insert p ())
      (infos : g₁.peerInfos = g.peerInfos) (versions : g₁.peerConnVersions = g.peerConnVersions)
      (topologyVersion : g₁.topologyVersion = g.topologyVersion) :
      TopologyMove myPeerId (.addPeer groupKey p key) g (g₁.bumpAllConnVersions myPeerId)
  | left {groupKey : String} {p : UInt32} {g g₁ : RouteGroupData}
      (present : p ∈ g.peers.keys ∨ p ∈ g.peerInfos.keys) (peers : g₁.peers = g.peers.erase p)
      (versions : g₁.peerConnVersions = g.peerConnVersions.erase p)
      (topologyVersion : g₁.topologyVersion = g.topologyVersion) :
      TopologyMove myPeerId (.removePeer groupKey p) g (g₁.bumpAllConnVersions myPeerId)
  | forgot {groupKey : String} {p : UInt32} {g g' : RouteGroupData}
      (absent : p ∉ g.peers.keys) (peers : g'.peers = g.peers)
      (versions : g'.peerConnVersions = g.peerConnVersions.erase p)
      (topologyVersion : g'.topologyVersion = g.topologyVersion)
      (cachedConnBitmap : g'.cachedConnBitmap = g.cachedConnBitmap)
      (cachedConnPeerList : g'.cachedConnPeerList = g.cachedConnPeerList) :
      TopologyMove myPeerId (.removePeer groupKey p) g g'
  | published {groupKey : String} {p : UInt32} {bytes : Bytes} {g g₁ : RouteGroupData}
      (member : p ∈ g.authenticatedPeerKeys.keys) (same : SameTopology g g₁) :
      TopologyMove myPeerId (.handleSyncRouteInfoRequest groupKey p bytes) g
        (g₁.bumpAllConnVersions myPeerId)
  | built {groupKey : String} {t : UInt32} {serverSessionId nowMs : UInt64}
      {weAreInitiator forceFull supportsConnList : Bool} {g g₁ g' : RouteGroupData}
      {conn : Option ConnInfo}
      (before : SameTopology g g₁)
      (shown : ConnInfoBuilt g₁ (g.relevantPeers myPeerId t) t supportsConnList myPeerId nowMs
        conn g') :
      TopologyMove myPeerId (.buildSyncRouteInfoRequest groupKey t serverSessionId weAreInitiator
        forceFull) g g'

private theorem addPeer_topology (myPeerId : UInt32) (groupKey : String) (p : UInt32)
    (bytes : Bytes) (key : Key) (g : RouteGroupData) :
    TopologyMove myPeerId (.addPeer groupKey p bytes) g
      (final (RouteGroupData.addPeer myPeerId p key g)) := by
  refine ensures_final ?_
  simp only [RouteGroupData.addPeer, ensures_bind, ensures_get, ensures_ite, ensures_throw,
    ensures_set]
  refine ⟨fun _ => .quiet (SameTopology.refl g), fun _ => ?_⟩
  split
  · rename_i absent
    refine .joined ?_ rfl rfl rfl rfl
    rw [AscMap.mem_keys]
    simpa using absent
  · rename_i present
    refine .quiet ⟨AscMap.insert_of_get? ?_, rfl, rfl, rfl, rfl⟩
    obtain ⟨⟨⟩, found⟩ := Option.ne_none_iff_exists'.mp (by simpa using present)
    exact found

private theorem removePeer_topology (myPeerId : UInt32) (groupKey : String) (p : UInt32)
    (g : RouteGroupData) :
    TopologyMove myPeerId (.removePeer groupKey p) g (g.removePeer myPeerId p) := by
  rw [RouteGroupData.removePeer]
  split
  · rename_i known
    refine .left ?_ rfl rfl rfl
    rw [AscMap.mem_keys, AscMap.mem_keys]
    exact Bool.or_eq_true_iff.mp known
  · rename_i unknown
    rw [Bool.or_eq_true, not_or] at unknown
    have absent : g.peers.get? p = none := Option.not_isSome_iff_eq_none.mp unknown.1
    refine .forgot ?_ (AscMap.erase_of_get? absent) rfl rfl rfl rfl
    rw [AscMap.mem_keys]
    exact unknown.1

theorem groupOp_topology {E : Codec} {host : Host} {c : RouteCall}
    {op : UInt32 → GroupM RouteReply} (accepted : groupOp E host c = .ok op) (myPeerId : UInt32)
    (g : RouteGroupData) : TopologyMove myPeerId c g (final (op myPeerId g)) := by
  have ran := groupOp_final accepted myPeerId g
  cases c with
  | addPeer groupKey p bytes =>
    obtain ⟨key, _, ran⟩ := ran
    rw [ran]
    exact addPeer_topology myPeerId groupKey p bytes key g
  | removePeer groupKey p =>
    rw [ran]
    exact removePeer_topology myPeerId groupKey p g
  | onRouteSessionAck groupKey p theirSessionId weAreInitiator =>
    rw [ran]
    exact .quiet ⟨rfl, rfl, rfl, rfl, rfl⟩
  | commitRouteUpdate groupKey p versions topologyVersion =>
    rw [ran]
    exact .quiet ⟨rfl, rfl, rfl, rfl, rfl⟩
  | setMyInfoField groupKey field value =>
    rcases ran with ⟨myInfo, ran⟩ | ran
    · rw [ran]
      exact .quiet ⟨rfl, rfl, rfl, rfl, rfl⟩
    · rw [ran]
      exact .quiet (SameTopology.refl g)
  | setMyNoisePublicKey groupKey publicKey =>
    obtain ⟨myInfo, ran⟩ := ran
    rw [ran]
    exact .quiet ⟨rfl, rfl, rfl, rfl, rfl⟩
  | buildSyncRouteInfoRequest groupKey t serverSessionId weAreInitiator forceFull =>
    rw [ran]
    refine ensures_final ((buildSyncRouteInfoRequest_built _ _ _ E host _ _ _).mono ?_ ?_)
    · rintro u g' ⟨shown, _⟩
      have touched : SameTopology g (g.touchSession t serverSessionId (host.clock 0)) :=
        ⟨rfl, rfl, rfl, rfl, rfl⟩
      exact .built touched shown
    · rintro _ g' rfl
      exact .quiet ⟨rfl, rfl, rfl, rfl, rfl⟩
  | handleSyncRouteInfoRequest groupKey p bytes =>
    obtain ⟨req, _, _, ran⟩ := ran
    rw [ran]
    refine ensures_final (@handleSyncRouteInfoRequest_cases host p
      (fun g' => SameTopology g g' ∧ g'.authenticatedPeerKeys = g.authenticatedPeerKeys) _ E
      myPeerId req g ?_ ?_ ?_ ?_)
    · exact ⟨⟨rfl, rfl, rfl, rfl, rfl⟩, rfl⟩
    · rintro g' info _ stampMs ⟨same, keys⟩ _
      exact ⟨same.trans ⟨rfl, rfl, rfl, rfl, rfl⟩, keys⟩
    · rintro g' ⟨same, _⟩
      exact .quiet same
    · rintro g' g₀ info ⟨same, _⟩ ⟨_, keys⟩ publishes
      obtain ⟨key, known, _⟩ := publishes.key
      refine .published ?_ same
      rw [keys] at known
      rw [AscMap.mem_keys, known]
      rfl

theorem TopologyMove.outside {myPeerId q : UInt32} {c : RouteCall} {g g' : RouteGroupData}
    (move : TopologyMove myPeerId c g g') (outside : q ∉ g.peers.keys)
    (joining : ∀ groupKey publicKey, c ≠ .addPeer groupKey q publicKey) : q ∉ g'.peers.keys := by
  cases move with
  | quiet same => exact same.peers ▸ outside
  | @joined groupKey p key _ g₁ absent peers infos versions topologyVersion =>
    show q ∉ g₁.peers.keys
    rw [peers, AscMap.mem_keys_insert, not_or]
    exact ⟨fun own => joining groupKey key (own ▸ rfl), outside⟩
  | @left groupKey p _ g₁ present peers versions topologyVersion =>
    show q ∉ g₁.peers.keys
    rw [peers, AscMap.mem_keys_erase]
    exact fun inside => outside inside.2
  | @published groupKey p bytes _ g₁ member same =>
    show q ∉ g₁.peers.keys
    exact same.peers ▸ outside
  | forgot absent peers versions topologyVersion bitmap peerList => exact peers ▸ outside
  | built before shown =>
    rw [shown.frame.1.peers, before.peers]
    exact outside

end EasyTierEdge.Rpc.Topology
