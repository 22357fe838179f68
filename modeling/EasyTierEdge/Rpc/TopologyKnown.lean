/- module: EasyTierEdge/Rpc/TopologyKnown
   source: cloudflare/wasm/src/route_state.rs, build_conn_info and what it relies on
   digest: The topology is left out of an update only when the target has acknowledged it. -/

import EasyTierEdge.Rpc.ConnBitmap
import EasyTierEdge.Rpc.RouteWorld

set_option autoImplicit false
set_option relaxedAutoImplicit false

namespace EasyTierEdge.Rpc.TopologyKnown

open Lib.AscendingMap Lib.Fallible Lib.FiniteMap Lib.Machine Lib.Saturating
open RouteRuns hiding step run_myPeerId group_history step_groups
open Proto Routes RouteMoves Rpc.Topology RouteIdentity ConnBitmap RouteWorld

/-- The same peers with the same versions, and the same links between different peers. -/
def SameTopologyInfo (a b : ConnInfo) : Prop :=
  listed a = listed b ∧ ∀ p q, p ≠ q → linked a p q = linked b p q

/-- The connection info that would be computed for a target without any cache. -/
def freshConnInfo (g : RouteGroupData) (myPeerId targetPeerId : UInt32) : ConnInfo :=
  if g.supportsConnList targetPeerId then
    .connPeerList (g.connPeerList (g.relevantPeers myPeerId targetPeerId) myPeerId)
  else .connBitmap (bitmapOf g (g.relevantPeers myPeerId targetPeerId) myPeerId)

/-- The topology counter of a group; a group that is not there yet would start with 1. -/
def topologyOf (groupKey : String) (s : RouteState) : UInt64 :=
  (s.groups.lookup groupKey).elim 1 RouteGroupData.topologyVersion

/-- How often the topology of the group changes in a run. -/
def topologyChanges (E : Codec) (groupKey : String) (w : World) (es : List Event) : Nat :=
  (log (step E) (fun w e =>
    if topologyOf groupKey (step E w e).routes = topologyOf groupKey w.routes then none
    else some e.op) w es).length

/-- Updates are built for members only, and the relay itself neither joins nor leaves. -/
structure Orderly (groupKey : String) (myPeerId : UInt32) (_pre : List Event) (w : World)
    (e : Event) : Prop where
  target : ∀ t serverSessionId weAreInitiator forceFull,
    e.op = .build groupKey t serverSessionId weAreInitiator forceFull →
    ∃ g, w.routes.groups.lookup groupKey = some g ∧ t ∈ g.peers.keys
  joining : ∀ publicKey, e.op ≠ .addPeer groupKey myPeerId publicKey
  leaving : e.op ≠ .removePeer groupKey myPeerId

/-! What a group says about its topology. -/

/-- The ids that every connection info of the group lists. -/
def members (g : RouteGroupData) (myPeerId : UInt32) : List UInt32 :=
  (g.peers.insert myPeerId ()).keys

/-- `conn` is one of the two forms of the current topology. -/
def Says (myPeerId : UInt32) (g : RouteGroupData) (conn : ConnInfo) : Prop :=
  conn = .connBitmap (bitmapOf g (members g myPeerId) myPeerId) ∨
    conn = .connPeerList (g.connPeerList (members g myPeerId) myPeerId)

section Saying

variable {myPeerId t : UInt32} {g g' : RouteGroupData} {conn : ConnInfo}

theorem relevantPeers_eq (member : t ∈ g.peers.keys) :
    g.relevantPeers myPeerId t = members g myPeerId := by
  have present : (g.peers.insert myPeerId ()).get? t = some () := by
    have known := (AscMap.mem_keys (g.peers.insert myPeerId ())).mp
      ((AscMap.mem_keys_insert _).mpr (Or.inr member))
    obtain ⟨⟨⟩, found⟩ := Option.isSome_iff_exists.mp known
    exact found
  rw [RouteGroupData.relevantPeers, AscMap.insert_of_get? present, members]

theorem relay_mem_members : myPeerId ∈ members g myPeerId :=
  (AscMap.mem_keys_insert _).mpr (Or.inl rfl)

theorem Says.same (told : Says myPeerId g conn) (peers : g'.peers = g.peers)
    (versions : g'.peerConnVersions = g.peerConnVersions) : Says myPeerId g' conn := by
  rw [Says, bitmapOf, RouteGroupData.connPeerList, RouteGroupData.peerIdVersions, members, peers,
    versions]
  exact told

private theorem Says.info (told : Says myPeerId g conn) (member : t ∈ g.peers.keys) :
    SameTopologyInfo conn (freshConnInfo g myPeerId t) := by
  have bitmap_list : SameTopologyInfo (.connBitmap (bitmapOf g (members g myPeerId) myPeerId))
      (.connPeerList (g.connPeerList (members g myPeerId) myPeerId)) := by
    constructor
    · rw [listed_connPeerList]
      rfl
    · intro p q different
      exact linked_forms g relay_mem_members different
  rw [freshConnInfo, relevantPeers_eq member]
  rcases told with rfl | rfl
  · split
    · exact bitmap_list
    · exact ⟨rfl, fun _ _ _ => rfl⟩
  · split
    · exact ⟨rfl, fun _ _ _ => rfl⟩
    · exact ⟨bitmap_list.1.symm, fun p q different => (bitmap_list.2 p q different).symm⟩

end Saying

/-! The topology counter. -/

/-- The counter after `k` changes. -/
def counter (k : Nat) : Nat := if k + 1 = 2 ^ 64 then 1 else k + 1

private theorem counter_inj {j k : Nat} (j_positive : 1 ≤ j) (j_small : j < 2 ^ 64)
    (k_positive : 1 ≤ k) (k_small : k < 2 ^ 64) (same : counter j = counter k) : j = k := by
  rw [counter, counter] at same
  split at same
  · split at same
    · omega
    · omega
  · split at same
    · omega
    · omega

private theorem counter_bump {g : RouteGroupData} {k : Nat} (myPeerId : UInt32)
    (counted : g.topologyVersion.toNat = counter k) (small : k + 1 < 2 ^ 64) :
    (g.bumpAllConnVersions myPeerId).topologyVersion.toNat = counter (k + 1) := by
  rw [bump_topologyVersion_toNat, counted, counter, counter]
  split
  · omega
  · split
    · omega
    · omega

/-! What the members have acknowledged. -/

/-- The topology that `t` has acknowledged, or zero. -/
def lastTopology (g : RouteGroupData) (t : UInt32) : UInt64 :=
  (g.sessions.get? t).elim 0 SessionState.lastTopologyVersion

/-- No acknowledgement is added or moved to another session id. -/
def Kept (g g' : RouteGroupData) : Prop :=
  ∀ t, lastTopology g' t ≠ 0 → lastTopology g' t = lastTopology g t ∧ dst g' t = dst g t

section Keeping

variable {g g' g'' : RouteGroupData}

private theorem Kept.of_sessions (same : g'.sessions = g.sessions) : Kept g g' := by
  intro t _
  rw [lastTopology, dst, same]
  exact ⟨rfl, rfl⟩

theorem Kept.trans (h : Kept g g') (k : Kept g' g'') : Kept g g'' := by
  intro t acknowledged
  obtain ⟨last, named⟩ := k t acknowledged
  obtain ⟨last', named'⟩ := h t (last ▸ acknowledged)
  exact ⟨last.trans last', named.trans named'⟩

private theorem kept_removePeer (myPeerId p : UInt32) : Kept g (g.removePeer myPeerId p) := by
  intro t acknowledged
  refine absurd ?_ acknowledged
  rw [lastTopology, (removePeer_tables g myPeerId p).2.2.2, AscMap.get?_mapValues,
    AscMap.get?_erase]
  split
  · rfl
  · cases g.sessions.get? t with
    | none => rfl
    | some s => rfl

private theorem lastTopology_touchSession (t p : UInt32) (serverSessionId nowMs : UInt64) :
    lastTopology (g.touchSession t serverSessionId nowMs) p = lastTopology g p := by
  rw [lastTopology, RouteGroupData.touchSession, AscMap.get?_upsert, lastTopology]
  split
  · rename_i own
    subst own
    cases g.sessions.get? p with
    | none => rfl
    | some s => rfl
  · rfl

private theorem lastTopology_onRouteSessionAck (p t : UInt32) (sid : UInt64) (weAreInitiator : Bool)
    (nowMs : UInt64) :
    lastTopology (g.onRouteSessionAck p sid weAreInitiator nowMs) t =
      if t = p ∧ dst g p ≠ some sid then 0 else lastTopology g t := by
  rw [lastTopology, RouteGroupData.onRouteSessionAck, AscMap.get?_upsert, lastTopology]
  by_cases own : t = p
  · subst own
    rw [if_pos rfl, dst]
    cases g.sessions.get? t with
    | none => simp [SessionState.follow, SessionState.forget, SessionState.default]
    | some s =>
      rw [Option.elim_some, Option.getD_some, SessionState.follow, Option.bind_some,
        Option.elim_some]
      by_cases moved : s.dstSessionId ≠ some sid
      · rw [if_pos moved, if_pos ⟨rfl, moved⟩]
        rfl
      · rw [if_neg moved, if_neg (fun h => moved h.2)]
  · rw [if_neg own, if_neg (fun h => own h.1)]

private theorem kept_onRouteSessionAck (p : UInt32) (sid : UInt64) (weAreInitiator : Bool)
    (nowMs : UInt64) : Kept g (g.onRouteSessionAck p sid weAreInitiator nowMs) := by
  intro t acknowledged
  rw [lastTopology_onRouteSessionAck] at acknowledged ⊢
  rw [onRouteSessionAck_dst]
  by_cases own : t = p
  · subst own
    by_cases named : dst g t = some sid
    · simp [named]
    · simp [named] at acknowledged
  · simp [own]

private theorem kept_publish (p : UInt32) (stored : RoutePeerInfo) :
    Kept g (publish p g stored) := by
  intro t _
  rw [lastTopology, dst, lastTopology, dst, publish]
  split
  · rw [AscMap.get?_mapValues]
    cases g.sessions.get? t with
    | none => exact ⟨rfl, rfl⟩
    | some s => exact ⟨rfl, rfl⟩
  · exact ⟨rfl, rfl⟩

private theorem kept_call {E : Codec} {host : Host} {c : RouteCall}
    {op : UInt32 → GroupM RouteReply} (accepted : groupOp E host c = .ok op) (myPeerId : UInt32)
    (outside : ∀ groupKey p versions v, c ≠ .commitRouteUpdate groupKey p versions v) :
    Kept g (final (op myPeerId g)) := by
  have ran := groupOp_final accepted myPeerId g
  cases c with
  | addPeer groupKey p bytes =>
    obtain ⟨key, _, ran⟩ := ran
    rw [ran]
    refine ensures_final ((addPeer_cases myPeerId p key g).mono ?_ ?_)
    · rintro _ g' ⟨_, _, _, sessions⟩
      exact Kept.of_sessions sessions
    · rintro _ g' rfl
      exact Kept.of_sessions rfl
  | removePeer groupKey p =>
    rw [ran]
    exact kept_removePeer myPeerId p
  | onRouteSessionAck groupKey p sid weAreInitiator =>
    rw [ran]
    exact kept_onRouteSessionAck p sid weAreInitiator _
  | commitRouteUpdate groupKey p versions v => exact absurd rfl (outside groupKey p versions v)
  | setMyInfoField groupKey field value =>
    rcases ran with ⟨myInfo, ran⟩ | ran
    · rw [ran]
      exact Kept.of_sessions rfl
    · rw [ran]
      exact Kept.of_sessions rfl
  | setMyNoisePublicKey groupKey publicKey =>
    obtain ⟨myInfo, ran⟩ := ran
    rw [ran]
    exact Kept.of_sessions rfl
  | buildSyncRouteInfoRequest groupKey t serverSessionId weAreInitiator forceFull =>
    rw [ran]
    have touched : Kept g (g.touchSession t serverSessionId (host.clock 0)) := by
      intro p _
      exact ⟨lastTopology_touchSession t p serverSessionId _, touchSession_dst g t _ _ p⟩
    refine ensures_final ((buildSyncRouteInfoRequest_built g t myPeerId E host serverSessionId
      weAreInitiator forceFull).mono ?_ ?_)
    · rintro u g' ⟨shown, _⟩
      exact touched.trans (Kept.of_sessions shown.frame.1.sessions)
    · rintro _ g' rfl
      exact touched
  | handleSyncRouteInfoRequest groupKey p bytes =>
    obtain ⟨req, _, _, ran⟩ := ran
    rw [ran]
    refine ensures_final
      (@handleSyncRouteInfoRequest_cases host p (Kept g) (Kept g) E myPeerId req g
      (kept_onRouteSessionAck p _ _ _) ?_ ?_ ?_)
    · intro g' info _ stampMs kept _
      exact kept.trans (kept_publish p _)
    · intro g' kept
      exact kept
    · intro g' _ _ kept _ _
      exact kept.trans (Kept.of_sessions rfl)

end Keeping

/-! What a call does to the topology, while the relay stays outside. -/

section Settling

variable {myPeerId : UInt32} {c : RouteCall} {g g' : RouteGroupData}

/-- The topology stays, and what is cached afterwards describes it. -/
structure Stays (myPeerId : UInt32) (g g' : RouteGroupData) : Prop where
  topologyVersion : g'.topologyVersion = g.topologyVersion
  peers : g'.peers = g.peers
  versions : g'.peerConnVersions = g.peerConnVersions
  cached : ∀ conn, Cached g' conn → Cached g conn ∨ Says myPeerId g conn

private theorem connInfoBuilt_versions {relevantPeers : List UInt32} {t : UInt32}
    {supportsConnList : Bool} {nowMs : UInt64} {conn : Option ConnInfo}
    (shown : ConnInfoBuilt g relevantPeers t supportsConnList myPeerId nowMs conn g')
    (listing : relevantPeers = members g myPeerId) :
    (∀ c ∈ conn, Cached g c ∨ Says myPeerId g c) ∧
      ∀ c, Cached g' c → Cached g c ∨ Says myPeerId g c := by
  obtain ⟨sources, caches⟩ := shown.sources
  rw [listing] at sources
  refine ⟨sources, ?_⟩
  intro c cached
  rcases caches c cached with before | handed
  · exact Or.inl before
  · exact sources c handed

private theorem settled (move : TopologyMove myPeerId c g g') (inv : Identity myPeerId g)
    (outside : myPeerId ∉ g.peers.keys)
    (target : ∀ groupKey t sid weAreInitiator forceFull,
      c = .buildSyncRouteInfoRequest groupKey t sid weAreInitiator forceFull → t ∈ g.peers.keys)
    (joining : ∀ groupKey publicKey, c ≠ .addPeer groupKey myPeerId publicKey)
    (leaving : ∀ groupKey, c ≠ .removePeer groupKey myPeerId) :
    Stays myPeerId g g' ∨ ∃ g₁ : RouteGroupData, g' = g₁.bumpAllConnVersions myPeerId ∧
      g₁.topologyVersion = g.topologyVersion ∧ myPeerId ∉ g₁.peers.keys := by
  have stays_out := move.outside outside joining
  cases move with
  | quiet same =>
    exact Or.inl ⟨same.topologyVersion, same.peers, same.peerConnVersions,
      fun conn cached => Or.inl (same.cached cached)⟩
  | @joined groupKey p key _ g₁ absent peers infos versions topologyVersion =>
    exact Or.inr ⟨g₁, rfl, topologyVersion, stays_out⟩
  | @left groupKey p _ g₁ present peers versions topologyVersion =>
    exact Or.inr ⟨g₁, rfl, topologyVersion, stays_out⟩
  | @published groupKey p bytes _ g₁ member same =>
    exact Or.inr ⟨g₁, rfl, same.topologyVersion, stays_out⟩
  | @forgot groupKey p _ _ absent peers versions topologyVersion bitmap peerList =>
    have missing : g.peerConnVersions.get? p = none := by
      rw [← Option.not_isSome_iff_eq_none, ← AscMap.mem_keys]
      intro present
      rcases inv.versions p present with inside | relay
      · exact absent inside
      · exact leaving groupKey (relay ▸ rfl)
    exact Or.inl ⟨topologyVersion, peers, versions.trans (AscMap.erase_of_get? missing),
      fun conn cached => Or.inl (cached_of_caches topologyVersion bitmap peerList cached)⟩
  | @built groupKey t _ _ _ _ _ _ g₁ _ _ before shown =>
    have listing : g.relevantPeers myPeerId t = members g₁ myPeerId := by
      rw [relevantPeers_eq (target _ _ _ _ _ rfl), members, members, before.peers]
    obtain ⟨tables, versions, topologyVersion⟩ := shown.frame
    refine Or.inl ⟨topologyVersion.trans before.topologyVersion, tables.peers.trans before.peers,
      versions.trans before.peerConnVersions, ?_⟩
    intro conn cached
    rcases (connInfoBuilt_versions shown listing).2 conn cached with old | told
    · exact Or.inl (before.cached old)
    · exact Or.inr (told.same before.peers.symm before.peerConnVersions.symm)

end Settling

/-! The invariant. -/

/-- What is known of a group after `changes` changes of its topology, when the updates `built` were
handed out and those in `acked` were acknowledged under the session id next to them. -/
structure Known (myPeerId : UInt32) (groupKey : String) (changes : Nat) (built : List Built)
    (acked : UInt64 → Built → Prop) (g : RouteGroupData) : Prop where
  identity : Identity myPeerId g
  outside : myPeerId ∉ g.peers.keys
  counted : g.topologyVersion.toNat = counter changes
  started : g.peers.keys ≠ [] → 1 ≤ changes
  cached : ∀ conn, Cached g conn → Says myPeerId g conn
  handed : ∀ b ∈ built, b.groupKey = groupKey → ∀ v, b.update.topologyVersion = some v →
    ∃ k, 1 ≤ k ∧ k ≤ changes ∧ v.toNat = counter k ∧
      (k = changes → ∃ conn, b.update.request.connInfo = some conn ∧ Says myPeerId g conn)
  acknowledged : ∀ t, lastTopology g t ≠ 0 → ∃ sid b, dst g t = some sid ∧ acked sid b ∧
    b.groupKey = groupKey ∧ b.targetPeerId = t ∧
    b.update.topologyVersion = some (lastTopology g t)

section Knowing

variable {myPeerId : UInt32} {groupKey : String} {changes : Nat} {built : List Built}
  {acked : UInt64 → Built → Prop} {g g' : RouteGroupData}

private theorem known_new (host : Host) (fresh : ∀ b ∈ built, b.groupKey ≠ groupKey)
    (start : changes = 0) :
    Known myPeerId groupKey changes built acked (RouteGroupData.new myPeerId host) where
  identity := identity_new host
  outside member := by cases member
  counted := by
    rw [start]
    rfl
  started occupied := absurd rfl occupied
  cached conn cached := absurd cached (not_cached_new myPeerId host conn)
  handed b member own := absurd own (fresh b member)
  acknowledged t acknowledged := absurd rfl acknowledged

private theorem Known.stays (known : Known myPeerId groupKey changes built acked g)
    (stays : Stays myPeerId g g') (inv' : Identity myPeerId g') (kept : Kept g g') :
    Known myPeerId groupKey changes built acked g' where
  identity := inv'
  outside := stays.peers ▸ known.outside
  counted := stays.topologyVersion ▸ known.counted
  started := stays.peers ▸ known.started
  cached conn cached := by
    rcases stays.cached conn cached with old | told
    · exact (known.cached conn old).same stays.peers stays.versions
    · exact told.same stays.peers stays.versions
  handed b member own v carried := by
    obtain ⟨k, positive, old, number, current⟩ := known.handed b member own v carried
    refine ⟨k, positive, old, number, fun same => ?_⟩
    obtain ⟨conn, shown, told⟩ := current same
    exact ⟨conn, shown, told.same stays.peers stays.versions⟩
  acknowledged t acknowledged := by
    obtain ⟨last, named⟩ := kept t acknowledged
    rw [last, named]
    exact known.acknowledged t (last ▸ acknowledged)

private theorem Known.bumped {g₁ : RouteGroupData}
    (known : Known myPeerId groupKey changes built acked g)
    (small : changes + 1 < 2 ^ 64) (same : g₁.topologyVersion = g.topologyVersion)
    (outside : myPeerId ∉ g₁.peers.keys)
    (inv' : Identity myPeerId (g₁.bumpAllConnVersions myPeerId))
    (kept : Kept g (g₁.bumpAllConnVersions myPeerId)) :
    Known myPeerId groupKey (changes + 1) built acked (g₁.bumpAllConnVersions myPeerId) where
  identity := inv'
  outside := outside
  counted := counter_bump myPeerId (same ▸ known.counted) small
  started _ := Nat.le_add_left 1 changes
  cached conn cached := absurd cached (not_cached_bump g₁ myPeerId conn)
  handed b member own v carried := by
    obtain ⟨k, positive, old, number, _⟩ := known.handed b member own v carried
    exact ⟨k, positive, Nat.le_succ_of_le old, number, fun now => absurd now (by omega)⟩
  acknowledged t acknowledged := by
    obtain ⟨last, named⟩ := kept t acknowledged
    rw [last, named]
    exact known.acknowledged t (last ▸ acknowledged)

private theorem Known.mono {acked' : UInt64 → Built → Prop}
    (known : Known myPeerId groupKey changes built acked g)
    (more : ∀ sid b, acked sid b → acked' sid b) :
    Known myPeerId groupKey changes built acked' g where
  identity := known.identity
  outside := known.outside
  counted := known.counted
  started := known.started
  cached := known.cached
  handed := known.handed
  acknowledged t acknowledged := by
    obtain ⟨sid, b, named, was_acked, facts⟩ := known.acknowledged t acknowledged
    exact ⟨sid, b, named, more sid b was_acked, facts⟩

private theorem Known.handing {built' : List Built}
    (known : Known myPeerId groupKey changes built acked g)
    (more : ∀ b ∈ built', b ∈ built ∨ (b.groupKey = groupKey → ∀ v,
      b.update.topologyVersion = some v → v = g.topologyVersion ∧ 1 ≤ changes ∧
        ∃ conn, b.update.request.connInfo = some conn ∧ Says myPeerId g conn)) :
    Known myPeerId groupKey changes built' acked g where
  identity := known.identity
  outside := known.outside
  counted := known.counted
  started := known.started
  cached := known.cached
  handed b member own v carried := by
    rcases more b member with old | new
    · exact known.handed b old own v carried
    · obtain ⟨current, positive, shown⟩ := new own v carried
      exact ⟨changes, positive, le_refl changes, current ▸ known.counted, fun _ => shown⟩
  acknowledged := known.acknowledged

private theorem max_cases (a b : UInt64) : max a b = a ∨ max a b = b := by
  show (if a ≤ b then b else a) = a ∨ (if a ≤ b then b else a) = b
  split
  · exact Or.inr rfl
  · exact Or.inl rfl

private theorem lastTopology_commitRouteUpdate (p t : UInt32) (versions : List (UInt32 × UInt32))
    (topologyVersion : Option UInt64) (nowMs : UInt64) :
    lastTopology (g.commitRouteUpdate p versions topologyVersion nowMs) t = lastTopology g t ∨
      (t = p ∧ topologyVersion =
        some (lastTopology (g.commitRouteUpdate p versions topologyVersion nowMs) t)) := by
  rw [lastTopology, RouteGroupData.commitRouteUpdate, AscMap.get?_upsert, lastTopology]
  by_cases own : t = p
  · subst own
    rw [if_pos rfl, Option.elim_some]
    cases topologyVersion with
    | none =>
      left
      cases g.sessions.get? t with
      | none => rfl
      | some s => rfl
    | some v =>
      rcases max_cases ((g.sessions.get? t).getD SessionState.default).lastTopologyVersion v with
        before | committed
      · left
        refine Eq.trans before ?_
        cases g.sessions.get? t with
        | none => rfl
        | some s => rfl
      · right
        refine ⟨rfl, congrArg some (Eq.trans ?_ rfl)⟩
        exact committed.symm
  · rw [if_neg own]
    exact Or.inl rfl

private theorem Known.ack (known : Known myPeerId groupKey changes built acked g) {b : Built}
    {sid : UInt64} (own : b.groupKey = groupKey) (now : acked sid b) (weAreInitiator : Bool)
    (heardMs nowMs : UInt64) :
    Known myPeerId groupKey changes built acked
      ((g.onRouteSessionAck b.targetPeerId sid weAreInitiator heardMs).commitRouteUpdate
        b.targetPeerId b.update.peerInfoVersions b.update.topologyVersion nowMs) where
  identity := known.identity.of_tables rfl rfl rfl rfl
  outside := known.outside
  counted := known.counted
  started := known.started
  cached conn cached := by
    have before : Cached g conn := cached_of_caches rfl rfl rfl cached
    exact (known.cached conn before).same rfl rfl
  handed b member own v carried := by
    obtain ⟨k, positive, old, number, current⟩ := known.handed b member own v carried
    refine ⟨k, positive, old, number, fun same => ?_⟩
    obtain ⟨conn, shown, told⟩ := current same
    exact ⟨conn, shown, told.same rfl rfl⟩
  acknowledged t acknowledged := by
    rw [commitRouteUpdate_dst]
    have committing := @lastTopology_commitRouteUpdate
      (g.onRouteSessionAck b.targetPeerId sid weAreInitiator heardMs) b.targetPeerId t
      b.update.peerInfoVersions b.update.topologyVersion nowMs
    rcases committing with before | ⟨target, committed⟩
    · rw [before] at acknowledged ⊢
      obtain ⟨last, named⟩ := kept_onRouteSessionAck b.targetPeerId sid weAreInitiator heardMs t
        acknowledged
      rw [last, named]
      exact known.acknowledged t (last ▸ acknowledged)
    · refine ⟨sid, b, ?_, now, own, target.symm, committed⟩
      rw [onRouteSessionAck_dst, if_pos target]

end Knowing

/-! Runs. -/

section Runs

variable {E : Codec} {myPeerId : UInt32} {groupKey : String}

theorem topologyChanges_snoc (w : World) (es : List Event) (e : Event) :
    topologyChanges E groupKey w (es ++ [e]) = topologyChanges E groupKey w es +
      if topologyOf groupKey (step E (run (step E) w es) e).routes =
        topologyOf groupKey (run (step E) w es).routes then 0 else 1 := by
  rw [topologyChanges, log_snoc, List.length_append]
  congr 1
  split
  · rfl
  · rfl

private theorem topologyChanges_of_absent (es : List Event)
    (absent : (run (step E) (World.new myPeerId) es).routes.groups.lookup groupKey = none) :
    topologyChanges E groupKey (World.new myPeerId) es = 0 := by
  induction es using List.reverseRecOn with
  | nil => rfl
  | append_singleton es e ih =>
    rw [run_snoc] at absent
    rcases step_groups (run (step E) (World.new myPeerId) es) e groupKey with
      ⟨same, _⟩ | ⟨g', _, moved⟩
    · rw [topologyChanges_snoc, ih (same ▸ absent), topologyOf, topologyOf, same, if_pos rfl]
    · rw [moved] at absent
      cases absent

private theorem topologyChanges_le (w : World) (es fs : List Event) :
    topologyChanges E groupKey w es ≤ topologyChanges E groupKey w (es ++ fs) := by
  rw [topologyChanges, topologyChanges, log_append, List.length_append]
  exact Nat.le_add_right _ _

theorem topologyOf_ensureGroup (groupKey : String) (host : Host) (s : RouteState) :
    topologyOf groupKey s = (s.ensureGroup host groupKey).topologyVersion := by
  rw [topologyOf, RouteState.ensureGroup]
  cases s.groups.lookup groupKey with
  | none => rfl
  | some g => rfl

/-- The group is known, as long as its topology counter has not come round. -/
def KnownAfter (E : Codec) (myPeerId : UInt32) (groupKey : String) (es : List Event)
    (g : RouteGroupData) : Prop :=
  topologyChanges E groupKey (World.new myPeerId) es < 2 ^ 64 →
    Known myPeerId groupKey (topologyChanges E groupKey (World.new myPeerId) es)
      (run (step E) (World.new myPeerId) es).built (Acked E (World.new myPeerId) es) g

private theorem known_call {pre : List Event} {e : Event} {g : RouteGroupData} {c : RouteCall}
    {op : UInt32 → GroupM RouteReply} (few : topologyChanges E groupKey (World.new myPeerId)
      (pre ++ [e]) < 2 ^ 64) (known : KnownAfter E myPeerId groupKey pre g)
    (orderly : Orderly groupKey myPeerId pre (run (step E) (World.new myPeerId) pre) e)
    (started : g = (run (step E) (World.new myPeerId) pre).routes.ensureGroup e.host groupKey)
    (own : c.groupKey = groupKey)
    (asked : calls (run (step E) (World.new myPeerId) pre).built e.op = [c])
    (accepted : groupOp E e.host c = .ok op)
    (moved : (step E (run (step E) (World.new myPeerId) pre) e).routes.groups.lookup groupKey =
      some (final (op myPeerId g))) :
    Known myPeerId groupKey (topologyChanges E groupKey (World.new myPeerId) (pre ++ [e]))
      (run (step E) (World.new myPeerId) (pre ++ [e])).built
      (Acked E (World.new myPeerId) (pre ++ [e])) (final (op myPeerId g)) := by
  have known := (known (lt_of_le_of_lt (topologyChanges_le _ pre [e]) few)).mono
    fun sid b acked => Acked.snoc acked e
  have inv' := identity_keep known.identity accepted
  obtain ⟨building, joining, leaving, _, outside⟩ := calls_eq asked
  have kept : Kept g (final (op myPeerId g)) := kept_call accepted myPeerId outside
  have target : ∀ own t sid weAreInitiator forceFull,
      c = .buildSyncRouteInfoRequest own t sid weAreInitiator forceFull → t ∈ g.peers.keys := by
    intro key t sid weAreInitiator forceFull built
    have named := building key t sid weAreInitiator forceFull built
    rw [built] at own
    obtain ⟨g₀, found, member⟩ := orderly.target t sid weAreInitiator forceFull (own ▸ named)
    rw [started, RouteState.ensureGroup, found]
    exact member
  have stays_out : ∀ key publicKey, c ≠ .addPeer key myPeerId publicKey := by
    intro key publicKey joined
    have named := joining key myPeerId publicKey joined
    rw [joined] at own
    exact orderly.joining publicKey (own ▸ named)
  have never_left : ∀ key, c ≠ .removePeer key myPeerId := by
    intro key left
    have named := leaving key myPeerId left
    rw [left] at own
    exact orderly.leaving (own ▸ named)
  have changed : topologyChanges E groupKey (World.new myPeerId) (pre ++ [e]) =
      topologyChanges E groupKey (World.new myPeerId) pre +
        if (final (op myPeerId g)).topologyVersion = g.topologyVersion then 0 else 1 := by
    have before := topologyOf_ensureGroup groupKey e.host
      (run (step E) (World.new myPeerId) pre).routes
    rw [← started] at before
    have after : topologyOf groupKey (step E (run (step E) (World.new myPeerId) pre) e).routes =
        (final (op myPeerId g)).topologyVersion := by
      rw [topologyOf, moved]
      rfl
    rw [topologyChanges_snoc, before, after]
  cases handed : handedOut E (run (step E) (World.new myPeerId) pre) e with
  | none =>
    have same : (run (step E) (World.new myPeerId) (pre ++ [e])).built =
        (run (step E) (World.new myPeerId) pre).built := by
      rw [run_snoc]
      show _ ++ (handedOut E _ e).toList = _
      rw [handed]
      exact List.append_nil _
    rw [same]
    have move := groupOp_topology accepted myPeerId g
    rcases settled move known.identity known.outside target stays_out never_left with
      stays | ⟨g₁, bumped, version, outside⟩
    · rw [changed, if_pos stays.topologyVersion]
      exact known.stays stays inv' kept
    · rw [bumped] at inv' kept changed ⊢
      have moved_on := bump_topologyVersion g₁ myPeerId
      rw [version] at moved_on
      rw [if_neg moved_on] at changed
      rw [changed] at few ⊢
      exact known.bumped few version outside inv' kept
  | some b =>
    have handed_by : RouteRuns.built E (run (step E) (World.new myPeerId) pre).routes ⟨e.host, c⟩ =
        some b := by
      rw [← handed]
      simp [handedOut, events, asked]
    obtain ⟨sid, weAreInitiator, forceFull, g', rfl, ran⟩ := built_some E handed_by
    have relay : (run (step E) (World.new myPeerId) pre).routes.myPeerId = myPeerId :=
      run_myPeerId pre
    have own : b.groupKey = groupKey := own
    rw [relay, own, ← started] at ran
    have after := groupOp_final accepted myPeerId g
    simp only [ran, final_ok] at after
    obtain ⟨shown, version⟩ := ensures_of_ok (buildSyncRouteInfoRequest_built _ _ _ _ _ _ _ _) ran
    have inside : b.targetPeerId ∈ g.peers.keys := target _ _ _ _ _ rfl
    have stays : Stays myPeerId g (final (op myPeerId g)) := by
      rcases settled (groupOp_topology accepted myPeerId g) known.identity known.outside target
        stays_out never_left with stays | ⟨g₁, bumped, same, _⟩
      · exact stays
      · have moved_on := bump_topologyVersion g₁ myPeerId
        rw [← bumped, after, same] at moved_on
        exact absurd shown.frame.2.2 moved_on
    rw [changed, if_pos stays.topologyVersion, Nat.add_zero]
    refine (known.stays stays inv' kept).handing ?_
    intro b' member
    rcases mem_built_snoc member with old | new
    · exact Or.inl old
    · right
      rintro - v carried
      obtain rfl : b = b' := Option.some.inj (handed.symm.trans new)
      rw [version] at carried
      obtain ⟨conn, some_conn, rfl⟩ := Option.map_eq_some_iff.mp carried
      refine ⟨stays.topologyVersion.symm, known.started (List.ne_nil_of_mem inside), conn,
        some_conn, ?_⟩
      rcases (connInfoBuilt_versions shown (relevantPeers_eq inside)).1 conn some_conn with
        cached | told
      · have before : Cached g conn := cached_of_caches rfl rfl rfl cached
        exact (known.cached conn before).same stays.peers stays.versions
      · exact told.same stays.peers stays.versions

private theorem known_run {es : List Event}
    (orderly : AllSteps (step E) (Orderly groupKey myPeerId) (World.new myPeerId) es) :
    ∀ g, (run (step E) (World.new myPeerId) es).routes.groups.lookup groupKey = some g →
      KnownAfter E myPeerId groupKey es g := by
  refine group_history ?_ ?_ ?_ orderly
  · intro pre host absent _
    exact known_new host (no_built_of_absent pre absent) (topologyChanges_of_absent pre absent)
  · intro pre e g known before after foreign few
    have same : topologyChanges E groupKey (World.new myPeerId) (pre ++ [e]) =
        topologyChanges E groupKey (World.new myPeerId) pre := by
      rw [topologyChanges_snoc, topologyOf, topologyOf, before, after, if_pos rfl, Nat.add_zero]
    rw [same] at few ⊢
    refine ((known few).mono fun sid b acked => Acked.snoc acked e).handing ?_
    intro b member
    rcases mem_built_snoc member with old | new
    · exact Or.inl old
    · exact Or.inr fun own => absurd own (foreign b new)
  · intro pre e g g' known orderly started move moved few
    cases move with
    | call c op own asked accepted =>
      have relay : (run (step E) (World.new myPeerId) pre).routes.myPeerId = myPeerId :=
        run_myPeerId pre
      rw [relay] at moved ⊢
      exact known_call few known orderly started own asked accepted moved
    | ack k sid weAreInitiator b named found own =>
      have same : (run (step E) (World.new myPeerId) (pre ++ [e])).built =
          (run (step E) (World.new myPeerId) pre).built := by
        rw [run_snoc]
        show _ ++ (handedOut E _ e).toList = _
        simp [handedOut, events, named, calls, found, RouteRuns.built]
      have changed : topologyChanges E groupKey (World.new myPeerId) (pre ++ [e]) =
          topologyChanges E groupKey (World.new myPeerId) pre := by
        have before := topologyOf_ensureGroup groupKey e.host
          (run (step E) (World.new myPeerId) pre).routes
        rw [← started] at before
        rw [topologyChanges_snoc, before, topologyOf, moved]
        exact congrArg _ (if_pos rfl)
      rw [changed] at few ⊢
      rw [same]
      exact ((known few).mono fun sid b acked => Acked.snoc acked e).ack own
        (Acked.last named found) weAreInitiator _ _

end Runs

private theorem suppressed_current {myPeerId t : UInt32} {g g' : RouteGroupData}
    {relevantPeers : List UInt32} {supportsConnList : Bool} {nowMs : UInt64}
    (shown : ConnInfoBuilt g relevantPeers t supportsConnList myPeerId nowMs none g')
    (occupied : relevantPeers ≠ []) : lastTopology g t = g.topologyVersion := by
  cases shown with
  | suppressed known =>
    rcases known with empty | known
    · exact absurd empty occupied
    · rw [RouteGroupData.topologyKnown] at known
      rw [lastTopology]
      cases found : g.sessions.get? t with
      | none =>
        rw [found] at known
        cases known
      | some s =>
        rw [found, Option.any_some, Bool.and_eq_true] at known
        exact beq_iff_eq.mp known.1

/-- An update for a member carries no topology only if the member has acknowledged, under its
current session id, an earlier update whose topology says what a fresh one would say now. -/
theorem suppression_sound {E : Codec} {myPeerId : UInt32} {groupKey : String} {es : List Event}
    {e : Event} {b : Built}
    (orderly : AllSteps (step E) (Orderly groupKey myPeerId) (World.new myPeerId) (es ++ [e]))
    (few : topologyChanges E groupKey (World.new myPeerId) es < 2 ^ 64)
    (handed : handedOut E (run (step E) (World.new myPeerId) es) e = some b)
    (own : b.groupKey = groupKey) (suppressed : b.update.request.connInfo = none) :
    ∃ g sid earlier conn,
      (run (step E) (World.new myPeerId) es).routes.groups.lookup groupKey = some g ∧
      dst g b.targetPeerId = some sid ∧ Acked E (World.new myPeerId) es sid earlier ∧
      earlier.groupKey = groupKey ∧ earlier.targetPeerId = b.targetPeerId ∧
      earlier.update.request.connInfo = some conn ∧
      SameTopologyInfo conn (freshConnInfo g myPeerId b.targetPeerId) := by
  have relay : (run (step E) (World.new myPeerId) es).routes.myPeerId = myPeerId := run_myPeerId es
  subst own
  obtain ⟨c, asked⟩ : ∃ c, calls (run (step E) (World.new myPeerId) es).built e.op = [c] := by
    rcases ack_or_call (run (step E) (World.new myPeerId) es).built e.op with
      ⟨k, sid, weAreInitiator, named⟩ | asked
    · rw [handedOut, events, named, calls] at handed
      split at handed
      · cases handed
      · simp [RouteRuns.built] at handed
    · exact asked
  have handed_by : RouteRuns.built E (run (step E) (World.new myPeerId) es).routes ⟨e.host, c⟩ =
      some b := by
    rw [← handed]
    simp [handedOut, events, asked]
  obtain ⟨serverSessionId, weAreInitiator, forceFull, g', rfl, ran⟩ := built_some E handed_by
  obtain ⟨g, found, member⟩ := orderly.last.target _ _ _ _ ((calls_eq asked).1 _ _ _ _ _ rfl)
  have known := known_run orderly.init g found few
  rw [relay, RouteState.ensureGroup, found, Option.getD_some] at ran
  obtain ⟨shown, _⟩ := ensures_of_ok (buildSyncRouteInfoRequest_built _ _ _ _ _ _ _ _) ran
  rw [suppressed] at shown
  have current : lastTopology g b.targetPeerId = g.topologyVersion := by
    rw [← lastTopology_touchSession b.targetPeerId b.targetPeerId serverSessionId (e.host.clock 0)]
    refine suppressed_current shown ?_
    rw [relevantPeers_eq member]
    exact List.ne_nil_of_mem relay_mem_members
  have counted := known.counted
  have acknowledged : lastTopology g b.targetPeerId ≠ 0 := by
    rw [current]
    intro zero
    rw [zero, counter] at counted
    split at counted
    · cases counted
    · cases counted
  obtain ⟨sid, earlier, named, acked, own, target, version⟩ :=
    known.acknowledged b.targetPeerId acknowledged
  obtain ⟨k, positive, old, number, now⟩ :=
    known.handed earlier acked.mem_built own _ version
  rw [current, known.counted] at number
  have same := counter_inj positive (lt_of_le_of_lt old few)
    (known.started (List.ne_nil_of_mem member)) few number.symm
  obtain ⟨conn, carried, told⟩ := now same
  exact ⟨g, sid, earlier, conn, found, named, acked, own, target, carried, told.info member⟩

end EasyTierEdge.Rpc.TopologyKnown
