/- module: EasyTierEdge/Rpc/ConnVersions
   source: cloudflare/wasm/src/route_state.rs, bump_all_conn_versions and build_conn_info
   digest: The connection versions that a group advertises only grow while a peer stays. -/

import EasyTierEdge.Rpc.ConnBitmap
import EasyTierEdge.Rpc.RouteIdentity
import EasyTierEdge.Wire

set_option autoImplicit false
set_option relaxedAutoImplicit false

namespace EasyTierEdge.Rpc.ConnVersions

open Lib.AscendingMap Lib.Fallible Lib.FiniteMap Lib.Machine
open Packet (Bytes)
open Proto Routes RouteMoves RouteRuns Rpc.Topology RouteIdentity ConnBitmap

/-- How many versions move up when a group changes from one state to the next. -/
def bumpSize (before : UInt64) (g' : RouteGroupData) : Nat :=
  if g'.topologyVersion = before then 0 else (ids g').length + 1

variable (E : Codec)

/-- How many versions of the group an event moves up. -/
def bumps (groupKey : String) (s : RouteState) (e : RouteEvent) : Nat :=
  ((step E s e).groups.lookup groupKey).elim 0
    (bumpSize ((s.groups.lookup groupKey).elim 1 RouteGroupData.topologyVersion))

/-- How many single versions of the group a run has moved up. -/
def versionBumps (groupKey : String) (s : RouteState) (es : List RouteEvent) : Nat :=
  (log (step E) (fun s e => some (bumps E groupKey s e)) s es).sum

/-- The version of `p` in a group; a group that is not there yet would start with 1. -/
def versionAt (groupKey : String) (p : UInt32) (s : RouteState) : UInt32 :=
  (s.groups.lookup groupKey).elim 1 fun g => connVersion g p

/-! A bump as addition. -/

private theorem ite_toNat (c : Prop) [Decidable c] :
    (if c then (1 : UInt32) else 0).toNat = if c then 1 else 0 := by
  split
  · rfl
  · rfl

section Bump

variable (g : RouteGroupData) (myPeerId p : UInt32)

private theorem bump_toNat :
    (connVersion (g.bumpAllConnVersions myPeerId) p).toNat =
      ((connVersion g p).toNat + (if p ∈ ids g then 1 else 0) + if p = myPeerId then 1 else 0) %
        2 ^ 32 := by
  rw [bump_connVersion, UInt32.toNat_add, UInt32.toNat_add, ite_toNat, ite_toNat, Nat.mod_add_mod]

private theorem bumpSize_bump (before : UInt64) (unchanged : g.topologyVersion = before) :
    bumpSize before (g.bumpAllConnVersions myPeerId) = (ids g).length + 1 := by
  rw [bumpSize, if_neg]
  · rfl
  · rw [← unchanged]
    exact bump_topologyVersion g myPeerId

end Bump

/-! How far the versions of a group can have moved after `moved` single steps. -/

/-- Another id shares every step with the relay. Only a relay that is the one member of its own
group can be a step ahead, and then after an even number of them. -/
structure Bounded (myPeerId : UInt32) (moved : Nat) (g : RouteGroupData) : Prop where
  others : ∀ p, p ≠ myPeerId → 2 * (connVersion g p).toNat ≤ moved + 2
  own : (connVersion g myPeerId).toNat ≤ moved ∨
    ((connVersion g myPeerId).toNat ≤ moved + 1 ∧ moved % 2 = 0 ∧ ∀ p ∈ g.peers.keys, p = myPeerId)
  started : g.peers.keys ≠ [] → 2 ≤ moved

/-- What the bounds leave of a group whose members have just changed. -/
structure Pending (myPeerId : UInt32) (moved : Nat) (g : RouteGroupData) : Prop where
  others : ∀ p, p ≠ myPeerId → 2 * (connVersion g p).toNat ≤ moved + 2
  own : (connVersion g myPeerId).toNat ≤ moved ∨
    ((connVersion g myPeerId).toNat ≤ moved + 1 ∧ moved % 2 = 0 ∧ ids g ≠ [])

section Bounds

variable {myPeerId : UInt32} {moved : Nat} {g g' : RouteGroupData}

private theorem Bounded.of_versions (bounded : Bounded myPeerId moved g)
    (peers : g'.peers = g.peers)
    (same : ∀ p, connVersion g' p = connVersion g p) : Bounded myPeerId moved g' := by
  constructor
  · intro p other
    rw [same]
    exact bounded.others p other
  · rw [same, peers]
    exact bounded.own
  · rw [peers]
    exact bounded.started

private theorem Bounded.pending (bounded : Bounded myPeerId moved g)
    (same : ∀ p, connVersion g' p = connVersion g p) (occupied : ids g' ≠ []) :
    Pending myPeerId moved g' := by
  constructor
  · intro p other
    rw [same]
    exact bounded.others p other
  · rw [same]
    rcases bounded.own with below | ⟨ahead, even, _⟩
    · exact Or.inl below
    · exact Or.inr ⟨ahead, even, occupied⟩

private theorem one_le_length {p : UInt32} {l : List UInt32} (member : p ∈ l) : 1 ≤ l.length :=
  List.length_pos_of_mem member

private theorem all_of_length_one {p : UInt32} {l : List UInt32} (member : p ∈ l)
    (single : l.length = 1) :
    ∀ q ∈ l, q = p := by
  obtain ⟨a, rfl⟩ := List.length_eq_one_iff.mp single
  intro q inside
  rw [List.mem_singleton.mp inside, List.mem_singleton.mp member]

private theorem Pending.bump (pending : Pending myPeerId moved g) (members : ids g = g.peers.keys) :
    Bounded myPeerId (moved + ((ids g).length + 1)) (g.bumpAllConnVersions myPeerId) := by
  have grown (p : UInt32) := Nat.mod_le ((connVersion g p).toNat + (if p ∈ ids g then 1 else 0) +
    if p = myPeerId then 1 else 0) (2 ^ 32)
  constructor
  · intro p other
    have before := pending.others p other
    have after := grown p
    rw [← bump_toNat, if_neg other] at after
    by_cases member : p ∈ ids g
    · have size := one_le_length member
      rw [if_pos member] at after
      omega
    · rw [if_neg member] at after
      omega
  · have after := grown myPeerId
    rw [← bump_toNat, if_pos rfl] at after
    by_cases member : myPeerId ∈ ids g
    · have size := one_le_length member
      rw [if_pos member] at after
      by_cases single : (ids g).length = 1
      · have all := all_of_length_one member single
        rw [members] at all
        rcases pending.own with below | ⟨ahead, even, _⟩
        · exact Or.inl (by omega)
        · exact Or.inr ⟨by omega, by omega, all⟩
      · left
        rcases pending.own with below | ⟨ahead, even, _⟩
        · omega
        · omega
    · rw [if_neg member] at after
      left
      rcases pending.own with below | ⟨ahead, even, occupied⟩
      · omega
      · have size := List.length_pos_iff.mpr occupied
        omega
  · intro occupied
    have occupied : ids g ≠ [] := by
      rw [members]
      exact occupied
    have size := List.length_pos_iff.mpr occupied
    omega

private theorem Pending.grows (pending : Pending myPeerId moved g)
    (below_limit : moved + ((ids g).length + 1) < 2 ^ 32) (p : UInt32) :
    connVersion g p ≤ connVersion (g.bumpAllConnVersions myPeerId) p := by
  rw [UInt32.le_iff_toNat_le, bump_toNat, Nat.mod_eq_of_lt]
  · omega
  · by_cases own : p = myPeerId
    · subst own
      rw [if_pos rfl]
      by_cases member : p ∈ ids g
      · have size := one_le_length member
        rw [if_pos member]
        rcases pending.own with below | ⟨ahead, even, _⟩
        · omega
        · omega
      · rw [if_neg member]
        rcases pending.own with below | ⟨ahead, even, occupied⟩
        · omega
        · have size := List.length_pos_iff.mpr occupied
          omega
    · have before := pending.others p own
      rw [if_neg own]
      by_cases member : p ∈ ids g
      · rw [if_pos member]
        omega
      · rw [if_neg member]
        omega

end Bounds

private theorem connVersion_erase {g g' : RouteGroupData} {p : UInt32}
    (versions : g'.peerConnVersions = g.peerConnVersions.erase p) (q : UInt32) :
    connVersion g' q = if q = p then 1 else connVersion g q := by
  rw [connVersion, versions, AscMap.get?_erase]
  split
  · rfl
  · rfl

private theorem connVersion_same {g g' : RouteGroupData}
    (versions : g'.peerConnVersions = g.peerConnVersions) (q : UInt32) :
    connVersion g' q = connVersion g q := by
  rw [connVersion, versions, connVersion]

section Moves

variable {myPeerId : UInt32} {moved : Nat} {c : RouteCall} {g g' : RouteGroupData}

/-- A call that changes the topology is a bump of a group within pending bounds, in which only
the version of a removed peer is different. -/
private theorem move_cases (move : TopologyMove myPeerId c g g')
    (bounded : Bounded myPeerId moved g) (inv : Identity myPeerId g) (inv' : Identity myPeerId g') :
    (bumpSize g.topologyVersion g' = 0 ∧ Bounded myPeerId moved g' ∧
        ∀ p, c ≠ .removePeer c.groupKey p → connVersion g' p = connVersion g p) ∨
      ∃ g₁, g' = g₁.bumpAllConnVersions myPeerId ∧ Pending myPeerId moved g₁ ∧
        ids g₁ = g₁.peers.keys ∧ bumpSize g.topologyVersion g' = (ids g₁).length + 1 ∧
        ∀ p, c ≠ .removePeer c.groupKey p → connVersion g₁ p = connVersion g p := by
  cases move with
  | quiet same =>
    have equal := connVersion_same same.peerConnVersions
    refine Or.inl ⟨if_pos same.topologyVersion, bounded.of_versions same.peers equal, ?_⟩
    intro p _
    exact equal p
  | built before shown =>
    obtain ⟨tables, versions, topologyVersion⟩ := shown.frame
    have equal := connVersion_same (versions.trans before.peerConnVersions)
    refine Or.inl ⟨if_pos (topologyVersion.trans before.topologyVersion),
      bounded.of_versions (tables.peers.trans before.peers) equal, ?_⟩
    intro p _
    exact equal p
  | @joined groupKey p key _ g₁ absent peers infos versions topologyVersion =>
    have equal := connVersion_same versions
    have occupied : ids g₁ ≠ [] :=
      List.ne_nil_of_mem
        (mem_ids.mpr (Or.inl (peers ▸ (AscMap.mem_keys_insert _).mpr (Or.inl rfl))))
    refine Or.inr ⟨g₁, rfl, bounded.pending equal occupied, inv'.ids_eq,
      bumpSize_bump g₁ myPeerId _ topologyVersion, ?_⟩
    intro q _
    exact equal q
  | @published groupKey p bytes _ g₁ member same =>
    have equal := connVersion_same same.peerConnVersions
    have occupied : ids g₁ ≠ [] :=
      List.ne_nil_of_mem (mem_ids.mpr (Or.inl (same.peers ▸ (inv.keyed p).mpr member)))
    refine Or.inr ⟨g₁, rfl, bounded.pending equal occupied, inv'.ids_eq,
      bumpSize_bump g₁ myPeerId _ same.topologyVersion, ?_⟩
    intro q _
    exact equal q
  | @left groupKey p _ g₁ present peers versions topologyVersion =>
    have erased := connVersion_erase versions
    have member : p ∈ g.peers.keys := by
      rw [← inv.ids_eq]
      exact mem_ids.mpr present
    refine Or.inr ⟨g₁, rfl, ⟨?_, ?_⟩, inv'.ids_eq, bumpSize_bump g₁ myPeerId _ topologyVersion, ?_⟩
    · intro q other
      rw [erased]
      split
      · exact Nat.le_add_left 2 moved
      · exact bounded.others q other
    · rw [erased]
      split
      · have started := bounded.started (List.ne_nil_of_mem member)
        exact Or.inl (Nat.le_of_succ_le started)
      · rename_i other
        rcases bounded.own with below | ⟨_, _, alone⟩
        · exact Or.inl below
        · exact absurd (alone p member).symm other
    · intro q kept
      rw [erased, if_neg]
      rintro rfl
      exact kept rfl
  | @forgot groupKey p _ _ absent peers versions topologyVersion _ _ =>
    have erased := connVersion_erase versions
    refine Or.inl ⟨if_pos topologyVersion, ⟨?_, ?_, ?_⟩, ?_⟩
    · intro q other
      rw [erased]
      split
      · exact Nat.le_add_left 2 moved
      · exact bounded.others q other
    · rw [erased, peers]
      split
      · by_cases empty : g.peers.keys = []
        · by_cases zero : moved = 0
          · subst zero
            refine Or.inr ⟨le_refl 1, rfl, ?_⟩
            rw [empty]
            intro q member
            cases member
          · exact Or.inl (Nat.one_le_iff_ne_zero.mpr zero)
        · exact Or.inl (Nat.le_of_succ_le (bounded.started empty))
      · exact bounded.own
    · rw [peers]
      exact bounded.started
    · intro q kept
      rw [erased, if_neg]
      rintro rfl
      exact kept rfl

private theorem bounded_move (move : TopologyMove myPeerId c g g')
    (bounded : Bounded myPeerId moved g) (inv : Identity myPeerId g) (inv' : Identity myPeerId g') :
    Bounded myPeerId (moved + bumpSize g.topologyVersion g') g' := by
  rcases move_cases move bounded inv inv' with
    ⟨none_moved, kept, _⟩ | ⟨g₁, rfl, pending, members, size, _⟩
  · rw [none_moved]
    exact kept
  · rw [size]
    exact pending.bump members

private theorem connVersion_move (move : TopologyMove myPeerId c g g')
    (bounded : Bounded myPeerId moved g) (inv : Identity myPeerId g) (inv' : Identity myPeerId g')
    (below_limit : moved + bumpSize g.topologyVersion g' < 2 ^ 32) {p : UInt32}
    (stays : c ≠ .removePeer c.groupKey p) : connVersion g p ≤ connVersion g' p := by
  rcases move_cases move bounded inv inv'
    with ⟨_, _, same⟩ | ⟨g₁, rfl, pending, members, size, same⟩
  · rw [same p stays]
  · rw [← same p stays]
    rw [size] at below_limit
    exact pending.grows below_limit p

end Moves

/-! Runs. -/

section Runs

variable {E} {myPeerId : UInt32} {groupKey : String}

private theorem versionBumps_snoc (s : RouteState) (es : List RouteEvent) (e : RouteEvent) :
    versionBumps E groupKey s (es ++ [e]) =
      versionBumps E groupKey s es + bumps E groupKey (run (step E) s es) e := by
  rw [versionBumps, log_snoc, List.sum_append]
  simp [versionBumps]

private theorem versionBumps_append_left (s : RouteState) (es fs : List RouteEvent) :
    versionBumps E groupKey s es ≤ versionBumps E groupKey s (es ++ fs) := by
  rw [versionBumps, versionBumps, log_append, List.sum_append]
  exact Nat.le_add_right _ _

private theorem bumps_same {s : RouteState} {e : RouteEvent} {g : RouteGroupData}
    (before : s.groups.lookup groupKey = some g)
    (after : (step E s e).groups.lookup groupKey = some g) : bumps E groupKey s e = 0 := by
  rw [bumps, before, after]
  exact if_pos rfl

private theorem bumps_move {s : RouteState} {e : RouteEvent} {g g' : RouteGroupData}
    (started : g = s.ensureGroup e.host groupKey)
    (after : (step E s e).groups.lookup groupKey = some g') :
    bumps E groupKey s e = bumpSize g.topologyVersion g' := by
  rw [bumps, after, started, RouteState.ensureGroup]
  cases s.groups.lookup groupKey with
  | none => rfl
  | some g => rfl

private theorem bounded_new (moved : Nat) (host : Host) :
    Bounded myPeerId moved (RouteGroupData.new myPeerId host) := by
  constructor
  · intro p _
    exact Nat.le_add_left 2 moved
  · by_cases zero : moved = 0
    · subst zero
      refine Or.inr ⟨le_refl 1, rfl, ?_⟩
      intro p member
      cases member
    · exact Or.inl (Nat.one_le_iff_ne_zero.mpr zero)
  · intro occupied
    exact absurd rfl occupied

/-- The tables of the group agree and its versions are bounded by the steps they have made. -/
def Counted (E : Codec) (groupKey : String) (myPeerId : UInt32) (es : List RouteEvent)
    (g : RouteGroupData) : Prop :=
  Identity myPeerId g ∧ Bounded myPeerId (versionBumps E groupKey (RouteState.new myPeerId) es) g

private theorem counted_run {es : List RouteEvent} {g : RouteGroupData}
    (found : (run (step E) (RouteState.new myPeerId) es).groups.lookup groupKey = some g) :
    Counted E groupKey myPeerId es g := by
  have steps : AllSteps (step E) (fun _ _ _ => True) (RouteState.new myPeerId) es :=
    fun _ _ _ _ => trivial
  refine group_history ?_ ?_ ?_ steps g found
  · intro pre host _
    exact ⟨identity_new host, bounded_new _ host⟩
  · rintro pre e g ⟨inv, bounded⟩ before after
    rw [Counted, versionBumps_snoc, bumps_same before after]
    exact ⟨inv, bounded⟩
  · rintro pre e op g ⟨inv, bounded⟩ _ started own accepted after
    have inv' := identity_keep inv accepted
    rw [Counted, versionBumps_snoc, bumps_move started after]
    exact ⟨inv', bounded_move (groupOp_topology accepted myPeerId g) bounded inv inv'⟩

private theorem versionAt_step {es : List RouteEvent} {e : RouteEvent} {p : UInt32}
    (below_limit : versionBumps E groupKey (RouteState.new myPeerId) (es ++ [e]) < 2 ^ 32)
    (stays : e.call ≠ .removePeer groupKey p) :
    versionAt groupKey p (run (step E) (RouteState.new myPeerId) es) ≤
      versionAt groupKey p (run (step E) (RouteState.new myPeerId) (es ++ [e])) := by
  rw [run_snoc]
  rcases step_groups E (run (step E) (RouteState.new myPeerId) es) e groupKey with
    ⟨same, _⟩ | ⟨op, own, accepted, after⟩
  · rw [versionAt, versionAt, same]
  · have relay : (run (step E) (RouteState.new myPeerId) es).myPeerId = myPeerId :=
      run_myPeerId es
    rw [relay] at after
    have facts : Counted E groupKey myPeerId es
        ((run (step E) (RouteState.new myPeerId) es).ensureGroup e.host groupKey) := by
      refine ensureGroup_eq rfl (fun g found => counted_run found) fun _ => ?_
      rw [relay]
      exact ⟨identity_new e.host, bounded_new _ e.host⟩
    rw [versionBumps_snoc, bumps_move rfl after] at below_limit
    have grown := connVersion_move (groupOp_topology accepted myPeerId _) facts.2 facts.1
      (identity_keep facts.1 accepted) below_limit (own.symm ▸ stays)
    rw [versionAt, versionAt, after]
    refine le_trans (le_of_eq ?_) grown
    rw [RouteState.ensureGroup]
    cases (run (step E) (RouteState.new myPeerId) es).groups.lookup groupKey with
    | none => rfl
    | some g => rfl

private theorem versionAt_run {es fs : List RouteEvent} {p : UInt32}
    (below_limit : versionBumps E groupKey (RouteState.new myPeerId) (es ++ fs) < 2 ^ 32)
    (stays : ∀ e ∈ fs, e.call ≠ .removePeer groupKey p) :
    versionAt groupKey p (run (step E) (RouteState.new myPeerId) es) ≤
      versionAt groupKey p (run (step E) (RouteState.new myPeerId) (es ++ fs)) := by
  induction fs using List.reverseRecOn with
  | nil => rw [List.append_nil]
  | append_singleton fs e ih =>
    rw [← List.append_assoc] at below_limit ⊢
    have earlier := lt_of_le_of_lt (versionBumps_append_left _ (es ++ fs) [e]) below_limit
    refine le_trans (ih earlier fun f member => stays f (List.mem_append_left [e] member)) ?_
    exact versionAt_step below_limit (stays e (List.mem_append_right fs List.mem_cons_self))

end Runs

/-! Cached connection infos. -/

/-- `conn` lists `p` with its current version, if it lists `p`. -/
def ListsCurrent (p : UInt32) (g : RouteGroupData) (conn : ConnInfo) : Prop :=
  ∀ row ∈ listed conn, row.peerId = p → row.version = connVersion g p

/-- Whatever is cached lists `p` with its current version. -/
def CacheCurrent (p : UInt32) (g : RouteGroupData) : Prop :=
  ∀ conn, Cached g conn → ListsCurrent p g conn

section Caches

variable {myPeerId p : UInt32} {c : RouteCall} {g g' : RouteGroupData}

private theorem peerIdVersions_current (relevantPeers : List UInt32) :
    ∀ row ∈ g.peerIdVersions relevantPeers, row.peerId = p → row.version = connVersion g p := by
  intro row member own
  obtain ⟨q, _, rfl⟩ := List.mem_map.mp member
  subst own
  rfl

private theorem connInfoBuilt_current {relevantPeers : List UInt32} {targetPeerId : UInt32}
    {supportsConnList : Bool} {nowMs : UInt64} {conn : Option ConnInfo}
    (shown : ConnInfoBuilt g relevantPeers targetPeerId supportsConnList myPeerId nowMs conn g')
    (current : CacheCurrent p g) : (∀ c ∈ conn, ListsCurrent p g c) ∧ CacheCurrent p g' := by
  obtain ⟨sources, caches⟩ := shown.sources
  have lists : ∀ c ∈ conn, ListsCurrent p g c := by
    intro c handed
    rcases sources c handed with cached | rfl | rfl
    · exact current c cached
    · exact peerIdVersions_current relevantPeers
    · rw [ListsCurrent, listed_connPeerList]
      exact peerIdVersions_current relevantPeers
  refine ⟨lists, ?_⟩
  intro c cached row member own
  rw [connVersion_same (shown.frame _ _ _ _ _).2.1]
  rcases caches c cached with before | handed
  · exact current c before row member own
  · exact lists c handed row member own

private theorem cacheCurrent_same (same : SameTopology g g') (current : CacheCurrent p g) :
    CacheCurrent p g' := by
  intro conn cached row member own
  rw [connVersion_same same.peerConnVersions]
  exact current conn (same.cached cached) row member own

private theorem cacheCurrent_bump : CacheCurrent p (g.bumpAllConnVersions myPeerId) :=
  fun conn cached => absurd cached (not_cached_bump g myPeerId conn)

private theorem cacheCurrent_move (move : TopologyMove myPeerId c g g') (inv : Identity myPeerId g)
    (kept : p = myPeerId → c ≠ .removePeer c.groupKey p) (current : CacheCurrent p g) :
    CacheCurrent p g' := by
  cases move with
  | quiet same => exact cacheCurrent_same same current
  | built before shown => exact (connInfoBuilt_current shown (cacheCurrent_same before current)).2
  | joined absent peers infos versions topologyVersion => exact cacheCurrent_bump
  | published member same => exact cacheCurrent_bump
  | left present peers versions topologyVersion => exact cacheCurrent_bump
  | @forgot groupKey q _ _ absent peers versions topologyVersion bitmap peerList =>
    intro conn cached row member own
    have before : Cached g conn := cached_of_caches topologyVersion bitmap peerList cached
    rw [connVersion_erase versions, current conn before row member own]
    split
    · -- an absent peer other than the relay has no entry to lose
      rename_i same
      subst same
      have missing : p ∉ g.peerConnVersions.keys := by
        intro present
        rcases inv.versions p present with inside | relay
        · exact absent inside
        · exact kept relay rfl
      rw [AscMap.mem_keys, Option.not_isSome_iff_eq_none] at missing
      rw [connVersion, missing]
      rfl
    · rfl

end Caches

/-! What is advertised. -/

/-- The versions with which an update built for the group lists `p`. -/
def advertised (E : Codec) (groupKey : String) (p : UInt32) (s : RouteState) (e : RouteEvent) :
    List UInt32 :=
  match built E s e with
  | some b =>
    if b.groupKey = groupKey then
      ((b.update.request.connInfo.elim [] listed).filter (·.peerId = p)).map PeerIdVersion.version
    else []
  | none => []

section Advertising

variable {E : Codec} {myPeerId p : UInt32} {groupKey : String}

/-- The tables of the group agree, and its caches list `p` with its current version. -/
def Coherent (myPeerId p : UInt32) (_ : List RouteEvent) (g : RouteGroupData) : Prop :=
  Identity myPeerId g ∧ CacheCurrent p g

/-- The relay is not removed from the group. -/
def RelayStays (groupKey : String) (myPeerId p : UInt32) (e : RouteEvent) : Prop :=
  p = myPeerId → e.call ≠ .removePeer groupKey p

private theorem cacheCurrent_new (host : Host) :
    CacheCurrent p (RouteGroupData.new myPeerId host) :=
  fun conn cached => absurd cached (not_cached_new myPeerId host conn)

private theorem coherent_run {es : List RouteEvent} {g : RouteGroupData}
    (stays : ∀ e ∈ es, RelayStays groupKey myPeerId p e)
    (found : (run (step E) (RouteState.new myPeerId) es).groups.lookup groupKey = some g) :
    Coherent myPeerId p es g := by
  have steps : AllSteps (step E) (fun _ _ e => RelayStays groupKey myPeerId p e)
      (RouteState.new myPeerId) es := by
    rintro pre e post rfl
    exact stays e (by simp)
  refine group_history ?_ ?_ ?_ steps g found
  · intro pre host _
    exact ⟨identity_new host, cacheCurrent_new host⟩
  · intro pre e g coherent _ _
    exact coherent
  · rintro pre e op g ⟨inv, current⟩ kept started own accepted _
    subst own
    exact ⟨identity_keep inv accepted,
      cacheCurrent_move (groupOp_topology accepted myPeerId g) inv kept current⟩

private theorem advertised_current {es : List RouteEvent} {e : RouteEvent} {v : UInt32}
    (stays : ∀ e ∈ es, RelayStays groupKey myPeerId p e)
    (shown : v ∈ advertised E groupKey p (run (step E) (RouteState.new myPeerId) es) e) :
    v = versionAt groupKey p (run (step E) (RouteState.new myPeerId) es) := by
  have relay : (run (step E) (RouteState.new myPeerId) es).myPeerId = myPeerId := run_myPeerId es
  rw [advertised] at shown
  split at shown
  · rename_i b handed
    split at shown
    · rename_i own
      subst own
      obtain ⟨serverSessionId, weAreInitiator, forceFull, g', _, ran⟩ := built_some E handed
      have current : CacheCurrent p
          ((run (step E) (RouteState.new myPeerId) es).ensureGroup e.host b.groupKey) :=
        ensureGroup_eq rfl (fun g found => (coherent_run stays found).2)
          (fun _ => cacheCurrent_new e.host)
      have lists := connInfoBuilt_current
        (ensures_of_ok (buildSyncRouteInfoRequest_built _ _ _ _ _ _ _ _) ran).1
        (cacheCurrent_same ⟨rfl, rfl, rfl, rfl, rfl⟩ current)
      obtain ⟨row, member, rfl⟩ := List.mem_map.mp shown
      obtain ⟨member, same⟩ := List.mem_filter.mp member
      cases carried : b.update.request.connInfo with
      | none =>
        rw [carried] at member
        cases member
      | some conn =>
        rw [carried] at member
        have version := lists.1 conn carried row member (of_decide_eq_true same)
        rw [version, versionAt, RouteState.ensureGroup]
        cases (run (step E) (RouteState.new myPeerId) es).groups.lookup b.groupKey with
        | none => rfl
        | some g => rfl
    · cases shown
  · cases shown

end Advertising

/-- While a peer is not removed, no later update lists it with a lower version than an earlier
one; the relay, which is listed without being a member, must not have been removed before
either. -/
theorem conn_versions_grow (E : Codec) (myPeerId p : UInt32) (groupKey : String)
    (before between : List RouteEvent) (e₁ e₂ : RouteEvent) (v₁ v₂ : UInt32)
    (earlier : v₁ ∈ advertised E groupKey p (run (step E) (RouteState.new myPeerId) before) e₁)
    (later : v₂ ∈ advertised E groupKey p
      (run (step E) (RouteState.new myPeerId) (before ++ e₁ :: between)) e₂)
    (few : versionBumps E groupKey (RouteState.new myPeerId) (before ++ e₁ :: between) < 2 ^ 32)
    (stays : ∀ e ∈ between, e.call ≠ .removePeer groupKey p)
    (relay : p = myPeerId → ∀ e ∈ before, e.call ≠ .removePeer groupKey p) : v₁ ≤ v₂ := by
  have building : ∀ e ∈ e₁ :: between, e.call ≠ .removePeer groupKey p := by
    intro e member
    rcases List.mem_cons.mp member with rfl | inside
    · intro removal
      rw [advertised, built, removal] at earlier
      cases earlier
    · exact stays e inside
  rw [advertised_current (fun e member own => relay own e member) earlier,
    advertised_current (fun e member own => ?_) later]
  · exact versionAt_run few building
  · rcases List.mem_append.mp member with inside | inside
    · exact relay own e inside
    · exact building e inside

/-! Two runs of the relay 1 in one network. -/

def calmHost : Host where
  clock _ := 1_000
  instId := ⟨1, 2, 3, 4⟩
  peerRouteId := 9
  fill k := .ok (UInt64.ofNat k)

def quietCodec : Codec := Wire.codec ⟨[], [], [], [], [], [], []⟩

def keyBytes (b : UInt8) : Bytes := List.replicate 32 b

def joins (p : UInt32) (b : UInt8) : RouteEvent := ⟨calmHost, .addPeer "net" p (keyBytes b)⟩

def leaves (p : UInt32) : RouteEvent := ⟨calmHost, .removePeer "net" p⟩

def update (t : UInt32) : RouteEvent :=
  ⟨calmHost, .buildSyncRouteInfoRequest "net" t 77 true true⟩

/-- Peer 5 joins before peer 7, so it is listed with version 3; after it left and came back it is
listed with version 2. -/
theorem conn_version_restarts :
    ¬ ∀ (E : Codec) (myPeerId p : UInt32) (groupKey : String) (before between : List RouteEvent)
        (e₁ e₂ : RouteEvent) (v₁ v₂ : UInt32),
      v₁ ∈ advertised E groupKey p (run (step E) (RouteState.new myPeerId) before) e₁ →
      v₂ ∈ advertised E groupKey p
        (run (step E) (RouteState.new myPeerId) (before ++ e₁ :: between)) e₂ →
      versionBumps E groupKey (RouteState.new myPeerId) (before ++ e₁ :: between) < 2 ^ 32 →
      v₁ ≤ v₂ := by
  intro never_back
  have broken := never_back quietCodec 1 5 "net" [joins 5 50, joins 7 70] [leaves 5, joins 5 50]
    (update 7) (update 7) 3 2 (by decide +kernel) (by decide +kernel) (by decide +kernel)
  exact absurd broken (by decide)

/-- While it stays, peer 5 is listed with version 3 and, after peer 9 joined, with version 4. -/
theorem conn_versions_grow_joining :
    3 ∈ advertised quietCodec "net" 5
        (run (step quietCodec) (RouteState.new 1) [joins 5 50, joins 7 70]) (update 7) ∧
      4 ∈ advertised quietCodec "net" 5 (run (step quietCodec) (RouteState.new 1)
        ([joins 5 50, joins 7 70] ++ update 7 :: [joins 9 90])) (update 7) ∧ (3 : UInt32) ≤ 4 := by
  have first : 3 ∈ advertised quietCodec "net" 5
      (run (step quietCodec) (RouteState.new 1) [joins 5 50, joins 7 70]) (update 7) := by
    decide +kernel
  have second : 4 ∈ advertised quietCodec "net" 5 (run (step quietCodec) (RouteState.new 1)
      ([joins 5 50, joins 7 70] ++ update 7 :: [joins 9 90])) (update 7) := by
    decide +kernel
  exact ⟨first, second, conn_versions_grow quietCodec 1 5 "net" _ _ _ _ 3 4 first second
    (by decide +kernel) (by decide +kernel) (by decide +kernel)⟩

end EasyTierEdge.Rpc.ConnVersions
