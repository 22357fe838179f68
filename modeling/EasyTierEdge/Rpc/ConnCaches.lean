/- module: EasyTierEdge/Rpc/ConnCaches
   source: cloudflare/wasm/src/route_state.rs, build_conn_info with its two caches
   digest: A cached connection info is the one that would be computed now. -/

import EasyTierEdge.Lib.Relational
import EasyTierEdge.Rpc.ConnVersions
import EasyTierEdge.Rpc.TopologyKnown

set_option autoImplicit false
set_option relaxedAutoImplicit false

namespace EasyTierEdge.Rpc.ConnCaches

open Lib.AscendingMap Lib.Fallible Lib.FiniteMap Lib.Machine Lib.Relational
open TopologyKnown (freshConnInfo members Says relevantPeers_eq)
open ConnVersions (joins leaves quietCodec update)
open Proto Routes RouteMoves RouteRuns Rpc.Topology RouteIdentity ConnBitmap

/-- The group as it would be if nothing had been cached. -/
def withoutCaches (g : RouteGroupData) : RouteGroupData :=
  { g with cachedConnBitmap := none, cachedConnPeerList := none }

/-- Updates of the group are built for its members only. -/
def MembersOnly (groupKey : String) (s : RouteState) (e : RouteEvent) : Prop :=
  ∀ t serverSessionId weAreInitiator forceFull,
    e.call = .buildSyncRouteInfoRequest groupKey t serverSessionId weAreInitiator forceFull →
    ∃ g, s.groups.lookup groupKey = some g ∧ t ∈ g.peers.keys

/-- The relay, which is listed without being a member, is removed only where it is one. -/
def RelayKept (groupKey : String) (myPeerId : UInt32) (s : RouteState) (e : RouteEvent) : Prop :=
  e.call = .removePeer groupKey myPeerId →
    ∃ g, s.groups.lookup groupKey = some g ∧ myPeerId ∈ g.peers.keys

/-- What `build_conn_info` does when it neither reads nor writes a cache. -/
def computed (g : RouteGroupData) (relevantPeers : List UInt32) (targetPeerId : UInt32)
    (supportsConnList : Bool) (myPeerId : UInt32) (nowMs : UInt64) :
    Except String (Option ConnInfo) :=
  if relevantPeers.isEmpty then .ok none
  else if g.topologyKnown targetPeerId nowMs then .ok none
  else if supportsConnList then .ok (some (.connPeerList (g.connPeerList relevantPeers myPeerId)))
  else if relevantPeers.length > maxLegacyBitmapPeers then
    .error ("peer does not support sparse route synchronization and " ++
      "the legacy bitmap limit was exceeded")
  else .ok (some (.connBitmap (bitmapOf g relevantPeers myPeerId)))

/-- Whatever is cached for the current topology is what would be computed for it. -/
structure Current (myPeerId : UInt32) (g : RouteGroupData) : Prop where
  told : ∀ conn, Cached g conn → Says myPeerId g conn
  fits : ∀ b, Cached g (.connBitmap b) → (members g myPeerId).length ≤ maxLegacyBitmapPeers

section Caches

variable {myPeerId : UInt32} {g g' : RouteGroupData}

private theorem Current.of_uncached (empty : ∀ conn, ¬ Cached g conn) : Current myPeerId g where
  told conn cached := absurd cached (empty conn)
  fits b cached := absurd cached (empty (.connBitmap b))

private theorem current_withoutCaches : Current myPeerId (withoutCaches g) := by
  refine .of_uncached ?_
  intro conn cached
  cases conn with
  | connBitmap b => cases cached
  | connPeerList l => cases cached

/-- The caches are read through the members and their versions only. -/
theorem Current.same (current : Current myPeerId g) (peers : g'.peers = g.peers)
    (versions : g'.peerConnVersions = g.peerConnVersions)
    (cached : ∀ conn, Cached g' conn → Cached g conn) : Current myPeerId g' where
  told conn kept := (current.told conn (cached conn kept)).same peers versions
  fits b kept := by
    rw [members, peers]
    exact current.fits b (cached _ kept)

private theorem Current.bitmap (current : Current myPeerId g) {b : RouteConnBitmap}
    (cached : g.cachedConnBitmap = some (g.topologyVersion, b)) :
    b = bitmapOf g (members g myPeerId) myPeerId := by
  rcases current.told (.connBitmap b) cached with same | other
  · exact ConnInfo.connBitmap.inj same
  · cases other

private theorem Current.peerList (current : Current myPeerId g) {l : RouteConnPeerList}
    (cached : g.cachedConnPeerList = some (g.topologyVersion, l)) :
    l = g.connPeerList (members g myPeerId) myPeerId := by
  rcases current.told (.connPeerList l) cached with other | same
  · cases other
  · exact ConnInfo.connPeerList.inj same

private theorem buildConnInfo_current (current : Current myPeerId g) (targetPeerId : UInt32)
    (supportsConnList : Bool) (nowMs : UInt64) :
    Ensures (RouteGroupData.buildConnInfo (members g myPeerId) targetPeerId supportsConnList
        myPeerId nowMs) g
      (fun conn g' => computed g (members g myPeerId) targetPeerId supportsConnList myPeerId nowMs =
        .ok conn ∧ Current myPeerId g')
      (fun error g' => computed g (members g myPeerId) targetPeerId supportsConnList myPeerId
        nowMs = .error error ∧ g' = g) := by
  simp only [RouteGroupData.buildConnInfo, ensures_bind, ensures_ite, ensures_get, ensures_pure]
  refine ⟨fun empty => ⟨if_pos empty, current⟩, fun occupied => ⟨fun known => ⟨?_, current⟩,
    fun unknown => ⟨fun sparse => ?_, fun dense => ?_⟩⟩⟩
  · rw [computed, if_neg occupied, if_pos known]
  · have value : computed g (members g myPeerId) targetPeerId supportsConnList myPeerId nowMs =
        .ok (some (.connPeerList (g.connPeerList (members g myPeerId) myPeerId))) := by
      rw [computed, if_neg occupied, if_neg unknown, if_pos sparse]
    cases found : g.cachedConnPeerList.filter fun cached => cached.1 == g.topologyVersion with
    | some cached =>
      refine ⟨?_, current⟩
      rw [value, current.peerList (cached_current found)]
    | none =>
      refine ⟨value, ?_, ?_⟩
      · intro conn cached
        cases conn with
        | connBitmap b => exact current.told (.connBitmap b) cached
        | connPeerList l =>
          obtain rfl : _ = l := (Prod.mk.inj (Option.some.inj cached)).2
          exact Or.inr rfl
      · intro b cached
        exact current.fits b cached
  · cases found : g.cachedConnBitmap.filter fun cached => cached.1 == g.topologyVersion with
    | some cached =>
      have cached := cached_current found
      refine ⟨?_, current⟩
      rw [computed, if_neg occupied, if_neg unknown, if_neg dense,
        if_neg (Nat.not_lt.mpr (current.fits _ cached)), current.bitmap cached]
    | none =>
      simp only [ensures_bind, ensures_ite, ensures_throw, ensures_set, ensures_pure]
      refine ⟨fun many => ⟨?_, trivial⟩, fun few => ⟨?_, ?_, ?_⟩⟩
      · rw [computed, if_neg occupied, if_neg unknown, if_neg dense, if_pos many]
      · rw [computed, if_neg occupied, if_neg unknown, if_neg dense, if_neg few]
        rfl
      · intro conn cached
        cases conn with
        | connPeerList l => exact current.told (.connPeerList l) cached
        | connBitmap b =>
          obtain rfl : _ = b := (Prod.mk.inj (Option.some.inj cached)).2
          exact Or.inl rfl
      · intro b cached
        exact Nat.not_lt.mp few

theorem handed_fresh (current : Current myPeerId g) {t : UInt32} (member : t ∈ g.peers.keys)
    {nowMs : UInt64} {conn : ConnInfo}
    (shown : ConnInfoBuilt g (g.relevantPeers myPeerId t) t (g.supportsConnList t) myPeerId nowMs
      (some conn) g') : conn = freshConnInfo g myPeerId t := by
  have listing : g.relevantPeers myPeerId t = members g myPeerId := relevantPeers_eq member
  rw [freshConnInfo]
  cases shown with
  | peerList l sparse fresh =>
    rw [if_pos sparse]
    rcases fresh with cached | rfl
    · rw [current.peerList cached, listing]
    · rfl
  | bitmap b dense fresh =>
    rw [if_neg (Bool.eq_false_iff.mp dense)]
    rcases fresh with cached | rfl
    · rw [current.bitmap cached, listing]
    · rfl

private theorem buildConnInfo_value (current : Current myPeerId g) (targetPeerId : UInt32)
    (supportsConnList : Bool) (nowMs : UInt64) :
    value (RouteGroupData.buildConnInfo (members g myPeerId) targetPeerId supportsConnList myPeerId
        nowMs g) =
      computed g (members g myPeerId) targetPeerId supportsConnList myPeerId nowMs ∧
    Current myPeerId (final (RouteGroupData.buildConnInfo (members g myPeerId) targetPeerId
      supportsConnList myPeerId nowMs g)) := by
  have spec := buildConnInfo_current current targetPeerId supportsConnList nowMs
  cases ran : RouteGroupData.buildConnInfo (members g myPeerId) targetPeerId supportsConnList
      myPeerId nowMs g with
  | ok conn g' =>
    obtain ⟨same, kept⟩ := ensures_of_ok spec ran
    exact ⟨same.symm, kept⟩
  | error e g' =>
    obtain ⟨same, rfl⟩ := ensures_of_error spec ran
    exact ⟨same.symm, current⟩

private theorem buildSyncRouteInfoRequest_agree (current : Current myPeerId g) (E : Codec)
    (host : Host) {t : UInt32} (member : t ∈ g.peers.keys) (serverSessionId : UInt64)
    (weAreInitiator forceFull : Bool) :
    Agree (fun g' _ => Current myPeerId g')
      (RouteGroupData.buildSyncRouteInfoRequest E host myPeerId t serverSessionId weAreInitiator
        forceFull g)
      (RouteGroupData.buildSyncRouteInfoRequest E host myPeerId t serverSessionId weAreInitiator
        forceFull (withoutCaches g)) := by
  refine agree_modify_bind (agree_get_bind ?_)
  have listing : g.relevantPeers myPeerId t = members g myPeerId := relevantPeers_eq member
  have touched : Current myPeerId (g.touchSession t serverSessionId (host.clock 0)) :=
    current.same rfl rfl fun conn cached => cached_of_caches rfl rfl rfl cached
  have cached := buildConnInfo_value touched t (g.supportsConnList t) (host.clock 2)
  have uncached := @buildConnInfo_value myPeerId
    (withoutCaches (g.touchSession t serverSessionId (host.clock 0))) current_withoutCaches t
    (g.supportsConnList t) (host.clock 2)
  have asked : Agree (fun g' _ => Current myPeerId g')
      (RouteGroupData.buildConnInfo (g.relevantPeers myPeerId t) t (g.supportsConnList t) myPeerId
        (host.clock 2) (g.touchSession t serverSessionId (host.clock 0)))
      (RouteGroupData.buildConnInfo (g.relevantPeers myPeerId t) t (g.supportsConnList t) myPeerId
        (host.clock 2) (withoutCaches (g.touchSession t serverSessionId (host.clock 0)))) := by
    rw [listing]
    exact ⟨cached.1.trans uncached.1.symm, cached.2⟩
  refine agree_bind asked (fun _ _ kept => kept) ?_
  intro conn g' h' _ _ kept
  exact agree_pure _ kept

private theorem current_move {c : RouteCall} (move : TopologyMove myPeerId c g g')
    (inv : Identity myPeerId g) (current : Current myPeerId g)
    (elsewhere : ∀ groupKey t serverSessionId weAreInitiator forceFull,
      c ≠ .buildSyncRouteInfoRequest groupKey t serverSessionId weAreInitiator forceFull)
    (kept : c = .removePeer c.groupKey myPeerId → myPeerId ∈ g.peers.keys) :
    Current myPeerId g' := by
  cases move with
  | quiet same =>
    exact current.same same.peers same.peerConnVersions fun conn cached => same.cached cached
  | joined absent peers infos versions topologyVersion =>
    exact .of_uncached (not_cached_bump _ myPeerId)
  | left present peers versions topologyVersion => exact .of_uncached (not_cached_bump _ myPeerId)
  | published member same => exact .of_uncached (not_cached_bump _ myPeerId)
  | built before shown => exact absurd rfl (elsewhere _ _ _ _ _)
  | @forgot groupKey p _ _ absent peers versions topologyVersion bitmap peerList =>
    -- an absent peer other than the relay has no version to lose
    have missing : g.peerConnVersions.get? p = none := by
      rw [← Option.not_isSome_iff_eq_none, ← AscMap.mem_keys]
      intro present
      rcases inv.versions p present with inside | relay
      · exact absent inside
      · subst relay
        exact absent (kept rfl)
    exact current.same peers (versions.trans (AscMap.erase_of_get? missing)) fun conn cached =>
      cached_of_caches topologyVersion bitmap peerList cached

end Caches

section Runs

variable {E : Codec} {myPeerId : UInt32} {groupKey : String}

/-- The conditions on the calls of a run. -/
def Serving (groupKey : String) (myPeerId : UInt32) (_pre : List RouteEvent) (s : RouteState)
    (e : RouteEvent) : Prop :=
  MembersOnly groupKey s e ∧ RelayKept groupKey myPeerId s e

private theorem current_call {host : Host} {c : RouteCall} {op : UInt32 → GroupM RouteReply}
    {g : RouteGroupData} (accepted : groupOp E host c = .ok op) (inv : Identity myPeerId g)
    (current : Current myPeerId g)
    (target : ∀ groupKey t serverSessionId weAreInitiator forceFull,
      c = .buildSyncRouteInfoRequest groupKey t serverSessionId weAreInitiator forceFull →
      t ∈ g.peers.keys)
    (kept : c = .removePeer c.groupKey myPeerId → myPeerId ∈ g.peers.keys) :
    Current myPeerId (final (op myPeerId g)) := by
  have move := groupOp_topology accepted myPeerId g
  cases c with
  | buildSyncRouteInfoRequest groupKey t serverSessionId weAreInitiator forceFull =>
    have ran : final (op myPeerId g) = final (RouteGroupData.buildSyncRouteInfoRequest E host
        myPeerId t serverSessionId weAreInitiator forceFull g) := groupOp_final accepted myPeerId g
    rw [ran]
    exact (buildSyncRouteInfoRequest_agree current E host (target _ _ _ _ _ rfl) serverSessionId
      weAreInitiator forceFull).2
  | _ => exact current_move move inv current (by simp) kept

theorem current_run {es : List RouteEvent}
    (serving : AllSteps (step E) (Serving groupKey myPeerId) (RouteState.new myPeerId) es) :
    ∀ g, (run (step E) (RouteState.new myPeerId) es).groups.lookup groupKey = some g →
      Identity myPeerId g ∧ Current myPeerId g := by
  refine @group_history E myPeerId groupKey (fun _ g => Identity myPeerId g ∧ Current myPeerId g)
    _ ?_ ?_ ?_ _ serving
  · intro pre host _
    exact ⟨identity_new host, .of_uncached (not_cached_new myPeerId host)⟩
  · intro pre e g known _ _
    exact known
  · rintro pre e op g ⟨inv, current⟩ ⟨target, kept⟩ started own accepted _
    refine ⟨identity_keep inv accepted, current_call accepted inv current ?_ ?_⟩
    · intro key t serverSessionId weAreInitiator forceFull asked
      have same : key = groupKey := by
        rw [← own, asked]
        rfl
      subst same
      obtain ⟨g₀, found, member⟩ := target t serverSessionId weAreInitiator forceFull asked
      rw [started, RouteState.ensureGroup, found]
      exact member
    · intro left
      rw [own] at left
      obtain ⟨g₀, found, member⟩ := kept left
      rw [started, RouteState.ensureGroup, found]
      exact member

end Runs

/-- Whatever topology an update carries, from a cache or not, is the one that is computed from the
current members and their versions; without the caches the call would hand out the same update. -/
theorem conn_info_transparent {E : Codec} {myPeerId : UInt32} {groupKey : String}
    {es : List RouteEvent} {e : RouteEvent} {b : Built} {conn : ConnInfo}
    (serving : AllSteps (step E) (Serving groupKey myPeerId) (RouteState.new myPeerId) (es ++ [e]))
    (handed : built E (run (step E) (RouteState.new myPeerId) es) e = some b)
    (own : b.groupKey = groupKey) (shown : b.update.request.connInfo = some conn) :
    ∃ g, (run (step E) (RouteState.new myPeerId) es).groups.lookup groupKey = some g ∧
      conn = freshConnInfo g myPeerId b.targetPeerId ∧
      built E { run (step E) (RouteState.new myPeerId) es with
        groups := (run (step E) (RouteState.new myPeerId) es).groups.insert groupKey
          (withoutCaches g) } e = some b := by
  subst own
  have relay : (run (step E) (RouteState.new myPeerId) es).myPeerId = myPeerId := run_myPeerId es
  obtain ⟨serverSessionId, weAreInitiator, forceFull, g', asked, ran⟩ := built_some E handed
  obtain ⟨g, found, member⟩ := serving.last.1 _ _ _ _ asked
  have current := (current_run serving.init g found).2
  rw [relay, RouteState.ensureGroup, found, Option.getD_some] at ran
  refine ⟨g, found, ?_, ?_⟩
  · have touched : Current myPeerId
        (g.touchSession b.targetPeerId serverSessionId (e.host.clock 0)) :=
      current.same rfl rfl fun conn cached => cached_of_caches rfl rfl rfl cached
    have spec := buildSyncRouteInfoRequest_built g b.targetPeerId myPeerId E e.host serverSessionId
      weAreInitiator forceFull
    obtain ⟨carried, _⟩ := ensures_of_ok spec ran
    rw [shown] at carried
    exact handed_fresh touched member carried
  · have same := (buildSyncRouteInfoRequest_agree current E e.host member serverSessionId
      weAreInitiator forceFull).1
    rw [ran, value_ok] at same
    rw [built, asked]
    simp only [RouteState.buildSyncRouteInfoRequest, RouteState.onGroup, RouteState.ensureGroup,
      Finmap.lookup_insert, Option.getD_some, relay]
    cases ran' : RouteGroupData.buildSyncRouteInfoRequest E e.host myPeerId b.targetPeerId
        serverSessionId weAreInitiator forceFull (withoutCaches g) with
    | ok u g'' =>
      rw [ran', value_ok] at same
      obtain rfl : b.update = u := Except.ok.inj same
      rfl
    | error error g'' =>
      rw [ran', value_error] at same
      cases same

/-! Runs of the relay 1 with peer 5 in one network. -/

/-- The members of a network while it exists. -/
def membersOf (groupKey : String) (s : RouteState) : List UInt32 :=
  (s.groups.lookup groupKey).elim [] fun g => g.peers.keys

private theorem mem_membersOf {groupKey : String} {s : RouteState} {p : UInt32}
    (member : p ∈ membersOf groupKey s) :
    ∃ g, s.groups.lookup groupKey = some g ∧ p ∈ g.peers.keys := by
  rw [membersOf] at member
  cases found : s.groups.lookup groupKey with
  | none =>
    rw [found] at member
    cases member
  | some g =>
    rw [found] at member
    exact ⟨g, rfl, member⟩

/-- Both conditions, checked before each event. -/
def checkServing (membersOnly relayKept : Bool) (_pre : List RouteEvent) (s : RouteState)
    (e : RouteEvent) : Bool :=
  match e.call with
  | .buildSyncRouteInfoRequest groupKey t .. => !membersOnly || t ∈ membersOf groupKey s
  | .removePeer groupKey p => !relayKept || p ≠ 1 || 1 ∈ membersOf groupKey s
  | _ => true

private theorem checkServing_membersOnly (relayKept : Bool) (pre : List RouteEvent) (s : RouteState)
    (e : RouteEvent) (checked : checkServing true relayKept pre s e = true) (groupKey : String) :
    MembersOnly groupKey s e := by
  intro t serverSessionId weAreInitiator forceFull asked
  simp only [checkServing, asked, Bool.not_true, Bool.false_or, decide_eq_true_eq] at checked
  exact mem_membersOf checked

private theorem checkServing_relayKept (membersOnly : Bool) (pre : List RouteEvent) (s : RouteState)
    (e : RouteEvent) (checked : checkServing membersOnly true pre s e = true) (groupKey : String) :
    RelayKept groupKey 1 s e := by
  intro left
  simp only [checkServing, left, Bool.not_true, Bool.false_or, ne_eq, not_true_eq_false,
    decide_false, decide_eq_true_eq] at checked
  exact mem_membersOf checked

/-- The topology that an event hands out. -/
def connInfoOf (s : RouteState) (e : RouteEvent) : Option ConnInfo :=
  (built quietCodec s e).bind fun b => b.update.request.connInfo

private theorem handed_of_connInfoOf {s : RouteState} {e : RouteEvent} {conn : ConnInfo}
    (shown : connInfoOf s e = some conn) :
    ∃ b, built quietCodec s e = some b ∧ b.update.request.connInfo = some conn :=
  Option.bind_eq_some_iff.mp shown

/-- The topology of peer 5 and the relay, each with its version. -/
def pairConn (relay peer : UInt32) : ConnInfo := .connBitmap ⟨[⟨1, relay⟩, ⟨5, peer⟩], [15]⟩

/-- Peer 5 gets its update again from the cache. -/
theorem conn_info_transparent_again :
    ∃ b g, built quietCodec
        (run (step quietCodec) (RouteState.new 1) [joins 5 50, update 5]) (update 5) = some b ∧
      b.update.request.connInfo = some (pairConn 2 2) ∧
      (run (step quietCodec) (RouteState.new 1) [joins 5 50, update 5]).groups.lookup "net" =
        some g ∧
      pairConn 2 2 = freshConnInfo g 1 5 := by
  obtain ⟨b, handed, shown⟩ := @handed_of_connInfoOf
    (run (step quietCodec) (RouteState.new 1) [joins 5 50, update 5]) (update 5) (pairConn 2 2)
    (by decide +kernel)
  obtain ⟨sid, weAreInitiator, forceFull, _, asked, _⟩ := built_some quietCodec handed
  have serving : AllSteps (step quietCodec) (Serving "net" 1) (RouteState.new 1)
      ([joins 5 50, update 5] ++ [update 5]) :=
    allSteps_of_check (checkServing true true) (fun pre s e checked =>
      ⟨checkServing_membersOnly true pre s e checked "net",
        checkServing_relayKept true pre s e checked "net"⟩) (by decide +kernel)
  have target : b.groupKey = "net" ∧ b.targetPeerId = 5 := by
    injection asked with key target
    exact ⟨key.symm, target.symm⟩
  obtain ⟨g, found, fresh, _⟩ := conn_info_transparent serving handed target.1 shown
  rw [target.2] at fresh
  exact ⟨b, g, handed, shown, found, fresh⟩

/-- The relay is removed without having joined, which moves its version back to 1 and leaves the
counter and the caches alone: peer 5 gets the topology with version 2 again. -/
theorem stale_conn_info :
    ¬ ∀ (E : Codec) (myPeerId : UInt32) (groupKey : String) (es : List RouteEvent) (e : RouteEvent)
        (b : Built) (conn : ConnInfo),
      AllSteps (step E) (fun _ s e => ∀ groupKey, MembersOnly groupKey s e)
        (RouteState.new myPeerId) (es ++ [e]) →
      (es ++ [e]).length < 2 ^ 64 →
      built E (run (step E) (RouteState.new myPeerId) es) e = some b →
      b.groupKey = groupKey → b.update.request.connInfo = some conn →
      ∃ g, (run (step E) (RouteState.new myPeerId) es).groups.lookup groupKey = some g ∧
        conn = freshConnInfo g myPeerId b.targetPeerId := by
  intro transparent
  obtain ⟨b, handed, shown⟩ := @handed_of_connInfoOf
    (run (step quietCodec) (RouteState.new 1) [joins 5 50, update 5, leaves 1]) (update 5)
    (pairConn 2 2) (by decide +kernel)
  obtain ⟨sid, weAreInitiator, forceFull, _, asked, _⟩ := built_some quietCodec handed
  have target : b.groupKey = "net" ∧ b.targetPeerId = 5 := by
    injection asked with key target
    exact ⟨key.symm, target.symm⟩
  obtain ⟨g, found, fresh⟩ := transparent quietCodec 1 "net" [joins 5 50, update 5, leaves 1]
    (update 5) b (pairConn 2 2)
    (allSteps_of_check (checkServing true false) (checkServing_membersOnly false)
      (by decide +kernel))
    (by decide) handed target.1 shown
  rw [target.2] at fresh
  have now : ∀ g ∈ (run (step quietCodec) (RouteState.new 1)
      [joins 5 50, update 5, leaves 1]).groups.lookup "net",
      freshConnInfo g 1 5 = pairConn 1 2 := by
    decide +kernel
  rw [now g found] at fresh
  exact absurd fresh (by decide)

end EasyTierEdge.Rpc.ConnCaches
