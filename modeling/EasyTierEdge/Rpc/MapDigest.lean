/- module: EasyTierEdge/Rpc/MapDigest
   source: cloudflare/wasm/src/peer_center.rs, the digest in reports and answers
   digest: A client that keeps its map while the digest matches holds the map of the relay. -/

import EasyTierEdge.Lib.Fallible
import EasyTierEdge.Lib.Machine
import EasyTierEdge.Lib.SipHash
import EasyTierEdge.Rpc.PeerCenter
import EasyTierEdge.Wire

set_option autoImplicit false
set_option relaxedAutoImplicit false

namespace EasyTierEdge.Rpc.MapDigest

open Lib.AscendingMap Lib.Endian Lib.Fallible Lib.FiniteMap Lib.Machine Lib.Saturating
open Lib.SipHash
open Packet (Bytes)
open Proto PeerCenter

/-! The bytes that are hashed determine the map. -/

/-- The map that a group holds, without the times of the reports. -/
def latencies (data : PeerCenterGroupData) (src dst : UInt32) : Option DirectConnectedPeerInfo :=
  (data.globalPeerMap.get? ⟨src, dst⟩).map PeerCenterInfoEntry.info

/-- The map inside an answer. -/
def carried (map : AscMap UInt32 PeerInfoForGlobalMap) (src dst : UInt32) :
    Option DirectConnectedPeerInfo :=
  (map.get? src).bind fun m => m.directPeers.get? dst

private theorem toLe_injective {n x y : Nat} (hx : x < 256 ^ n) (hy : y < 256 ^ n)
    (same : toLe n x = toLe n y) : x = y := by
  have values := congrArg ofLe same
  rwa [ofLe_toLe, ofLe_toLe, Nat.mod_eq_of_lt hx, Nat.mod_eq_of_lt hy] at values

private theorem hashedEntry_length (pair : SrcDstPeerPair) (info : DirectConnectedPeerInfo) :
    (hashedEntry pair info).length = 12 := by
  simp [hashedEntry]

private theorem hashedEntry_injective {pair pair' : SrcDstPeerPair}
    {info info' : DirectConnectedPeerInfo}
    (same : hashedEntry pair info = hashedEntry pair' info') : pair = pair' ∧ info = info' := by
  obtain ⟨front, latency⟩ := List.append_inj same (by simp)
  obtain ⟨src, dst⟩ := List.append_inj front (by simp)
  have bound (n : UInt32) : n.toNat < 256 ^ 4 := n.toNat_lt
  have src := UInt32.toNat_inj.mp (toLe_injective (bound _) (bound _) src)
  have dst := UInt32.toNat_inj.mp (toLe_injective (bound _) (bound _) dst)
  have latency := UInt32.toNat_inj.mp (toLe_injective (bound _) (bound _) latency)
  obtain ⟨src₁, dst₁⟩ := pair
  obtain ⟨latencyMs⟩ := info
  obtain ⟨latencyMs'⟩ := info'
  constructor
  · simp_all
  · cases latencyMs
    cases latencyMs'
    cases latency
    rfl

private theorem entries_eq_of_hashed {l l' : List (SrcDstPeerPair × PeerCenterInfoEntry)}
    (same : l.flatMap (fun e => hashedEntry e.1 e.2.info) =
      l'.flatMap fun e => hashedEntry e.1 e.2.info) :
    l.map (fun e => (e.1, e.2.info)) = l'.map fun e => (e.1, e.2.info) := by
  induction l generalizing l' with
  | nil =>
    cases l' with
    | nil => rfl
    | cons e l' =>
      have lengths := congrArg List.length same
      simp only [List.flatMap_nil, List.length_nil, List.flatMap_cons, List.length_append,
        hashedEntry_length] at lengths
      omega
  | cons e l ih =>
    cases l' with
    | nil =>
      have lengths := congrArg List.length same
      simp [hashedEntry_length] at lengths
    | cons e' l' =>
      rw [List.flatMap_cons, List.flatMap_cons] at same
      obtain ⟨first, rest⟩ := List.append_inj same (by simp [hashedEntry_length])
      obtain ⟨pair, info⟩ := hashedEntry_injective first
      rw [List.map_cons, List.map_cons, pair, info, ih rest]

private theorem lookup_map_info (l : List (SrcDstPeerPair × PeerCenterInfoEntry))
    (pair : SrcDstPeerPair) :
    lookup (l.map fun e => (e.1, e.2.info)) pair =
      (lookup l pair).map PeerCenterInfoEntry.info := by
  induction l with
  | nil => rfl
  | cons e l ih =>
    rw [List.map_cons, lookup_cons, lookup_cons, ih]
    split
    · rfl
    · rfl

private theorem latencies_of_hashed {data data' : PeerCenterGroupData}
    (same : data.hashedBytes = data'.hashedBytes) : latencies data = latencies data' := by
  ext1 src
  ext1 dst
  rw [latencies, latencies, AscMap.get?, AscMap.get?, ← lookup_map_info, ← lookup_map_info,
    entries_eq_of_hashed same]

/-! A full answer carries the map. -/

private theorem carried_upsert (map : AscMap UInt32 PeerInfoForGlobalMap) (pair : SrcDstPeerPair)
    (info : DirectConnectedPeerInfo) (src dst : UInt32) :
    carried (map.upsert pair.src ⟨∅⟩ fun m => ⟨m.directPeers.insert pair.dst info⟩) src dst =
      if pair = ⟨src, dst⟩ then some info else carried map src dst := by
  obtain ⟨src', dst'⟩ := pair
  rw [carried, AscMap.get?_upsert]
  by_cases own : src = src'
  · subst own
    rw [if_pos rfl, Option.bind_some, AscMap.get?_insert]
    by_cases target : dst = dst'
    · subst target
      rw [if_pos rfl, if_pos rfl]
    · rw [if_neg target, if_neg fun h => target (congrArg SrcDstPeerPair.dst h).symm, carried]
      cases map.get? src with
      | none => rfl
      | some m => rfl
  · rw [if_neg own, if_neg fun h => own (congrArg SrcDstPeerPair.src h).symm]
    rfl

private theorem carried_foldl (l : List (SrcDstPeerPair × PeerCenterInfoEntry))
    (nodup : (l.map Prod.fst).Nodup) (map : AscMap UInt32 PeerInfoForGlobalMap) (src dst : UInt32) :
    carried (l.foldl (fun map e => map.upsert e.1.src ⟨∅⟩ fun m =>
        ⟨m.directPeers.insert e.1.dst e.2.info⟩) map) src dst =
      ((lookup l ⟨src, dst⟩).map PeerCenterInfoEntry.info).or (carried map src dst) := by
  induction l generalizing map with
  | nil => rfl
  | cons e l ih =>
    obtain ⟨fresh, nodup⟩ := List.nodup_cons.mp nodup
    rw [List.foldl_cons, ih nodup, carried_upsert, lookup_cons]
    by_cases own : e.1 = ⟨src, dst⟩
    · rw [if_pos own, if_pos own.symm, lookup_eq_none (own ▸ fresh)]
      rfl
    · rw [if_neg own, if_neg fun h => own h.symm]

private theorem carried_fullMap (data : PeerCenterGroupData) :
    carried data.fullMap = latencies data := by
  ext1 src
  ext1 dst
  rw [PeerCenterGroupData.fullMap, carried_foldl _ data.globalPeerMap.keys_nodup]
  exact Option.or_none

/-! The calls on the peer center, and one client that asks for the map. -/

inductive CenterCall
  | reportPeers (groupKey : String) (authenticatedPeerId : UInt32) (reportBytes : Bytes)
  | removePeer (groupKey : String) (peerId : UInt32)
  | cleanOutdated (ttlSec : UInt64)
  | getGlobalPeerMap (groupKey : String) (requestBytes : Bytes)
  deriving DecidableEq

structure CenterEvent where
  nowMs : UInt64
  call : CenterCall

/-- A map that was sent, with the digest it answers and the group it is about. -/
structure Answer where
  groupKey : String
  digest : Digest
  response : GetGlobalPeerMapResponse
  deriving DecidableEq

/-- The answer to a request for a map that is unchanged. -/
def unchanged : GetGlobalPeerMapResponse := ⟨∅, none⟩

/-- A client keeps its map on an unchanged answer, and replaces it otherwise. -/
structure MapClient where
  digest : Digest
  map : AscMap UInt32 PeerInfoForGlobalMap

def MapClient.new : MapClient := ⟨0, ∅⟩

def MapClient.receive (c : MapClient) (response : GetGlobalPeerMapResponse) : MapClient :=
  if response = unchanged then c else ⟨response.digest.getD 0, response.globalPeerMap⟩

structure World where
  center : Center
  client : MapClient

def World.new : World := ⟨Center.new, MapClient.new⟩

/-- A call; `polled` says that the client made it. -/
structure Exchange where
  event : CenterEvent
  polled : Bool

variable (E : Codec) (hash : Bytes → Digest)

def centerStep (s : Center) (e : CenterEvent) : Center :=
  match e.call with
  | .reportPeers groupKey authenticatedPeerId reportBytes =>
    final (s.reportPeers E hash groupKey authenticatedPeerId reportBytes e.nowMs)
  | .removePeer groupKey peerId => s.removePeer hash groupKey peerId
  | .cleanOutdated ttlSec => s.cleanOutdated hash ttlSec e.nowMs
  | .getGlobalPeerMap groupKey requestBytes => final (s.getGlobalPeerMap E groupKey requestBytes)

def answered (s : Center) (e : CenterEvent) : Option Answer :=
  match e.call with
  | .getGlobalPeerMap groupKey requestBytes =>
    match E.decodeGetGlobalPeerMapRequest requestBytes,
        s.answerGlobalPeerMap E groupKey requestBytes with
    | .ok req, .ok response _ => some ⟨groupKey, req.digest, response⟩
    | _, _ => none
  | _ => none

def step (w : World) (x : Exchange) : World where
  center := centerStep E hash w.center x.event
  client :=
    if x.polled then
      (answered E w.center x.event).elim w.client fun a => w.client.receive a.response
    else w.client

/-- The group data whose digest an event calculates anew. -/
def recomputed (groupKey : String) (s : Center) (e : CenterEvent) : Option PeerCenterGroupData :=
  match e.call with
  | .reportPeers key authenticatedPeerId reportBytes =>
    match E.decodeReportPeersRequest reportBytes with
    | .error _ => none
    | .ok req =>
      if key = groupKey ∧ req.myPeerId = authenticatedPeerId then
        some ((s.groupMut key).reported req.myPeerId (req.peerInfos.getD ⟨∅⟩) e.nowMs)
      else none
  | .removePeer key peerId =>
    if key = groupKey then (s.groups.lookup key).map (·.without peerId) else none
  | .cleanOutdated ttlSec =>
    (s.groups.lookup groupKey).map (·.recent (saturatingMul ttlSec 1000) e.nowMs)
  | .getGlobalPeerMap _ _ => none

/-- The digest of the group is calculated anew, or its data are as before, or those of a group that
a request has created. -/
def Regrouped (groupKey : String) (s : Center) (e : CenterEvent) : Prop :=
  (∃ data, recomputed E groupKey s e = some data ∧
      ∀ g, (centerStep E hash s e).groups.lookup groupKey = some g → g = data.withDigest hash) ∨
    ∀ g, (centerStep E hash s e).groups.lookup groupKey = some g →
      s.groups.lookup groupKey = some g ∨ g = PeerCenterGroupData.default

/-- What is hashed for the group in a run. -/
def hashedInputs (groupKey : String) (xs : List Exchange) : List Bytes :=
  log (step E hash) (fun w x => (recomputed E groupKey w.center x.event).map
    PeerCenterGroupData.hashedBytes) World.new xs

def answers (xs : List Exchange) : List Answer :=
  log (step E hash) (fun w x => answered E w.center x.event) World.new xs

/-- The client asks for the map of the group, and names the digest it holds. -/
def Polls (groupKey : String) (_pre : List Exchange) (w : World) (x : Exchange) : Prop :=
  x.polled = true → ∃ requestBytes, x.event.call = .getGlobalPeerMap groupKey requestBytes ∧
    E.decodeGetGlobalPeerMapRequest requestBytes = .ok ⟨w.client.digest⟩

section Moves

variable {E hash} {groupKey : String} {s : Center} {e : CenterEvent}

theorem getGlobalPeerMap_ran {req : GetGlobalPeerMapRequest} {key : String} {requestBytes : Bytes}
    (decoded : E.decodeGetGlobalPeerMapRequest requestBytes = .ok req) :
    s.answerGlobalPeerMap E key requestBytes =
      .ok ((s.groupMut key).answer req.digest) ⟨s.groups.insert key (s.groupMut key)⟩ := by
  simp only [Center.answerGlobalPeerMap, decoded]
  rfl

theorem answered_some {a : Answer} (h : answered E s e = some a) :
    (∃ requestBytes, e.call = .getGlobalPeerMap a.groupKey requestBytes ∧
      E.decodeGetGlobalPeerMapRequest requestBytes = .ok ⟨a.digest⟩) ∧
      a.response = (s.groupMut a.groupKey).answer a.digest ∧
      centerStep E hash s e = ⟨s.groups.insert a.groupKey (s.groupMut a.groupKey)⟩ := by
  obtain ⟨nowMs, call⟩ := e
  cases call with
  | getGlobalPeerMap key requestBytes =>
    simp only [answered] at h
    cases decoded : E.decodeGetGlobalPeerMapRequest requestBytes with
    | error error => simp [decoded] at h
    | ok req =>
      have ran := @getGlobalPeerMap_ran E s req key requestBytes decoded
      rw [decoded, ran] at h
      cases h
      refine ⟨⟨requestBytes, rfl, decoded⟩, rfl, ?_⟩
      show final (EStateM.bind _ _ s) = _
      rw [EStateM.bind, ran]
      rfl
  | _ => cases h

private theorem reportPeers_regrouped (key : String) (id : PeerId) (reportBytes : Bytes)
    (nowMs : UInt64) :
    Regrouped E hash groupKey s ⟨nowMs, .reportPeers key id reportBytes⟩ := by
  unfold Regrouped
  simp only [recomputed, centerStep, Center.reportPeers]
  cases decoded : E.decodeReportPeersRequest reportBytes with
  | error error => exact Or.inr fun g found => Or.inl found
  | ok req =>
    by_cases own : req.myPeerId = id
    · have ran : final ((do
          if req.myPeerId ≠ id then
            throw "ReportPeersRequest peer id does not match the authenticated connection"
          let peers := req.peerInfos.getD ⟨∅⟩
          modify fun s => ⟨s.groups.insert key
            (((s.groupMut key).reported req.myPeerId peers nowMs).withDigest hash)⟩
          return E.encodeReportPeersResponse : CenterM Bytes) s) = ⟨s.groups.insert key
            (((s.groupMut key).reported req.myPeerId (req.peerInfos.getD ⟨∅⟩)
              nowMs).withDigest hash)⟩ := by
        simp only [own, ne_eq, not_true_eq_false, if_false]
        rfl
      rw [ran]
      by_cases here : key = groupKey
      · subst here
        refine Or.inl ⟨_, if_pos ⟨rfl, own⟩, ?_⟩
        intro g found
        rw [FMap.lookup_insert_eq_ite, if_pos rfl] at found
        exact (Option.some.inj found).symm
      · refine Or.inr fun g found => Or.inl ?_
        rwa [FMap.lookup_insert_eq_ite, if_neg fun h => here h.symm] at found
    · refine Or.inr fun g found => Or.inl ?_
      simp only [own, ne_eq, not_false_eq_true, if_true] at found
      exact found

private theorem removePeer_regrouped (key : String) (id : PeerId) (nowMs : UInt64) :
    Regrouped E hash groupKey s ⟨nowMs, .removePeer key id⟩ := by
  unfold Regrouped
  simp only [recomputed, centerStep, Center.removePeer]
  by_cases here : key = groupKey
  · subst here
    cases present : s.groups.lookup key with
    | none =>
      refine Or.inr fun g found => ?_
      rw [present] at found
      cases found
    | some data =>
      refine Or.inl ⟨data.without id, by simp, ?_⟩
      intro g found
      dsimp only at found
      split at found
      · rw [FMap.lookup_erase_eq_ite, if_pos rfl] at found
        cases found
      · rw [FMap.lookup_insert_eq_ite, if_pos rfl] at found
        exact (Option.some.inj found).symm
  · refine Or.inr fun g found => Or.inl ?_
    cases present : s.groups.lookup key with
    | none =>
      rw [present] at found
      exact found
    | some data =>
      rw [present] at found
      dsimp only at found
      split at found
      · rwa [FMap.lookup_erase_eq_ite, if_neg fun h => here h.symm] at found
      · rwa [FMap.lookup_insert_eq_ite, if_neg fun h => here h.symm] at found

private theorem cleanOutdated_regrouped (ttlSec nowMs : UInt64) :
    Regrouped E hash groupKey s ⟨nowMs, .cleanOutdated ttlSec⟩ := by
  have cleaned : ∀ g, (s.cleanOutdated hash ttlSec nowMs).groups.lookup groupKey = some g →
      ∃ data, s.groups.lookup groupKey = some data ∧
        g = (data.recent (saturatingMul ttlSec 1000) nowMs).withDigest hash := by
    intro g found
    obtain ⟨kept, _⟩ := FMap.lookup_of_lookup_retain found
    rw [FMap.lookup_mapValues] at kept
    obtain ⟨data, present, same⟩ := Option.map_eq_some_iff.mp kept
    exact ⟨data, present, same.symm⟩
  unfold Regrouped
  simp only [recomputed, centerStep]
  cases present : s.groups.lookup groupKey with
  | none =>
    refine Or.inr fun g found => ?_
    obtain ⟨data, was_present, _⟩ := cleaned g found
    rw [present] at was_present
    cases was_present
  | some data =>
    refine Or.inl ⟨_, rfl, ?_⟩
    intro g found
    obtain ⟨data', was_present, same⟩ := cleaned g found
    rw [present] at was_present
    cases was_present
    exact same

private theorem getGlobalPeerMap_regrouped (key : String) (requestBytes : Bytes) (nowMs : UInt64) :
    Regrouped E hash groupKey s ⟨nowMs, .getGlobalPeerMap key requestBytes⟩ := by
  refine Or.inr fun g found => ?_
  have after : centerStep E hash s ⟨nowMs, .getGlobalPeerMap key requestBytes⟩ = s ∨
      centerStep E hash s ⟨nowMs, .getGlobalPeerMap key requestBytes⟩ =
        ⟨s.groups.insert key (s.groupMut key)⟩ := by
    cases decoded : E.decodeGetGlobalPeerMapRequest requestBytes with
    | error error =>
      left
      simp only [centerStep, Center.getGlobalPeerMap, Center.answerGlobalPeerMap, decoded]
      rfl
    | ok req =>
      have some_answer : answered E s ⟨nowMs, .getGlobalPeerMap key requestBytes⟩ =
          some ⟨key, req.digest, (s.groupMut key).answer req.digest⟩ := by
        simp only [answered, decoded, getGlobalPeerMap_ran decoded]
      exact Or.inr (answered_some some_answer).2.2
  rcases after with same | created
  · exact Or.inl (same ▸ found)
  · rw [created, FMap.lookup_insert_eq_ite] at found
    split at found
    · rename_i own
      subst own
      rw [Center.groupMut] at found
      cases present : s.groups.lookup groupKey with
      | none =>
        rw [present] at found
        exact Or.inr (Option.some.inj found).symm
      | some data =>
        rw [present] at found
        exact Or.inl found
    · exact Or.inl found

private theorem centerStep_regrouped (s : Center) (e : CenterEvent) (groupKey : String) :
    Regrouped E hash groupKey s e := by
  obtain ⟨nowMs, call⟩ := e
  cases call with
  | reportPeers key id reportBytes => exact reportPeers_regrouped key id reportBytes nowMs
  | removePeer key id => exact removePeer_regrouped key id nowMs
  | cleanOutdated ttlSec => exact cleanOutdated_regrouped ttlSec nowMs
  | getGlobalPeerMap key requestBytes => exact getGlobalPeerMap_regrouped key requestBytes nowMs

end Moves

/-! Every digest is that of a map that was hashed in the run. -/

section Runs

variable {E hash} {groupKey : String} {xs : List Exchange}

/-- `d` is the digest of `data`, which the run has hashed. -/
def DigestOf (E : Codec) (hash : Bytes → Digest) (groupKey : String) (xs : List Exchange)
    (data : UInt32 → UInt32 → Option DirectConnectedPeerInfo) (d : Digest) : Prop :=
  ∃ g : PeerCenterGroupData, g.hashedBytes ∈ hashedInputs E hash groupKey xs ∧
    d = hash g.hashedBytes ∧ data = latencies g

private theorem DigestOf.append {data : UInt32 → UInt32 → Option DirectConnectedPeerInfo}
    {d : Digest} (h : DigestOf E hash groupKey xs data d) (ys : List Exchange) :
    DigestOf E hash groupKey (xs ++ ys) data d := by
  obtain ⟨g, hashed, facts⟩ := h
  refine ⟨g, ?_, facts⟩
  rw [hashedInputs, log_append]
  exact List.mem_append_left _ hashed

private theorem DigestOf.snoc {data : UInt32 → UInt32 → Option DirectConnectedPeerInfo} {d : Digest}
    (h : DigestOf E hash groupKey xs data d) (x : Exchange) :
    DigestOf E hash groupKey (xs ++ [x]) data d :=
  h.append [x]

/-- Without collisions a digest belongs to one map. -/
private theorem DigestOf.unique {data data' : UInt32 → UInt32 → Option DirectConnectedPeerInfo}
    {d : Digest} (collisionFree : ∀ b ∈ hashedInputs E hash groupKey xs,
      ∀ b' ∈ hashedInputs E hash groupKey xs, hash b = hash b' → b = b')
    (h : DigestOf E hash groupKey xs data d) (h' : DigestOf E hash groupKey xs data' d) :
    data = data' := by
  obtain ⟨g, hashed, own, rfl⟩ := h
  obtain ⟨g', hashed', own', rfl⟩ := h'
  exact latencies_of_hashed (collisionFree _ hashed _ hashed' (own.symm.trans own'))

/-- A digest that is not zero names a map that was hashed; a group that was just created has the
digest zero and no entries. -/
structure Coherent (E : Codec) (hash : Bytes → Digest) (groupKey : String) (xs : List Exchange)
    (w : World) : Prop where
  group : (w.center.groupMut groupKey).digest ≠ 0 → DigestOf E hash groupKey xs
    (latencies (w.center.groupMut groupKey)) (w.center.groupMut groupKey).digest
  answers : ∀ a ∈ answers E hash xs, a.groupKey = groupKey → ∀ d, a.response.digest = some d →
    d ≠ 0 → DigestOf E hash groupKey xs (carried a.response.globalPeerMap) d
  client : w.client.digest ≠ 0 → DigestOf E hash groupKey xs (carried w.client.map) w.client.digest

private theorem answer_digest {data : PeerCenterGroupData} {digest d : Digest}
    (sent : (data.answer digest).digest = some d) :
    d = data.digest ∧ (data.answer digest).globalPeerMap = data.fullMap := by
  rw [PeerCenterGroupData.answer] at sent ⊢
  split at sent
  · cases sent
  · rename_i changed
    rw [if_neg changed]
    exact ⟨(Option.some.inj sent).symm, rfl⟩

private theorem answer_unchanged {data : PeerCenterGroupData} {digest : Digest}
    (same : data.answer digest = unchanged) : digest = data.digest ∧ digest ≠ 0 := by
  rw [PeerCenterGroupData.answer] at same
  split at same
  · rename_i current
    exact current
  · cases congrArg GetGlobalPeerMapResponse.digest same

private theorem receive_answer (c : MapClient) (data : PeerCenterGroupData) :
    (data.answer c.digest = unchanged ∧ c.receive (data.answer c.digest) = c) ∨
      c.receive (data.answer c.digest) = ⟨data.digest, data.fullMap⟩ := by
  by_cases current : c.digest = data.digest ∧ c.digest ≠ 0
  · have same : data.answer c.digest = unchanged := by
      rw [PeerCenterGroupData.answer, if_pos current]
      rfl
    exact Or.inl ⟨same, by rw [MapClient.receive, if_pos same]⟩
  · have full : data.answer c.digest = ⟨data.fullMap, some data.digest⟩ := by
      rw [PeerCenterGroupData.answer, if_neg current]
    have differs : data.answer c.digest ≠ unchanged := by
      rw [full]
      intro same
      cases congrArg GetGlobalPeerMapResponse.digest same
    right
    rw [MapClient.receive, if_neg differs, full]
    rfl

private theorem groupMut_created (s : Center) (key groupKey : String) :
    Center.groupMut ⟨s.groups.insert key (s.groupMut key)⟩ groupKey = s.groupMut groupKey := by
  rw [Center.groupMut, FMap.lookup_insert_eq_ite]
  split
  · rename_i own
    rw [own]
    rfl
  · rfl

/-- A poll: the client keeps its map when its digest is the current one, or takes over the map. -/
private theorem step_polled {w : World} {x : Exchange} {pre : List Exchange}
    (polled : x.polled = true) (polls : Polls E groupKey pre w x) :
    (w.client.digest = (w.center.groupMut groupKey).digest ∧ w.client.digest ≠ 0 ∧
        (step E hash w x).client = w.client) ∨
      (step E hash w x).client =
        ⟨(w.center.groupMut groupKey).digest, (w.center.groupMut groupKey).fullMap⟩ := by
  obtain ⟨requestBytes, asked, decoded⟩ := polls polled
  have some_answer : answered E w.center x.event = some ⟨groupKey, w.client.digest,
      (w.center.groupMut groupKey).answer w.client.digest⟩ := by
    simp only [answered, asked, decoded, getGlobalPeerMap_ran decoded]
  have after : (step E hash w x).client =
      w.client.receive ((w.center.groupMut groupKey).answer w.client.digest) := by
    simp only [step, polled, some_answer, if_true, Option.elim_some]
  rw [after]
  rcases receive_answer w.client (w.center.groupMut groupKey) with ⟨same, kept⟩ | replaced
  · obtain ⟨current, nonzero⟩ := answer_unchanged same
    exact Or.inl ⟨current, nonzero, kept⟩
  · exact Or.inr replaced

private theorem step_unpolled {w : World} {x : Exchange} (other : x.polled = false) :
    (step E hash w x).client = w.client := by
  simp [step, other]

private theorem step_polled_group {w : World} {x : Exchange} {pre : List Exchange}
    (polled : x.polled = true) (polls : Polls E groupKey pre w x) :
    (step E hash w x).center.groupMut groupKey = w.center.groupMut groupKey := by
  obtain ⟨requestBytes, asked, decoded⟩ := polls polled
  have some_answer : answered E w.center x.event = some ⟨groupKey, w.client.digest,
      (w.center.groupMut groupKey).answer w.client.digest⟩ := by
    simp only [answered, asked, decoded, getGlobalPeerMap_ran decoded]
  have created := (@answered_some E hash _ _ _ some_answer).2.2
  show (centerStep E hash w.center x.event).groupMut groupKey = _
  rw [created, groupMut_created]

private theorem coherent_step (w : World) (x : Exchange)
    (reached : w = run (step E hash) World.new xs) (inv : Coherent E hash groupKey xs w)
    (polls : Polls E groupKey xs w x) :
    Coherent E hash groupKey (xs ++ [x]) (step E hash w x) where
  group := by
    intro nonzero
    show DigestOf E hash groupKey _ (latencies ((centerStep E hash w.center x.event).groupMut
      groupKey)) _
    rcases @centerStep_regrouped E hash w.center x.event groupKey with
      ⟨data, again, after⟩ | after
    · cases found : (centerStep E hash w.center x.event).groups.lookup groupKey with
      | none =>
        exact absurd (by simp [step, Center.groupMut, found, PeerCenterGroupData.default]) nonzero
      | some g =>
        have same := after g found
        have now : (centerStep E hash w.center x.event).groupMut groupKey =
            data.withDigest hash := by
          rw [Center.groupMut, found]
          exact same
        rw [show (step E hash w x).center.groupMut groupKey = data.withDigest hash from now, now]
        refine ⟨data, ?_, rfl, rfl⟩
        rw [hashedInputs, log_snoc, ← reached, again]
        simp
    · have same : (centerStep E hash w.center x.event).groupMut groupKey =
          w.center.groupMut groupKey ∨
          (centerStep E hash w.center x.event).groupMut groupKey =
            PeerCenterGroupData.default := by
        rw [Center.groupMut, Center.groupMut]
        cases found : (centerStep E hash w.center x.event).groups.lookup groupKey with
        | none => exact Or.inr rfl
        | some g =>
          rcases after g found with kept | fresh
          · rw [kept]
            exact Or.inl rfl
          · exact Or.inr fresh
      rcases same with same | fresh
      · have nonzero : (w.center.groupMut groupKey).digest ≠ 0 := same ▸ nonzero
        rw [show (step E hash w x).center.groupMut groupKey = w.center.groupMut groupKey from same,
          same]
        exact (inv.group nonzero).snoc x
      · exact absurd (congrArg PeerCenterGroupData.digest fresh) nonzero
  answers := by
    intro a member own d sent nonzero
    rw [answers, log_snoc, ← reached] at member
    rcases List.mem_append.mp member with old | new
    · exact (inv.answers a old own d sent nonzero).snoc x
    · obtain ⟨_, response, _⟩ := @answered_some E hash _ _ _ (Option.mem_toList.mp new)
      rw [response] at sent ⊢
      obtain ⟨rfl, full⟩ := answer_digest sent
      rw [full, carried_fullMap, own]
      rw [own] at nonzero
      exact (inv.group nonzero).snoc x
  client := by
    intro nonzero
    cases polled : x.polled with
    | false =>
      rw [step_unpolled polled] at nonzero ⊢
      exact (inv.client nonzero).snoc x
    | true =>
      rcases @step_polled E hash groupKey w x xs polled polls with ⟨_, _, kept⟩ | replaced
      · rw [kept] at nonzero ⊢
        exact (inv.client nonzero).snoc x
      · rw [replaced] at nonzero ⊢
        rw [carried_fullMap]
        exact (inv.group nonzero).snoc x

private theorem coherent_run (polls : AllSteps (step E hash) (Polls E groupKey) World.new xs) :
    Coherent E hash groupKey xs (run (step E hash) World.new xs) := by
  refine history_invariant ?_ ?_ polls
  · refine ⟨?_, ?_, ?_⟩
    · intro nonzero
      exact absurd rfl nonzero
    · intro a member
      cases member
    · intro nonzero
      exact absurd rfl nonzero
  · intro pre x inv polls
    exact coherent_step _ x rfl inv polls

private theorem run_unpolled {w : World} (others : ∀ y ∈ xs, y.polled = false) :
    (run (step E hash) w xs).client = w.client := by
  induction xs generalizing w with
  | nil => rfl
  | cons y xs ih =>
    rw [run_cons, ih fun z later => others z (List.mem_cons_of_mem y later),
      step_unpolled (others y List.mem_cons_self)]

end Runs

/-- An unchanged answer to a digest means that every earlier answer with this digest carried the
map that the group holds now, and so the client holds the map of its last request. -/
theorem digest_coherent {E : Codec} {hash : Bytes → Digest} {groupKey : String} {xs : List Exchange}
    (polls : AllSteps (step E hash) (Polls E groupKey) World.new xs)
    (collisionFree : ∀ b ∈ hashedInputs E hash groupKey xs,
      ∀ b' ∈ hashedInputs E hash groupKey xs, hash b = hash b' → b = b') :
    (∀ pre x post d, xs = pre ++ x :: post →
      answered E (run (step E hash) World.new pre).center x.event =
        some ⟨groupKey, d, unchanged⟩ →
      ∀ a ∈ answers E hash pre, a.groupKey = groupKey → a.response.digest = some d →
        carried a.response.globalPeerMap =
          latencies ((run (step E hash) World.new pre).center.groupMut groupKey)) ∧
    ∀ pre x post, xs = pre ++ x :: post → x.polled = true → (∀ y ∈ post, y.polled = false) →
      carried (run (step E hash) World.new xs).client.map =
        latencies ((run (step E hash) World.new (pre ++ [x])).center.groupMut groupKey) := by
  refine ⟨?_, ?_⟩
  · intro pre x post d split now a earlier own sent
    subst split
    have inv := coherent_run polls.append_left
    obtain ⟨_, response, _⟩ := @answered_some E hash _ _ _ now
    obtain ⟨current, nonzero⟩ := answer_unchanged response.symm
    dsimp only at current
    have stored := (inv.group (current ▸ nonzero)).append (x :: post)
    rw [← current] at stored
    exact ((inv.answers a earlier own d sent nonzero).append _).unique collisionFree stored
  · intro pre x post split polled others
    subst split
    have inv := coherent_run polls.append_left
    have asks := polls pre x post rfl
    rw [run_append, run_cons, run_unpolled others, run_snoc, step_polled_group polled asks]
    rcases @step_polled E hash groupKey _ x pre polled asks with
      ⟨current, nonzero, kept⟩ | replaced
    · rw [kept]
      have held := (inv.client nonzero).append (x :: post)
      have stored := (inv.group (current ▸ nonzero)).append (x :: post)
      rw [current] at held
      exact held.unique collisionFree stored
    · rw [replaced]
      exact carried_fullMap _

/-! Two peers report, one client asks before and after, and once more without a change. -/

def report (peerId : UInt32) (dst : UInt32) (latencyMs : Int32) : ReportPeersRequest :=
  ⟨peerId, some ⟨(∅ : AscMap UInt32 DirectConnectedPeerInfo).insert dst ⟨latencyMs⟩⟩⟩

def reporting (req : ReportPeersRequest) : Exchange where
  event := ⟨1_000, .reportPeers "net" req.myPeerId (Wire.reportPeersRequest req)⟩
  polled := false

def polling (digest : Digest) : Exchange where
  event := ⟨1_000, .getGlobalPeerMap "net" (Wire.getGlobalPeerMapRequest ⟨digest⟩)⟩
  polled := true

/-- The digest of the map with both reports. -/
def bothDigest : Digest := 18410888660571853965

def mapCodec : Codec := Wire.codec ⟨[], [], [], [], [], [report 5 7 20, report 7 5 30],
  [⟨0⟩, ⟨bothDigest⟩]⟩

def pollingRun : List Exchange :=
  [reporting (report 5 7 20), reporting (report 7 5 30), polling 0, polling bothDigest]

/-- Rust's default hasher. -/
def defaultHash : Bytes → Digest := sipHash13 0 0

def checkPolls (_pre : List Exchange) (w : World) (x : Exchange) : Bool :=
  !x.polled || match x.event.call with
    | .getGlobalPeerMap groupKey requestBytes =>
      groupKey == "net" &&
        (mapCodec.decodeGetGlobalPeerMapRequest requestBytes).toOption == some ⟨w.client.digest⟩
    | _ => false

private theorem checkPolls_sound (pre : List Exchange) (w : World) (x : Exchange)
    (checked : checkPolls pre w x = true) : Polls mapCodec "net" pre w x := by
  intro polled
  rw [checkPolls, polled, Bool.not_true, Bool.false_or] at checked
  split at checked
  · rename_i groupKey requestBytes asked
    obtain ⟨own, decoded⟩ := Bool.and_eq_true_iff.mp checked
    have own : groupKey = "net" := by simpa using own
    subst own
    refine ⟨requestBytes, asked, ?_⟩
    cases result : mapCodec.decodeGetGlobalPeerMapRequest requestBytes with
    | error e => simp [result, Except.toOption] at decoded
    | ok req =>
      simp only [result, Except.toOption, beq_iff_eq, Option.some.injEq] at decoded
      rw [decoded]
  · cases checked

/-- The second request of the client is answered as unchanged, and it holds both latencies. -/
theorem digest_coherent_pollingRun :
    answered mapCodec (run (step mapCodec defaultHash) World.new (pollingRun.take 3)).center
        (polling bothDigest).event = some ⟨"net", bothDigest, unchanged⟩ ∧
      carried (run (step mapCodec defaultHash) World.new pollingRun).client.map 7 5 =
        some ⟨30⟩ ∧
      carried (run (step mapCodec defaultHash) World.new pollingRun).client.map =
        latencies ((run (step mapCodec defaultHash) World.new pollingRun).center.groupMut "net") :=
  ⟨by decide +kernel, by decide +kernel,
    (digest_coherent (allSteps_of_check checkPolls checkPolls_sound (by decide +kernel))
      (by decide +kernel)).2 (pollingRun.take 3) (polling bothDigest) [] rfl rfl (by simp)⟩

end EasyTierEdge.Rpc.MapDigest
