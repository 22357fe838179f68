/- module: EasyTierEdge/Rpc/Reports
   source: cloudflare/wasm/src/peer_center.rs
   digest: The map of a network holds exactly the reports that are still in force. -/

import EasyTierEdge.Rpc.MapDigest

set_option autoImplicit false
set_option relaxedAutoImplicit false

namespace EasyTierEdge.Rpc.Reports

open Lib.AscendingMap Lib.Fallible Lib.FiniteMap Lib.Machine Lib.Saturating
open Packet (Bytes)
open Proto PeerCenter MapDigest

/-- What a network is told about one pair, and since when. -/
def entryAt (s : Center) (groupKey : String) (pair : SrcDstPeerPair) :
    Option PeerCenterInfoEntry :=
  (s.groupMut groupKey).globalPeerMap.get? pair

/-- When a peer reported last. -/
def timeAt (s : Center) (groupKey : String) (peerId : PeerId) : Option UInt64 :=
  (s.groupMut groupKey).peerReportTime.get? peerId

/-- An accepted report of `peerId` to its network. -/
structure Report (E : Codec) (groupKey : String) (peerId : PeerId) (e : CenterEvent)
    (direct : AscMap UInt32 DirectConnectedPeerInfo) : Prop where
  made : ∃ reportBytes req, e.call = .reportPeers groupKey peerId reportBytes ∧
    E.decodeReportPeersRequest reportBytes = .ok req ∧ req.myPeerId = peerId ∧
    (req.peerInfos.getD ⟨∅⟩).directPeers = direct

/-- The source of the pair reports this entry. -/
def Brings (E : Codec) (groupKey : String) (pair : SrcDstPeerPair) (entry : PeerCenterInfoEntry)
    (e : CenterEvent) : Prop :=
  ∃ direct, Report E groupKey pair.src e direct ∧ direct.get? pair.dst = some entry.info ∧
    entry.updateTimeMs = e.nowMs

/-- The entry stays in force: its source does not report the pair anew, neither end leaves, and a
clean-up finds it fresh. -/
structure Leaves (E : Codec) (groupKey : String) (pair : SrcDstPeerPair)
    (entry : PeerCenterInfoEntry) (e : CenterEvent) : Prop where
  repeated : ∀ direct, Report E groupKey pair.src e direct → direct.get? pair.dst = none
  departed : ∀ peerId, e.call = .removePeer groupKey peerId → pair.src ≠ peerId ∧ pair.dst ≠ peerId
  fresh : ∀ ttlSec, e.call = .cleanOutdated ttlSec →
    saturatingSub e.nowMs entry.updateTimeMs < saturatingMul ttlSec 1000

section Groups

variable {s : Center} {hash : Bytes → Digest} {groupKey : String} {data : PeerCenterGroupData}

private theorem groupMut_insert (key : String) :
    (Center.mk (s.groups.insert key data)).groupMut groupKey =
      if groupKey = key then data else s.groupMut groupKey := by
  rw [Center.groupMut, FMap.lookup_insert_eq_ite]
  split
  · rfl
  · rfl

private theorem groupMut_of_lookup (present : s.groups.lookup groupKey = some data) :
    s.groupMut groupKey = data := by
  rw [Center.groupMut, present]
  rfl

private theorem groupMut_of_none (absent : s.groups.lookup groupKey = none) :
    s.groupMut groupKey = PeerCenterGroupData.default := by
  rw [Center.groupMut, absent]
  rfl

private theorem isEmpty_maps (empty : data.isEmpty = true) :
    data.globalPeerMap = ∅ ∧ data.peerReportTime = ∅ := by
  obtain ⟨pairs, times⟩ := Bool.and_eq_true_iff.mp empty
  constructor
  · refine AscMap.ext_get? fun pair => ?_
    rw [AscMap.get?, List.isEmpty_iff.mp pairs]
    rfl
  · refine AscMap.ext_get? fun peerId => ?_
    rw [AscMap.get?, List.isEmpty_iff.mp times]
    rfl

/-- The parts of the data without the digest. -/
def parts (data : PeerCenterGroupData) :
    AscMap SrcDstPeerPair PeerCenterInfoEntry × AscMap PeerId UInt64 :=
  (data.globalPeerMap, data.peerReportTime)

private theorem parts_of_isEmpty (empty : data.isEmpty = true) :
    parts PeerCenterGroupData.default = parts data := by
  obtain ⟨pairs, times⟩ := isEmpty_maps empty
  rw [parts, parts, pairs, times]
  rfl

private theorem default_without (peerId : PeerId) :
    parts (PeerCenterGroupData.default.without peerId) = parts PeerCenterGroupData.default :=
  (parts_of_isEmpty rfl).symm

private theorem default_recent (ttlMs nowMs : UInt64) :
    parts (PeerCenterGroupData.default.recent ttlMs nowMs) = parts PeerCenterGroupData.default :=
  (parts_of_isEmpty rfl).symm

private theorem removePeer_parts (s : Center) (key : String) (peerId : PeerId) :
    parts ((s.removePeer hash key peerId).groupMut groupKey) =
      if groupKey = key then parts ((s.groupMut key).without peerId)
      else parts (s.groupMut groupKey) := by
  rw [Center.removePeer]
  cases present : s.groups.lookup key with
  | none =>
    by_cases own : groupKey = key
    · subst own
      rw [if_pos rfl, groupMut_of_none present, default_without]
    · rw [if_neg own]
  | some data =>
    rw [groupMut_of_lookup present]
    dsimp only
    split
    · rename_i empty
      by_cases own : groupKey = key
      · subst own
        rw [if_pos rfl, groupMut_of_none (by exact Finmap.lookup_erase groupKey s.groups)]
        exact parts_of_isEmpty empty
      · rw [if_neg own, Center.groupMut, FMap.lookup_erase_eq_ite, if_neg own]
        rfl
    · rw [groupMut_insert]
      split
      · rfl
      · rfl

private theorem cleanOutdated_parts (s : Center) (ttlSec nowMs : UInt64) :
    parts ((s.cleanOutdated hash ttlSec nowMs).groupMut groupKey) =
      parts ((s.groupMut groupKey).recent (saturatingMul ttlSec 1000) nowMs) := by
  rw [Center.cleanOutdated, Center.groupMut, FMap.lookup_retain, FMap.lookup_mapValues,
    Center.groupMut]
  cases s.groups.lookup groupKey with
  | none => exact (default_recent _ _).symm
  | some data =>
    rw [Option.map_some, Option.filter_some]
    split
    · rfl
    · rename_i empty
      refine parts_of_isEmpty ?_
      simpa [PeerCenterGroupData.isEmpty, PeerCenterGroupData.withDigest] using empty

end Groups

private theorem get?_reported (peerId : PeerId) (nowMs : UInt64)
    (direct : List (UInt32 × DirectConnectedPeerInfo)) (nodup : (direct.map Prod.fst).Nodup)
    (map : AscMap SrcDstPeerPair PeerCenterInfoEntry) (pair : SrcDstPeerPair) :
    (direct.foldl (fun map e => map.insert ⟨peerId, e.1⟩ ⟨e.2, nowMs⟩) map).get? pair =
      if pair.src = peerId then ((lookup direct pair.dst).map (⟨·, nowMs⟩)).or (map.get? pair)
      else map.get? pair := by
  obtain ⟨src, dst⟩ := pair
  induction direct generalizing map with
  | nil =>
    split
    · rfl
    · rfl
  | cons e direct ih =>
    obtain ⟨fresh, nodup⟩ := List.nodup_cons.mp nodup
    rw [List.foldl_cons, ih nodup, AscMap.get?_insert, lookup_cons]
    by_cases own : src = peerId
    · subst own
      rw [if_pos rfl, if_pos rfl]
      by_cases target : dst = e.1
      · subst target
        rw [if_pos rfl, if_pos rfl, lookup_eq_none fresh]
        rfl
      · rw [if_neg target, if_neg fun same => target (congrArg SrcDstPeerPair.dst same)]
    · rw [if_neg own, if_neg own, if_neg fun same => own (congrArg SrcDstPeerPair.src same)]

section Steps

variable {E : Codec} {hash : Bytes → Digest} {s : Center} {e : CenterEvent} {groupKey : String}
  {peerId : PeerId} {direct : AscMap UInt32 DirectConnectedPeerInfo}

private theorem Report.unique {key : String} {id : PeerId}
    {direct' : AscMap UInt32 DirectConnectedPeerInfo}
    (report : Report E groupKey peerId e direct) (report' : Report E key id e direct') :
    groupKey = key ∧ peerId = id ∧ direct = direct' := by
  obtain ⟨_, req, call, decoded, _, same⟩ := report
  obtain ⟨_, req', call', decoded', _, same'⟩ := report'
  rw [call] at call'
  cases call'
  rw [decoded] at decoded'
  cases decoded'
  exact ⟨rfl, rfl, same.symm.trans same'⟩

theorem centerStep_report (s : Center) {reportBytes : Bytes}
    (call : e.call = .reportPeers groupKey peerId reportBytes) :
    ((∀ key id direct, ¬ Report E key id e direct) ∧ centerStep E hash s e = s) ∨
      ∃ peers : PeerInfoForGlobalMap, Report E groupKey peerId e peers.directPeers ∧
        centerStep E hash s e = ⟨s.groups.insert groupKey
          (((s.groupMut groupKey).reported peerId peers e.nowMs).withDigest hash)⟩ := by
  obtain ⟨nowMs, _⟩ := e
  cases call
  simp only [centerStep, Center.reportPeers]
  cases decoded : E.decodeReportPeersRequest reportBytes with
  | error error =>
    refine Or.inl ⟨?_, rfl⟩
    rintro key id direct ⟨bytes, req, call, decoded', _⟩
    cases call
    rw [decoded] at decoded'
    cases decoded'
  | ok req =>
    by_cases own : req.myPeerId = peerId
    · subst own
      refine Or.inr ⟨req.peerInfos.getD ⟨∅⟩, ⟨reportBytes, req, rfl, decoded, rfl, rfl⟩, ?_⟩
      simp only [ne_eq, not_true_eq_false, if_false]
      rfl
    · refine Or.inl ⟨?_, ?_⟩
      · rintro key id direct ⟨bytes, req', call, decoded', own', _⟩
        cases call
        rw [decoded] at decoded'
        cases decoded'
        exact own own'
      · simp only [own, ne_eq, not_false_eq_true, if_true]
        rfl

private theorem centerStep_request (s : Center) {key : String} {requestBytes : Bytes}
    (call : e.call = .getGlobalPeerMap key requestBytes) :
    (centerStep E hash s e).groupMut groupKey = s.groupMut groupKey := by
  obtain ⟨nowMs, _⟩ := e
  cases call
  cases decoded : E.decodeGetGlobalPeerMapRequest requestBytes with
  | error error =>
    simp only [centerStep, Center.getGlobalPeerMap, Center.answerGlobalPeerMap, decoded]
    rfl
  | ok req =>
    have answer : answered E s ⟨nowMs, .getGlobalPeerMap key requestBytes⟩ =
        some ⟨key, req.digest, (s.groupMut key).answer req.digest⟩ := by
      simp only [answered, decoded, getGlobalPeerMap_ran decoded]
    rw [(answered_some answer).2.2, groupMut_insert]
    split
    · rename_i own
      rw [own]
    · rfl

private theorem get?_report (data : PeerCenterGroupData) (id : PeerId)
    (peers : PeerInfoForGlobalMap) (nowMs : UInt64) (pair : SrcDstPeerPair) :
    ((data.reported id peers nowMs).withDigest hash).globalPeerMap.get? pair =
      if pair.src = id then
        ((peers.directPeers.get? pair.dst).map (⟨·, nowMs⟩)).or (data.globalPeerMap.get? pair)
      else data.globalPeerMap.get? pair :=
  get?_reported id nowMs _ peers.directPeers.keys_nodup _ pair

private theorem entryAt_removePeer (s : Center) (key : String) (id : PeerId)
    (pair : SrcDstPeerPair) :
    entryAt (s.removePeer hash key id) groupKey pair =
      if groupKey = key then
        (entryAt s groupKey pair).filter fun _ => pair.src ≠ id && pair.dst ≠ id
      else entryAt s groupKey pair := by
  have parted := @removePeer_parts hash groupKey s key id
  show (parts ((s.removePeer hash key id).groupMut groupKey)).1.get? pair = _
  rw [parted]
  by_cases own : groupKey = key
  · subst own
    rw [if_pos rfl, if_pos rfl]
    exact AscMap.get?_retain _ _ _
  · rw [if_neg own, if_neg own]
    rfl

private theorem entryAt_cleanOutdated (s : Center) (ttlSec nowMs : UInt64) (pair : SrcDstPeerPair) :
    entryAt (s.cleanOutdated hash ttlSec nowMs) groupKey pair =
      (entryAt s groupKey pair).filter fun entry =>
        saturatingSub nowMs entry.updateTimeMs < saturatingMul ttlSec 1000 := by
  have parted := @cleanOutdated_parts hash groupKey s ttlSec nowMs
  show (parts ((s.cleanOutdated hash ttlSec nowMs).groupMut groupKey)).1.get? pair = _
  rw [parted]
  exact AscMap.get?_retain _ _ _

variable {pair : SrcDstPeerPair} {entry : PeerCenterInfoEntry}

private theorem Leaves.of_silent (repeated : ∀ direct, Report E groupKey pair.src e direct →
      direct.get? pair.dst = none) (stay : ∀ peerId, e.call ≠ .removePeer groupKey peerId)
    (keep : ∀ ttlSec, e.call ≠ .cleanOutdated ttlSec) : Leaves E groupKey pair entry e :=
  ⟨repeated, fun peerId left => absurd left (stay peerId),
    fun ttlSec cleaned => absurd cleaned (keep ttlSec)⟩

private theorem entryAt_report (s : Center) {key : String} {id : PeerId} {reportBytes : Bytes}
    (call : e.call = .reportPeers key id reportBytes) :
    entryAt (centerStep E hash s e) groupKey pair = some entry ↔
      Brings E groupKey pair entry e ∨
        (entryAt s groupKey pair = some entry ∧ Leaves E groupKey pair entry e) := by
  have leaves (repeated : ∀ direct, Report E groupKey pair.src e direct →
      direct.get? pair.dst = none) : Leaves E groupKey pair entry e :=
    .of_silent repeated (by simp [call]) (by simp [call])
  rcases @centerStep_report E hash e key id s reportBytes call with
    ⟨refused, same⟩ | ⟨peers, report, written⟩
  · rw [same]
    constructor
    · exact fun held => Or.inr ⟨held, leaves fun direct made => absurd made (refused _ _ _)⟩
    · rintro (⟨direct, made, _⟩ | ⟨held, _⟩)
      · exact absurd made (refused _ _ _)
      · exact held
  · rw [written, entryAt, groupMut_insert]
    have ours {direct : AscMap UInt32 DirectConnectedPeerInfo}
        (made : Report E groupKey pair.src e direct) :
        groupKey = key ∧ pair.src = id ∧ direct = peers.directPeers := made.unique report
    by_cases own : groupKey = key ∧ pair.src = id
    · obtain ⟨rfl, rfl⟩ := own
      rw [if_pos rfl, get?_report, if_pos rfl]
      show ((peers.directPeers.get? pair.dst).map (⟨·, e.nowMs⟩)).or (entryAt s groupKey pair) =
        some entry ↔ _
      cases listed : peers.directPeers.get? pair.dst with
      | none =>
        constructor
        · intro held
          refine Or.inr ⟨held, leaves fun direct made => ?_⟩
          rw [(ours made).2.2, listed]
        · rintro (⟨direct, made, told, _⟩ | ⟨held, _⟩)
          · rw [(ours made).2.2, listed] at told
            cases told
          · exact held
      | some info =>
        constructor
        · intro held
          obtain rfl : ⟨info, e.nowMs⟩ = entry := Option.some.inj held
          exact Or.inl ⟨_, report, listed, rfl⟩
        · rintro (⟨direct, made, told, stamped⟩ | ⟨_, left⟩)
          · rw [(ours made).2.2, listed] at told
            obtain ⟨info', updateTimeMs⟩ := entry
            cases told
            subst stamped
            rfl
          · have silent := left.repeated _ report
            rw [listed] at silent
            cases silent
    · have foreign (direct : AscMap UInt32 DirectConnectedPeerInfo) :
          ¬ Report E groupKey pair.src e direct :=
        fun made => own ⟨(ours made).1, (ours made).2.1⟩
      have after : (if groupKey = key then ((s.groupMut key).reported id peers e.nowMs).withDigest
          hash else s.groupMut groupKey).globalPeerMap.get? pair = entryAt s groupKey pair := by
        by_cases here : groupKey = key
        · subst here
          rw [if_pos rfl, get?_report, if_neg fun same => own ⟨rfl, same⟩]
          rfl
        · rw [if_neg here]
          rfl
      rw [after]
      constructor
      · exact fun held => Or.inr ⟨held, leaves fun direct made => absurd made (foreign direct)⟩
      · rintro (⟨direct, made, _⟩ | ⟨held, _⟩)
        · exact absurd made (foreign direct)
        · exact held

private theorem entryAt_quiet (quiet : ∀ key id bytes, e.call ≠ .reportPeers key id bytes)
    (same : entryAt (centerStep E hash s e) groupKey pair = some entry ↔
      entryAt s groupKey pair = some entry ∧
        (∀ peerId, e.call = .removePeer groupKey peerId → pair.src ≠ peerId ∧ pair.dst ≠ peerId) ∧
        ∀ ttlSec, e.call = .cleanOutdated ttlSec →
          saturatingSub e.nowMs entry.updateTimeMs < saturatingMul ttlSec 1000) :
    entryAt (centerStep E hash s e) groupKey pair = some entry ↔
      Brings E groupKey pair entry e ∨
        (entryAt s groupKey pair = some entry ∧ Leaves E groupKey pair entry e) := by
  have silent (direct : AscMap UInt32 DirectConnectedPeerInfo) :
      ¬ Report E groupKey pair.src e direct :=
    fun ⟨bytes, _, call, _⟩ => quiet _ _ _ call
  rw [same]
  constructor
  · rintro ⟨held, departed, fresh⟩
    exact Or.inr ⟨held, fun direct made => absurd made (silent direct), departed, fresh⟩
  · rintro (⟨direct, made, _⟩ | ⟨held, left⟩)
    · exact absurd made (silent direct)
    · exact ⟨held, left.departed, left.fresh⟩

/-- One event, seen by one pair. -/
theorem entryAt_step (s : Center) (e : CenterEvent) (pair : SrcDstPeerPair)
    (entry : PeerCenterInfoEntry) :
    entryAt (centerStep E hash s e) groupKey pair = some entry ↔
      Brings E groupKey pair entry e ∨
        (entryAt s groupKey pair = some entry ∧ Leaves E groupKey pair entry e) := by
  obtain ⟨nowMs, call⟩ := e
  cases call with
  | reportPeers key id reportBytes => exact entryAt_report s rfl
  | removePeer key id =>
    refine entryAt_quiet (by simp) ?_
    show entryAt (s.removePeer hash key id) groupKey pair = some entry ↔ _
    rw [entryAt_removePeer]
    by_cases own : groupKey = key
    · subst own
      rw [if_pos rfl, Option.filter_eq_some_iff]
      simp
    · have away : key ≠ groupKey := fun same => own same.symm
      rw [if_neg own]
      simp [away]
  | cleanOutdated ttlSec =>
    refine entryAt_quiet (by simp) ?_
    show entryAt (s.cleanOutdated hash ttlSec nowMs) groupKey pair = some entry ↔ _
    rw [entryAt_cleanOutdated, Option.filter_eq_some_iff]
    simp
  | getGlobalPeerMap key requestBytes =>
    refine entryAt_quiet (by simp) ?_
    rw [entryAt, centerStep_request s rfl]
    simp [entryAt]

theorem timeAt_step (s : Center) (e : CenterEvent) (peerId : PeerId)
    (held : (timeAt (centerStep E hash s e) groupKey peerId).isSome = true) :
    (∃ direct, Report E groupKey peerId e direct) ∨
      ((timeAt s groupKey peerId).isSome = true ∧ e.call ≠ .removePeer groupKey peerId) := by
  obtain ⟨nowMs, call⟩ := e
  cases call with
  | reportPeers key id reportBytes =>
    rcases @centerStep_report E hash ⟨nowMs, .reportPeers key id reportBytes⟩ key id s reportBytes
      rfl with ⟨_, same⟩ | ⟨peers, report, written⟩
    · rw [same] at held
      exact Or.inr ⟨held, by simp⟩
    · rw [written, timeAt, groupMut_insert] at held
      by_cases own : groupKey = key ∧ peerId = id
      · obtain ⟨rfl, rfl⟩ := own
        exact Or.inl ⟨_, report⟩
      · refine Or.inr ⟨?_, by simp⟩
        by_cases here : groupKey = key
        · subst here
          have other : peerId ≠ id := fun same => own ⟨rfl, same⟩
          rw [if_pos rfl] at held
          have inserted : (((s.groupMut groupKey).peerReportTime.insert id nowMs).get?
            peerId).isSome = true := held
          rw [AscMap.get?_insert, if_neg other] at inserted
          exact inserted
        · rw [if_neg here] at held
          exact held
  | removePeer key id =>
    have parted := @removePeer_parts hash groupKey s key id
    have held : ((parts ((s.removePeer hash key id).groupMut groupKey)).2.get? peerId).isSome =
      true := held
    rw [parted] at held
    by_cases own : groupKey = key
    · subst own
      rw [if_pos rfl] at held
      have erased : (((s.groupMut groupKey).peerReportTime.erase id).get? peerId).isSome = true :=
        held
      rw [AscMap.get?_erase] at erased
      by_cases same : peerId = id
      · rw [if_pos same] at erased
        cases erased
      · rw [if_neg same] at erased
        exact Or.inr ⟨erased, by simpa using fun equal : id = peerId => same equal.symm⟩
    · rw [if_neg own] at held
      exact Or.inr ⟨held, by simpa using fun equal : key = groupKey => absurd equal.symm own⟩
  | cleanOutdated ttlSec =>
    have parted := @cleanOutdated_parts hash groupKey s ttlSec nowMs
    have held : ((parts ((s.cleanOutdated hash ttlSec nowMs).groupMut groupKey)).2.get?
      peerId).isSome = true := held
    rw [parted] at held
    have recent : (((s.groupMut groupKey).peerReportTime.retain fun _ reportedMs =>
      saturatingSub nowMs reportedMs < saturatingMul ttlSec 1000).get? peerId).isSome = true := held
    rw [AscMap.get?_retain] at recent
    exact Or.inr ⟨Option.isSome_of_isSome_filter _ _ recent, by simp⟩
  | getGlobalPeerMap key requestBytes =>
    rw [timeAt, centerStep_request s rfl] at held
    exact Or.inr ⟨held, by simp⟩

/-- In every run the map of a network holds an entry exactly if the source of the pair reported it,
at the time it is stamped with, and nothing has ended it since: no other report on the pair, no
departure of either end, no clean-up that found the entry outdated. -/
theorem map_holds_reports (groupKey : String) (pair : SrcDstPeerPair) (entry : PeerCenterInfoEntry)
    (es : List CenterEvent) :
    entryAt (run (centerStep E hash) Center.new es) groupKey pair = some entry ↔
      ∃ before e mid, es = before ++ e :: mid ∧ Brings E groupKey pair entry e ∧
        ∀ f ∈ mid, Leaves E groupKey pair entry f := by
  rw [@holds_iff_birth _ _ (centerStep E hash) Center.new
    (fun s => entryAt s groupKey pair = some entry) (fun _ e => Brings E groupKey pair entry e)
    (fun _ e => Leaves E groupKey pair entry e)
    (fun s e => entryAt_step s e pair entry) (fun held => by cases held)]
  constructor
  · rintro ⟨before, e, mid, split, reports, kept⟩
    refine ⟨before, e, mid, split, reports, fun f later => ?_⟩
    obtain ⟨pre, post, rfl⟩ := List.append_of_mem later
    exact kept pre f post rfl
  · rintro ⟨before, e, mid, split, reports, kept⟩
    refine ⟨before, e, mid, split, reports, fun pre f post same => kept f ?_⟩
    rw [same]
    simp

end Steps

end EasyTierEdge.Rpc.Reports
