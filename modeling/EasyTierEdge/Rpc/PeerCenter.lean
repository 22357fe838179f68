/- module: EasyTierEdge/Rpc/PeerCenter
   source: cloudflare/wasm/src/peer_center.rs
   digest: The latencies that the peers of a network report, and the digest of the whole map. -/

import EasyTierEdge.Lib.Endian
import EasyTierEdge.Lib.FiniteMap
import EasyTierEdge.Lib.Saturating
import EasyTierEdge.Proto

set_option autoImplicit false
set_option relaxedAutoImplicit false

namespace EasyTierEdge.Rpc.PeerCenter

open Lib.AscendingMap Lib.Endian Lib.FiniteMap Lib.Saturating
open Packet (Bytes)
open Proto

abbrev Digest := UInt64
abbrev PeerId := UInt32

structure SrcDstPeerPair where
  src : PeerId
  dst : PeerId
  deriving DecidableEq

/-- The derived order: by source first. -/
instance pairLinearOrder : LinearOrder SrcDstPeerPair :=
  LinearOrder.lift' (fun pair => toLex (pair.src, pair.dst)) fun a b same => by
    obtain ⟨src, dst⟩ := a
    obtain ⟨src', dst'⟩ := b
    obtain ⟨rfl, rfl⟩ := Prod.mk.inj (toLex.injective same)
    rfl

structure PeerCenterInfoEntry where
  info : DirectConnectedPeerInfo
  updateTimeMs : UInt64
  deriving DecidableEq

structure PeerCenterGroupData where
  globalPeerMap : AscMap SrcDstPeerPair PeerCenterInfoEntry
  peerReportTime : AscMap PeerId UInt64
  digest : Digest
  deriving DecidableEq

def PeerCenterGroupData.default : PeerCenterGroupData := ⟨∅, ∅, 0⟩

/-- The groups; `PeerCenter` in the source. -/
structure Center where
  groups : FMap String PeerCenterGroupData

abbrev CenterM := EStateM String Center

/-- What the hasher is fed with for one entry: three numbers of four bytes. -/
def hashedEntry (pair : SrcDstPeerPair) (info : DirectConnectedPeerInfo) : Bytes :=
  toLe 4 pair.src.toNat ++ toLe 4 pair.dst.toNat ++ toLe 4 info.latencyMs.toUInt32.toNat

namespace PeerCenterGroupData

/-- The bytes behind a digest, in the order of the sorted keys. -/
def hashedBytes (data : PeerCenterGroupData) : Bytes :=
  data.globalPeerMap.entries.flatMap fun e => hashedEntry e.1 e.2.info

/-- `calc_digest_internal`; `hash` is what the default hasher makes of the bytes it is fed with. -/
def calcDigestInternal (hash : Bytes → Digest) (data : PeerCenterGroupData) : Digest :=
  hash data.hashedBytes

def withDigest (hash : Bytes → Digest) (data : PeerCenterGroupData) : PeerCenterGroupData :=
  { data with digest := data.calcDigestInternal hash }

/-- The new entries of a report, apart from the digest. -/
def reported (data : PeerCenterGroupData) (peerId : PeerId) (peers : PeerInfoForGlobalMap)
    (nowMs : UInt64) : PeerCenterGroupData :=
  { data with
    peerReportTime := data.peerReportTime.insert peerId nowMs
    globalPeerMap := peers.directPeers.entries.foldl
      (fun map direct => map.insert ⟨peerId, direct.1⟩ ⟨direct.2, nowMs⟩) data.globalPeerMap }

def without (data : PeerCenterGroupData) (peerId : PeerId) : PeerCenterGroupData :=
  { data with
    peerReportTime := data.peerReportTime.erase peerId
    globalPeerMap := data.globalPeerMap.retain fun pair _ =>
      pair.src ≠ peerId && pair.dst ≠ peerId }

def recent (data : PeerCenterGroupData) (ttlMs nowMs : UInt64) : PeerCenterGroupData :=
  { data with
    peerReportTime := data.peerReportTime.retain fun _ reportedMs =>
      saturatingSub nowMs reportedMs < ttlMs
    globalPeerMap := data.globalPeerMap.retain fun _ entry =>
      saturatingSub nowMs entry.updateTimeMs < ttlMs }

def isEmpty (data : PeerCenterGroupData) : Bool :=
  data.globalPeerMap.entries.isEmpty && data.peerReportTime.entries.isEmpty

/-- The map of a full answer: by source, then by destination. -/
def fullMap (data : PeerCenterGroupData) : AscMap UInt32 PeerInfoForGlobalMap :=
  data.globalPeerMap.entries.foldl
    (fun map e => map.upsert e.1.src ⟨∅⟩ fun m => ⟨m.directPeers.insert e.1.dst e.2.info⟩) ∅

/-- The answer to a request with this digest; an unchanged map is answered with the default
message. -/
def answer (data : PeerCenterGroupData) (digest : Digest) : GetGlobalPeerMapResponse :=
  if digest = data.digest ∧ digest ≠ 0 then ⟨∅, none⟩ else ⟨data.fullMap, some data.digest⟩

end PeerCenterGroupData

namespace Center

def new : Center := ⟨∅⟩

/-- `group_mut`. -/
def groupMut (s : Center) (groupKey : String) : PeerCenterGroupData :=
  (s.groups.lookup groupKey).getD PeerCenterGroupData.default

def reportPeers (E : Codec) (hash : Bytes → Digest) (groupKey : String)
    (authenticatedPeerId : PeerId) (reportBytes : Bytes) (nowMs : UInt64) : CenterM Bytes := do
  match E.decodeReportPeersRequest reportBytes with
  | .error e => throw s!"decode ReportPeersRequest failed: {e}"
  | .ok req =>
    if req.myPeerId ≠ authenticatedPeerId then
      throw "ReportPeersRequest peer id does not match the authenticated connection"
    let peers := req.peerInfos.getD ⟨∅⟩
    modify fun s => ⟨s.groups.insert groupKey
      (((s.groupMut groupKey).reported req.myPeerId peers nowMs).withDigest hash)⟩
    return E.encodeReportPeersResponse

def removePeer (s : Center) (hash : Bytes → Digest) (groupKey : String) (peerId : PeerId) :
    Center :=
  match s.groups.lookup groupKey with
  | none => s
  | some data =>
    let data := (data.without peerId).withDigest hash
    if data.isEmpty then ⟨s.groups.erase groupKey⟩ else ⟨s.groups.insert groupKey data⟩

/-- `get_global_peer_map` before its answer is encoded. -/
def answerGlobalPeerMap (E : Codec) (groupKey : String) (requestBytes : Bytes) :
    CenterM GetGlobalPeerMapResponse := do
  match E.decodeGetGlobalPeerMapRequest requestBytes with
  | .error e => throw s!"decode GetGlobalPeerMapRequest failed: {e}"
  | .ok req =>
    let s ← get
    let data := s.groupMut groupKey
    set (⟨s.groups.insert groupKey data⟩ : Center)
    return data.answer req.digest

def getGlobalPeerMap (E : Codec) (groupKey : String) (requestBytes : Bytes) : CenterM Bytes := do
  let resp ← answerGlobalPeerMap E groupKey requestBytes
  return E.encodeGetGlobalPeerMapResponse resp

def cleanOutdated (s : Center) (hash : Bytes → Digest) (ttlSec nowMs : UInt64) : Center :=
  ⟨FMap.retain (fun _ data => !data.isEmpty) (FMap.mapValues
    (fun data => (data.recent (saturatingMul ttlSec 1000) nowMs).withDigest hash) s.groups)⟩

end Center

end EasyTierEdge.Rpc.PeerCenter
