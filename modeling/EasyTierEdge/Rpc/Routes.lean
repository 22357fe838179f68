/- module: EasyTierEdge/Rpc/Routes
   source: cloudflare/wasm/src/route_state.rs
   digest: The route groups: members, their route infos, and what each member has acknowledged. -/

import EasyTierEdge.Lib.FiniteMap
import EasyTierEdge.Lib.Saturating
import EasyTierEdge.Proto

set_option autoImplicit false
set_option relaxedAutoImplicit false

namespace EasyTierEdge.Rpc.Routes

open Lib.AscendingMap Lib.FiniteMap Lib.Saturating
open Packet (Bytes Key keyOfBytes)
open Proto

def easytierVersion : String := "2.6.4-8428a89d-edge"
def maxLegacyBitmapPeers : Nat := 8_192
def savedRouteVersionTtlMs : UInt64 := 60_000

structure RouteSyncOutcome where
  response : Bytes
  routeChanged : Bool
  sessionChanged : Bool
  deriving DecidableEq

/-- `RouteUpdate`, with the request that `payload` encodes. -/
structure RouteUpdate where
  request : SyncRouteInfoRequest
  payload : Bytes
  peerInfoVersions : List (UInt32 × UInt32)
  topologyVersion : Option UInt64
  deriving DecidableEq

structure SavedVersion where
  version : UInt32
  touchedAtMs : UInt64
  deriving DecidableEq

structure SessionState where
  mySessionId : Option UInt64
  dstSessionId : Option UInt64
  weAreInitiator : Bool
  peerInfoVerMap : AscMap UInt32 SavedVersion
  foreignNetVer : UInt32
  lastTouchMs : UInt64
  lastTopologyVersion : UInt64
  lastTopologyTouchMs : UInt64
  deriving DecidableEq

def SessionState.default : SessionState where
  mySessionId := none
  dstSessionId := none
  weAreInitiator := false
  peerInfoVerMap := ∅
  foreignNetVer := 0
  lastTouchMs := 0
  lastTopologyVersion := 0
  lastTopologyTouchMs := 0

structure RouteGroupData where
  peers : AscSet UInt32
  peerInfos : AscMap UInt32 RoutePeerInfo
  authenticatedPeerKeys : AscMap UInt32 Key
  sessions : AscMap UInt32 SessionState
  peerConnVersions : AscMap UInt32 UInt32
  topologyVersion : UInt64
  cachedConnBitmap : Option (UInt64 × RouteConnBitmap)
  cachedConnPeerList : Option (UInt64 × RouteConnPeerList)
  myInfo : RoutePeerInfo
  myInfoVersion : UInt32
  deriving DecidableEq

structure RouteState where
  groups : FMap String RouteGroupData
  myPeerId : UInt32

/-- What the JavaScript host supplies during one call: the readings of `Date.now` in their order,
the `Math.random` draws of a group that is created, and the outcomes of `getrandom`. -/
structure Host where
  clock : Nat → UInt64
  instId : Uuid
  peerRouteId : UInt64
  fill : Nat → Except String UInt64

abbrev GroupM := EStateM String RouteGroupData

abbrev RouteM := EStateM String RouteState

namespace SessionState

/-- What is forgotten about a peer that started a new session. -/
def forget (s : SessionState) : SessionState :=
  { s with peerInfoVerMap := ∅, foreignNetVer := 0, lastTopologyVersion := 0 }

/-- Switch to the session id the peer names. -/
def follow (s : SessionState) (theirSessionId : UInt64) (weAreInitiator : Bool)
    (nowMs : UInt64) : SessionState :=
  { (if s.dstSessionId ≠ some theirSessionId then s.forget else s) with
    dstSessionId := some theirSessionId
    weAreInitiator := weAreInitiator
    lastTouchMs := nowMs }

/-- The version of the info of `pid` that the peer is known to have, while that is fresh. -/
def savedVersion (s : SessionState) (pid : UInt32) (currentMs : UInt64) : UInt32 :=
  ((s.peerInfoVerMap.get? pid).filter fun saved =>
    saturatingSub currentMs saved.touchedAtMs < savedRouteVersionTtlMs).elim 0 SavedVersion.version

/-- Note one acknowledged version. -/
def saveVersion (currentMs : UInt64) (saved : AscMap UInt32 SavedVersion)
    (sent : UInt32 × UInt32) : AscMap UInt32 SavedVersion :=
  saved.upsert sent.1 ⟨sent.2, currentMs⟩ fun current => ⟨max current.version sent.2, currentMs⟩

def commit (s : SessionState) (peerInfoVersions : List (UInt32 × UInt32))
    (topologyVersion : Option UInt64) (currentMs : UInt64) : SessionState :=
  { s with
    peerInfoVerMap := peerInfoVersions.foldl (saveVersion currentMs) s.peerInfoVerMap
    lastTopologyVersion := topologyVersion.elim s.lastTopologyVersion (max s.lastTopologyVersion)
    lastTopologyTouchMs := topologyVersion.elim s.lastTopologyTouchMs fun _ => currentMs
    lastTouchMs := currentMs }

end SessionState

/-- `u32::from_str`. -/
def parseU32 (value : String) : Option UInt32 :=
  let digits := match value.toList with
    | '+' :: rest => rest
    | chars => chars
  if digits.isEmpty || !digits.all Char.isDigit then none
  else
    let number := digits.foldl (fun n c => 10 * n + (c.toNat - '0'.toNat)) 0
    if number < 2 ^ 32 then some (UInt32.ofNat number) else none

namespace RouteGroupData

/-- The group that `ensure_group` creates. -/
def new (myPeerId : UInt32) (host : Host) : RouteGroupData where
  peers := ∅
  peerInfos := ∅
  authenticatedPeerKeys := ∅
  sessions := ∅
  peerConnVersions := ∅
  topologyVersion := 1
  cachedConnBitmap := none
  cachedConnPeerList := none
  myInfo := { RoutePeerInfo.default with
    peerId := myPeerId
    instId := some host.instId
    cost := 0
    version := 1
    networkLength := 24
    easytierVersion := easytierVersion
    hostname := some "edge"
    peerRouteId := host.peerRouteId
    featureFlag := some { PeerFeatureFlag.default with
      isPublicServer := true
      avoidRelayData := false
      kcpInput := false
      noRelayKcp := false
      supportConnListSync := true
      disableP2p := true } }
  myInfoVersion := 1

def bumpAllConnVersions (g : RouteGroupData) (myPeerId : UInt32) : RouteGroupData :=
  let all := g.peerInfos.keys.foldl (fun s pid => s.insert pid ()) g.peers
  let bumped := all.keys.foldl
    (fun versions pid => versions.insert pid ((versions.get? pid).getD 1 + 1)) g.peerConnVersions
  { g with
    peerConnVersions := bumped.upsert myPeerId 1 (· + 1)
    topologyVersion := max (g.topologyVersion + 1) 1
    cachedConnBitmap := none
    cachedConnPeerList := none }

def addPeer (myPeerId peerId : UInt32) (publicKey : Key) : GroupM Unit := do
  let g ← get
  if (g.authenticatedPeerKeys.get? peerId).any (· ≠ publicKey) then
    throw "peer id is already bound to another authenticated public key"
  let isNew := (g.peers.get? peerId).isNone
  let g := { g with
    authenticatedPeerKeys := g.authenticatedPeerKeys.insert peerId publicKey
    peers := g.peers.insert peerId () }
  set (if isNew then g.bumpAllConnVersions myPeerId else g)

def removePeer (g : RouteGroupData) (myPeerId peerId : UInt32) : RouteGroupData :=
  let wasPresent := (g.peers.get? peerId).isSome
  let hadInfo := (g.peerInfos.get? peerId).isSome
  let g := { g with
    peers := g.peers.erase peerId
    peerInfos := g.peerInfos.erase peerId
    authenticatedPeerKeys := g.authenticatedPeerKeys.erase peerId
    sessions := (g.sessions.erase peerId).mapValues fun s =>
      { s with peerInfoVerMap := s.peerInfoVerMap.erase peerId, lastTopologyVersion := 0 }
    peerConnVersions := g.peerConnVersions.erase peerId }
  if wasPresent || hadInfo then g.bumpAllConnVersions myPeerId else g

def onRouteSessionAck (g : RouteGroupData) (peerId : UInt32) (theirSessionId : UInt64)
    (weAreInitiator : Bool) (nowMs : UInt64) : RouteGroupData :=
  { g with sessions := g.sessions.upsert peerId SessionState.default fun s =>
      s.follow theirSessionId weAreInitiator nowMs }

def commitRouteUpdate (g : RouteGroupData) (peerId : UInt32)
    (peerInfoVersions : List (UInt32 × UInt32)) (topologyVersion : Option UInt64)
    (currentMs : UInt64) : RouteGroupData :=
  { g with sessions := g.sessions.upsert peerId SessionState.default fun s =>
      s.commit peerInfoVersions topologyVersion currentMs }

/-- Give the relay's own info its next version. -/
def publishMyInfo (g : RouteGroupData) (myInfo : RoutePeerInfo) : RouteGroupData :=
  { g with
    myInfo := { myInfo with version := g.myInfoVersion + 1 }
    myInfoVersion := g.myInfoVersion + 1 }

def setMyInfoField (field value : String) : GroupM Unit := do
  let g ← get
  match field with
  | "hostname" => set (g.publishMyInfo { g.myInfo with hostname := some value })
  | "network_length" =>
    match parseU32 value with
    | some networkLength => set (g.publishMyInfo { g.myInfo with networkLength := networkLength })
    | none => throw "invalid network_length"
  | "ipv4_addr" =>
    match parseU32 value with
    | some addr => set (g.publishMyInfo { g.myInfo with ipv4Addr := some ⟨addr⟩ })
    | none => throw "invalid ipv4_addr"
  | _ => throw "unknown field"

/-! Connection infos. -/

/-- Bit `row * n + col`, least significant bit first. -/
def setBit (n : Nat) (bitmap : Bytes) (row col : Nat) : Bytes :=
  let idx := row * n + col
  bitmap.modify (idx / 8) fun byte => byte ||| (1 <<< UInt8.ofNat (idx % 8))

/-- The adjacency matrix of a star around the relay, reflexive. -/
def connBitmap (relevantPeers : List UInt32) (myPeerId : UInt32) : Bytes :=
  let n := relevantPeers.length
  let empty : Bytes := List.replicate ((n * n + 7) / 8) 0
  let diagonal := (List.range n).foldl (fun bitmap i => setBit n bitmap i i) empty
  match relevantPeers.idxOf? myPeerId with
  | some serverIdx =>
    (List.range n).foldl (fun bitmap i =>
      if i = serverIdx then bitmap
      else setBit n (setBit n bitmap serverIdx i) i serverIdx) diagonal
  | none =>
    (List.range n).foldl (fun bitmap i =>
      (List.range n).foldl (fun bitmap j => setBit n bitmap i j) bitmap) diagonal

def peerIdVersions (g : RouteGroupData) (relevantPeers : List UInt32) : List PeerIdVersion :=
  relevantPeers.map fun pid => ⟨pid, (g.peerConnVersions.get? pid).getD 1⟩

/-- The sparse form of the same topology. -/
def connPeerList (g : RouteGroupData) (relevantPeers : List UInt32) (myPeerId : UInt32) :
    RouteConnPeerList where
  peerConnInfos := (g.peerIdVersions relevantPeers).map fun peerId =>
    { peerId := some peerId
      connectedPeerIds :=
        if peerId.peerId = myPeerId then relevantPeers.filter (· ≠ myPeerId) else [myPeerId] }

/-- Whether the target has acknowledged the current topology within the last minute. -/
def topologyKnown (g : RouteGroupData) (targetPeerId : UInt32) (nowMs : UInt64) : Bool :=
  (g.sessions.get? targetPeerId).any fun session =>
    session.lastTopologyVersion == g.topologyVersion &&
      saturatingSub nowMs session.lastTopologyTouchMs < savedRouteVersionTtlMs

def buildConnInfo (relevantPeers : List UInt32) (targetPeerId : UInt32) (supportsConnList : Bool)
    (myPeerId : UInt32) (nowMs : UInt64) : GroupM (Option ConnInfo) := do
  if relevantPeers.isEmpty then
    return none
  let g ← get
  if g.topologyKnown targetPeerId nowMs then
    return none
  if supportsConnList then
    match g.cachedConnPeerList.filter fun cached => cached.1 == g.topologyVersion with
    | some cached => return some (.connPeerList cached.2)
    | none =>
      let result := g.connPeerList relevantPeers myPeerId
      set { g with cachedConnPeerList := some (g.topologyVersion, result) }
      return some (.connPeerList result)
  else
    match g.cachedConnBitmap.filter fun cached => cached.1 == g.topologyVersion with
    | some cached => return some (.connBitmap cached.2)
    | none =>
      if relevantPeers.length > maxLegacyBitmapPeers then
        throw ("peer does not support sparse route synchronization and " ++
          "the legacy bitmap limit was exceeded")
      let result : RouteConnBitmap :=
        ⟨g.peerIdVersions relevantPeers, connBitmap relevantPeers myPeerId⟩
      set { g with cachedConnBitmap := some (g.topologyVersion, result) }
      return some (.connBitmap result)

/-! Route synchronisation. -/

/-- The ids an update speaks about; the source lists the relay first and then sorts. -/
def relevantPeers (g : RouteGroupData) (myPeerId targetPeerId : UInt32) : List UInt32 :=
  ((g.peers.insert myPeerId ()).insert targetPeerId ()).keys

/-- The info sent for `pid`: the relay's own, or the one the peer published. -/
def infoOf (g : RouteGroupData) (myPeerId pid : UInt32) : Option RoutePeerInfo :=
  if pid = myPeerId then some g.myInfo else g.peerInfos.get? pid

/-- The version an info is compared and acknowledged with. -/
def sentVersion (info : RoutePeerInfo) : UInt32 := max info.version 1

/-- The infos that the target does not have yet, each with the id it is listed under. -/
def missingInfos (g : RouteGroupData) (myPeerId targetPeerId : UInt32) (forceFull : Bool)
    (currentMs : UInt64) : List (UInt32 × RoutePeerInfo) :=
  let session := (g.sessions.get? targetPeerId).getD SessionState.default
  (g.relevantPeers myPeerId targetPeerId).filterMap fun pid =>
    if pid = targetPeerId then none
    else
      ((g.infoOf myPeerId pid).filter fun info =>
        forceFull || sentVersion info > session.savedVersion pid currentMs).map (pid, ·)

/-- Note the session id the relay uses towards the target. -/
def touchSession (g : RouteGroupData) (targetPeerId : UInt32) (serverSessionId nowMs : UInt64) :
    RouteGroupData :=
  { g with sessions := g.sessions.upsert targetPeerId SessionState.default fun s =>
      { s with mySessionId := some serverSessionId, lastTouchMs := nowMs } }

/-- `force_full_local`: everything is sent to a target that has not named a session yet. -/
def forceFullLocal (g : RouteGroupData) (targetPeerId : UInt32) (forceFull : Bool) : Bool :=
  forceFull || (g.sessions.get? targetPeerId).elim true fun s => s.dstSessionId.isNone

def supportsConnList (g : RouteGroupData) (targetPeerId : UInt32) : Bool :=
  ((g.peerInfos.get? targetPeerId).bind RoutePeerInfo.featureFlag).any
    PeerFeatureFlag.supportConnListSync

/-- `build_sync_route_info_request` on the group; it reads the clock three times. -/
def buildSyncRouteInfoRequest (E : Codec) (host : Host) (myPeerId targetPeerId : UInt32)
    (serverSessionId : UInt64) (weAreInitiator forceFull : Bool) : GroupM RouteUpdate := do
  modify fun g => g.touchSession targetPeerId serverSessionId (host.clock 0)
  let g ← get
  let relevantPeers := g.relevantPeers myPeerId targetPeerId
  let missing := g.missingInfos myPeerId targetPeerId (g.forceFullLocal targetPeerId forceFull)
    (host.clock 1)
  let connInfo ← buildConnInfo relevantPeers targetPeerId (g.supportsConnList targetPeerId) myPeerId
    (host.clock 2)
  let request : SyncRouteInfoRequest := {
    myPeerId
    mySessionId := serverSessionId
    isInitiator := weAreInitiator
    peerInfos := if missing.isEmpty then none else some ⟨missing.map Prod.snd⟩
    connInfo }
  return {
    request
    payload := E.encodeSyncRouteInfoRequest request
    peerInfoVersions := missing.map fun sent => (sent.1, sentVersion sent.2)
    topologyVersion := connInfo.map fun _ => g.topologyVersion }

/-- One info of a sync request: whether it was stored, and whether it is the peer's first. -/
def storeRouteInfo (fromPeerId : UInt32) (stampMs : UInt64) (info : RoutePeerInfo) :
    GroupM (Bool × Bool) := do
  if info.peerId ≠ fromPeerId then
    return (false, false)
  let g ← get
  match g.authenticatedPeerKeys.get? fromPeerId with
  | none => throw "route peer has no authenticated public key"
  | some authenticatedKey =>
    if info.noiseStaticPubkey ≠ authenticatedKey.toList then
      throw "RoutePeerInfo public key does not match the authenticated Noise identity"
    let current := g.peerInfos.get? info.peerId
    let instanceChanged := current.any fun current => current.instId ≠ info.instId
    let shouldUpdate := instanceChanged || current.all fun current => info.version > current.version
    if !shouldUpdate then
      return (false, false)
    let sessions :=
      if instanceChanged then
        g.sessions.mapValues fun s =>
          { s with peerInfoVerMap := s.peerInfoVerMap.erase info.peerId }
      else g.sessions
    set { g with
      sessions
      peerInfos := g.peerInfos.insert info.peerId
        { info with lastUpdate := some ⟨(stampMs / 1000).toInt64, 0⟩ } }
    return (true, current.isNone)

/-- The infos of a sync request in their order; the `k`-th reading stamps the first of them. -/
def storeRouteInfos (host : Host) (fromPeerId : UInt32) :
    Nat → List RoutePeerInfo → GroupM (Bool × Bool)
  | _, [] => return (false, false)
  | k, info :: infos => do
    let stored ← storeRouteInfo fromPeerId (host.clock k) info
    let others ← storeRouteInfos host fromPeerId (k + 1) infos
    return (stored.1 || others.1, stored.2 || others.2)

/-- `handle_sync_route_info_request` on the group, for a decoded request of this very peer. -/
def handleSyncRouteInfoRequest (E : Codec) (host : Host) (myPeerId fromPeerId : UInt32)
    (req : SyncRouteInfoRequest) : GroupM RouteSyncOutcome := do
  let g ← get
  let sessionChanged := ((g.sessions.get? fromPeerId).getD SessionState.default).dstSessionId ≠
    some req.mySessionId
  -- the same writes as an acknowledgement makes
  set (g.onRouteSessionAck fromPeerId req.mySessionId (!req.isInitiator) (host.clock 0))
  let (routeChanged, needBump) ← match req.peerInfos with
    | some infos => storeRouteInfos host fromPeerId 1 infos.items
    | none => pure (false, false)
  if needBump then
    modify (·.bumpAllConnVersions myPeerId)
  let g ← get
  let serverSessionId := ((g.sessions.get? fromPeerId).bind SessionState.mySessionId).getD 1
  return {
    response := E.encodeSyncRouteInfoResponse
      { isInitiator := !req.isInitiator, sessionId := serverSessionId, error := none }
    routeChanged := routeChanged
    sessionChanged := sessionChanged }

end RouteGroupData

namespace RouteState

def new (myPeerId : UInt32) : RouteState := ⟨∅, myPeerId⟩

/-- `ensure_group`. -/
def ensureGroup (host : Host) (groupKey : String) (s : RouteState) : RouteGroupData :=
  (s.groups.lookup groupKey).getD (RouteGroupData.new s.myPeerId host)

/-- Run an operation on a group, which is created first if it does not exist. -/
def onGroup {α : Type} (host : Host) (groupKey : String) (op : UInt32 → GroupM α) : RouteM α :=
  fun s =>
    match op s.myPeerId (s.ensureGroup host groupKey) with
    | .ok a g => .ok a { s with groups := s.groups.insert groupKey g }
    | .error e g => .error e { s with groups := s.groups.insert groupKey g }

def addPeer (host : Host) (groupKey : String) (peerId : UInt32) (publicKey : Bytes) :
    RouteM Unit := do
  match keyOfBytes publicKey with
  | none => throw "authenticated peer public key must be 32 bytes"
  | some publicKey =>
    onGroup host groupKey fun myPeerId => RouteGroupData.addPeer myPeerId peerId publicKey

def removePeer (host : Host) (groupKey : String) (peerId : UInt32) : RouteM Unit :=
  onGroup host groupKey fun myPeerId => modify fun g => g.removePeer myPeerId peerId

def onRouteSessionAck (host : Host) (groupKey : String) (peerId : UInt32)
    (theirSessionId : UInt64) (weAreInitiator : Bool) : RouteM Unit :=
  onGroup host groupKey fun _ => modify fun g =>
    g.onRouteSessionAck peerId theirSessionId weAreInitiator (host.clock 0)

/-- `commit_route_update`, which follows `on_route_session_ack` in the same call. -/
def commitRouteUpdate (host : Host) (groupKey : String) (peerId : UInt32)
    (peerInfoVersions : List (UInt32 × UInt32)) (topologyVersion : Option UInt64) : RouteM Unit :=
  onGroup host groupKey fun _ => modify fun g =>
    g.commitRouteUpdate peerId peerInfoVersions topologyVersion (host.clock 1)

def setMyInfoField (host : Host) (groupKey field value : String) : RouteM Unit :=
  onGroup host groupKey fun _ => RouteGroupData.setMyInfoField field value

def setMyNoisePublicKey (host : Host) (groupKey : String) (publicKey : Bytes) : RouteM Unit := do
  if publicKey.length ≠ 32 then
    throw "Noise public key must be 32 bytes"
  onGroup host groupKey fun _ => modify fun g =>
    g.publishMyInfo { g.myInfo with noiseStaticPubkey := publicKey }

def buildSyncRouteInfoRequest (E : Codec) (host : Host) (groupKey : String)
    (targetPeerId : UInt32) (serverSessionId : UInt64) (weAreInitiator forceFull : Bool) :
    RouteM RouteUpdate :=
  onGroup host groupKey fun myPeerId => RouteGroupData.buildSyncRouteInfoRequest E host myPeerId
    targetPeerId serverSessionId weAreInitiator forceFull

def handleSyncRouteInfoRequest (E : Codec) (host : Host) (groupKey : String)
    (fromPeerId : UInt32) (requestBytes : Bytes) : RouteM RouteSyncOutcome := do
  match E.decodeSyncRouteInfoRequest requestBytes with
  | .error e => throw s!"decode SyncRouteInfoRequest failed: {e}"
  | .ok req =>
    if req.myPeerId ≠ fromPeerId then
      throw "SyncRouteInfoRequest peer id does not match the authenticated connection"
    onGroup host groupKey fun myPeerId =>
      RouteGroupData.handleSyncRouteInfoRequest E host myPeerId fromPeerId req

end RouteState

end EasyTierEdge.Rpc.Routes
