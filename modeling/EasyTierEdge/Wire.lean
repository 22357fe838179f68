/- module: EasyTierEdge/Wire
   source: cloudflare/protos/common.proto, error.proto, peer_rpc.proto, as prost writes them
   digest: The encodings of the messages, and codecs for runs with known messages. -/

import EasyTierEdge.Lib.Protobuf
import EasyTierEdge.Proto

set_option autoImplicit false
set_option relaxedAutoImplicit false

namespace EasyTierEdge.Wire

open Lib.AscendingMap Lib.Protobuf
open Packet (Bytes)
open Proto

/-! common.proto -/

def uuid (m : Uuid) : Bytes :=
  numberOr 1 m.part1.toNat ++ numberOr 2 m.part2.toNat ++ numberOr 3 m.part3.toNat ++
    numberOr 4 m.part4.toNat

def ipv4Addr (m : Ipv4Addr) : Bytes := numberOr 1 m.addr.toNat

def ipv6Addr (m : Ipv6Addr) : Bytes :=
  numberOr 1 m.part1.toNat ++ numberOr 2 m.part2.toNat ++ numberOr 3 m.part3.toNat ++
    numberOr 4 m.part4.toNat

def ipv6Inet (m : Ipv6Inet) : Bytes :=
  optional (chunk 1 ∘ ipv6Addr) m.address ++ numberOr 2 m.networkLength.toNat

def timestamp (m : Timestamp) : Bytes :=
  numberOr 1 (signed m.seconds.toInt) ++ numberOr 2 (signed m.nanos.toInt)

def peerFeatureFlag (m : PeerFeatureFlag) : Bytes :=
  boolOr 1 m.isPublicServer ++ boolOr 2 m.avoidRelayData ++ boolOr 3 m.kcpInput ++
    boolOr 4 m.noRelayKcp ++ boolOr 5 m.supportConnListSync ++ boolOr 6 m.quicInput ++
    boolOr 7 m.noRelayQuic ++ boolOr 8 m.isCredentialPeer ++ boolOr 9 m.needP2p ++
    boolOr 10 m.disableP2p ++ boolOr 11 m.ipv6PublicAddrProvider

def rpcDescriptor (m : RpcDescriptor) : Bytes :=
  chunkOr 1 (text m.domainName) ++ chunkOr 2 (text m.protoName) ++
    chunkOr 3 (text m.serviceName) ++ numberOr 4 m.methodIndex.toNat

def rpcRequest (m : RpcRequest) : Bytes :=
  optional (chunk 1 ∘ rpcDescriptor) m.descriptor ++ chunkOr 2 m.request ++
    numberOr 3 (signed m.timeoutMs.toInt)

def rpcCompressionInfo (m : RpcCompressionInfo) : Bytes :=
  numberOr 1 (signed m.algo.toInt) ++ numberOr 2 (signed m.acceptedAlgo.toInt)

def rpcPacket (m : RpcPacket) : Bytes :=
  numberOr 1 m.fromPeer.toNat ++ numberOr 2 m.toPeer.toNat ++
    numberOr 3 (signed m.transactionId.toInt) ++ optional (chunk 4 ∘ rpcDescriptor) m.descriptor ++
    chunkOr 5 m.body ++ boolOr 6 m.isRequest ++ numberOr 7 m.totalPieces.toNat ++
    numberOr 8 m.pieceIdx.toNat ++ numberOr 9 (signed m.traceId.toInt) ++
    optional (chunk 10 ∘ rpcCompressionInfo) m.compressionInfo

/-! error.proto -/

def errorKind : ErrorKind → Bytes
  | .otherError errorMessage => chunk 1 (chunkOr 1 (text errorMessage))
  | .invalidMethodIndex serviceName methodIndex =>
    chunk 2 (chunkOr 1 (text serviceName) ++ numberOr 2 methodIndex.toNat)
  | .invalidService serviceName => chunk 3 (chunkOr 1 (text serviceName))
  | .prostDecodeError => chunk 4 []
  | .prostEncodeError => chunk 5 []
  | .executeError errorMessage => chunk 6 (chunkOr 1 (text errorMessage))
  | .malformatRpcPacket errorMessage => chunk 7 (chunkOr 1 (text errorMessage))
  | .timeout errorMessage => chunk 8 (chunkOr 1 (text errorMessage))

def rpcResponse (m : RpcResponse) : Bytes :=
  chunkOr 1 m.response ++ optional (fun e => chunk 2 (optional errorKind e.errorKind)) m.error ++
    numberOr 3 m.runtimeUs.toNat

/-! peer_rpc.proto -/

def peerGroupInfo (m : PeerGroupInfo) : Bytes :=
  chunkOr 1 (text m.groupName) ++ chunkOr 2 m.groupProof

def trustedCredentialPubkey (m : TrustedCredentialPubkey) : Bytes :=
  chunkOr 1 m.pubkey ++ repeated (chunk 2 ∘ text) m.groups ++ boolOr 3 m.allowRelay ++
    numberOr 4 (signed m.expiryUnix.toInt) ++ repeated (chunk 5 ∘ text) m.allowedProxyCidrs ++
    optional (fun b => number 6 b.toNat) m.reusable

def trustedCredentialPubkeyProof (m : TrustedCredentialPubkeyProof) : Bytes :=
  optional (chunk 1 ∘ trustedCredentialPubkey) m.credential ++ chunkOr 2 m.credentialHmac

def routePeerInfo (m : RoutePeerInfo) : Bytes :=
  numberOr 1 m.peerId.toNat ++ optional (chunk 2 ∘ uuid) m.instId ++ numberOr 3 m.cost.toNat ++
    optional (chunk 4 ∘ ipv4Addr) m.ipv4Addr ++ repeated (chunk 5 ∘ text) m.proxyCidrs ++
    optional (chunk 6 ∘ text) m.hostname ++ numberOr 7 (signed m.udpNatType.toInt) ++
    optional (chunk 8 ∘ timestamp) m.lastUpdate ++ numberOr 9 m.version.toNat ++
    chunkOr 10 (text m.easytierVersion) ++ optional (chunk 11 ∘ peerFeatureFlag) m.featureFlag ++
    numberOr 12 m.peerRouteId.toNat ++ numberOr 13 m.networkLength.toNat ++
    optional (fun port => number 14 port.toNat) m.quicPort ++
    optional (chunk 15 ∘ ipv6Inet) m.ipv6Addr ++ repeated (chunk 16 ∘ peerGroupInfo) m.groups ++
    numberOr 17 (signed m.tcpNatType.toInt) ++ chunkOr 18 m.noiseStaticPubkey ++
    repeated (chunk 19 ∘ trustedCredentialPubkeyProof) m.trustedCredentialPubkeys ++
    optional (chunk 22 ∘ ipv6Inet) m.ipv6PublicAddrPrefix ++
    optional (chunk 24 ∘ ipv6Inet) m.ipv6PublicAddrLease

def peerIdVersion (m : PeerIdVersion) : Bytes :=
  numberOr 1 m.peerId.toNat ++ numberOr 2 m.version.toNat

def peerConnInfo (m : PeerConnInfo) : Bytes :=
  optional (chunk 1 ∘ peerIdVersion) m.peerId ++
    chunkOr 2 (m.connectedPeerIds.flatMap fun p => varint p.toNat)

def connInfo : ConnInfo → Bytes
  | .connBitmap m => chunk 5 (repeated (chunk 1 ∘ peerIdVersion) m.peerIds ++ chunkOr 2 m.bitmap)
  | .connPeerList m => chunk 7 (repeated (chunk 1 ∘ peerConnInfo) m.peerConnInfos)

def syncRouteInfoRequest (m : SyncRouteInfoRequest) : Bytes :=
  numberOr 1 m.myPeerId.toNat ++ numberOr 2 m.mySessionId.toNat ++ boolOr 3 m.isInitiator ++
    optional (fun infos => chunk 4 (repeated (chunk 1 ∘ routePeerInfo) infos.items)) m.peerInfos ++
    optional connInfo m.connInfo

def syncRouteInfoResponse (m : SyncRouteInfoResponse) : Bytes :=
  boolOr 1 m.isInitiator ++ numberOr 2 m.sessionId.toNat ++
    optional (fun e => number 3 (signed e.toInt)) m.error

def peerInfoForGlobalMap (m : PeerInfoForGlobalMap) : Bytes :=
  repeated (fun e => chunk 1 (numberOr 1 e.1.toNat ++
    chunkOr 2 (numberOr 1 (signed e.2.latencyMs.toInt)))) m.directPeers.entries

def reportPeersRequest (m : ReportPeersRequest) : Bytes :=
  numberOr 1 m.myPeerId.toNat ++ optional (chunk 2 ∘ peerInfoForGlobalMap) m.peerInfos

def getGlobalPeerMapRequest (m : GetGlobalPeerMapRequest) : Bytes := numberOr 1 m.digest.toNat

def getGlobalPeerMapResponse (m : GetGlobalPeerMapResponse) : Bytes :=
  repeated (fun e => chunk 1 (numberOr 1 e.1.toNat ++ chunkOr 2 (peerInfoForGlobalMap e.2)))
      m.globalPeerMap.entries ++
    optional (fun digest => number 2 digest.toNat) m.digest

/-- The messages that are read in a run. -/
structure Known where
  rpcPackets : List RpcPacket
  rpcRequests : List RpcRequest
  rpcResponses : List RpcResponse
  syncRequests : List SyncRouteInfoRequest
  syncResponses : List SyncRouteInfoResponse
  reports : List ReportPeersRequest
  mapRequests : List GetGlobalPeerMapRequest

/-- prost, as far as a run with these messages can tell. -/
def codec (known : Known) : Codec where
  decodeRpcPacket := readAmong rpcPacket known.rpcPackets
  encodeRpcPacket := rpcPacket
  decodeRpcRequest := readAmong rpcRequest known.rpcRequests
  encodeRpcRequest := rpcRequest
  decodeRpcResponse := readAmong rpcResponse known.rpcResponses
  encodeRpcResponse := rpcResponse
  decodeSyncRouteInfoRequest := readAmong syncRouteInfoRequest known.syncRequests
  encodeSyncRouteInfoRequest := syncRouteInfoRequest
  decodeSyncRouteInfoResponse := readAmong syncRouteInfoResponse known.syncResponses
  encodeSyncRouteInfoResponse := syncRouteInfoResponse
  decodeReportPeersRequest := readAmong reportPeersRequest known.reports
  encodeReportPeersResponse := []
  decodeGetGlobalPeerMapRequest := readAmong getGlobalPeerMapRequest known.mapRequests
  encodeGetGlobalPeerMapResponse := getGlobalPeerMapResponse

end EasyTierEdge.Wire
