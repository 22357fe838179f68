/- module: EasyTierEdge/Proto
   source: cloudflare/protos/common.proto, error.proto, peer_rpc.proto
   digest: The messages of the relay's RPC services. -/

import EasyTierEdge.Lib.AscendingMap
import EasyTierEdge.Packet

set_option autoImplicit false
set_option relaxedAutoImplicit false

namespace EasyTierEdge.Proto

open Lib.AscendingMap
open Packet (Bytes)

/-! common.proto -/

/-- `UUID`. -/
structure Uuid where
  part1 : UInt32
  part2 : UInt32
  part3 : UInt32
  part4 : UInt32
  deriving DecidableEq

structure Ipv4Addr where
  addr : UInt32
  deriving DecidableEq

structure Ipv6Addr where
  part1 : UInt32
  part2 : UInt32
  part3 : UInt32
  part4 : UInt32
  deriving DecidableEq

structure Ipv6Inet where
  address : Option Ipv6Addr
  networkLength : UInt32
  deriving DecidableEq

/-- `google.protobuf.Timestamp`. -/
structure Timestamp where
  seconds : Int64
  nanos : Int32
  deriving DecidableEq

structure PeerFeatureFlag where
  isPublicServer : Bool
  avoidRelayData : Bool
  kcpInput : Bool
  noRelayKcp : Bool
  supportConnListSync : Bool
  quicInput : Bool
  noRelayQuic : Bool
  isCredentialPeer : Bool
  needP2p : Bool
  disableP2p : Bool
  ipv6PublicAddrProvider : Bool
  deriving DecidableEq

/-- `PeerFeatureFlag::default()`. -/
def PeerFeatureFlag.default : PeerFeatureFlag where
  isPublicServer := false
  avoidRelayData := false
  kcpInput := false
  noRelayKcp := false
  supportConnListSync := false
  quicInput := false
  noRelayQuic := false
  isCredentialPeer := false
  needP2p := false
  disableP2p := false
  ipv6PublicAddrProvider := false

structure RpcDescriptor where
  domainName : String
  protoName : String
  serviceName : String
  methodIndex : UInt32
  deriving DecidableEq

structure RpcRequest where
  descriptor : Option RpcDescriptor
  request : Bytes
  timeoutMs : Int32
  deriving DecidableEq

/-- `None` of `CompressionAlgoPb`; a field of this type holds any `i32`. -/
def compressionNone : Int32 := 1

structure RpcCompressionInfo where
  algo : Int32
  acceptedAlgo : Int32
  deriving DecidableEq

structure RpcPacket where
  fromPeer : UInt32
  toPeer : UInt32
  transactionId : Int64
  descriptor : Option RpcDescriptor
  body : Bytes
  isRequest : Bool
  totalPieces : UInt32
  pieceIdx : UInt32
  traceId : Int32
  compressionInfo : Option RpcCompressionInfo
  deriving DecidableEq

/-! error.proto -/

/-- `error::Error::error_kind`. -/
inductive ErrorKind
  | otherError (errorMessage : String)
  | invalidMethodIndex (serviceName : String) (methodIndex : UInt32)
  | invalidService (serviceName : String)
  | prostDecodeError
  | prostEncodeError
  | executeError (errorMessage : String)
  | malformatRpcPacket (errorMessage : String)
  | timeout (errorMessage : String)
  deriving DecidableEq

structure RpcError where
  errorKind : Option ErrorKind
  deriving DecidableEq

structure RpcResponse where
  response : Bytes
  error : Option RpcError
  runtimeUs : UInt64
  deriving DecidableEq

/-! peer_rpc.proto -/

structure PeerGroupInfo where
  groupName : String
  groupProof : Bytes
  deriving DecidableEq

structure TrustedCredentialPubkey where
  pubkey : Bytes
  groups : List String
  allowRelay : Bool
  expiryUnix : Int64
  allowedProxyCidrs : List String
  reusable : Option Bool
  deriving DecidableEq

structure TrustedCredentialPubkeyProof where
  credential : Option TrustedCredentialPubkey
  credentialHmac : Bytes
  deriving DecidableEq

/-- `RoutePeerInfo`; the NAT types are enumerations, so any `i32`. -/
structure RoutePeerInfo where
  peerId : UInt32
  instId : Option Uuid
  cost : UInt32
  ipv4Addr : Option Ipv4Addr
  proxyCidrs : List String
  hostname : Option String
  udpNatType : Int32
  lastUpdate : Option Timestamp
  version : UInt32
  easytierVersion : String
  featureFlag : Option PeerFeatureFlag
  peerRouteId : UInt64
  networkLength : UInt32
  quicPort : Option UInt32
  ipv6Addr : Option Ipv6Inet
  groups : List PeerGroupInfo
  tcpNatType : Int32
  noiseStaticPubkey : Bytes
  trustedCredentialPubkeys : List TrustedCredentialPubkeyProof
  ipv6PublicAddrPrefix : Option Ipv6Inet
  ipv6PublicAddrLease : Option Ipv6Inet
  deriving DecidableEq

/-- `RoutePeerInfo::default()`. -/
def RoutePeerInfo.default : RoutePeerInfo where
  peerId := 0
  instId := none
  cost := 0
  ipv4Addr := none
  proxyCidrs := []
  hostname := none
  udpNatType := 0
  lastUpdate := none
  version := 0
  easytierVersion := ""
  featureFlag := none
  peerRouteId := 0
  networkLength := 0
  quicPort := none
  ipv6Addr := none
  groups := []
  tcpNatType := 0
  noiseStaticPubkey := []
  trustedCredentialPubkeys := []
  ipv6PublicAddrPrefix := none
  ipv6PublicAddrLease := none

structure PeerIdVersion where
  peerId : UInt32
  version : UInt32
  deriving DecidableEq

structure RouteConnBitmap where
  peerIds : List PeerIdVersion
  bitmap : Bytes
  deriving DecidableEq

/-- `RouteConnPeerList.PeerConnInfo`. -/
structure PeerConnInfo where
  peerId : Option PeerIdVersion
  connectedPeerIds : List UInt32
  deriving DecidableEq

structure RouteConnPeerList where
  peerConnInfos : List PeerConnInfo
  deriving DecidableEq

/-- `SyncRouteInfoRequest::conn_info`. -/
inductive ConnInfo
  | connBitmap (bitmap : RouteConnBitmap)
  | connPeerList (list : RouteConnPeerList)
  deriving DecidableEq

/-- `RoutePeerInfos`. -/
structure RoutePeerInfos where
  items : List RoutePeerInfo
  deriving DecidableEq

/-- `SyncRouteInfoRequest` without `foreign_network_infos`, which the relay neither reads nor
sets. -/
structure SyncRouteInfoRequest where
  myPeerId : UInt32
  mySessionId : UInt64
  isInitiator : Bool
  peerInfos : Option RoutePeerInfos
  connInfo : Option ConnInfo
  deriving DecidableEq

structure SyncRouteInfoResponse where
  isInitiator : Bool
  sessionId : UInt64
  error : Option Int32
  deriving DecidableEq

structure DirectConnectedPeerInfo where
  latencyMs : Int32
  deriving DecidableEq

structure PeerInfoForGlobalMap where
  directPeers : AscMap UInt32 DirectConnectedPeerInfo
  deriving DecidableEq

structure ReportPeersRequest where
  myPeerId : UInt32
  peerInfos : Option PeerInfoForGlobalMap
  deriving DecidableEq

structure GetGlobalPeerMapRequest where
  digest : UInt64
  deriving DecidableEq

structure GetGlobalPeerMapResponse where
  globalPeerMap : AscMap UInt32 PeerInfoForGlobalMap
  digest : Option UInt64
  deriving DecidableEq

/-- prost's codec for the messages above. Encoding into a growing buffer cannot fail; the empty
`ReportPeersResponse` has one encoding. -/
structure Codec where
  decodeRpcPacket : Bytes → Except String RpcPacket
  encodeRpcPacket : RpcPacket → Bytes
  decodeRpcRequest : Bytes → Except String RpcRequest
  encodeRpcRequest : RpcRequest → Bytes
  decodeRpcResponse : Bytes → Except String RpcResponse
  encodeRpcResponse : RpcResponse → Bytes
  decodeSyncRouteInfoRequest : Bytes → Except String SyncRouteInfoRequest
  encodeSyncRouteInfoRequest : SyncRouteInfoRequest → Bytes
  decodeSyncRouteInfoResponse : Bytes → Except String SyncRouteInfoResponse
  encodeSyncRouteInfoResponse : SyncRouteInfoResponse → Bytes
  decodeReportPeersRequest : Bytes → Except String ReportPeersRequest
  encodeReportPeersResponse : Bytes
  decodeGetGlobalPeerMapRequest : Bytes → Except String GetGlobalPeerMapRequest
  encodeGetGlobalPeerMapResponse : GetGlobalPeerMapResponse → Bytes

end EasyTierEdge.Proto
