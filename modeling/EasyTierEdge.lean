import EasyTierEdge.Lib.FiniteMap
import EasyTierEdge.Lib.Machine
import EasyTierEdge.Lib.Endian
import EasyTierEdge.Packet
import EasyTierEdge.Secure.ReplayWindow
import EasyTierEdge.Secure.Session
import EasyTierEdge.Secure.Peer
import EasyTierEdge.Secure.Connections
import EasyTierEdge.Lib.Fallible
import EasyTierEdge.Secure.Calls
import EasyTierEdge.Secure.Steps
import EasyTierEdge.Secure.StoreInvariant
import EasyTierEdge.Secure.SessionMoves
import EasyTierEdge.Secure.RootKeys
import EasyTierEdge.Secure.NonceUniqueness
import EasyTierEdge.Secure.AntiReplay
import EasyTierEdge.Secure.ObjectMoves
import EasyTierEdge.Secure.Handshake
import EasyTierEdge.Lib.Relational
import EasyTierEdge.Secure.Related
import EasyTierEdge.Secure.LiveSession
import EasyTierEdge.Secure.HandshakeFrame
import EasyTierEdge.Secure.KeyDisclosure
import EasyTierEdge.Secure.JoinAgreement
import EasyTierEdge.Rpc.Routes
import EasyTierEdge.Rpc.RouteMoves
import EasyTierEdge.Lib.Protobuf
import EasyTierEdge.Rpc.ConnBitmap
import EasyTierEdge.Rpc.ConnVersions
import EasyTierEdge.Rpc.RouteDelivery
import EasyTierEdge.Rpc.TopologyKnown
import EasyTierEdge.Lib.SipHash
import EasyTierEdge.Rpc.Core
import EasyTierEdge.Rpc.CoreMoves
import EasyTierEdge.Rpc.CoreRuns
import EasyTierEdge.Rpc.FragmentAccounting
import EasyTierEdge.Rpc.MapDigest
import EasyTierEdge.Rpc.Reassembly
import EasyTierEdge.Framing
import EasyTierEdge.Rpc.ConnCaches
import EasyTierEdge.Rpc.ConnForms
import EasyTierEdge.Rpc.RejectedSync
import EasyTierEdge.Rpc.Transactions
import EasyTierEdge.Secure.ForgedPackets
import EasyTierEdge.Secure.PacketRoundTrip
import EasyTierEdge.Secure.SlotOrder
import EasyTierEdge.Secure.WindowSemantics
import EasyTierEdge.Lib.OrderedMap
import EasyTierEdge.Rpc.Scheduler
import EasyTierEdge.Rpc.SchedulerDebt
import EasyTierEdge.Rpc.CoreHost
import EasyTierEdge.Rpc.InFlight
import EasyTierEdge.Lib.FixedWindow
import EasyTierEdge.Rpc.RouteMembers
import EasyTierEdge.Server.Books
import EasyTierEdge.Server.Cascade
import EasyTierEdge.Server.Freshness
import EasyTierEdge.Server.Pinning
import EasyTierEdge.Server.Relaying
import EasyTierEdge.Server.SendWindow
import EasyTierEdge.Server.Upkeep
import EasyTierEdge.Server.Updates
import EasyTierEdge.Server.Outbox
import EasyTierEdge.Lib.Unwinding
import EasyTierEdge.Rpc.Isolation
import EasyTierEdge.Rpc.Suppression
import EasyTierEdge.Lib.Base64
import EasyTierEdge.Lib.Double
import EasyTierEdge.Lib.Json
import EasyTierEdge.Secure.Announcements
import EasyTierEdge.Server.Configuration
import EasyTierEdge.Server.Worker
