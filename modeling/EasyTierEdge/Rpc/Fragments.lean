/- module: EasyTierEdge/Rpc/Fragments
   source: cloudflare/wasm/src/rpc.rs, merge_packet, clean_pending and remove_pending
   digest: The reassembly of fragmented RPC packets. -/

import EasyTierEdge.Lib.Fallible
import EasyTierEdge.Lib.FiniteMap
import EasyTierEdge.Lib.Saturating
import EasyTierEdge.Proto

set_option autoImplicit false
set_option relaxedAutoImplicit false

namespace EasyTierEdge.Rpc.Fragments

open Lib.Fallible Lib.FiniteMap Lib.Saturating
open Packet (Bytes)
open Proto

def maxRpcPieces : UInt32 := 32_768
def maxPendingTransactionsPerPeer : Nat := 64
def maxPendingBytes : Nat := 32 * 1024 * 1024
def maxPendingPieces : Nat := 32_768
def rpcFragmentTtlMs : UInt64 := 10_000

structure RpcKey where
  network : String
  peerId : UInt32
  transactionId : Int64
  isRequest : Bool
  deriving DecidableEq

structure PendingRpc where
  totalPieces : UInt32
  pieces : List (Option Bytes)
  first : Option RpcPacket
  receivedPieces : UInt32
  bodyBytes : Nat
  updatedAtMs : UInt64
  deriving DecidableEq

inductive MergedPacket
  | pending
  | complete (packet : RpcPacket)
  deriving DecidableEq

/-- The fields `pending`, `pending_bytes` and `pending_pieces` of the core. -/
structure PendingTable where
  pending : FMap RpcKey PendingRpc
  pendingBytes : Nat
  pendingPieces : Nat

abbrev FragmentsM := EStateM String PendingTable

/-- `usize::saturating_add` on the 32-bit target. -/
def saturatingAddUsize (a b : Nat) : Nat := min (a + b) (2 ^ 32 - 1)

def pieceLength (piece : Option Bytes) : Nat := piece.elim 0 List.length

/-- The first piece of a message of `total` pieces. -/
def PendingRpc.new (total : UInt32) (nowMs : UInt64) : PendingRpc where
  totalPieces := total
  pieces := List.replicate total.toNat none
  first := none
  receivedPieces := 0
  bodyBytes := 0
  updatedAtMs := nowMs

def PendingRpc.expired (p : PendingRpc) (nowMs : UInt64) : Bool :=
  saturatingSub nowMs p.updatedAtMs ≥ rpcFragmentTtlMs

/-- What `merge_packet` writes into the entry of a piece. -/
def PendingRpc.store (p : PendingRpc) (index : Nat) (packet : RpcPacket) (nowMs : UInt64) :
    PendingRpc where
  totalPieces := p.totalPieces
  pieces := p.pieces.set index (some packet.body)
  first := if index = 0 then some packet else p.first
  receivedPieces :=
    if (p.pieces[index]?.join).isNone then p.receivedPieces + 1 else p.receivedPieces
  bodyBytes :=
    saturatingAddUsize (p.bodyBytes - pieceLength p.pieces[index]?.join) packet.body.length
  updatedAtMs := nowMs

namespace PendingTable

def empty : PendingTable := ⟨∅, 0, 0⟩

def removePending (t : PendingTable) (key : RpcKey) : PendingTable :=
  match t.pending.lookup key with
  | none => t
  | some p =>
    { pending := t.pending.erase key
      pendingBytes := t.pendingBytes - p.bodyBytes
      pendingPieces := t.pendingPieces - p.totalPieces.toNat }

theorem removePending_comm (t : PendingTable) (key key' : RpcKey) :
    (t.removePending key).removePending key' = (t.removePending key').removePending key := by
  by_cases same : key = key'
  · rw [same]
  · simp only [removePending]
    cases found : t.pending.lookup key with
    | none =>
      cases found' : t.pending.lookup key' with
      | none => simp [found]
      | some p' => simp [found, FMap.lookup_erase_eq_ite]
    | some p =>
      cases found' : t.pending.lookup key' with
      | none => simp [found, found', FMap.lookup_erase_eq_ite]
      | some p' =>
        simp only [FMap.lookup_erase_eq_ite, if_neg same, if_neg fun h => same (Eq.symm h),
          found, found']
        rw [Finmap.erase_erase, Nat.sub_right_comm, Nat.sub_right_comm t.pendingPieces]

/-- The loops that collect the keys of some entries and then remove them. -/
def removeWhere (t : PendingTable) (chosen : RpcKey → PendingRpc → Bool) : PendingTable :=
  (FMap.retain chosen t.pending).foldl (fun t key _ => t.removePending key)
    (fun t key _ key' _ => t.removePending_comm key key') t

def cleanPending (t : PendingTable) (nowMs : UInt64) : PendingTable :=
  t.removeWhere fun _ p => p.expired nowMs

/-- The part of `remove_peer` that forgets the fragments of the peer. -/
def removePeer (t : PendingTable) (network : String) (peerId : UInt32) : PendingTable :=
  t.removeWhere fun key _ => key.network == network && key.peerId == peerId

/-- How many transactions of the peer are pending. -/
def peerPending (t : PendingTable) (network : String) (peerId : UInt32) : Nat :=
  FMap.size (FMap.retain (fun key _ => key.network == network && key.peerId == peerId) t.pending)

end PendingTable

/-- Make room for the pieces of `key`, unless it already has an entry. -/
def openPending (key : RpcKey) (totalPieces : UInt32) (nowMs : UInt64) : FragmentsM Unit := do
  let t ← get
  if (t.pending.lookup key).any fun p => p.totalPieces ≠ totalPieces then
    set (t.removePending key)
    throw "fragmented RPC changed its declared piece count"
  if (t.pending.lookup key).isNone then
    if t.peerPending key.network key.peerId ≥ maxPendingTransactionsPerPeer then
      throw "too many pending fragmented RPC transactions"
    let declaredPieces := totalPieces.toNat
    if saturatingAddUsize t.pendingPieces declaredPieces > maxPendingPieces then
      throw "pending fragmented RPC piece limit exceeded"
    set { t with
      pending := t.pending.insert key (PendingRpc.new totalPieces nowMs)
      pendingPieces := t.pendingPieces + declaredPieces }

/-- Store a piece; the value says whether it was the last one. The two accesses that panic when
there is no entry or no such piece come first. -/
def storePiece (key : RpcKey) (packet : RpcPacket) (nowMs : UInt64) : FragmentsM Bool := do
  let t ← get
  let pieceIndex := packet.pieceIdx.toNat
  let some indexed := t.pending.lookup key | throw "panic: no entry found for key"
  let some previous := indexed.pieces[pieceIndex]? | throw "panic: index out of bounds"
  let nextTotalBytes :=
    saturatingAddUsize (t.pendingBytes - pieceLength previous) packet.body.length
  if nextTotalBytes > maxPendingBytes then
    set (t.removePending key)
    throw "pending fragmented RPC byte limit exceeded"
  let some p := t.pending.lookup key | throw "pending RPC state disappeared during merge"
  let stored := p.store pieceIndex packet nowMs
  set { t with pending := t.pending.insert key stored, pendingBytes := nextTotalBytes }
  return stored.receivedPieces == packet.totalPieces

/-- Take the completed message out. -/
def takeCompleted (key : RpcKey) : FragmentsM RpcPacket := do
  let t ← get
  let some completed := t.pending.lookup key
    | throw "completed RPC state disappeared during merge"
  set (t.removePending key)
  let some first := completed.first | throw "fragmented RPC first piece was not received"
  let some pieces := completed.pieces.mapM id | throw "fragmented RPC contains a missing piece"
  return { first with body := pieces.flatten, totalPieces := 1, pieceIdx := 0 }

def rpcKey (network : String) (peerId : UInt32) (transactionId : Int64) (isRequest : Bool) :
    RpcKey :=
  ⟨network, peerId, transactionId, isRequest⟩

def mergePacket (network : String) (peerId : UInt32) (packet : RpcPacket) (nowMs : UInt64) :
    FragmentsM MergedPacket := do
  let totalPieces := packet.totalPieces
  if totalPieces = 0 ∧ packet.pieceIdx = 0 then
    return .complete packet
  if totalPieces = 0 ∨ totalPieces > maxRpcPieces ∨ packet.pieceIdx ≥ totalPieces then
    throw "invalid fragmented RPC envelope"
  if totalPieces = 1 then
    return .complete packet
  if packet.pieceIdx = 0 ∧ packet.descriptor.isNone then
    throw "fragmented RPC first piece is missing its descriptor"
  modify (·.cleanPending nowMs)
  let key := rpcKey network peerId packet.transactionId packet.isRequest
  openPending key totalPieces nowMs
  let last ← storePiece key packet nowMs
  if last then
    let whole ← takeCompleted key
    return .complete whole
  else
    return .pending

end EasyTierEdge.Rpc.Fragments
