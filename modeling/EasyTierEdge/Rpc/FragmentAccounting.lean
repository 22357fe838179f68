/- module: EasyTierEdge/Rpc/FragmentAccounting
   source: cloudflare/wasm/src/rpc.rs, the counters of merge_packet and remove_pending
   digest: The counters of the pending fragments are the sums they stand for. -/

import EasyTierEdge.Rpc.CoreRuns
import EasyTierEdge.Wire

set_option autoImplicit false
set_option relaxedAutoImplicit false

namespace EasyTierEdge.Rpc.FragmentAccounting

open Lib.AscendingMap Lib.Fallible Lib.FiniteMap Lib.Machine Lib.Saturating
open Packet (Bytes)
open Proto Routes Fragments FragmentMoves Rpc.Core CoreRuns

/-- The bytes of the pieces that have arrived. -/
def pieceBytes (pieces : List (Option Bytes)) : Nat := (pieces.map pieceLength).sum

def filled (pieces : List (Option Bytes)) : Nat := pieces.countP Option.isSome

/-- The counters of an entry agree with its pieces. -/
structure Consistent (p : PendingRpc) : Prop where
  length : p.pieces.length = p.totalPieces.toNat
  received : p.receivedPieces.toNat = filled p.pieces
  bodyBytes : p.bodyBytes = pieceBytes p.pieces
  first : p.first.isSome = true ↔ ∃ body, p.pieces[0]? = some (some body)

/-- The counters of the table are sums over its entries, and keep to the limits. -/
structure Counted (t : PendingTable) : Prop where
  entries : ∀ key p, t.pending.lookup key = some p → Consistent p
  pendingBytes : t.pendingBytes = FMap.total (fun _ p => pieceBytes p.pieces) t.pending
  pendingPieces : t.pendingPieces = FMap.total (fun _ p => p.totalPieces.toNat) t.pending
  bytes_le : t.pendingBytes ≤ maxPendingBytes
  pieces_le : t.pendingPieces ≤ maxPendingPieces
  peers : ∀ network peerId, t.peerPending network peerId ≤ maxPendingTransactionsPerPeer

/-- Between two calls no entry is complete. -/
structure Accounted (t : PendingTable) : Prop extends Counted t where
  incomplete : ∀ key p, t.pending.lookup key = some p → filled p.pieces < p.totalPieces.toNat

/-! Storing a piece. -/

section Pieces

variable {pieces : List (Option Bytes)} {i : Nat} {piece : Option Bytes}

private theorem pieceBytes_set (indexed : pieces[i]? = some piece) (body : Bytes) :
    pieceBytes (pieces.set i (some body)) + pieceLength piece =
      pieceBytes pieces + body.length := by
  induction pieces generalizing i with
  | nil => cases indexed
  | cons p pieces ih =>
    cases i with
    | zero =>
      obtain rfl := Option.some.inj indexed
      simp only [pieceBytes, List.set_cons_zero, List.map_cons, List.sum_cons, pieceLength,
        Option.elim_some]
      omega
    | succ i =>
      have rest := ih indexed
      simp only [pieceBytes, List.set_cons_succ, List.map_cons, List.sum_cons] at rest ⊢
      omega

private theorem pieceLength_le (indexed : pieces[i]? = some piece) :
    pieceLength piece ≤ pieceBytes pieces := by
  have emptied := pieceBytes_set indexed []
  rw [List.length_nil] at emptied
  omega

theorem filled_set (indexed : pieces[i]? = some piece) (body : Bytes) :
    filled (pieces.set i (some body)) = filled pieces + if piece.isNone then 1 else 0 := by
  induction pieces generalizing i with
  | nil => cases indexed
  | cons p pieces ih =>
    cases i with
    | zero =>
      obtain rfl := Option.some.inj indexed
      cases p with
      | none => simp [filled]
      | some b => simp [filled]
    | succ i =>
      have rest := ih indexed
      simp only [filled, List.set_cons_succ, List.countP_cons] at rest ⊢
      omega

theorem filled_le (pieces : List (Option Bytes)) : filled pieces ≤ pieces.length :=
  List.countP_le_length

private theorem filled_full (full : filled pieces = pieces.length) :
    ∃ bodies : List Bytes, pieces = bodies.map some := by
  rw [filled, List.countP_eq_length] at full
  refine ⟨pieces.map fun piece => piece.getD [], ?_⟩
  rw [List.map_map]
  refine (List.map_id pieces).symm.trans (List.map_congr_left ?_)
  intro piece member
  cases piece with
  | none => cases full none member
  | some body => rfl

theorem mapM_some (bodies : List Bytes) : (bodies.map some).mapM id = some bodies := by
  induction bodies with
  | nil => rfl
  | cons body bodies ih =>
    rw [List.map_cons, List.mapM_cons, ih]
    rfl

end Pieces

private theorem consistent_new (totalPieces : UInt32) (nowMs : UInt64) :
    Consistent (PendingRpc.new totalPieces nowMs) where
  length := List.length_replicate
  received := by simp [PendingRpc.new, filled, List.countP_replicate]
  bodyBytes := by simp [PendingRpc.new, pieceBytes, pieceLength]
  first := by simp [PendingRpc.new, List.getElem?_replicate]

section Store

variable {p : PendingRpc} {i : Nat} {piece : Option Bytes} {packet : RpcPacket} {nowMs : UInt64}

private theorem saturatingAddUsize_eq {a b : Nat}
    (small : saturatingAddUsize a b ≤ maxPendingBytes) :
    saturatingAddUsize a b = a + b := by
  simp only [saturatingAddUsize, maxPendingBytes] at *
  omega

private theorem store_receivedPieces (consistent : Consistent p)
    (indexed : p.pieces[i]? = some piece) (bounded : p.totalPieces ≤ maxRpcPieces) :
    (p.store i packet nowMs).receivedPieces.toNat = filled (p.pieces.set i (some packet.body)) := by
  have few : filled p.pieces ≤ 32_768 := by
    refine (filled_le _).trans ?_
    rw [consistent.length]
    exact UInt32.le_iff_toNat_le.mp bounded
  rw [filled_set indexed, PendingRpc.store, ← consistent.received]
  have received := consistent.received
  simp only [indexed, Option.join_some]
  split
  · rw [UInt32.toNat_add]
    have one : (1 : UInt32).toNat = 1 := rfl
    omega
  · rfl

private theorem consistent_store (consistent : Consistent p) (indexed : p.pieces[i]? = some piece)
    (bounded : p.totalPieces ≤ maxRpcPieces)
    (small : p.bodyBytes - pieceLength piece + packet.body.length ≤ maxPendingBytes) :
    Consistent (p.store i packet nowMs) where
  length := by
    show (p.pieces.set i _).length = _
    rw [List.length_set]
    exact consistent.length
  received := store_receivedPieces consistent indexed bounded
  bodyBytes := by
    have own := pieceLength_le indexed
    have moved := pieceBytes_set indexed packet.body
    have before := consistent.bodyBytes
    have joined : p.pieces[i]?.join = piece := by
      rw [indexed]
      rfl
    have exact_sum : saturatingAddUsize (p.bodyBytes - pieceLength piece) packet.body.length =
        p.bodyBytes - pieceLength piece + packet.body.length := by
      apply saturatingAddUsize_eq
      exact (min_le_left _ _).trans small
    show saturatingAddUsize (p.bodyBytes - pieceLength p.pieces[i]?.join) packet.body.length =
      pieceBytes (p.pieces.set i (some packet.body))
    rw [joined, exact_sum]
    omega
  first := by
    show (if i = 0 then some packet else p.first).isSome = true ↔
      ∃ body, (p.pieces.set i (some packet.body))[0]? = some (some body)
    by_cases head : i = 0
    · subst head
      have inside : 0 < p.pieces.length := (List.getElem?_eq_some_iff.mp indexed).1
      simp [List.getElem?_set_self inside]
    · rw [if_neg head, List.getElem?_set_ne head]
      exact consistent.first

end Store

/-! The table. -/

section Table

variable {t : PendingTable} {key : RpcKey} {packet : RpcPacket} {nowMs : UInt64}

theorem peerPending_eq (t : PendingTable) (network : String) (peerId : UInt32) :
    t.peerPending network peerId = FMap.total (fun key _ =>
      if (key.network == network && key.peerId == peerId) = true then 1 else 0) t.pending := by
  rw [PendingTable.peerPending, FMap.size_eq_total, FMap.total_retain]

private theorem counted_empty : Counted PendingTable.empty where
  entries key p found := by
    rw [PendingTable.empty, Finmap.lookup_empty] at found
    cases found
  pendingBytes := rfl
  pendingPieces := rfl
  bytes_le := Nat.zero_le _
  pieces_le := Nat.zero_le _
  peers network peerId := by
    rw [peerPending_eq]
    exact Nat.zero_le _

private theorem counted_removePending (counted : Counted t) (key : RpcKey) :
    Counted (t.removePending key) := by
  cases found : t.pending.lookup key with
  | none =>
    have same : t.removePending key = t := by
      rw [PendingTable.removePending, found]
    rw [same]
    exact counted
  | some p =>
    have removed : t.removePending key = ⟨t.pending.erase key, t.pendingBytes - p.bodyBytes,
        t.pendingPieces - p.totalPieces.toNat⟩ := by
      rw [PendingTable.removePending, found]
    have bytes := counted.pendingBytes
    have pieces := counted.pendingPieces
    rw [FMap.total_of_lookup _ found] at bytes pieces
    have own := (counted.entries key p found).bodyBytes
    have bytes_le := counted.bytes_le
    have pieces_le := counted.pieces_le
    rw [removed]
    refine ⟨?_, ?_, ?_, ?_, ?_, ?_⟩
    · intro key' p' found'
      dsimp only at found'
      rw [FMap.lookup_erase_eq_ite] at found'
      split at found'
      · cases found'
      · exact counted.entries key' p' found'
    · show t.pendingBytes - p.bodyBytes = FMap.total _ (t.pending.erase key)
      omega
    · show t.pendingPieces - p.totalPieces.toNat = FMap.total _ (t.pending.erase key)
      omega
    · show t.pendingBytes - p.bodyBytes ≤ _
      omega
    · show t.pendingPieces - p.totalPieces.toNat ≤ _
      omega
    · intro network peerId
      have peers := counted.peers network peerId
      rw [peerPending_eq, FMap.total_of_lookup _ found] at peers
      rw [peerPending_eq]
      exact (Nat.le_add_left _ _).trans peers

private theorem counted_opened {totalPieces : UInt32} {opened : PendingTable} (counted : Counted t)
    (h : Opened key totalPieces nowMs t opened) : Counted opened := by
  cases h with
  | present p found same => exact counted
  | created absent few room =>
    have pieces_le : t.pendingPieces + totalPieces.toNat ≤ maxPendingPieces := by
      simp only [saturatingAddUsize, maxPendingPieces] at room ⊢
      omega
    refine ⟨?_, ?_, ?_, counted.bytes_le, pieces_le, ?_⟩
    · intro key' p' found'
      dsimp only at found'
      rw [FMap.lookup_insert_eq_ite] at found'
      split at found'
      · obtain rfl := Option.some.inj found'
        exact consistent_new totalPieces nowMs
      · exact counted.entries key' p' found'
    · show t.pendingBytes = _
      have nothing : pieceBytes (PendingRpc.new totalPieces nowMs).pieces = 0 :=
        (consistent_new totalPieces nowMs).bodyBytes.symm
      rw [FMap.total_insert_of_none _ _ absent, nothing, Nat.zero_add]
      exact counted.pendingBytes
    · show t.pendingPieces + totalPieces.toNat = _
      rw [FMap.total_insert_of_none _ _ absent, counted.pendingPieces]
      exact Nat.add_comm _ _
    · intro network peerId
      rw [peerPending_eq, FMap.total_insert_of_none _ _ absent, ← peerPending_eq]
      have others := counted.peers network peerId
      by_cases own : (key.network == network && key.peerId == peerId) = true
      · obtain ⟨here, peer⟩ := Bool.and_eq_true_iff.mp own
        rw [if_pos own, ← eq_of_beq here, ← eq_of_beq peer]
        omega
      · rw [if_neg own, Nat.zero_add]
        exact others

private theorem counted_stored {p : PendingRpc} {piece : Option Bytes} (counted : Counted t)
    (found : t.pending.lookup key = some p)
    (indexed : p.pieces[packet.pieceIdx.toNat]? = some piece)
    (small : nextTotalBytes t piece packet ≤ maxPendingBytes) :
    Counted (storedTable t key p piece packet nowMs) := by
  have consistent := counted.entries key p found
  have own := pieceLength_le indexed
  have moved := pieceBytes_set indexed packet.body
  have bytes := counted.pendingBytes
  have pieces := counted.pendingPieces
  rw [FMap.total_of_lookup _ found] at bytes pieces
  have next : nextTotalBytes t piece packet =
      t.pendingBytes - pieceLength piece + packet.body.length := saturatingAddUsize_eq small
  have bounded : p.totalPieces ≤ maxRpcPieces := by
    rw [UInt32.le_iff_toNat_le]
    have limit : maxRpcPieces.toNat = 32_768 := rfl
    have pieces_le := counted.pieces_le
    simp only [maxPendingPieces] at pieces_le
    omega
  have small_entry : p.bodyBytes - pieceLength piece + packet.body.length ≤ maxPendingBytes := by
    have body := consistent.bodyBytes
    omega
  refine ⟨?_, ?_, ?_, small, counted.pieces_le, ?_⟩
  · intro key' p' found'
    rw [storedTable] at found'
    dsimp only at found'
    rw [FMap.lookup_insert_eq_ite] at found'
    split at found'
    · obtain rfl := Option.some.inj found'
      exact consistent_store consistent indexed bounded small_entry
    · exact counted.entries key' p' found'
  · show nextTotalBytes t piece packet = FMap.total _ (t.pending.insert key _)
    rw [FMap.total_insert]
    show _ = pieceBytes (p.pieces.set packet.pieceIdx.toNat (some packet.body)) + _
    omega
  · show t.pendingPieces = FMap.total _ (t.pending.insert key _)
    rw [FMap.total_insert]
    exact pieces
  · intro network peerId
    have peers := counted.peers network peerId
    rw [peerPending_eq, FMap.total_of_lookup _ found] at peers
    rw [peerPending_eq]
    show FMap.total _ (t.pending.insert key _) ≤ _
    rw [FMap.total_insert]
    exact peers

end Table

/-! Whole calls. -/

section Calls

variable {t : PendingTable} {key : RpcKey} {packet : RpcPacket} {nowMs : UInt64}

theorem accounted_empty : Accounted PendingTable.empty where
  toCounted := counted_empty
  incomplete key p found := by
    rw [PendingTable.empty, Finmap.lookup_empty] at found
    cases found

private theorem accounted_removePending (accounted : Accounted t) (key : RpcKey) :
    Accounted (t.removePending key) where
  toCounted := counted_removePending accounted.toCounted key
  incomplete key' p found := by
    rw [removePending_lookup] at found
    split at found
    · cases found
    · exact accounted.incomplete key' p found

theorem accounted_removeWhere (accounted : Accounted t) (chosen : RpcKey → PendingRpc → Bool) :
    Accounted (t.removeWhere chosen) :=
  @removeWhere_invariant t Accounted (fun _ key accounted => accounted_removePending accounted key)
    chosen accounted

private theorem accounted_opened {totalPieces : UInt32} {opened : PendingTable}
    (accounted : Accounted t)
    (several : 1 < totalPieces) (h : Opened key totalPieces nowMs t opened) : Accounted opened where
  toCounted := counted_opened accounted.toCounted h
  incomplete key' p found := by
    cases h with
    | present => exact accounted.incomplete key' p found
    | created absent few room =>
      rw [FMap.lookup_insert_eq_ite] at found
      split at found
      · obtain rfl := Option.some.inj found
        have none_yet : filled (PendingRpc.new totalPieces nowMs).pieces = 0 :=
          (consistent_new totalPieces nowMs).received.symm
        have positive : 1 < totalPieces.toNat := several
        rw [none_yet]
        exact lt_trans Nat.zero_lt_one positive
      · exact accounted.incomplete key' p found

private theorem filled_store (accounted : Accounted t) {p : PendingRpc} {piece : Option Bytes}
    (valid : Piece packet) (found : t.pending.lookup key = some p)
    (same : p.totalPieces = packet.totalPieces)
    (indexed : p.pieces[packet.pieceIdx.toNat]? = some piece) :
    (p.store packet.pieceIdx.toNat packet nowMs).receivedPieces.toNat =
        filled (p.store packet.pieceIdx.toNat packet nowMs).pieces ∧
      (p.store packet.pieceIdx.toNat packet nowMs).pieces.length = p.totalPieces.toNat := by
  have consistent := accounted.entries key p found
  refine ⟨store_receivedPieces consistent indexed (same ▸ valid.bounded), ?_⟩
  show (p.pieces.set _ _).length = _
  rw [List.length_set]
  exact consistent.length

private theorem piece_inside (accounted : Accounted t) {p : PendingRpc} (valid : Piece packet)
    (found : t.pending.lookup key = some p) (same : p.totalPieces = packet.totalPieces) :
    ∃ piece, p.pieces[packet.pieceIdx.toNat]? = some piece := by
  have inside : packet.pieceIdx.toNat < p.pieces.length := by
    rw [(accounted.entries key p found).length, same]
    exact valid.index
  exact ⟨_, List.getElem?_eq_getElem inside⟩

private theorem assembled_of_complete (counted : Counted t) {p : PendingRpc}
    (found : t.pending.lookup key = some p) (several : 1 < p.totalPieces)
    (complete : filled p.pieces = p.totalPieces.toNat) : ∃ whole, Assembled p whole := by
  have consistent := counted.entries key p found
  obtain ⟨bodies, all⟩ := filled_full (complete.trans consistent.length.symm)
  have head : ∃ body, p.pieces[0]? = some (some body) := by
    have inside : 0 < p.pieces.length := by
      rw [consistent.length]
      exact lt_trans Nat.zero_lt_one several
    rw [all] at inside ⊢
    rw [List.length_map] at inside
    rw [List.getElem?_map, List.getElem?_eq_getElem inside]
    exact ⟨_, rfl⟩
  obtain ⟨first, taken⟩ := Option.isSome_iff_exists.mp (consistent.first.mpr head)
  refine ⟨_, first, bodies, taken, ?_, rfl⟩
  rw [all]
  exact mapM_some bodies

private theorem assembled_of_last {p : PendingRpc} {piece : Option Bytes} (accounted : Accounted t)
    (valid : Piece packet) (found : t.pending.lookup key = some p)
    (same : p.totalPieces = packet.totalPieces)
    (indexed : p.pieces[packet.pieceIdx.toNat]? = some piece)
    (small : nextTotalBytes t piece packet ≤ maxPendingBytes)
    (last : (p.store packet.pieceIdx.toNat packet nowMs).receivedPieces = packet.totalPieces) :
    ∃ whole, Assembled (p.store packet.pieceIdx.toNat packet nowMs) whole := by
  have counted := @counted_stored _ _ _ nowMs _ _ accounted.toCounted found indexed small
  obtain ⟨count, _⟩ := @filled_store _ _ _ nowMs accounted p piece valid found same indexed
  refine assembled_of_complete counted (storedTable_lookup t key p piece packet nowMs) ?_ ?_
  · show 1 < p.totalPieces
    rw [same]
    exact valid.several
  · rw [← count, last, ← same]
    rfl

private theorem accounted_merge {r : Except String MergedPacket} {t' : PendingTable}
    (accounted : Accounted t) (move : MergeMove key packet nowMs t r t') : Accounted t' := by
  have cleaned : Accounted (t.cleanPending nowMs) := accounted_removeWhere accounted _
  cases move with
  | whole _ => exact accounted
  | malformed => exact accounted
  | refused e piece t' refused =>
    cases refused with
    | changed => exact accounted_removePending cleaned key
    | tooMany => exact cleaned
    | noRoom => exact cleaned
  | overflow valid opened open_ p found piece indexed large =>
    exact accounted_removePending (accounted_opened cleaned valid.several open_) key
  | stored valid opened open_ p found piece indexed small more =>
    have before := accounted_opened cleaned valid.several open_
    refine ⟨counted_stored before.toCounted found indexed small, ?_⟩
    intro key' p' found'
    rw [storedTable] at found'
    dsimp only at found'
    rw [FMap.lookup_insert_eq_ite] at found'
    split at found'
    · obtain rfl := Option.some.inj found'
      obtain ⟨q, lookup, same, _⟩ := open_.lookup
      rw [found] at lookup
      obtain rfl := Option.some.inj lookup
      obtain ⟨count, length⟩ := @filled_store _ _ _ nowMs before p piece valid found same indexed
      refine lt_of_le_of_ne (length ▸ filled_le _) ?_
      intro all
      refine more (UInt32.toNat_inj.mp ?_)
      rw [count, ← same]
      exact all
    · exact before.incomplete key' p' found'
  | completed valid opened open_ p found piece indexed small last whole assembled =>
    have before := accounted_opened cleaned valid.several open_
    refine ⟨counted_removePending (counted_stored before.toCounted found indexed small) key, ?_⟩
    intro key' p' found'
    rw [removePending_lookup] at found'
    split at found'
    · cases found'
    · rename_i other
      rw [storedTable] at found'
      dsimp only at found'
      rw [FMap.lookup_insert_eq_ite, if_neg other] at found'
      exact before.incomplete key' p' found'
  | outOfBounds e valid opened open_ p found missing =>
    exact accounted_opened cleaned valid.several open_
  | broken e valid opened open_ p found piece indexed small last unassembled =>
    obtain ⟨q, lookup, same, _⟩ := open_.lookup
    rw [found] at lookup
    obtain rfl := Option.some.inj lookup
    obtain ⟨whole, assembled⟩ := @assembled_of_last _ _ _ nowMs _ _
      (accounted_opened cleaned valid.several open_) valid found same indexed small last
    exact absurd assembled (unassembled whole)

/-- The errors that a packet can be refused with. -/
def mergeErrors : List String :=
  ["invalid fragmented RPC envelope", "fragmented RPC first piece is missing its descriptor",
    "fragmented RPC changed its declared piece count",
    "too many pending fragmented RPC transactions",
    "pending fragmented RPC piece limit exceeded", "pending fragmented RPC byte limit exceeded"]

/-- The errors and panics that guard against a broken table do not occur. -/
private theorem merge_error {e : String} {t' : PendingTable} (accounted : Accounted t)
    (move : MergeMove key packet nowMs t (.error e) t') : e ∈ mergeErrors := by
  have cleaned : Accounted (t.cleanPending nowMs) := accounted_removeWhere accounted _
  cases move with
  | malformed _ _ _ text =>
    exact List.mem_append_left _ text
  | refused _ piece t' refused =>
    cases refused with
    | changed => simp [mergeErrors]
    | tooMany => simp [mergeErrors]
    | noRoom => simp [mergeErrors]
  | overflow => simp [mergeErrors]
  | outOfBounds _ valid opened open_ p found missing =>
    obtain ⟨q, lookup, same, _⟩ := open_.lookup
    rw [found] at lookup
    obtain rfl := Option.some.inj lookup
    obtain ⟨piece, indexed⟩ := piece_inside (accounted_opened cleaned valid.several open_) valid
      found same
    rw [missing] at indexed
    cases indexed
  | broken _ valid opened open_ p found piece indexed small last unassembled =>
    obtain ⟨q, lookup, same, _⟩ := open_.lookup
    rw [found] at lookup
    obtain rfl := Option.some.inj lookup
    obtain ⟨whole, assembled⟩ := @assembled_of_last _ _ _ nowMs _ _
      (accounted_opened cleaned valid.several open_) valid found same indexed small last
    exact absurd assembled (unassembled whole)

end Calls

/-! The saturating subtractions. -/

/-- The tables between the writes of a call. -/
inductive Between (t : PendingTable) : PendingTable → Prop
  | start : Between t t
  | removed (t' : PendingTable) (key : RpcKey) (before : Between t t') :
      Between t (t'.removePending key)
  | opened (t' t'' : PendingTable) (key : RpcKey) (totalPieces : UInt32) (nowMs : UInt64)
      (before : Between t t') (open_ : Opened key totalPieces nowMs t' t'') : Between t t''
  | stored (t' : PendingTable) (key : RpcKey) (p : PendingRpc) (piece : Option Bytes)
      (packet : RpcPacket) (nowMs : UInt64) (before : Between t t')
      (found : t'.pending.lookup key = some p)
      (indexed : p.pieces[packet.pieceIdx.toNat]? = some piece)
      (small : nextTotalBytes t' piece packet ≤ maxPendingBytes) :
      Between t (storedTable t' key p piece packet nowMs)

/-- What is subtracted, when an entry is removed and when a piece is stored, is never more than
what it is subtracted from. -/
structure Unsaturated (t : PendingTable) : Prop where
  removal : ∀ key p, t.pending.lookup key = some p →
    p.bodyBytes ≤ t.pendingBytes ∧ p.totalPieces.toNat ≤ t.pendingPieces
  storing : ∀ key p (i : Nat) piece, t.pending.lookup key = some p → p.pieces[i]? = some piece →
    pieceLength piece ≤ t.pendingBytes ∧ pieceLength piece ≤ p.bodyBytes

private theorem Between.counted {t t' : PendingTable} (h : Between t t') (counted : Counted t) :
    Counted t' := by
  induction h with
  | start => exact counted
  | removed t' key before ih => exact counted_removePending ih key
  | opened t' t'' key totalPieces nowMs before open_ ih => exact counted_opened ih open_
  | stored t' key p piece packet nowMs before found indexed small ih =>
    exact counted_stored ih found indexed small

private theorem Counted.unsaturated {t : PendingTable} (counted : Counted t) : Unsaturated t where
  removal key p found := by
    rw [counted.pendingBytes, counted.pendingPieces, (counted.entries key p found).bodyBytes]
    exact ⟨FMap.le_total (fun _ p => pieceBytes p.pieces) found,
      FMap.le_total (fun _ p => p.totalPieces.toNat) found⟩
  storing key p i piece found indexed := by
    rw [counted.pendingBytes, (counted.entries key p found).bodyBytes]
    have own := pieceLength_le indexed
    exact ⟨own.trans (FMap.le_total (fun _ p => pieceBytes p.pieces) found), own⟩

/-! The core. -/

theorem accounted_step {t t' : PendingTable} (accounted : Accounted t) (h : FragmentStep t t') :
    Accounted t' := by
  cases h with
  | same => exact accounted
  | merged key packet nowMs r _ move => exact accounted_merge accounted move
  | removed chosen => exact accounted_removeWhere accounted chosen

theorem new_fragments {publicKey : Bytes} {hostname : String} {serverPeerId : UInt32}
    {c : WasmRpcCore} (created : WasmRpcCore.new publicKey hostname serverPeerId = .ok c) :
    c.fragments = PendingTable.empty := by
  rw [WasmRpcCore.new] at created
  split at created
  · cases created
  · split at created
    · cases created
    · cases created
      rfl

/-- In every reachable state the counters are what they stand for and keep to the limits; no
subtraction of the next call saturates, and it is refused only for the reasons of `mergeErrors`. -/
theorem fragment_accounting {E : Env} {publicKey : Bytes} {hostname : String}
    {serverPeerId : UInt32} {c : WasmRpcCore}
    (created : WasmRpcCore.new publicKey hostname serverPeerId = .ok c) (es : List CoreEvent) :
    Accounted (run (step E) c es).fragments ∧
      (∀ t, Between (run (step E) c es).fragments t → Unsaturated t) ∧
      ∀ network peerId packet nowMs e t',
        mergePacket network peerId packet nowMs (run (step E) c es).fragments = .error e t' →
          e ∈ mergeErrors := by
  have start : Accounted c.fragments := by
    rw [new_fragments created]
    exact accounted_empty
  have reached : Accounted (run (step E) c es).fragments :=
    @run_invariant _ _ _ (fun c => Accounted c.fragments)
      (fun c e accounted => accounted_step accounted (step_fragments c e)) c start es
  refine ⟨reached, ?_, ?_⟩
  · intro t between
    exact (between.counted reached.toCounted).unsaturated
  · intro network peerId packet nowMs e t' refused
    have spec := mergePacket_cases network peerId packet nowMs (run (step E) c es).fragments
    have move := ensures_of_error spec refused
    exact merge_error reached move

/-! A message in two pieces: the second one waits for the first. -/

def onePiece : RpcPacket where
  fromPeer := 5
  toPeer := 1
  transactionId := 7
  descriptor := none
  body := [1, 2, 3]
  isRequest := true
  totalPieces := 2
  pieceIdx := 1
  traceId := 0
  compressionInfo := none

def pieceEnv : Env := ⟨Wire.codec ⟨[onePiece], [], [], [], [], [], []⟩, fun _ => 0⟩

def pieceHost : Host := ⟨fun _ => 1_000, ⟨1, 2, 3, 4⟩, 9, fun _ => .ok 0⟩

def oneCore : Except String WasmRpcCore := WasmRpcCore.new (List.replicate 32 1) "edge" 1

def onePieceRun : List CoreEvent :=
  [⟨pieceHost, .handleRequest "net" 5 (Wire.rpcPacket onePiece) 1_000⟩]

theorem fragment_accounting_onePiece : ∃ c, oneCore = .ok c ∧
    (run (step pieceEnv) c onePieceRun).fragments.pendingBytes = 3 ∧
    (run (step pieceEnv) c onePieceRun).fragments.pendingPieces = 2 ∧
    Accounted (run (step pieceEnv) c onePieceRun).fragments :=
  ⟨_, rfl, by decide +kernel, by decide +kernel,
    (@fragment_accounting pieceEnv (List.replicate 32 1) "edge" 1 _ rfl onePieceRun).1⟩

end EasyTierEdge.Rpc.FragmentAccounting
