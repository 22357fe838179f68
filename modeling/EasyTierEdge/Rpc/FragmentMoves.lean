/- module: EasyTierEdge/Rpc/FragmentMoves
   source: cloudflare/wasm/src/rpc.rs, merge_packet, clean_pending and remove_pending
   digest: What one packet or one clean-up does to the pending fragments. -/

import EasyTierEdge.Rpc.Fragments

set_option autoImplicit false
set_option relaxedAutoImplicit false

namespace EasyTierEdge.Rpc.FragmentMoves

open Lib.AscendingMap Lib.Fallible Lib.FiniteMap Lib.Saturating
open Packet (Bytes)
open Proto Fragments

section Removal

variable (t : PendingTable)

theorem removePending_lookup (key key' : RpcKey) :
    (t.removePending key).pending.lookup key' =
      if key' = key then none else t.pending.lookup key' := by
  rw [PendingTable.removePending]
  cases found : t.pending.lookup key with
  | none =>
    dsimp only
    split
    · rename_i same
      rw [same]
      exact found
    · rfl
  | some p => exact FMap.lookup_erase_eq_ite _ _ _

private theorem foldl_removePending_lookup (keys : List RpcKey) (key : RpcKey) :
    (keys.foldl PendingTable.removePending t).pending.lookup key =
      if key ∈ keys then none else t.pending.lookup key := by
  induction keys generalizing t with
  | nil => rfl
  | cons k keys ih =>
    rw [List.foldl_cons, ih, removePending_lookup]
    by_cases same : key = k
    · simp [same]
    · simp [same]

private theorem removeWhere_eq (chosen : RpcKey → PendingRpc → Bool) :
    ∃ keys : List RpcKey, keys.Nodup ∧
      (∀ key, key ∈ keys ↔ ∃ p, t.pending.lookup key = some p ∧ chosen key p = true) ∧
      t.removeWhere chosen = keys.foldl PendingTable.removePending t := by
  obtain ⟨l, nodup, members, same⟩ := FMap.foldl_eq_list
    (fun (t : PendingTable) key (_ : PendingRpc) => t.removePending key)
    (fun t key _ key' _ => t.removePending_comm key key') t (FMap.retain chosen t.pending)
  refine ⟨l.map Prod.fst, nodup, ?_, ?_⟩
  · intro key
    rw [List.mem_map]
    constructor
    · rintro ⟨⟨key', p⟩, member, rfl⟩
      exact ⟨p, FMap.lookup_of_lookup_retain ((members key' p).mp member)⟩
    · rintro ⟨p, found, picked⟩
      exact ⟨(key, p), (members key p).mpr (FMap.lookup_retain_of_true found picked), rfl⟩
  · rw [PendingTable.removeWhere, same, List.foldl_map]

theorem removeWhere_lookup (chosen : RpcKey → PendingRpc → Bool) (key : RpcKey) :
    (t.removeWhere chosen).pending.lookup key =
      (t.pending.lookup key).filter fun p => !chosen key p := by
  obtain ⟨keys, _, members, same⟩ := removeWhere_eq t chosen
  rw [same, foldl_removePending_lookup]
  cases found : t.pending.lookup key with
  | none =>
    split
    · rfl
    · rfl
  | some p =>
    rw [Option.filter_some]
    by_cases picked : chosen key p = true
    · rw [if_pos ((members key).mpr ⟨p, found, picked⟩), if_neg (by simp [picked])]
    · have kept : key ∉ keys := by
        intro member
        obtain ⟨p', found', picked'⟩ := (members key).mp member
        rw [found] at found'
        cases found'
        exact picked picked'
      rw [if_neg kept, if_pos (by simp [picked])]

/-- What every removal preserves, the loops preserve. -/
theorem removeWhere_invariant {P : PendingTable → Prop}
    (keep : ∀ t key, P t → P (t.removePending key)) (chosen : RpcKey → PendingRpc → Bool)
    (start : P t) : P (t.removeWhere chosen) := by
  obtain ⟨keys, -, -, same⟩ := removeWhere_eq t chosen
  rw [same]
  clear same
  induction keys generalizing t with
  | nil => exact start
  | cons key keys ih => exact ih _ (keep t key start)

end Removal

/-! One packet. -/

/-- A packet that is a whole message. -/
def Whole (packet : RpcPacket) : Prop := packet.totalPieces ≤ 1 ∧ packet.pieceIdx = 0

/-- One of several pieces, with an acceptable envelope. -/
structure Piece (packet : RpcPacket) : Prop where
  several : 1 < packet.totalPieces
  bounded : packet.totalPieces ≤ maxRpcPieces
  index : packet.pieceIdx < packet.totalPieces
  described : packet.pieceIdx = 0 → packet.descriptor.isSome = true

/-- The table with an entry for the piece: the one it has already, or a new one. -/
inductive Opened (key : RpcKey) (totalPieces : UInt32) (nowMs : UInt64) (t : PendingTable) :
    PendingTable → Prop
  | present (p : PendingRpc) (found : t.pending.lookup key = some p)
      (same : p.totalPieces = totalPieces) : Opened key totalPieces nowMs t t
  | created (absent : t.pending.lookup key = none)
      (few : t.peerPending key.network key.peerId < maxPendingTransactionsPerPeer)
      (room : saturatingAddUsize t.pendingPieces totalPieces.toNat ≤ maxPendingPieces) :
      Opened key totalPieces nowMs t { t with
        pending := t.pending.insert key (PendingRpc.new totalPieces nowMs)
        pendingPieces := t.pendingPieces + totalPieces.toNat }

/-- Why a piece gets no entry. -/
inductive Refused (key : RpcKey) (totalPieces : UInt32) (t : PendingTable) :
    String → PendingTable → Prop
  | changed (p : PendingRpc) (found : t.pending.lookup key = some p)
      (differs : p.totalPieces ≠ totalPieces) :
      Refused key totalPieces t "fragmented RPC changed its declared piece count"
        (t.removePending key)
  | tooMany (absent : t.pending.lookup key = none)
      (many : maxPendingTransactionsPerPeer ≤ t.peerPending key.network key.peerId) :
      Refused key totalPieces t "too many pending fragmented RPC transactions" t
  | noRoom (absent : t.pending.lookup key = none)
      (few : t.peerPending key.network key.peerId < maxPendingTransactionsPerPeer)
      (full : maxPendingPieces < saturatingAddUsize t.pendingPieces totalPieces.toNat) :
      Refused key totalPieces t "pending fragmented RPC piece limit exceeded" t

/-- The bytes that would be pending with the piece stored. -/
def nextTotalBytes (t : PendingTable) (piece : Option Bytes) (packet : RpcPacket) : Nat :=
  saturatingAddUsize (t.pendingBytes - pieceLength piece) packet.body.length

/-- The table with the piece stored in the entry `p`. -/
def storedTable (t : PendingTable) (key : RpcKey) (p : PendingRpc) (piece : Option Bytes)
    (packet : RpcPacket) (nowMs : UInt64) : PendingTable :=
  { t with
    pending := t.pending.insert key (p.store packet.pieceIdx.toNat packet nowMs)
    pendingBytes := nextTotalBytes t piece packet }

/-- What a completed entry is put together to. -/
def Assembled (p : PendingRpc) (packet : RpcPacket) : Prop :=
  ∃ first pieces, p.first = some first ∧ p.pieces.mapM id = some pieces ∧
    packet = { first with body := pieces.flatten, totalPieces := 1, pieceIdx := 0 }

/-- Everything `merge_packet` can do to the table `t`. -/
inductive MergeMove (key : RpcKey) (packet : RpcPacket) (nowMs : UInt64) (t : PendingTable) :
    Except String MergedPacket → PendingTable → Prop
  | whole (whole : Whole packet) : MergeMove key packet nowMs t (.ok (.complete packet)) t
  | malformed (e : String) (not_whole : ¬ Whole packet) (not_piece : ¬ Piece packet)
      (text : e ∈ ["invalid fragmented RPC envelope",
        "fragmented RPC first piece is missing its descriptor"]) :
      MergeMove key packet nowMs t (.error e) t
  | refused (e : String) (piece : Piece packet) (t' : PendingTable)
      (refused : Refused key packet.totalPieces (t.cleanPending nowMs) e t') :
      MergeMove key packet nowMs t (.error e) t'
  | overflow (valid : Piece packet) (opened : PendingTable)
      (open_ : Opened key packet.totalPieces nowMs (t.cleanPending nowMs) opened) (p : PendingRpc)
      (found : opened.pending.lookup key = some p) (piece : Option Bytes)
      (indexed : p.pieces[packet.pieceIdx.toNat]? = some piece)
      (large : maxPendingBytes < nextTotalBytes opened piece packet) :
      MergeMove key packet nowMs t (.error "pending fragmented RPC byte limit exceeded")
        (opened.removePending key)
  | stored (valid : Piece packet) (opened : PendingTable)
      (open_ : Opened key packet.totalPieces nowMs (t.cleanPending nowMs) opened) (p : PendingRpc)
      (found : opened.pending.lookup key = some p) (piece : Option Bytes)
      (indexed : p.pieces[packet.pieceIdx.toNat]? = some piece)
      (small : nextTotalBytes opened piece packet ≤ maxPendingBytes)
      (more : (p.store packet.pieceIdx.toNat packet nowMs).receivedPieces ≠ packet.totalPieces) :
      MergeMove key packet nowMs t (.ok .pending) (storedTable opened key p piece packet nowMs)
  | completed (valid : Piece packet) (opened : PendingTable)
      (open_ : Opened key packet.totalPieces nowMs (t.cleanPending nowMs) opened) (p : PendingRpc)
      (found : opened.pending.lookup key = some p) (piece : Option Bytes)
      (indexed : p.pieces[packet.pieceIdx.toNat]? = some piece)
      (small : nextTotalBytes opened piece packet ≤ maxPendingBytes)
      (last : (p.store packet.pieceIdx.toNat packet nowMs).receivedPieces = packet.totalPieces)
      (whole : RpcPacket)
      (assembled : Assembled (p.store packet.pieceIdx.toNat packet nowMs) whole) :
      MergeMove key packet nowMs t (.ok (.complete whole))
        ((storedTable opened key p piece packet nowMs).removePending key)
  | outOfBounds (e : String) (valid : Piece packet) (opened : PendingTable)
      (open_ : Opened key packet.totalPieces nowMs (t.cleanPending nowMs) opened) (p : PendingRpc)
      (found : opened.pending.lookup key = some p)
      (missing : p.pieces[packet.pieceIdx.toNat]? = none) :
      MergeMove key packet nowMs t (.error e) opened
  | broken (e : String) (valid : Piece packet) (opened : PendingTable)
      (open_ : Opened key packet.totalPieces nowMs (t.cleanPending nowMs) opened) (p : PendingRpc)
      (found : opened.pending.lookup key = some p) (piece : Option Bytes)
      (indexed : p.pieces[packet.pieceIdx.toNat]? = some piece)
      (small : nextTotalBytes opened piece packet ≤ maxPendingBytes)
      (last : (p.store packet.pieceIdx.toNat packet nowMs).receivedPieces = packet.totalPieces)
      (unassembled : ∀ whole, ¬ Assembled (p.store packet.pieceIdx.toNat packet nowMs) whole) :
      MergeMove key packet nowMs t (.error e)
        ((storedTable opened key p piece packet nowMs).removePending key)

theorem Opened.lookup {key : RpcKey} {totalPieces : UInt32} {nowMs : UInt64}
    {t opened : PendingTable} (h : Opened key totalPieces nowMs t opened) :
    ∃ p, opened.pending.lookup key = some p ∧ p.totalPieces = totalPieces ∧
      (t.pending.lookup key = some p ∨
        t.pending.lookup key = none ∧ p = PendingRpc.new totalPieces nowMs) := by
  cases h with
  | present p found same => exact ⟨p, found, same, Or.inl found⟩
  | created absent few room =>
    exact ⟨_, Finmap.lookup_insert _, rfl, Or.inr ⟨absent, rfl⟩⟩

private theorem openPending_cases (key : RpcKey) (totalPieces : UInt32) (nowMs : UInt64)
    (t : PendingTable) :
    Ensures (openPending key totalPieces nowMs) t
      (fun _ t' => Opened key totalPieces nowMs t t') (Refused key totalPieces t) := by
  rw [openPending]
  cases found : t.pending.lookup key with
  | none =>
    simp only [ensures_bind, ensures_get, found, Option.any_none, Bool.false_eq_true, ensures_ite,
      false_implies, ensures_set, ensures_throw, ensures_pure, Option.isNone_none,
      not_true_eq_false, not_false_eq_true, true_implies, true_and, and_true]
    refine ⟨?_, ?_⟩
    · intro many
      exact .tooMany found many
    · intro few
      have few := not_le.mp few
      refine ⟨?_, ?_⟩
      · intro full
        exact .noRoom found few full
      · intro room
        exact .created found few (not_lt.mp room)
  | some p =>
    simp only [ensures_bind, ensures_get, found, Option.any_some, decide_eq_true_eq, ensures_ite,
      ensures_set, ensures_throw, ensures_pure, Option.isNone_some, Bool.false_eq_true,
      false_implies, not_false_eq_true, true_implies, true_and]
    refine ⟨?_, ?_⟩
    · intro differs
      exact .changed p found differs
    · intro same
      exact .present p found (not_not.mp same)

private theorem storePiece_cases (key : RpcKey) (packet : RpcPacket) (nowMs : UInt64)
    (t : PendingTable) (p : PendingRpc) (found : t.pending.lookup key = some p) :
    Ensures (storePiece key packet nowMs) t
      (fun last t' => ∃ piece, p.pieces[packet.pieceIdx.toNat]? = some piece ∧
        nextTotalBytes t piece packet ≤ maxPendingBytes ∧
        t' = storedTable t key p piece packet nowMs ∧
        (last = true ↔
          (p.store packet.pieceIdx.toNat packet nowMs).receivedPieces = packet.totalPieces))
      (fun e t' => (p.pieces[packet.pieceIdx.toNat]? = none ∧ t' = t) ∨
        e = "pending fragmented RPC byte limit exceeded" ∧
          ∃ piece, p.pieces[packet.pieceIdx.toNat]? = some piece ∧
            maxPendingBytes < nextTotalBytes t piece packet ∧ t' = t.removePending key) := by
  rw [storePiece]
  cases indexed : p.pieces[packet.pieceIdx.toNat]? with
  | none =>
    simp only [ensures_bind, ensures_get, found, indexed, ensures_throw]
    exact Or.inl ⟨trivial, trivial⟩
  | some piece =>
    simp only [ensures_bind, ensures_get, found, indexed, ensures_ite, ensures_set, ensures_throw,
      ensures_pure]
    refine ⟨?_, ?_⟩
    · intro large
      exact Or.inr ⟨trivial, piece, rfl, large, trivial⟩
    · intro small
      exact ⟨piece, rfl, not_lt.mp small, rfl, beq_iff_eq⟩

private theorem takeCompleted_cases (key : RpcKey) (t : PendingTable) (p : PendingRpc)
    (found : t.pending.lookup key = some p) :
    Ensures (takeCompleted key) t
      (fun whole t' => Assembled p whole ∧ t' = t.removePending key)
      (fun _ t' => (∀ whole, ¬ Assembled p whole) ∧ t' = t.removePending key) := by
  rw [takeCompleted]
  cases head : p.first with
  | none =>
    simp only [ensures_bind, ensures_get, found, ensures_set, head, ensures_throw]
    refine ⟨?_, trivial⟩
    rintro whole ⟨first, pieces, taken, _⟩
    rw [head] at taken
    cases taken
  | some first =>
    cases all : p.pieces.mapM id with
    | none =>
      simp only [ensures_bind, ensures_get, found, ensures_set, head, all, ensures_throw]
      refine ⟨?_, trivial⟩
      rintro whole ⟨first, pieces, _, taken, _⟩
      rw [all] at taken
      cases taken
    | some pieces =>
      simp only [ensures_bind, ensures_get, found, ensures_set, head, all, ensures_pure]
      exact ⟨⟨first, pieces, head, all, rfl⟩, trivial⟩

theorem storedTable_lookup (t : PendingTable) (key : RpcKey) (p : PendingRpc) (piece : Option Bytes)
    (packet : RpcPacket) (nowMs : UInt64) :
    (storedTable t key p piece packet nowMs).pending.lookup key =
      some (p.store packet.pieceIdx.toNat packet nowMs) :=
  Finmap.lookup_insert _

theorem mergePacket_cases (network : String) (peerId : UInt32) (packet : RpcPacket)
    (nowMs : UInt64) (t : PendingTable) :
    Ensures (mergePacket network peerId packet nowMs) t
      (fun merged t' => MergeMove (rpcKey network peerId packet.transactionId packet.isRequest)
        packet nowMs t (.ok merged) t')
      (fun e t' => MergeMove (rpcKey network peerId packet.transactionId packet.isRequest)
        packet nowMs t (.error e) t') := by
  simp only [mergePacket, ensures_bind, ensures_ite, ensures_pure, ensures_throw, ensures_modify]
  refine ⟨?_, fun not_empty => ⟨?_, fun valid => ⟨?_, fun several => ⟨?_, fun described => ?_⟩⟩⟩⟩
  · rintro ⟨total, index⟩
    refine .whole ⟨?_, index⟩
    rw [total]
    decide
  · intro wrong
    refine .malformed _ ?_ ?_ (by simp)
    · rintro ⟨total, index⟩
      rcases wrong with zero | large | outside
      · exact not_empty ⟨zero, index⟩
      · exact absurd (lt_of_lt_of_le large total) (by decide)
      · rw [index] at outside
        exact not_empty ⟨le_antisymm outside (UInt32.zero_le), index⟩
    · rintro ⟨many, bounded, inside, _⟩
      rcases wrong with zero | large | outside
      · rw [zero] at many
        exact absurd many (by decide)
      · exact absurd bounded (not_le.mpr large)
      · exact absurd inside (not_lt.mpr outside)
  · intro one
    rw [not_or, not_or, ge_iff_le, not_le] at valid
    refine .whole ⟨le_of_eq one, ?_⟩
    have inside := valid.2.2
    rw [one, UInt32.lt_iff_toNat_lt] at inside
    rw [← UInt32.toNat_inj]
    exact Nat.lt_one_iff.mp inside
  · rintro ⟨index, missing⟩
    refine .malformed _ ?_ ?_ (by simp)
    · rintro ⟨total, _⟩
      rw [not_or] at valid
      refine several ?_
      rw [UInt32.le_iff_toNat_le] at total
      have positive : packet.totalPieces.toNat ≠ 0 := fun h => valid.1 (UInt32.toNat_inj.mp h)
      rw [← UInt32.toNat_inj]
      exact le_antisymm total (Nat.one_le_iff_ne_zero.mpr positive)
    · rintro ⟨_, _, _, needs⟩
      rw [Option.isNone_iff_eq_none] at missing
      have present := needs index
      rw [missing] at present
      cases present
  · rw [not_or, not_or, not_lt, ge_iff_le, not_le] at valid
    have piece : Piece packet := by
      refine ⟨?_, valid.2.1, valid.2.2, ?_⟩
      · have zero : packet.totalPieces.toNat ≠ 0 := fun h => valid.1 (UInt32.toNat_inj.mp h)
        have one : packet.totalPieces.toNat ≠ 1 := fun h => several (UInt32.toNat_inj.mp h)
        rw [UInt32.lt_iff_toNat_lt]
        show 1 < packet.totalPieces.toNat
        omega
      · intro index
        cases given : packet.descriptor with
        | none => exact absurd ⟨index, by rw [given]; rfl⟩ described
        | some descriptor => rfl
    refine (openPending_cases _ packet.totalPieces nowMs (t.cleanPending nowMs)).mono ?_ ?_
    · intro _ opened open_
      obtain ⟨p, found, _⟩ := open_.lookup
      refine (storePiece_cases _ packet nowMs opened p found).mono ?_ ?_
      · rintro last t' ⟨part, indexed, small, rfl, isLast⟩
        refine ⟨?_, ?_⟩
        · intro done
          refine (takeCompleted_cases _ _ _ (storedTable_lookup opened _ p part packet nowMs)).mono
            ?_ ?_
          · rintro whole t' ⟨assembled, rfl⟩
            exact .completed piece opened open_ p found part indexed small (isLast.mp done) whole
              assembled
          · rintro e t' ⟨unassembled, rfl⟩
            exact .broken e piece opened open_ p found part indexed small (isLast.mp done)
              unassembled
        · intro more
          exact .stored piece opened open_ p found part indexed small fun h => more (isLast.mpr h)
      · rintro e t' (⟨missing, rfl⟩ | ⟨rfl, part, indexed, large, rfl⟩)
        · exact .outOfBounds e piece _ open_ p found missing
        · exact .overflow piece opened open_ p found part indexed large
    · intro e t' refused
      exact .refused e piece t' refused

end EasyTierEdge.Rpc.FragmentMoves
