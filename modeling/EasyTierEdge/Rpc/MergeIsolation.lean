/- module: EasyTierEdge/Rpc/MergeIsolation
   source: cloudflare/wasm/src/rpc.rs, merge_packet and its limits
   digest: The fragments of a network feel the others through the two shared limits only. -/

import EasyTierEdge.Rpc.FragmentAccounting

set_option autoImplicit false
set_option relaxedAutoImplicit false

namespace EasyTierEdge.Rpc.MergeIsolation

open Lib.Fallible Lib.FiniteMap Lib.Saturating
open Packet (Bytes)
open Proto Fragments FragmentMoves FragmentAccounting

def pieceLimit : String := "pending fragmented RPC piece limit exceeded"
def byteLimit : String := "pending fragmented RPC byte limit exceeded"

section Parts

variable {key : RpcKey} {packet : RpcPacket} {totalPieces : UInt32} {nowMs : UInt64}
  {t : PendingTable} {p : PendingRpc}

/-- The table with a new entry for `key`. -/
def withEntry (t : PendingTable) (key : RpcKey) (totalPieces : UInt32) (nowMs : UInt64) :
    PendingTable :=
  { t with
    pending := t.pending.insert key (PendingRpc.new totalPieces nowMs)
    pendingPieces := t.pendingPieces + totalPieces.toNat }

private theorem openPending_present (found : t.pending.lookup key = some p) :
    openPending key totalPieces nowMs t =
      if p.totalPieces ≠ totalPieces then
        .error "fragmented RPC changed its declared piece count" (t.removePending key)
      else .ok () t := by
  rw [openPending, get_bind]
  by_cases differs : p.totalPieces ≠ totalPieces
  · rw [if_pos differs]
    simp only [found, Option.any_some, if_pos (decide_eq_true differs)]
    rfl
  · rw [if_neg differs]
    simp only [found, Option.any_some, decide_eq_false differs, Option.isNone_some,
      Bool.false_eq_true, if_false]
    rfl

private theorem openPending_absent (absent : t.pending.lookup key = none) :
    openPending key totalPieces nowMs t =
      if t.peerPending key.network key.peerId ≥ maxPendingTransactionsPerPeer then
        .error "too many pending fragmented RPC transactions" t
      else if saturatingAddUsize t.pendingPieces totalPieces.toNat > maxPendingPieces then
        .error pieceLimit t
      else .ok () (withEntry t key totalPieces nowMs) := by
  rw [openPending, get_bind]
  simp only [absent, Option.any_none, Option.isNone_none, Bool.false_eq_true, if_false, if_true]
  by_cases many : t.peerPending key.network key.peerId ≥ maxPendingTransactionsPerPeer
  · simp only [if_pos many]
    rfl
  · by_cases full : saturatingAddUsize t.pendingPieces totalPieces.toNat > maxPendingPieces
    · simp only [if_neg many, if_pos full]
      rfl
    · simp only [if_neg many, if_neg full]
      rfl

private theorem storePiece_indexed {piece : Option Bytes} (found : t.pending.lookup key = some p)
    (indexed : p.pieces[packet.pieceIdx.toNat]? = some piece) :
    storePiece key packet nowMs t =
      if nextTotalBytes t piece packet > maxPendingBytes then
        .error byteLimit (t.removePending key)
      else .ok ((p.store packet.pieceIdx.toNat packet nowMs).receivedPieces == packet.totalPieces)
        (storedTable t key p piece packet nowMs) := by
  rw [storePiece, get_bind]
  by_cases large : nextTotalBytes t piece packet > maxPendingBytes
  · rw [if_pos large]
    rw [nextTotalBytes] at large
    simp only [found, indexed, if_pos large]
    rfl
  · rw [if_neg large]
    rw [nextTotalBytes] at large
    simp only [found, indexed, if_neg large]
    rfl

private theorem storePiece_missing (found : t.pending.lookup key = some p)
    (missing : p.pieces[packet.pieceIdx.toNat]? = none) :
    storePiece key packet nowMs t = .error "panic: index out of bounds" t := by
  rw [storePiece, get_bind]
  simp only [found, missing]
  rfl

/-- What an entry is put together to, or why it is not. -/
def assemble (p : PendingRpc) : Except String RpcPacket := do
  let some first := p.first | throw "fragmented RPC first piece was not received"
  let some pieces := p.pieces.mapM id | throw "fragmented RPC contains a missing piece"
  return { first with body := pieces.flatten, totalPieces := 1, pieceIdx := 0 }

private theorem takeCompleted_present (found : t.pending.lookup key = some p) :
    value (takeCompleted key t) = assemble p ∧
      final (takeCompleted key t) = t.removePending key := by
  have spec : Ensures (takeCompleted key) t
      (fun whole t' => .ok whole = assemble p ∧ t' = t.removePending key)
      (fun e t' => .error e = assemble p ∧ t' = t.removePending key) := by
    rw [takeCompleted, assemble]
    cases head : p.first with
    | none =>
      simp only [ensures_bind, ensures_get, found, ensures_set, head, ensures_throw]
      exact ⟨rfl, trivial⟩
    | some first =>
      cases all : p.pieces.mapM id with
      | none =>
        simp only [ensures_bind, ensures_get, found, ensures_set, head, all, ensures_throw]
        exact ⟨rfl, trivial⟩
      | some pieces =>
        simp only [ensures_bind, ensures_get, found, ensures_set, head, all, ensures_pure]
        exact ⟨rfl, trivial⟩
  exact @ensures_result _ _ _ t (takeCompleted key)
    (fun r => value r = assemble p ∧ final r = t.removePending key) spec

end Parts


/-! Two tables. -/

/-- The entries of the network are the same in both. -/
def SameEntries (network : String) (t s : PendingTable) : Prop :=
  ∀ key, key.network = network → s.pending.lookup key = t.pending.lookup key

/-- `t` has the entries that `s` has of the network, and no more is pending in it. -/
structure Within (network : String) (t s : PendingTable) : Prop where
  entries : SameEntries network t s
  bytes : t.pendingBytes ≤ s.pendingBytes
  pieces : t.pendingPieces ≤ s.pendingPieces

/-- The refusals that depend on what is pending for every network. -/
def limited {α : Type} : Except String α → Bool
  | .error text => text == pieceLimit || text == byteLimit
  | .ok _ => false

private theorem limited_pieceLimit {α : Type} :
    limited (.error pieceLimit : Except String α) = true := by
  rw [limited, beq_self_eq_true, Bool.true_or]

private theorem limited_byteLimit {α : Type} :
    limited (.error byteLimit : Except String α) = true := by
  rw [limited, beq_self_eq_true, Bool.or_true]

private theorem limited_other {α : Type} {text : String} (pieces : text ≠ pieceLimit)
    (bytes : text ≠ byteLimit) : limited (.error text : Except String α) = false := by
  rw [limited, beq_false_of_ne pieces, beq_false_of_ne bytes, Bool.or_false]

/-- The same happened to the network, unless a limit stopped the second call only. -/
def Near {α : Type} (network : String) (x y : EStateM.Result String PendingTable α) : Prop :=
  (limited (value y) = true ∧ limited (value x) = false) ∨
    ((value y).toOption = (value x).toOption ∧ SameEntries network (final x) (final y))

section Pairs

variable {network : String} {t s : PendingTable} {key : RpcKey} {packet : RpcPacket}
  {totalPieces : UInt32} {nowMs : UInt64} {p : PendingRpc}

theorem SameEntries.symm (same : SameEntries network t s) : SameEntries network s t :=
  fun key here => (same key here).symm

theorem SameEntries.trans {u : PendingTable} (same : SameEntries network t s)
    (next : SameEntries network s u) : SameEntries network t u :=
  fun key here => (next key here).trans (same key here)

private theorem SameEntries.retain (same : SameEntries network t s)
    {chosen : RpcKey → PendingRpc → Bool}
    (own : ∀ key p, chosen key p = true → key.network = network) :
    FMap.retain chosen s.pending = FMap.retain chosen t.pending := by
  apply Finmap.ext_lookup
  intro key
  rw [FMap.lookup_retain, FMap.lookup_retain]
  by_cases here : key.network = network
  · rw [same key here]
  · have unchosen : ∀ p, ¬ chosen key p = true := fun p picked => here (own key p picked)
    rw [Option.filter_eq_none_iff.mpr fun p _ => unchosen p,
      Option.filter_eq_none_iff.mpr fun p _ => unchosen p]

private theorem SameEntries.peerPending (same : SameEntries network t s) (peerId : UInt32) :
    s.peerPending network peerId = t.peerPending network peerId := by
  rw [PendingTable.peerPending, PendingTable.peerPending, same.retain]
  intro key _ picked
  exact eq_of_beq (Bool.and_eq_true_iff.mp picked).1

private theorem SameEntries.removePending (same : SameEntries network t s) (key : RpcKey) :
    SameEntries network (t.removePending key) (s.removePending key) := by
  intro key' here
  rw [removePending_lookup, removePending_lookup, same key' here]

private theorem saturatingAddUsize_mono {a b : Nat} (le : a ≤ b) (c : Nat) :
    saturatingAddUsize a c ≤ saturatingAddUsize b c := by
  simp only [saturatingAddUsize]
  omega

private theorem Within.withEntry (within : Within network t s) :
    Within network (withEntry t key totalPieces nowMs) (withEntry s key totalPieces nowMs) := by
  refine ⟨?_, within.bytes, Nat.add_le_add_right within.pieces _⟩
  intro key' here
  show (s.pending.insert key _).lookup key' = (t.pending.insert key _).lookup key'
  rw [FMap.lookup_insert_eq_ite, FMap.lookup_insert_eq_ite, within.entries key' here]

private theorem Within.nextTotalBytes (within : Within network t s) (piece : Option Bytes)
    (packet : RpcPacket) : nextTotalBytes t piece packet ≤ nextTotalBytes s piece packet :=
  saturatingAddUsize_mono (Nat.sub_le_sub_right within.bytes _) _

private theorem Within.storedTable (within : Within network t s) (p : PendingRpc)
    (piece : Option Bytes) :
    Within network (storedTable t key p piece packet nowMs)
      (storedTable s key p piece packet nowMs) := by
  refine ⟨?_, within.nextTotalBytes piece packet, within.pieces⟩
  intro key' here
  show (s.pending.insert key _).lookup key' = (t.pending.insert key _).lookup key'
  rw [FMap.lookup_insert_eq_ite, FMap.lookup_insert_eq_ite, within.entries key' here]

end Pairs

/-! The piece of a packet that has its entry. -/

/-- What `merge_packet` does once there is an entry. -/
def settle (key : RpcKey) (packet : RpcPacket) (nowMs : UInt64) : FragmentsM MergedPacket := do
  let last ← storePiece key packet nowMs
  if last then
    let whole ← takeCompleted key
    return .complete whole
  else
    return .pending

/-- What becomes of the message with the stored entry `p`. -/
def settled (p : PendingRpc) (packet : RpcPacket) : Except String MergedPacket := do
  if p.receivedPieces == packet.totalPieces then
    return .complete (← assemble p)
  else
    return .pending

section Settling

variable {network : String} {t s : PendingTable} {key : RpcKey} {packet : RpcPacket}
  {nowMs : UInt64} {p : PendingRpc} {piece : Option Bytes}

private theorem limited_assemble (p : PendingRpc) : limited (assemble p) = false := by
  rw [assemble]
  cases p.first with
  | none => exact limited_other (by decide) (by decide)
  | some first =>
    cases p.pieces.mapM id with
    | none => exact limited_other (by decide) (by decide)
    | some pieces => rfl

private theorem limited_settled (p : PendingRpc) (packet : RpcPacket) :
    limited (settled p packet) = false := by
  have assembled := limited_assemble p
  rw [settled]
  split
  · cases put : assemble p with
    | ok whole => rfl
    | error e =>
      rw [put] at assembled
      exact assembled
  · rfl

private theorem settle_missing (found : t.pending.lookup key = some p)
    (missing : p.pieces[packet.pieceIdx.toNat]? = none) :
    settle key packet nowMs t = .error "panic: index out of bounds" t := by
  rw [settle, bind_of_error (storePiece_missing found missing)]

private theorem settle_large (found : t.pending.lookup key = some p)
    (indexed : p.pieces[packet.pieceIdx.toNat]? = some piece)
    (large : nextTotalBytes t piece packet > maxPendingBytes) :
    settle key packet nowMs t = .error byteLimit (t.removePending key) := by
  have ran := @storePiece_indexed key packet nowMs t p piece found indexed
  rw [if_pos large] at ran
  rw [settle, bind_of_error ran]

private theorem settle_small (found : t.pending.lookup key = some p)
    (indexed : p.pieces[packet.pieceIdx.toNat]? = some piece)
    (small : ¬ nextTotalBytes t piece packet > maxPendingBytes) :
    value (settle key packet nowMs t) =
        settled (p.store packet.pieceIdx.toNat packet nowMs) packet ∧
      final (settle key packet nowMs t) =
        if (p.store packet.pieceIdx.toNat packet nowMs).receivedPieces == packet.totalPieces then
          (storedTable t key p piece packet nowMs).removePending key
        else storedTable t key p piece packet nowMs := by
  have ran := @storePiece_indexed key packet nowMs t p piece found indexed
  rw [if_neg small] at ran
  rw [settle, bind_of_ok ran, settled]
  cases last : (p.store packet.pieceIdx.toNat packet nowMs).receivedPieces ==
      packet.totalPieces with
  | false => exact ⟨rfl, rfl⟩
  | true =>
    obtain ⟨put, left⟩ := takeCompleted_present
      (storedTable_lookup t key p piece packet nowMs)
    cases assembled : assemble (p.store packet.pieceIdx.toNat packet nowMs) with
    | ok whole =>
      rw [assembled] at put
      have took := eq_ok_of_value put
      rw [left] at took
      simp only [if_true]
      rw [bind_of_ok took]
      exact ⟨rfl, rfl⟩
    | error e =>
      rw [assembled] at put
      have took := eq_error_of_value put
      rw [left] at took
      simp only [if_true]
      rw [bind_of_error took]
      exact ⟨rfl, rfl⟩

private theorem settle_near (within : Within network t s) (here : key.network = network)
    (found : t.pending.lookup key = some p) :
    Near network (settle key packet nowMs t) (settle key packet nowMs s) := by
  have found' : s.pending.lookup key = some p := (within.entries key here).trans found
  cases indexed : p.pieces[packet.pieceIdx.toNat]? with
  | none =>
    rw [settle_missing found indexed, settle_missing found' indexed]
    exact .inr ⟨rfl, within.entries⟩
  | some piece =>
    have mono := within.nextTotalBytes piece packet
    by_cases large : nextTotalBytes t piece packet > maxPendingBytes
    · rw [settle_large found indexed large,
        settle_large found' indexed (Nat.lt_of_lt_of_le large mono)]
      exact .inr ⟨rfl, within.entries.removePending key⟩
    · obtain ⟨got, left⟩ := @settle_small t key packet nowMs p piece found indexed large
      by_cases large' : nextTotalBytes s piece packet > maxPendingBytes
      · refine .inl ⟨?_, ?_⟩
        · rw [settle_large found' indexed large']
          exact limited_byteLimit
        · rw [got]
          exact limited_settled _ _
      · obtain ⟨got', left'⟩ := @settle_small s key packet nowMs p piece found' indexed large'
        refine .inr ⟨by rw [got, got'], ?_⟩
        have stored := @Within.storedTable network t s key packet nowMs within p piece
        rw [left, left']
        split
        · exact stored.entries.removePending key
        · exact stored.entries

private theorem settle_limited (found : t.pending.lookup key = some p)
    (stopped : limited (value (settle key packet nowMs t)) = true) :
    final (settle key packet nowMs t) = t.removePending key := by
  cases indexed : p.pieces[packet.pieceIdx.toNat]? with
  | none =>
    rw [settle_missing found indexed] at stopped
    exact absurd stopped (Bool.eq_false_iff.mp (limited_other (by decide) (by decide)))
  | some piece =>
    by_cases large : nextTotalBytes t piece packet > maxPendingBytes
    · rw [settle_large found indexed large]
      rfl
    · rw [(settle_small found indexed large).1, limited_settled] at stopped
      cases stopped

end Settling

/-! The whole packet. -/

/-- What `merge_packet` does with a piece after the clean-up. -/
def absorb (key : RpcKey) (packet : RpcPacket) (nowMs : UInt64) : FragmentsM MergedPacket := do
  openPending key packet.totalPieces nowMs
  settle key packet nowMs

section Absorbing

variable {network : String} {t s : PendingTable} {key : RpcKey} {packet : RpcPacket}
  {nowMs : UInt64}

private theorem absorb_near (within : Within network t s) (here : key.network = network) :
    Near network (absorb key packet nowMs t) (absorb key packet nowMs s) := by
  have same := within.entries key here
  cases found : t.pending.lookup key with
  | some p =>
    have opened := @openPending_present key packet.totalPieces nowMs t p found
    have opened' := @openPending_present key packet.totalPieces nowMs s p (same.trans found)
    by_cases differs : p.totalPieces ≠ packet.totalPieces
    · rw [if_pos differs] at opened opened'
      rw [absorb, bind_of_error opened, bind_of_error opened']
      exact .inr ⟨rfl, within.entries.removePending key⟩
    · rw [if_neg differs] at opened opened'
      rw [absorb, bind_of_ok opened, bind_of_ok opened']
      exact settle_near within here found
  | none =>
    have opened := @openPending_absent key packet.totalPieces nowMs t found
    have opened' := @openPending_absent key packet.totalPieces nowMs s (same.trans found)
    have few : s.peerPending key.network key.peerId = t.peerPending key.network key.peerId := by
      rw [here]
      exact within.entries.peerPending key.peerId
    rw [few] at opened'
    by_cases many : t.peerPending key.network key.peerId ≥ maxPendingTransactionsPerPeer
    · rw [if_pos many] at opened opened'
      rw [absorb, bind_of_error opened, bind_of_error opened']
      exact .inr ⟨rfl, within.entries⟩
    · rw [if_neg many] at opened opened'
      have mono := saturatingAddUsize_mono within.pieces packet.totalPieces.toNat
      by_cases full : saturatingAddUsize t.pendingPieces packet.totalPieces.toNat >
          maxPendingPieces
      · rw [if_pos full] at opened
        rw [if_pos (Nat.lt_of_lt_of_le full mono)] at opened'
        rw [absorb, bind_of_error opened, bind_of_error opened']
        exact .inr ⟨rfl, within.entries⟩
      · rw [if_neg full] at opened
        have entry : (withEntry t key packet.totalPieces nowMs).pending.lookup key =
            some (PendingRpc.new packet.totalPieces nowMs) := Finmap.lookup_insert _
        by_cases full' : saturatingAddUsize s.pendingPieces packet.totalPieces.toNat >
            maxPendingPieces
        · -- only the second call is stopped here; the first one may be stopped by the bytes
          rw [if_pos full'] at opened'
          rw [absorb, bind_of_ok opened, bind_of_error opened']
          cases stopped : limited (value (settle key packet nowMs
              (withEntry t key packet.totalPieces nowMs))) with
          | false => exact .inl ⟨limited_pieceLimit, stopped⟩
          | true =>
            have left := settle_limited entry stopped
            refine .inr ⟨?_, ?_⟩
            · cases ran : value (settle key packet nowMs
                  (withEntry t key packet.totalPieces nowMs)) with
              | error e => rfl
              | ok merged =>
                rw [ran] at stopped
                cases stopped
            · intro key' here'
              rw [left, removePending_lookup]
              show s.pending.lookup key' =
                if key' = key then none else (t.pending.insert key _).lookup key'
              rw [FMap.lookup_insert_eq_ite]
              by_cases own : key' = key
              · rw [if_pos own, own, same, found]
              · rw [if_neg own, if_neg own, within.entries key' here']
        · rw [if_neg full'] at opened'
          rw [absorb, bind_of_ok opened, bind_of_ok opened']
          exact settle_near within.withEntry here entry

end Absorbing


/-- A packet is answered without a look at the table, or its piece is absorbed. -/
private theorem mergePacket_absorb (network : String) (peerId : UInt32) (packet : RpcPacket)
    (nowMs : UInt64) :
    (∃ r, ∀ t, value (mergePacket network peerId packet nowMs t) = r ∧
      final (mergePacket network peerId packet nowMs t) = t) ∨
    ∀ t, mergePacket network peerId packet nowMs t =
      absorb (rpcKey network peerId packet.transactionId packet.isRequest) packet nowMs
        (t.cleanPending nowMs) := by
  by_cases empty : packet.totalPieces = 0 ∧ packet.pieceIdx = 0
  · refine .inl ⟨.ok (.complete packet), fun t => ?_⟩
    rw [mergePacket]
    simp only [if_pos empty]
    exact ⟨rfl, rfl⟩
  · by_cases invalid : packet.totalPieces = 0 ∨ packet.totalPieces > maxRpcPieces ∨
        packet.pieceIdx ≥ packet.totalPieces
    · refine .inl ⟨.error "invalid fragmented RPC envelope", fun t => ?_⟩
      rw [mergePacket]
      simp only [if_neg empty, if_pos invalid]
      exact ⟨rfl, rfl⟩
    · by_cases one : packet.totalPieces = 1
      · refine .inl ⟨.ok (.complete packet), fun t => ?_⟩
        rw [mergePacket]
        simp only [if_neg empty, if_neg invalid, if_pos one]
        exact ⟨rfl, rfl⟩
      · by_cases bare : packet.pieceIdx = 0 ∧ packet.descriptor.isNone
        · refine .inl ⟨.error "fragmented RPC first piece is missing its descriptor", ?_⟩
          intro t
          rw [mergePacket]
          simp only [if_neg empty, if_neg invalid, if_neg one, if_pos bare]
          exact ⟨rfl, rfl⟩
        · refine .inr fun t => ?_
          rw [mergePacket]
          simp only [if_neg empty, if_neg invalid, if_neg one, if_neg bare]
          rfl

/-! What is pending for one network. -/

/-- The table with the entries of one network only, and the counters that these give. -/
def only (network : String) (t : PendingTable) : PendingTable :=
  let own := FMap.retain (fun key _ => key.network == network) t.pending
  { pending := own
    pendingBytes := FMap.total (fun _ p => p.bodyBytes) own
    pendingPieces := FMap.total (fun _ p => p.totalPieces.toNat) own }

section Only

variable {network : String} {t s : PendingTable} {nowMs : UInt64}

private theorem only_lookup (t : PendingTable) (key : RpcKey) :
    (only network t).pending.lookup key =
      (t.pending.lookup key).filter fun _ => key.network == network :=
  FMap.lookup_retain _ _ _

private theorem only_sameEntries (t : PendingTable) : SameEntries network (only network t) t := by
  intro key here
  rw [only_lookup]
  cases t.pending.lookup key with
  | none => rfl
  | some p => rw [Option.filter_some, if_pos (beq_iff_eq.mpr here)]

private theorem only_found {key : RpcKey} {p : PendingRpc}
    (found : (only network t).pending.lookup key = some p) : t.pending.lookup key = some p := by
  rw [only_lookup] at found
  exact (Option.filter_eq_some_iff.mp found).1

private theorem only_congr (same : SameEntries network t s) : only network s = only network t := by
  rw [only, only, same.retain fun _ _ picked => eq_of_beq picked]

private theorem total_bodyBytes {m : FMap RpcKey PendingRpc}
    (entries : ∀ key p, m.lookup key = some p → Consistent p) :
    FMap.total (fun _ p => p.bodyBytes) m = FMap.total (fun _ p => pieceBytes p.pieces) m :=
  FMap.total_congr fun key p found => (entries key p found).bodyBytes

private theorem only_within (accounted : Accounted t) : Within network (only network t) t where
  entries := only_sameEntries t
  bytes := by
    rw [accounted.pendingBytes, ← total_bodyBytes accounted.entries]
    exact FMap.total_retain_le (fun _ p => p.bodyBytes) (fun key _ => key.network == network)
      t.pending
  pieces := by
    rw [accounted.pendingPieces]
    exact FMap.total_retain_le (fun _ p => p.totalPieces.toNat)
      (fun key _ => key.network == network) t.pending

private theorem accounted_only (accounted : Accounted t) : Accounted (only network t) where
  entries key p found := accounted.entries key p (only_found found)
  pendingBytes := total_bodyBytes fun key p found => accounted.entries key p (only_found found)
  pendingPieces := rfl
  bytes_le := (only_within accounted).bytes.trans accounted.bytes_le
  pieces_le := (only_within accounted).pieces.trans accounted.pieces_le
  peers network' peerId := by
    refine Nat.le_trans ?_ (accounted.peers network' peerId)
    rw [peerPending_eq, peerPending_eq]
    exact FMap.total_retain_le _ (fun key _ => key.network == network) t.pending
  incomplete key p found := accounted.incomplete key p (only_found found)

private theorem Accounted.ext_pending (left : Accounted t) (right : Accounted s)
    (same : t.pending = s.pending) : t = s := by
  have bytes : t.pendingBytes = s.pendingBytes := by
    rw [left.pendingBytes, right.pendingBytes, same]
  have pieces : t.pendingPieces = s.pendingPieces := by
    rw [left.pendingPieces, right.pendingPieces, same]
  obtain ⟨pending, pendingBytes, pendingPieces⟩ := t
  cases same
  cases bytes
  cases pieces
  rfl

theorem cleanPending_lookup (t : PendingTable) (nowMs : UInt64) (key : RpcKey) :
    (t.cleanPending nowMs).pending.lookup key =
      (t.pending.lookup key).filter fun p => !p.expired nowMs :=
  removeWhere_lookup t _ key

private theorem only_cleanPending (accounted : Accounted t) (nowMs : UInt64) :
    (only network t).cleanPending nowMs = only network (t.cleanPending nowMs) := by
  have left : Accounted ((only network t).cleanPending nowMs) :=
    accounted_removeWhere (accounted_only accounted) _
  have right : Accounted (only network (t.cleanPending nowMs)) :=
    accounted_only (accounted_removeWhere accounted _)
  refine Accounted.ext_pending left right (Finmap.ext_lookup fun key => ?_)
  rw [cleanPending_lookup, only_lookup, only_lookup, cleanPending_lookup, FMap.filter_comm]

/-- The tables agree on what is still pending for the network at `nowMs`. -/
def PendingAlike (network : String) (nowMs : UInt64) (t s : PendingTable) : Prop :=
  SameEntries network (t.cleanPending nowMs) (s.cleanPending nowMs)

private theorem SameEntries.alike (same : SameEntries network t s) (nowMs : UInt64) :
    PendingAlike network nowMs t s := by
  intro key here
  rw [cleanPending_lookup, cleanPending_lookup, same key here]

theorem expired_later {p : PendingRpc} {later : UInt64} (le : nowMs ≤ later)
    (expired : p.expired nowMs = true) : p.expired later = true := by
  rw [PendingRpc.expired, decide_eq_true_eq] at expired ⊢
  exact UInt64.le_trans expired (saturatingSub_mono le)

theorem PendingAlike.later {later : UInt64} (alike : PendingAlike network nowMs t s)
    (le : nowMs ≤ later) : PendingAlike network later t s := by
  intro key here
  have now := alike key here
  rw [cleanPending_lookup, cleanPending_lookup] at now ⊢
  have weaker : ∀ p : PendingRpc, (!p.expired later) = true → (!p.expired nowMs) = true := by
    intro p fresh
    cases old : p.expired nowMs with
    | false => rfl
    | true =>
      rw [expired_later le old] at fresh
      cases fresh
  rw [← FMap.filter_absorb weaker, ← FMap.filter_absorb weaker (t.pending.lookup key), now]

theorem merge_alike {peerId : UInt32} {packet : RpcPacket} (left : Accounted t)
    (right : Accounted s) (alike : PendingAlike network nowMs t s)
    (free : limited (value (mergePacket network peerId packet nowMs t)) = true →
      limited (value (mergePacket network peerId packet nowMs (only network t))) = true)
    (free' : limited (value (mergePacket network peerId packet nowMs s)) = true →
      limited (value (mergePacket network peerId packet nowMs (only network s))) = true) :
    (value (mergePacket network peerId packet nowMs t)).toOption =
        (value (mergePacket network peerId packet nowMs s)).toOption ∧
      PendingAlike network nowMs (final (mergePacket network peerId packet nowMs t))
        (final (mergePacket network peerId packet nowMs s)) := by
  rcases mergePacket_absorb network peerId packet nowMs with ⟨r, same⟩ | absorbs
  · obtain ⟨got, kept⟩ := same t
    obtain ⟨got', kept'⟩ := same s
    rw [got, got', kept, kept']
    exact ⟨rfl, alike⟩
  · rw [absorbs, absorbs, only_cleanPending left] at free
    rw [absorbs, absorbs, only_cleanPending right, only_congr alike] at free'
    rw [absorbs, absorbs]
    have cleaned : Accounted (t.cleanPending nowMs) := accounted_removeWhere left _
    have cleaned' : Accounted (s.cleanPending nowMs) := accounted_removeWhere right _
    have here : (rpcKey network peerId packet.transactionId packet.isRequest).network = network :=
      rfl
    have near := @absorb_near network _ _ _ packet nowMs (only_within cleaned) here
    have near' := @absorb_near network _ _ _ packet nowMs (only_within cleaned') here
    rw [only_congr alike] at near'
    rcases near with ⟨stopped, free_run⟩ | ⟨same, entries⟩
    · rw [free stopped] at free_run
      cases free_run
    · rcases near' with ⟨stopped, free_run⟩ | ⟨same', entries'⟩
      · rw [free' stopped] at free_run
        cases free_run
      · exact ⟨same.trans same'.symm, (entries.symm.trans entries').alike nowMs⟩

end Only

end EasyTierEdge.Rpc.MergeIsolation
