/- module: EasyTierEdge/Rpc/Reassembly
   source: cloudflare/wasm/src/rpc.rs, merge_packet over the pieces of one message
   digest: The pieces of a message are put together in whatever order they arrive. -/

import EasyTierEdge.Lib.Machine
import EasyTierEdge.Rpc.FragmentAccounting

set_option autoImplicit false
set_option relaxedAutoImplicit false

namespace EasyTierEdge.Rpc.Reassembly

open Lib.AscendingMap Lib.Fallible Lib.FiniteMap Lib.Machine Lib.Saturating
open Packet (Bytes)
open Proto Fragments FragmentMoves
open FragmentAccounting (filled filled_le mapM_some)

/-! The pending table as a machine. -/

inductive FragmentEvent
  | merge (network : String) (peerId : UInt32) (packet : RpcPacket) (nowMs : UInt64)
  | clean (nowMs : UInt64)
  | removePeer (network : String) (peerId : UInt32)

def step (t : PendingTable) : FragmentEvent → PendingTable
  | .merge network peerId packet nowMs => final (mergePacket network peerId packet nowMs t)
  | .clean nowMs => t.cleanPending nowMs
  | .removePeer network peerId => t.removePeer network peerId

/-- The answer to a packet. -/
def outcome (t : PendingTable) : FragmentEvent → Option (Except String MergedPacket)
  | .merge network peerId packet nowMs => some (value (mergePacket network peerId packet nowMs t))
  | _ => none

/-- The key of a packet. -/
def packetKey (network : String) (peerId : UInt32) (packet : RpcPacket) : RpcKey :=
  rpcKey network peerId packet.transactionId packet.isRequest

/-- The piece of `key` that an event delivers, with the time it arrives. -/
def delivery (key : RpcKey) : FragmentEvent → Option (RpcPacket × UInt64)
  | .merge network peerId packet nowMs =>
    if packetKey network peerId packet = key then some (packet, nowMs) else none
  | _ => none

/-- The time that an event looks at. -/
def time : FragmentEvent → Option UInt64
  | .merge _ _ _ nowMs | .clean nowMs => some nowMs
  | .removePeer _ _ => none

def deliveries (key : RpcKey) (es : List FragmentEvent) : List (RpcPacket × UInt64) :=
  es.filterMap (delivery key)

/-- The indices of the pieces of `key` that have arrived. -/
def arrivals (key : RpcKey) (es : List FragmentEvent) : List Nat :=
  (deliveries key es).map fun d => d.1.pieceIdx.toNat

/-- The time of the latest piece of `key`. -/
def latest (key : RpcKey) (es : List FragmentEvent) : Option UInt64 :=
  (deliveries key es).getLast?.map Prod.snd

/-- The pieces of one message of `key`, in the order of their indices. -/
structure PiecesOf (key : RpcKey) (ps : List RpcPacket) : Prop where
  several : 2 ≤ ps.length
  bounded : ps.length ≤ maxRpcPieces.toNat
  total : ∀ (i : Nat) p, ps[i]? = some p → p.totalPieces.toNat = ps.length
  index : ∀ (i : Nat) p, ps[i]? = some p → p.pieceIdx.toNat = i
  own : ∀ p ∈ ps, p.transactionId = key.transactionId ∧ p.isRequest = key.isRequest
  described : ∀ p, ps[0]? = some p → p.descriptor.isSome = true

/-- Some piece has not arrived yet. -/
def Unfinished (key : RpcKey) (ps : List RpcPacket) (es : List FragmentEvent) : Prop :=
  ∃ i < ps.length, i ∉ arrivals key es

/-- Until the message is complete, the packets of `key` are its pieces and none is refused, the peer
stays, and no time is used that is ten seconds after the latest piece. -/
structure Gentle (key : RpcKey) (ps : List RpcPacket) (pre : List FragmentEvent) (t : PendingTable)
    (e : FragmentEvent) : Prop where
  pieces : Unfinished key ps pre → ∀ d, delivery key e = some d →
    d.1 ∈ ps ∧ ∀ error, outcome t e ≠ some (.error error)
  stays : Unfinished key ps pre → e ≠ .removePeer key.network key.peerId
  soon : Unfinished key ps pre → ∀ nowMs, time e = some nowMs → ∀ last, latest key pre = some last →
    nowMs.toNat < last.toNat + 10_000

/-- The message that the pieces make up. -/
def wholeOf (ps : List RpcPacket) (first : RpcPacket) : RpcPacket :=
  { first with body := (ps.map RpcPacket.body).flatten, totalPieces := 1, pieceIdx := 0 }

/-! What the entry of `key` looks like. -/

/-- The pieces that have arrived, each in its place. -/
def placed (ps : List RpcPacket) (seen : List Nat) : List (Option Bytes) :=
  ps.mapIdx fun i p => if i ∈ seen then some p.body else none

section Placed

variable {ps : List RpcPacket} {seen : List Nat}

private theorem placed_length (ps : List RpcPacket) (seen : List Nat) :
    (placed ps seen).length = ps.length :=
  List.length_mapIdx

private theorem placed_getElem? (ps : List RpcPacket) (seen : List Nat) (i : Nat) :
    (placed ps seen)[i]? = ps[i]?.map fun p => if i ∈ seen then some p.body else none :=
  List.getElem?_mapIdx

private theorem placed_nil (ps : List RpcPacket) :
    placed ps [] = List.replicate ps.length none := by
  apply List.ext_getElem?
  intro i
  rw [placed_getElem?, List.getElem?_replicate]
  cases found : ps[i]? with
  | none =>
    rw [if_neg (not_lt.mpr (List.getElem?_eq_none_iff.mp found))]
    rfl
  | some p =>
    rw [if_pos (List.getElem?_eq_some_iff.mp found).1]
    rfl

private theorem placed_set {i : Nat} {p : RpcPacket} (found : ps[i]? = some p) (seen : List Nat) :
    (placed ps seen).set i (some p.body) = placed ps (seen ++ [i]) := by
  apply List.ext_getElem?
  intro j
  rw [List.getElem?_set, placed_length, placed_getElem?, placed_getElem?]
  have inside := (List.getElem?_eq_some_iff.mp found).1
  by_cases same : i = j
  · subst same
    rw [if_pos rfl, if_pos inside, found]
    simp
  · rw [if_neg same]
    have other : j ≠ i := fun h => same h.symm
    simp [other]

private theorem placed_full (all : ∀ i < ps.length, i ∈ seen) :
    placed ps seen = (ps.map RpcPacket.body).map some := by
  apply List.ext_getElem?
  intro i
  rw [placed_getElem?, List.getElem?_map, List.getElem?_map]
  cases found : ps[i]? with
  | none => rfl
  | some p =>
    have inside := (List.getElem?_eq_some_iff.mp found).1
    rw [Option.map_some, if_pos (all i inside)]
    rfl

private theorem filled_placed_lt {i : Nat} (inside : i < ps.length) (missing : i ∉ seen) :
    filled (placed ps seen) < ps.length := by
  have le := filled_le (placed ps seen)
  rw [placed_length] at le
  refine lt_of_le_of_ne le ?_
  intro full
  have every : filled (placed ps seen) = (placed ps seen).length := by
    rw [full, placed_length]
  rw [filled, List.countP_eq_length] at every
  have here : (placed ps seen)[i]? = some none := by
    rw [placed_getElem?, List.getElem?_eq_getElem inside, Option.map_some, if_neg missing]
  cases every none (List.mem_of_getElem? here)

private theorem filled_placed_eq (all : ∀ i < ps.length, i ∈ seen) :
    filled (placed ps seen) = ps.length := by
  rw [placed_full all, filled]
  simp [List.countP_map, Function.comp_def]

end Placed

/-- The entry of the message after some of its pieces. -/
structure Progress (ps : List RpcPacket) (seen : List Nat) (latest : UInt64) (p : PendingRpc) :
    Prop where
  total : p.totalPieces.toNat = ps.length
  pieces : p.pieces = placed ps seen
  first : p.first = if 0 ∈ seen then ps[0]? else none
  received : p.receivedPieces.toNat = filled (placed ps seen)
  updated : p.updatedAtMs = latest

private theorem Progress.store {ps : List RpcPacket} {key : RpcKey} {seen : List Nat}
    {last : UInt64}
    {p : PendingRpc} (pieces : PiecesOf key ps) (progress : Progress ps seen last p) {i : Nat}
    {packet : RpcPacket} (found : ps[i]? = some packet) (nowMs : UInt64) :
    Progress ps (seen ++ [i]) nowMs (p.store packet.pieceIdx.toNat packet nowMs) := by
  rw [pieces.index i packet found]
  have place : p.pieces[i]? = some (if i ∈ seen then some packet.body else none) := by
    rw [progress.pieces, placed_getElem?, found]
    rfl
  refine ⟨progress.total, ?_, ?_, ?_, rfl⟩
  · show p.pieces.set i (some packet.body) = _
    rw [progress.pieces, placed_set found]
  · show (if i = 0 then some packet else p.first) = _
    by_cases head : i = 0
    · subst head
      rw [if_pos rfl, if_pos (by simp), found]
    · have same : 0 ∈ seen ++ [i] ↔ 0 ∈ seen := by
        rw [List.mem_append, List.mem_singleton]
        exact or_iff_left fun h => head h.symm
      rw [if_neg head, progress.first]
      simp only [same]
  · have few : filled (placed ps seen) ≤ 32_768 := by
      refine (filled_le _).trans ?_
      rw [placed_length]
      exact pieces.bounded
    rw [← placed_set found seen, ← progress.pieces,
      FragmentAccounting.filled_set place, progress.pieces]
    show (if (p.pieces[i]?.join).isNone then p.receivedPieces + 1 else p.receivedPieces).toNat = _
    rw [place, Option.join_some, ← progress.received]
    have count := progress.received
    by_cases again : i ∈ seen
    · rw [if_pos again]
      rfl
    · rw [if_neg again]
      show (p.receivedPieces + 1).toNat = p.receivedPieces.toNat + 1
      rw [UInt32.toNat_add]
      have one : (1 : UInt32).toNat = 1 := rfl
      omega

/-! One event. -/

section Steps

variable {t t' : PendingTable} {key other : RpcKey} {packet : RpcPacket} {nowMs : UInt64}

private theorem cleanPending_lookup_kept {p : PendingRpc} (found : t.pending.lookup key = some p)
    (soon : nowMs.toNat < p.updatedAtMs.toNat + 10_000) :
    (t.cleanPending nowMs).pending.lookup key = some p := by
  have fresh : p.expired nowMs = false := by
    rw [PendingRpc.expired, decide_eq_false_iff_not, ge_iff_le, UInt64.not_le,
      UInt64.lt_iff_toNat_lt, toNat_saturatingSub]
    show _ < 10_000
    omega
  rw [PendingTable.cleanPending, removeWhere_lookup, found, Option.filter_some, fresh]
  rfl

private theorem cleanPending_lookup_none (absent : t.pending.lookup key = none) :
    (t.cleanPending nowMs).pending.lookup key = none := by
  rw [PendingTable.cleanPending, removeWhere_lookup, absent]
  rfl

private theorem Opened.frame {totalPieces : UInt32} (different : key ≠ other)
    (h : Opened other totalPieces nowMs t t') : t'.pending.lookup key = t.pending.lookup key := by
  cases h with
  | present => rfl
  | created => rw [FMap.lookup_insert_eq_ite, if_neg different]

private theorem removePending_frame (different : key ≠ other) :
    (t.removePending other).pending.lookup key = t.pending.lookup key := by
  rw [removePending_lookup, if_neg different]

private theorem storedTable_frame {p : PendingRpc} {piece : Option Bytes}
    (different : key ≠ other) :
    (storedTable t other p piece packet nowMs).pending.lookup key = t.pending.lookup key := by
  show (t.pending.insert other _).lookup key = _
  rw [FMap.lookup_insert_eq_ite, if_neg different]

/-- A packet of another key touches the entry of `key` only through the clean-up. -/
theorem MergeMove.frame {r : Except String MergedPacket} (different : key ≠ other)
    (move : MergeMove other packet nowMs t r t') :
    t'.pending.lookup key = t.pending.lookup key ∨
      t'.pending.lookup key = (t.cleanPending nowMs).pending.lookup key := by
  cases move with
  | whole => exact Or.inl rfl
  | malformed => exact Or.inl rfl
  | refused e piece _ refused =>
    cases refused with
    | changed => exact Or.inr (removePending_frame different)
    | tooMany => exact Or.inr rfl
    | noRoom => exact Or.inr rfl
  | overflow valid opened open_ =>
    exact Or.inr ((removePending_frame different).trans (Opened.frame different open_))
  | stored valid opened open_ =>
    exact Or.inr ((storedTable_frame different).trans (Opened.frame different open_))
  | completed valid opened open_ =>
    exact Or.inr ((removePending_frame different).trans
      ((storedTable_frame different).trans (Opened.frame different open_)))
  | outOfBounds e valid _ open_ => exact Or.inr (Opened.frame different open_)
  | broken e valid opened open_ =>
    exact Or.inr ((removePending_frame different).trans
      ((storedTable_frame different).trans (Opened.frame different open_)))

private theorem merge_move (network : String) (peerId : UInt32) (packet : RpcPacket)
    (nowMs : UInt64) (t : PendingTable) : MergeMove (packetKey network peerId packet) packet nowMs t
      (value (mergePacket network peerId packet nowMs t))
      (step t (.merge network peerId packet nowMs)) :=
  @ensures_result _ _ _ t _
    (fun r => MergeMove (packetKey network peerId packet) packet nowMs t (value r) (final r))
    (mergePacket_cases network peerId packet nowMs t)

end Steps

/-! The run. -/

/-- The entry of `key` while pieces are missing. -/
def Tracked (key : RpcKey) (ps : List RpcPacket) (es : List FragmentEvent) (t : PendingTable) :
    Prop :=
  match latest key es with
  | none => t.pending.lookup key = none
  | some last => ∃ p, t.pending.lookup key = some p ∧ Progress ps (arrivals key es) last p

section Runs

variable {key : RpcKey} {ps : List RpcPacket} {t : PendingTable} {pre : List FragmentEvent}
  {e : FragmentEvent}

private theorem deliveries_snoc (es : List FragmentEvent) (e : FragmentEvent) :
    deliveries key (es ++ [e]) = deliveries key es ++ (delivery key e).toList := by
  rw [deliveries, List.filterMap_append]
  cases delivered : delivery key e with
  | none => simp [deliveries, delivered]
  | some d => simp [deliveries, delivered]

private theorem arrivals_snoc (es : List FragmentEvent) (e : FragmentEvent) :
    arrivals key (es ++ [e]) =
      arrivals key es ++ (delivery key e).toList.map fun d => d.1.pieceIdx.toNat := by
  rw [arrivals, deliveries_snoc, List.map_append]
  rfl

private theorem arrivals_snoc_none (none_delivered : delivery key e = none) :
    arrivals key (pre ++ [e]) = arrivals key pre := by
  rw [arrivals_snoc, none_delivered]
  exact List.append_nil _

private theorem latest_snoc_none (none_delivered : delivery key e = none) :
    latest key (pre ++ [e]) = latest key pre := by
  rw [latest, deliveries_snoc, none_delivered, Option.toList_none, List.append_nil]
  rfl

private theorem latest_snoc_some {d : RpcPacket × UInt64} (delivered : delivery key e = some d) :
    latest key (pre ++ [e]) = some d.2 := by
  rw [latest, deliveries_snoc, delivered, Option.toList_some, List.getLast?_concat]
  rfl

private theorem arrivals_of_latest_none (never : latest key pre = none) :
    arrivals key pre = [] := by
  rw [latest, Option.map_eq_none_iff, List.getLast?_eq_none_iff] at never
  rw [arrivals, never]
  rfl

private theorem tracked_other (tracked : Tracked key ps pre t) (gentle : Gentle key ps pre t e)
    (unfinished : Unfinished key ps pre) (none_delivered : delivery key e = none) :
    Tracked key ps (pre ++ [e]) (step t e) := by
  have cleaned : ∀ nowMs, time e = some nowMs →
      (t.cleanPending nowMs).pending.lookup key = t.pending.lookup key := by
    intro nowMs used
    rw [Tracked] at tracked
    cases last : latest key pre with
    | none =>
      rw [last] at tracked
      exact (cleanPending_lookup_none tracked).trans tracked.symm
    | some u =>
      rw [last] at tracked
      obtain ⟨p, found, progress⟩ := tracked
      have soon := gentle.soon unfinished nowMs used u last
      rw [← progress.updated] at soon
      exact (cleanPending_lookup_kept found soon).trans found.symm
  have same : (step t e).pending.lookup key = t.pending.lookup key := by
    cases e with
    | merge network peerId packet nowMs =>
      have different : key ≠ packetKey network peerId packet := by
        intro same
        rw [delivery, if_pos same.symm] at none_delivered
        cases none_delivered
      rcases MergeMove.frame different (merge_move network peerId packet nowMs t) with
        kept | swept
      · exact kept
      · exact swept.trans (cleaned nowMs rfl)
    | clean nowMs => exact cleaned nowMs rfl
    | removePeer network peerId =>
      have elsewhere : (key.network == network && key.peerId == peerId) = false := by
        rw [Bool.and_eq_false_iff, beq_eq_false_iff_ne, beq_eq_false_iff_ne, ← not_and_or]
        rintro ⟨here, there⟩
        exact gentle.stays unfinished (by rw [here, there])
      show (t.removePeer network peerId).pending.lookup key = _
      rw [PendingTable.removePeer, removeWhere_lookup, elsewhere]
      cases t.pending.lookup key with
      | none => rfl
      | some p => rfl
  rw [Tracked, latest_snoc_none none_delivered, arrivals_snoc_none none_delivered, same]
  exact tracked

private theorem opened_progress (pieces : PiecesOf key ps) (tracked : Tracked key ps pre t)
    {packet : RpcPacket} (member : packet ∈ ps) {nowMs : UInt64} {opened : PendingTable}
    (soon : ∀ last, latest key pre = some last → nowMs.toNat < last.toNat + 10_000)
    (open_ : Opened key packet.totalPieces nowMs (t.cleanPending nowMs) opened) {p : PendingRpc}
    (found : opened.pending.lookup key = some p) :
    ∃ last, Progress ps (arrivals key pre) last p := by
  obtain ⟨i, at_⟩ := List.mem_iff_getElem?.mp member
  obtain ⟨q, lookup, _, origin⟩ := open_.lookup
  rw [found] at lookup
  obtain rfl := Option.some.inj lookup
  rw [Tracked] at tracked
  cases last : latest key pre with
  | none =>
    rw [last] at tracked
    rcases origin with present | ⟨_, rfl⟩
    · rw [cleanPending_lookup_none tracked] at present
      cases present
    · refine ⟨nowMs, ?_⟩
      have total := pieces.total i packet at_
      rw [arrivals_of_latest_none last]
      refine ⟨total, ?_, rfl, ?_, rfl⟩
      · show List.replicate packet.totalPieces.toNat none = _
        rw [total, placed_nil]
      · rw [placed_nil]
        simp [PendingRpc.new, filled, List.countP_replicate]
  | some u =>
    rw [last] at tracked
    obtain ⟨q, stored, progress⟩ := tracked
    have near := soon u last
    rw [← progress.updated] at near
    have kept := cleanPending_lookup_kept stored near
    rcases origin with present | ⟨absent, _⟩
    · rw [kept] at present
      obtain rfl := Option.some.inj present
      exact ⟨u, progress⟩
    · rw [kept] at absent
      cases absent

private theorem delivery_some {d : RpcPacket × UInt64} (delivered : delivery key e = some d) :
    ∃ network peerId, e = .merge network peerId d.1 d.2 ∧ packetKey network peerId d.1 = key := by
  cases e with
  | merge network peerId packet nowMs =>
    rw [delivery] at delivered
    split at delivered
    · rename_i same
      cases delivered
      exact ⟨network, peerId, rfl, same⟩
    · cases delivered
  | clean nowMs => cases delivered
  | removePeer network peerId => cases delivered

private theorem not_unfinished (h : ¬ Unfinished key ps pre) :
    ∀ i < ps.length, i ∈ arrivals key pre := by
  intro i inside
  by_contra missing
  exact h ⟨i, inside, missing⟩

private theorem assembled_whole (pieces : PiecesOf key ps) {seen : List Nat} {last : UInt64}
    {p : PendingRpc} (progress : Progress ps seen last p) (all : ∀ i < ps.length, i ∈ seen)
    {whole : RpcPacket} (assembled : Assembled p whole) :
    ∃ first, ps[0]? = some first ∧ whole = wholeOf ps first := by
  obtain ⟨first, bodies, head, taken, rfl⟩ := assembled
  have positive : 0 < ps.length := lt_of_lt_of_le (by decide) pieces.several
  rw [progress.first, if_pos (all 0 positive)] at head
  rw [progress.pieces, placed_full all, mapM_some] at taken
  cases taken
  exact ⟨first, head, rfl⟩

/-- A piece of the message is stored; the last one completes it. -/
inductive PieceStep (key : RpcKey) (ps : List RpcPacket) (pre : List FragmentEvent)
    (t : PendingTable) (e : FragmentEvent) : Prop
  | more (unfinished : Unfinished key ps (pre ++ [e])) (answer : outcome t e = some (.ok .pending))
      (tracked : Tracked key ps (pre ++ [e]) (step t e)) : PieceStep key ps pre t e
  | last (all : ∀ i < ps.length, i ∈ arrivals key (pre ++ [e])) (first : RpcPacket)
      (head : ps[0]? = some first)
      (answer : outcome t e = some (.ok (.complete (wholeOf ps first))))
      (gone : (step t e).pending.lookup key = none) : PieceStep key ps pre t e

private theorem piece_step (pieces : PiecesOf key ps) (tracked : Tracked key ps pre t)
    (gentle : Gentle key ps pre t e) (unfinished : Unfinished key ps pre)
    {d : RpcPacket × UInt64} (delivered : delivery key e = some d) : PieceStep key ps pre t e := by
  obtain ⟨member, accepted⟩ := gentle.pieces unfinished d delivered
  obtain ⟨network, peerId, rfl, same⟩ := delivery_some delivered
  obtain ⟨i, at_⟩ := List.mem_iff_getElem?.mp member
  have soon := gentle.soon unfinished d.2 rfl
  have newest := @latest_snoc_some key pre _ d delivered
  have arrived :
      arrivals key (pre ++ [.merge network peerId d.1 d.2]) = arrivals key pre ++ [i] := by
    rw [arrivals_snoc, delivered, ← pieces.index i d.1 at_]
    rfl
  have move := merge_move network peerId d.1 d.2 t
  rw [same] at move
  have no_error : ∀ error, value (mergePacket network peerId d.1 d.2 t) ≠ .error error := by
    intro error failed
    refine accepted error ?_
    rw [outcome, failed]
  -- The entry of the piece, with the piece in its place.
  have placing : ∀ {opened : PendingTable} {p : PendingRpc},
      Opened key d.1.totalPieces d.2 (t.cleanPending d.2) opened →
      opened.pending.lookup key = some p →
      Progress ps (arrivals key pre ++ [i]) d.2 (p.store d.1.pieceIdx.toNat d.1 d.2) := by
    intro opened p open_ found
    obtain ⟨last, progress⟩ := opened_progress pieces tracked member soon open_ found
    exact progress.store pieces at_ d.2
  have total : ∀ {n : UInt32}, n = d.1.totalPieces ↔ n.toNat = ps.length := by
    intro n
    rw [← pieces.total i d.1 at_, UInt32.toNat_inj]
  generalize answered : value (mergePacket network peerId d.1 d.2 t) = r at move no_error
  generalize left : step t (.merge network peerId d.1 d.2) = t' at move
  cases move with
  | whole whole =>
    have one := whole.1
    rw [UInt32.le_iff_toNat_le, pieces.total i d.1 at_] at one
    exact absurd (pieces.several.trans one) (by decide)
  | malformed e => exact absurd rfl (no_error e)
  | refused e => exact absurd rfl (no_error e)
  | overflow => exact absurd rfl (no_error _)
  | outOfBounds e => exact absurd rfl (no_error e)
  | broken e => exact absurd rfl (no_error e)
  | stored valid opened open_ p found piece indexed small more =>
    have progress := placing open_ found
    rw [Ne, total, progress.received] at more
    refine .more ?_ ?_ ?_
    · by_contra complete
      have all := not_unfinished complete
      rw [arrived] at all
      exact more (filled_placed_eq all)
    · rw [outcome, answered]
    · rw [Tracked, newest, arrived, left]
      exact ⟨_, storedTable_lookup _ _ _ _ _ _, progress⟩
  | completed valid opened open_ p found piece indexed small last whole assembled =>
    have progress := placing open_ found
    rw [total, progress.received] at last
    have all : ∀ j < ps.length, j ∈ arrivals key pre ++ [i] := by
      intro j inside
      by_contra missing
      exact absurd last (ne_of_lt (filled_placed_lt inside missing))
    obtain ⟨first, head, rfl⟩ := assembled_whole pieces progress all assembled
    refine .last ?_ first head ?_ ?_
    · rw [arrived]
      exact all
    · rw [outcome, answered]
    · rw [left, removePending_lookup, if_pos rfl]

end Runs

/-- Pieces of `key` are answered with `Pending`. -/
def AnsweredPending (key : RpcKey) (_ : List FragmentEvent) (t : PendingTable)
    (e : FragmentEvent) : Prop :=
  (delivery key e).isSome = true → outcome t e = some (.ok .pending)

section Completion

variable {key : RpcKey} {ps : List RpcPacket} {t : PendingTable} {es : List FragmentEvent}

private theorem unfinished_of_append {fs : List FragmentEvent} (h : Unfinished key ps (es ++ fs)) :
    Unfinished key ps es := by
  obtain ⟨i, inside, missing⟩ := h
  refine ⟨i, inside, fun arrived => missing ?_⟩
  rw [arrivals, deliveries, List.filterMap_append, List.map_append]
  exact List.mem_append_left _ arrived

private theorem pending_run (absent : t.pending.lookup key = none) (pieces : PiecesOf key ps)
    (steps : AllSteps step (Gentle key ps) t es) (unfinished : Unfinished key ps es) :
    Tracked key ps es (run step t es) ∧ AllSteps step (AnsweredPending key) t es := by
  induction es using List.reverseRecOn with
  | nil => exact ⟨absent, AllSteps.nil⟩
  | append_singleton es e ih =>
    have before := unfinished_of_append unfinished
    obtain ⟨tracked, answered⟩ := ih steps.init before
    rw [run_snoc]
    cases delivered : delivery key e with
    | none =>
      refine ⟨tracked_other tracked steps.last before delivered, answered.snoc ?_⟩
      intro piece
      rw [delivered] at piece
      cases piece
    | some d =>
      cases piece_step pieces tracked steps.last before delivered with
      | more _ answer tracked => exact ⟨tracked, answered.snoc fun _ => answer⟩
      | last all =>
        obtain ⟨i, inside, missing⟩ := unfinished
        exact absurd (all i inside) missing

/-- Whatever the order of the pieces, with repetitions and with other packets in between, all are
answered with `Pending` until the last index arrives, and then the message is complete. -/
theorem reassembly (absent : t.pending.lookup key = none) (pieces : PiecesOf key ps)
    (steps : AllSteps step (Gentle key ps) t es) (all : ∀ i < ps.length, i ∈ arrivals key es) :
    ∃ pre e post first, es = pre ++ e :: post ∧ Unfinished key ps pre ∧
      (∀ i < ps.length, i ∈ arrivals key (pre ++ [e])) ∧
      AllSteps step (AnsweredPending key) t pre ∧ ps[0]? = some first ∧
      outcome (run step t pre) e = some (.ok (.complete (wholeOf ps first))) ∧
      (run step t (pre ++ [e])).pending.lookup key = none := by
  have start : Unfinished key ps [] :=
    ⟨0, lt_of_lt_of_le (by decide) pieces.several, List.not_mem_nil⟩
  have lost : ¬ Unfinished key ps es := by
    rintro ⟨i, inside, missing⟩
    exact missing (all i inside)
  obtain ⟨pre, e, post, rfl, unfinished, complete⟩ := exists_change start lost
  obtain ⟨tracked, answered⟩ := pending_run absent pieces steps.append_left unfinished
  have gentle := steps pre e post rfl
  cases delivered : delivery key e with
  | none =>
    rw [Unfinished, arrivals_snoc_none delivered] at complete
    exact absurd unfinished complete
  | some d =>
    cases piece_step pieces tracked gentle unfinished delivered with
    | more more => exact absurd more complete
    | last arrived first head answer gone =>
      refine ⟨pre, e, post, first, rfl, unfinished, arrived, answered, head, answer, ?_⟩
      rw [run_snoc]
      exact gone

end Completion

/-! A run on which the conditions can be checked. -/

def isError : Option (Except String MergedPacket) → Bool
  | some (.error _) => true
  | _ => false

def removes (key : RpcKey) : FragmentEvent → Bool
  | .removePeer network peerId => network == key.network && peerId == key.peerId
  | _ => false

def checkGentle (key : RpcKey) (ps : List RpcPacket) (pre : List FragmentEvent) (t : PendingTable)
    (e : FragmentEvent) : Bool :=
  (delivery key e).all (fun d => ps.contains d.1 && !isError (outcome t e)) && !removes key e &&
    (time e).all fun nowMs => (latest key pre).all fun last =>
      decide (nowMs.toNat < last.toNat + 10_000)

private theorem gentle_of_check {key : RpcKey} {ps : List RpcPacket} (pre : List FragmentEvent)
    (t : PendingTable) (e : FragmentEvent) (h : checkGentle key ps pre t e = true) :
    Gentle key ps pre t e := by
  rw [checkGentle, Bool.and_eq_true, Bool.and_eq_true, Bool.not_eq_true'] at h
  obtain ⟨⟨pieces, stays⟩, soon⟩ := h
  refine ⟨?_, ?_, ?_⟩
  · intro _ d delivered
    rw [delivered, Option.all_some, Bool.and_eq_true, Bool.not_eq_true'] at pieces
    refine ⟨List.contains_iff_mem.mp pieces.1, ?_⟩
    intro error failed
    rw [failed] at pieces
    cases pieces.2
  · rintro _ rfl
    rw [removes, beq_self_eq_true, beq_self_eq_true] at stays
    cases stays
  · intro _ nowMs used last newest
    rw [used, newest] at soon
    exact of_decide_eq_true soon

/-! Three pieces, the last one first and twice, with a packet of another peer in between. -/

def pieceAt (i : UInt32) (descriptor : Option RpcDescriptor) (body : Bytes) : RpcPacket where
  fromPeer := 5
  toPeer := 1
  transactionId := 7
  descriptor := descriptor
  body := body
  isRequest := true
  totalPieces := 3
  pieceIdx := i
  traceId := 0
  compressionInfo := none

def threePieces : List RpcPacket :=
  [pieceAt 0 (some ⟨"net", "net", "OspfRouteRpc", 1⟩) [1], pieceAt 1 none [2, 3],
    pieceAt 2 none [4]]

def threeKey : RpcKey := rpcKey "net" 5 7 true

def threeRun : List FragmentEvent :=
  [.merge "net" 5 (pieceAt 2 none [4]) 1_000, .merge "net" 6 (pieceAt 1 none [9]) 1_500,
    .merge "net" 5 (pieceAt 0 (some ⟨"net", "net", "OspfRouteRpc", 1⟩) [1]) 4_000,
    .merge "net" 5 (pieceAt 2 none [4]) 9_000, .clean 18_000,
    .merge "net" 5 (pieceAt 1 none [2, 3]) 18_500]

private theorem threePieces_pieces : PiecesOf threeKey threePieces where
  several := by decide
  bounded := by decide
  total := by
    intro i p found
    rcases i with _ | _ | _ | i
    · cases found
      rfl
    · cases found
      rfl
    · cases found
      rfl
    · cases found
  index := by
    intro i p found
    rcases i with _ | _ | _ | i
    · cases found
      rfl
    · cases found
      rfl
    · cases found
      rfl
    · cases found
  own := by decide
  described := by
    intro p found
    cases found
    rfl

theorem reassembly_threeRun :
    ∃ pre e post first, threeRun = pre ++ e :: post ∧ Unfinished threeKey threePieces pre ∧
      (∀ i < threePieces.length, i ∈ arrivals threeKey (pre ++ [e])) ∧
      AllSteps step (AnsweredPending threeKey) PendingTable.empty pre ∧
      threePieces[0]? = some first ∧
      outcome (run step PendingTable.empty pre) e =
        some (.ok (.complete (wholeOf threePieces first))) ∧
      (run step PendingTable.empty (pre ++ [e])).pending.lookup threeKey = none :=
  reassembly rfl threePieces_pieces
    (allSteps_of_check (checkGentle threeKey threePieces) gentle_of_check (by decide +kernel))
    (by decide)

end EasyTierEdge.Rpc.Reassembly
