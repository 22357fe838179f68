/- module: EasyTierEdge/Rpc/ConnBitmap
   source: cloudflare/wasm/src/route_state.rs, build_conn_info
   digest: The bitmap and the peer list describe the same star around the relay. -/

import EasyTierEdge.Rpc.Topology

set_option autoImplicit false
set_option relaxedAutoImplicit false

namespace EasyTierEdge.Rpc.ConnBitmap

open Lib.AscendingMap
open Packet (Bytes)
open Proto Routes Rpc.Topology

/-- Bit `row * n + col`, read as the receiver reads it. -/
def bitAt (n : Nat) (bitmap : Bytes) (row col : Nat) : Bool :=
  (bitmap[(row * n + col) / 8]?.getD 0).toNat.testBit ((row * n + col) % 8)

/-! Cells of the matrix. -/

section Cells

variable {n row col row' col' : Nat}

theorem cell_lt (inside : row < n) (col_inside : col < n) : row * n + col < n * n := by
  have rows : (row + 1) * n ≤ n * n := Nat.mul_le_mul_right n inside
  rw [Nat.succ_mul] at rows
  omega

private theorem cell_inj (col_inside : col < n) (col_inside' : col' < n) :
    row * n + col = row' * n + col' ↔ row = row' ∧ col = col' := by
  constructor
  · intro same
    have positive : 0 < n := Nat.lt_of_le_of_lt (Nat.zero_le col) col_inside
    have rows := congrArg (· / n) same
    have cols := congrArg (· % n) same
    simp only [Nat.mul_comm row n, Nat.mul_comm row' n, Nat.mul_add_div positive,
      Nat.div_eq_of_lt col_inside, Nat.div_eq_of_lt col_inside', Nat.add_zero] at rows
    simp only [Nat.mul_comm row n, Nat.mul_comm row' n, Nat.mul_add_mod,
      Nat.mod_eq_of_lt col_inside, Nat.mod_eq_of_lt col_inside'] at cols
    exact ⟨rows, cols⟩
  · rintro ⟨rfl, rfl⟩
    rfl

theorem length_setBit (bitmap : Bytes) :
    (RouteGroupData.setBit n bitmap row col).length = bitmap.length := by
  rw [RouteGroupData.setBit]
  exact List.length_modify _ _ _

private theorem testBit_or_shift (byte : UInt8) {k i : Nat} (small : k < 8) :
    (byte ||| (1 <<< UInt8.ofNat k)).toNat.testBit i =
    (decide (k = i) || byte.toNat.testBit i) := by
  have shifted : ((1 : UInt8) <<< UInt8.ofNat k).toNat = 2 ^ k := by
    have below : 2 ^ k < 2 ^ 8 := Nat.pow_lt_pow_right (by decide) small
    rw [UInt8.toNat_shiftLeft, UInt8.toNat_ofNat', Nat.mod_eq_of_lt (by omega : k < 2 ^ 8),
      Nat.mod_eq_of_lt small, Nat.shiftLeft_eq, UInt8.toNat_one, Nat.one_mul,
      Nat.mod_eq_of_lt below]
  rw [UInt8.toNat_or, shifted, Nat.testBit_or, Nat.testBit_two_pow, Bool.or_comm]

theorem bitAt_setBit {bitmap : Bytes} (inside : (row * n + col) / 8 < bitmap.length) :
    bitAt n (RouteGroupData.setBit n bitmap row col) row' col' =
      (decide (row * n + col = row' * n + col') || bitAt n bitmap row' col') := by
  rw [bitAt, RouteGroupData.setBit, List.getElem?_modify]
  by_cases here : (row * n + col) / 8 = (row' * n + col') / 8
  · have present : bitmap[(row' * n + col') / 8]? = some bitmap[(row * n + col) / 8] := by
      rw [← here]
      exact List.getElem?_eq_getElem inside
    rw [bitAt, present]
    simp only [Option.map_eq_map, Option.map_some, if_pos here, Option.getD_some]
    rw [testBit_or_shift _ (Nat.mod_lt _ (by decide))]
    congr 1
    rw [decide_eq_decide]
    omega
  · have other : row * n + col ≠ row' * n + col' := fun same => here (by rw [same])
    rw [bitAt]
    simp [here, other]

end Cells

/-! The whole matrix. -/

section Matrix

variable {n size : Nat}

/-- A step that sets the cells `p` of a bitmap of the given size. -/
def Marks (n size : Nat) (f : Bytes → Bytes) (p : Nat → Nat → Bool) : Prop :=
  ∀ bitmap : Bytes, bitmap.length = size → (f bitmap).length = size ∧
    ∀ row col, row < n → col < n → bitAt n (f bitmap) row col =
      (p row col || bitAt n bitmap row col)

private theorem marks_setBit {i j : Nat} (fits : n * n ≤ 8 * size) (row_inside : i < n)
    (col_inside : j < n) :
    Marks n size (fun bitmap => RouteGroupData.setBit n bitmap i j)
      (fun row col => decide (i = row ∧ j = col)) := by
  intro bitmap same_size
  have cell := cell_lt row_inside col_inside
  refine ⟨(length_setBit bitmap).trans same_size, ?_⟩
  intro row col _ inside
  rw [bitAt_setBit (by omega)]
  congr 1
  rw [decide_eq_decide]
  exact cell_inj col_inside inside

theorem Marks.trans {f g : Bytes → Bytes} {p q : Nat → Nat → Bool} (hf : Marks n size f p)
    (hg : Marks n size g q) :
    Marks n size (fun bitmap => g (f bitmap)) (fun row col => p row col || q row col) := by
  intro bitmap same_size
  obtain ⟨first_size, first⟩ := hf bitmap same_size
  obtain ⟨second_size, second⟩ := hg (f bitmap) first_size
  refine ⟨second_size, ?_⟩
  intro row col row_inside col_inside
  rw [second row col row_inside col_inside, first row col row_inside col_inside]
  rw [Bool.or_left_comm, Bool.or_assoc]

private theorem marks_fold {f : Bytes → Nat → Bytes} {p : Nat → Nat → Nat → Bool} (is : List Nat)
    (each : ∀ i ∈ is, Marks n size (fun bitmap => f bitmap i) (p i)) :
    Marks n size (fun bitmap => is.foldl f bitmap)
      (fun row col => is.any fun i => p i row col) := by
  induction is with
  | nil =>
    intro bitmap same_size
    exact ⟨same_size, fun row col _ _ => rfl⟩
  | cons i is ih =>
    have rest := ih fun j member => each j (List.mem_cons_of_mem i member)
    have all := (each i List.mem_cons_self).trans rest
    intro bitmap same_size
    exact all bitmap same_size

theorem bitAt_empty (row col : Nat) : bitAt n (List.replicate size 0) row col = false := by
  rw [bitAt, List.getElem?_replicate]
  split
  · exact Nat.zero_testBit _
  · exact Nat.zero_testBit _

end Matrix

section Star

variable {relevantPeers : List UInt32} {myPeerId : UInt32}

/-- The matrix has the diagonal, the row and the column of the relay, and nothing else. -/
theorem bitAt_connBitmap {serverIdx row col : Nat}
    (found : relevantPeers.idxOf? myPeerId = some serverIdx)
    (inside : serverIdx < relevantPeers.length)
    (row_inside : row < relevantPeers.length) (col_inside : col < relevantPeers.length) :
    bitAt relevantPeers.length (RouteGroupData.connBitmap relevantPeers myPeerId) row col =
      decide (row = col ∨ row = serverIdx ∨ col = serverIdx) := by
  have fits : relevantPeers.length * relevantPeers.length ≤
      8 * ((relevantPeers.length * relevantPeers.length + 7) / 8) := by
    omega
  have diagonal := marks_fold (List.range relevantPeers.length) fun i member =>
    marks_setBit fits (List.mem_range.mp member) (List.mem_range.mp member)
  have spoke (i : Nat) (member : i ∈ List.range relevantPeers.length) :
      Marks relevantPeers.length ((relevantPeers.length * relevantPeers.length + 7) / 8)
        (fun bitmap => if i = serverIdx then bitmap
          else RouteGroupData.setBit relevantPeers.length
            (RouteGroupData.setBit relevantPeers.length bitmap serverIdx i) i serverIdx)
        (fun row col => decide (i ≠ serverIdx) &&
          (decide (serverIdx = row ∧ i = col) || decide (i = row ∧ serverIdx = col))) := by
    by_cases own : i = serverIdx
    · simp only [if_pos own]
      intro bitmap same_size
      refine ⟨same_size, fun row col _ _ => ?_⟩
      simp [own]
    · have both := (marks_setBit fits inside (List.mem_range.mp member)).trans
        (marks_setBit fits (List.mem_range.mp member) inside)
      simpa [own] using both
  have star := diagonal.trans (marks_fold (List.range relevantPeers.length) spoke)
  obtain ⟨_, cells⟩ := star _ (List.length_replicate)
  rw [RouteGroupData.connBitmap, found]
  refine (cells row col row_inside col_inside).trans ?_
  rw [bitAt_empty, Bool.or_false, Bool.eq_iff_iff]
  simp only [Bool.or_eq_true, List.any_eq_true, List.mem_range, decide_eq_true_eq, Bool.and_eq_true]
  constructor
  · rintro (⟨i, _, rfl, rfl⟩ | ⟨i, _, _, ⟨rfl, rfl⟩ | ⟨rfl, rfl⟩⟩)
    · exact Or.inl rfl
    · exact Or.inr (Or.inl rfl)
    · exact Or.inr (Or.inr rfl)
  · rintro (rfl | rfl | rfl)
    · exact Or.inl ⟨row, row_inside, rfl, rfl⟩
    · by_cases own : col = row
      · exact Or.inl ⟨row, row_inside, rfl, own.symm⟩
      · exact Or.inr ⟨col, col_inside, own, Or.inl ⟨rfl, rfl⟩⟩
    · by_cases own : row = col
      · exact Or.inl ⟨row, row_inside, rfl, own⟩
      · exact Or.inr ⟨row, row_inside, own, Or.inr ⟨rfl, rfl⟩⟩

end Star

/-! What a connection info says. -/

/-- The peers a connection info lists, each with its version. -/
def listed : ConnInfo → List PeerIdVersion
  | .connBitmap b => b.peerIds
  | .connPeerList l => l.peerConnInfos.filterMap PeerConnInfo.peerId

/-- Whether a connection info links `p` to `q`. -/
def linked : ConnInfo → UInt32 → UInt32 → Bool
  | .connBitmap b, p, q =>
    let ids := b.peerIds.map PeerIdVersion.peerId
    match ids.idxOf? p, ids.idxOf? q with
    | some i, some j => bitAt ids.length b.bitmap i j
    | _, _ => false
  | .connPeerList l, p, q => l.peerConnInfos.any fun row =>
      row.peerId.any (·.peerId = p) && row.connectedPeerIds.contains q

section Forms

variable {relevantPeers : List UInt32} {myPeerId p q : UInt32} (g : RouteGroupData)

theorem listed_connPeerList :
    listed (.connPeerList (g.connPeerList relevantPeers myPeerId)) =
      g.peerIdVersions relevantPeers := by
  rw [listed, RouteGroupData.connPeerList, List.filterMap_map]
  exact List.filterMap_some

private theorem linked_connPeerList :
    linked (.connPeerList (g.connPeerList relevantPeers myPeerId)) p q =
      decide (p ∈ relevantPeers ∧ (if p = myPeerId then q ∈ relevantPeers ∧ q ≠ myPeerId
        else q = myPeerId)) := by
  rw [Bool.eq_iff_iff]
  simp only [linked, RouteGroupData.connPeerList, RouteGroupData.peerIdVersions, List.any_eq_true,
    List.mem_map, decide_eq_true_eq, Bool.and_eq_true]
  constructor
  · rintro ⟨_, ⟨_, ⟨a, member, rfl⟩, rfl⟩, own, connected⟩
    simp only [Option.any_some, decide_eq_true_eq] at own
    subst own
    refine ⟨member, ?_⟩
    split
    · rename_i relay
      subst relay
      simpa using connected
    · rename_i other
      simpa [other] using connected
  · rintro ⟨member, connected⟩
    refine ⟨_, ⟨_, ⟨p, member, rfl⟩, rfl⟩, by simp, ?_⟩
    split at connected
    · rename_i relay
      subst relay
      simpa using connected
    · rename_i other
      simpa [other] using connected

theorem ids_peerIdVersions :
    (g.peerIdVersions relevantPeers).map PeerIdVersion.peerId = relevantPeers := by
  rw [RouteGroupData.peerIdVersions, List.map_map]
  exact List.map_id _

private theorem idxOf?_inj {l : List UInt32} {a b : UInt32} {i j : Nat}
    (first : l.idxOf? a = some i) (second : l.idxOf? b = some j) : i = j ↔ a = b := by
  obtain ⟨_, at_i, _⟩ := List.idxOf?_eq_some_iff.mp first
  obtain ⟨_, at_j, _⟩ := List.idxOf?_eq_some_iff.mp second
  constructor
  · rintro rfl
    exact at_i.symm.trans at_j
  · rintro rfl
    exact Option.some.inj (first.symm.trans second)

theorem linked_bitmapOf (relay : myPeerId ∈ relevantPeers) (different : p ≠ q) :
    linked (.connBitmap (bitmapOf g relevantPeers myPeerId)) p q =
      decide (p ∈ relevantPeers ∧ q ∈ relevantPeers ∧ (p = myPeerId ∨ q = myPeerId)) := by
  rw [linked, bitmapOf, ids_peerIdVersions]
  cases first : relevantPeers.idxOf? p with
  | none =>
    have absent := List.idxOf?_eq_none_iff.mp first
    simp [absent]
  | some i =>
    cases second : relevantPeers.idxOf? q with
    | none =>
      have absent := List.idxOf?_eq_none_iff.mp second
      simp [absent]
    | some j =>
      obtain ⟨serverIdx, found⟩ : ∃ k, relevantPeers.idxOf? myPeerId = some k := by
        refine Option.ne_none_iff_exists'.mp fun missing => ?_
        exact List.idxOf?_eq_none_iff.mp missing relay
      have p_member := List.isSome_idxOf?.mp (Option.isSome_of_mem first)
      have q_member := List.isSome_idxOf?.mp (Option.isSome_of_mem second)
      have cell := bitAt_connBitmap found (List.idxOf?_eq_some_iff.mp found).1
        (List.idxOf?_eq_some_iff.mp first).1 (List.idxOf?_eq_some_iff.mp second).1
      refine cell.trans ?_
      rw [decide_eq_decide, idxOf?_inj first second, idxOf?_inj first found,
        idxOf?_inj second found]
      simp [p_member, q_member, different]

theorem linked_forms (relay : myPeerId ∈ relevantPeers) (different : p ≠ q) :
    linked (.connBitmap (bitmapOf g relevantPeers myPeerId)) p q =
      linked (.connPeerList (g.connPeerList relevantPeers myPeerId)) p q := by
  rw [linked_bitmapOf g relay different, linked_connPeerList, decide_eq_decide]
  constructor
  · rintro ⟨p_member, q_member, own | own⟩
    · rw [if_pos own]
      exact ⟨p_member, q_member, fun same => different (own.trans same.symm)⟩
    · rw [if_neg fun same => different (same.trans own.symm)]
      exact ⟨p_member, own⟩
  · rintro ⟨p_member, connected⟩
    split at connected
    · rename_i own
      exact ⟨p_member, connected.1, Or.inl own⟩
    · subst connected
      exact ⟨p_member, relay, Or.inr rfl⟩

end Forms

end EasyTierEdge.Rpc.ConnBitmap
