/- module: EasyTierEdge/Lib/FiniteMap
   layer: library
   digest: Hash-map operations on Mathlib's finite maps, with one lookup law each. -/

import Mathlib.Data.Finmap

set_option autoImplicit false
set_option relaxedAutoImplicit false

namespace EasyTierEdge.Lib.FiniteMap

universe u v

variable {K : Type u} {V : Type v}

/-- An unordered finite map: the extensional content of a hash map. -/
abbrev FMap (K : Type u) (V : Type v) := Finmap (fun _ : K => V)

namespace FMap

/-- Keep the entries that satisfy `p`, as `HashMap::retain` does. -/
def retain (p : K → V → Bool) (m : FMap K V) : FMap K V where
  entries := m.entries.filter (fun e => p e.1 e.2)
  nodupKeys := by
    obtain ⟨l, hl⟩ := Quot.exists_rep m.entries
    have nodup := m.nodupKeys
    rw [← hl] at nodup ⊢
    exact List.NodupKeys.sublist (List.filter_sublist) nodup

/-- Change every value, as a loop over `HashMap::values_mut` does. -/
def mapValues (f : V → V) (m : FMap K V) : FMap K V where
  entries := m.entries.map fun e => ⟨e.1, f e.2⟩
  nodupKeys := by
    obtain ⟨l, hl⟩ := Quot.exists_rep m.entries
    have nodup := m.nodupKeys
    rw [← hl] at nodup ⊢
    have keys : (l.map fun e : (_ : K) × V => (⟨e.1, f e.2⟩ : (_ : K) × V)).keys = l.keys := by
      simp [List.keys, Function.comp_def]
    show (List.map _ l).NodupKeys
    rw [List.NodupKeys, keys]
    exact nodup

/-- The number of entries. -/
def size (m : FMap K V) : Nat := m.keys.card

/-- The sum of a measure over the entries. -/
def total (f : K → V → Nat) (m : FMap K V) : Nat := (m.entries.map fun e => f e.1 e.2).sum

theorem size_eq_total (m : FMap K V) : size m = total (fun _ _ => 1) m := by
  show Multiset.card (m.entries.map Sigma.fst) = (m.entries.map fun _ => 1).sum
  induction m.entries using Multiset.induction with
  | empty => rfl
  | cons e entries ih =>
    rw [Multiset.map_cons, Multiset.card_cons, ih, Multiset.map_cons, Multiset.sum_cons]
    exact Nat.add_comm _ _

theorem total_retain (f : K → V → Nat) (p : K → V → Bool) (m : FMap K V) :
    total f (retain p m) = total (fun k v => if p k v = true then f k v else 0) m := by
  show (Multiset.map _ (Multiset.filter _ m.entries)).sum = _
  rw [total]
  induction m.entries using Multiset.induction with
  | empty => rfl
  | cons e entries ih =>
    rw [Multiset.map_cons, Multiset.sum_cons, ← ih, Multiset.filter_cons]
    by_cases kept : p e.1 e.2 = true
    · rw [if_pos kept, if_pos kept, Multiset.map_add, Multiset.sum_add]
      rfl
    · rw [if_neg kept, if_neg kept, Multiset.map_add, Multiset.sum_add]
      rfl

theorem total_retain_le (f : K → V → Nat) (p : K → V → Bool) (m : FMap K V) :
    total f (retain p m) ≤ total f m := by
  show (Multiset.map _ (Multiset.filter _ m.entries)).sum ≤ _
  rw [total]
  induction m.entries using Multiset.induction with
  | empty => exact Nat.le_refl _
  | cons e entries ih =>
    rw [Multiset.map_cons, Multiset.sum_cons, Multiset.filter_cons]
    by_cases kept : p e.1 e.2 = true
    · rw [if_pos kept, Multiset.map_add, Multiset.sum_add]
      exact Nat.add_le_add_left ih _
    · rw [if_neg kept, Multiset.map_add, Multiset.sum_add]
      exact Nat.add_le_add (Nat.zero_le _) ih

variable [DecidableEq K]

theorem lookup_retain (p : K → V → Bool) (m : FMap K V) (k : K) :
    (retain p m).lookup k = (m.lookup k).filter (p k) := by
  ext v
  rw [Option.filter_eq_some_iff, Finmap.lookup_eq_some_iff, Finmap.lookup_eq_some_iff]
  exact Multiset.mem_filter

theorem filter_comm (p q : V → Bool) (o : Option V) :
    (o.filter p).filter q = (o.filter q).filter p := by
  rw [Option.filter_filter, Option.filter_filter]
  congr 1
  funext v
  exact Bool.and_comm _ _

theorem filter_absorb {p q : V → Bool} (weaker : ∀ v, q v = true → p v = true) (o : Option V) :
    (o.filter p).filter q = o.filter q := by
  rw [Option.filter_filter]
  congr 1
  funext v
  cases chosen : q v with
  | false => exact Bool.and_false _
  | true => rw [weaker v chosen, Bool.and_self]

theorem lookup_of_lookup_retain {p : K → V → Bool} {m : FMap K V} {k : K} {v : V}
    (h : (retain p m).lookup k = some v) : m.lookup k = some v ∧ p k v = true := by
  rw [lookup_retain] at h
  exact Option.filter_eq_some_iff.mp h

theorem lookup_retain_of_true {p : K → V → Bool} {m : FMap K V} {k : K} {v : V}
    (h : m.lookup k = some v) (hp : p k v = true) : (retain p m).lookup k = some v := by
  rw [lookup_retain, h, Option.filter_some, if_pos hp]

theorem lookup_mapValues (f : V → V) (m : FMap K V) (k : K) :
    (mapValues f m).lookup k = (m.lookup k).map f := by
  ext v
  rw [Option.map_eq_some_iff, Finmap.lookup_eq_some_iff]
  constructor
  · intro member
    obtain ⟨⟨k', u⟩, present, same⟩ := Multiset.mem_map.mp member
    cases same
    exact ⟨u, Finmap.lookup_eq_some_iff.mpr present, rfl⟩
  · rintro ⟨u, present, rfl⟩
    exact Multiset.mem_map.mpr ⟨⟨k, u⟩, Finmap.lookup_eq_some_iff.mp present, rfl⟩

theorem lookup_insert_eq_ite (m : FMap K V) (k k' : K) (v : V) :
    (m.insert k v).lookup k' = if k' = k then some v else m.lookup k' := by
  split
  · rename_i h
    subst h
    exact Finmap.lookup_insert m
  · rename_i h
    exact Finmap.lookup_insert_of_ne m h

theorem lookup_erase_eq_ite (m : FMap K V) (k k' : K) :
    (m.erase k).lookup k' = if k' = k then none else m.lookup k' := by
  split
  · rename_i h
    subst h
    exact Finmap.lookup_erase k' m
  · rename_i h
    exact Finmap.lookup_erase_ne h

theorem keys_insert (m : FMap K V) (k : K) (v : V) :
    (m.insert k v).keys = insert k m.keys := by
  ext a
  rw [Finmap.mem_keys, Finmap.mem_insert, Finset.mem_insert, Finmap.mem_keys]

theorem size_insert (m : FMap K V) (k : K) (v : V) :
    size (m.insert k v) = if k ∈ m then size m else size m + 1 := by
  unfold size
  rw [keys_insert]
  split
  · rename_i h
    rw [Finset.insert_eq_of_mem (Finmap.mem_keys.mpr h)]
  · rename_i h
    exact Finset.card_insert_of_notMem (fun hm => h (Finmap.mem_keys.mp hm))

theorem size_retain_le (p : K → V → Bool) (m : FMap K V) : size (retain p m) ≤ size m := by
  apply Finset.card_le_card
  intro k hk
  obtain ⟨v, hv⟩ := Finmap.mem_iff.mp (Finmap.mem_keys.mp hk)
  exact Finmap.mem_keys.mpr (Finmap.mem_iff.mpr ⟨v, (lookup_of_lookup_retain hv).1⟩)

/-- Apply `f` to the value stored at `k`, when there is one. -/
def modify (m : FMap K V) (k : K) (f : V → V) : FMap K V :=
  match m.lookup k with
  | some v => m.insert k (f v)
  | none => m

theorem lookup_modify (m : FMap K V) (k k' : K) (f : V → V) :
    (modify m k f).lookup k' = if k' = k then (m.lookup k').map f else m.lookup k' := by
  unfold modify
  cases h : m.lookup k with
  | none =>
    dsimp only
    split
    · rename_i same
      subst same
      simp [h]
    · rfl
  | some v =>
    dsimp only
    rw [lookup_insert_eq_ite]
    split
    · rename_i same
      subst same
      simp [h]
    · rfl

theorem size_modify (m : FMap K V) (k : K) (f : V → V) : size (modify m k f) = size m := by
  unfold modify
  cases h : m.lookup k with
  | none => rfl
  | some v => rw [size_insert, if_pos (Finmap.mem_iff.mpr ⟨v, h⟩)]

theorem insert_erase_of_lookup {m : FMap K V} {k : K} {v : V} (h : m.lookup k = some v) :
    (m.erase k).insert k v = m := by
  apply Finmap.ext_lookup
  intro k'
  rw [lookup_insert_eq_ite, lookup_erase_eq_ite]
  split
  · rename_i same
    rw [same, h]
  · rfl

theorem insert_erase (m : FMap K V) (k : K) (v : V) :
    (m.erase k).insert k v = m.insert k v := by
  apply Finmap.ext_lookup
  intro k'
  rw [lookup_insert_eq_ite, lookup_insert_eq_ite, lookup_erase_eq_ite]
  split
  · rfl
  · rfl

theorem erase_of_lookup_none {m : FMap K V} {k : K} (h : m.lookup k = none) :
    m.erase k = m := by
  apply Finmap.ext_lookup
  intro k'
  rw [lookup_erase_eq_ite]
  split
  · rename_i same
    rw [same, h]
  · rfl

/-! Sums over the entries. -/

theorem total_insert (f : K → V → Nat) (m : FMap K V) (k : K) (v : V) :
    total f (m.insert k v) = f k v + total f (m.erase k) := by
  have absent : k ∉ m.erase k := Finmap.notMem_erase_self
  rw [← insert_erase, total, Finmap.entries_insert_of_notMem absent, Multiset.map_cons,
    Multiset.sum_cons]
  rfl

theorem total_of_lookup (f : K → V → Nat) {m : FMap K V} {k : K} {v : V}
    (h : m.lookup k = some v) : total f m = f k v + total f (m.erase k) := by
  rw [← total_insert, ← insert_erase, insert_erase_of_lookup h]

theorem total_insert_of_none (f : K → V → Nat) {m : FMap K V} {k : K} (v : V)
    (h : m.lookup k = none) : total f (m.insert k v) = f k v + total f m := by
  rw [total_insert, erase_of_lookup_none h]

theorem le_total (f : K → V → Nat) {m : FMap K V} {k : K} {v : V} (h : m.lookup k = some v) :
    f k v ≤ total f m := by
  rw [total_of_lookup f h]
  exact Nat.le_add_right _ _

theorem total_congr {f g : K → V → Nat} {m : FMap K V}
    (same : ∀ k v, m.lookup k = some v → f k v = g k v) : total f m = total g m := by
  refine congrArg Multiset.sum (Multiset.map_congr rfl ?_)
  intro e member
  exact same e.1 e.2 (Finmap.lookup_eq_some_iff.mpr member)

/-! Loops over the entries in an arbitrary order. -/

/-- A loop whose order does not matter runs along some list of all entries. -/
theorem foldl_eq_list {D : Type v} (f : D → K → V → D)
    (comm : ∀ d k v k' v', f (f d k v) k' v' = f (f d k' v') k v) (d : D) (m : FMap K V) :
    ∃ l : List (K × V), (l.map Prod.fst).Nodup ∧ (∀ k v, (k, v) ∈ l ↔ m.lookup k = some v) ∧
      m.foldl f comm d = l.foldl (fun d e => f d e.1 e.2) d := by
  obtain ⟨l, hl⟩ := Quot.exists_rep m.entries
  have entries : m.entries = (l : Multiset (Sigma fun _ : K => V)) := hl.symm
  have nodup := m.nodupKeys
  rw [entries] at nodup
  refine ⟨l.map fun e => (e.1, e.2), ?_, ?_, ?_⟩
  · have keys : (l.map fun e => (e.1, e.2)).map Prod.fst = l.keys := by
      simp [List.keys, Function.comp_def]
    rw [keys]
    exact nodup
  · intro k v
    rw [Finmap.lookup_eq_some_iff, entries, Multiset.mem_coe]
    constructor
    · intro member
      obtain ⟨e, found, same⟩ := List.mem_map.mp member
      cases same
      exact found
    · intro found
      exact List.mem_map.mpr ⟨⟨k, v⟩, found, rfl⟩
  · rw [Finmap.foldl, List.foldl_map]
    simp only [entries]
    rfl

end FMap

end EasyTierEdge.Lib.FiniteMap
