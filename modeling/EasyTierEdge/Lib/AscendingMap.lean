/- module: EasyTierEdge/Lib/AscendingMap
   layer: library
   digest: Maps with ascending keys, for tables that a program walks through. -/

import Mathlib.Data.List.Sort
import Mathlib.Data.Prod.Lex
import Mathlib.Order.Basic

set_option autoImplicit false
set_option relaxedAutoImplicit false

namespace EasyTierEdge.Lib.AscendingMap

universe u v w

/-- A map listed by ascending key, so that two maps with the same entries are equal. -/
structure AscMap (K : Type u) (V : Type v) [LinearOrder K] where
  entries : List (K × V)
  ascending : (entries.map Prod.fst).Pairwise (· < ·)

/-- A set listed in ascending order. -/
abbrev AscSet (K : Type u) [LinearOrder K] := AscMap K Unit

scoped instance uint32LinearOrder : LinearOrder UInt32 where
  le_refl := UInt32.le_refl
  le_trans _ _ _ := UInt32.le_trans
  lt_iff_le_not_ge a b := by
    simp only [UInt32.le_iff_toNat_le, UInt32.lt_iff_toNat_lt]
    omega
  le_antisymm _ _ := UInt32.le_antisymm
  le_total := UInt32.le_total
  toDecidableLE := inferInstance

variable {K : Type u} {V : Type v} {W : Type w} [LinearOrder K]

/-! Ascending lists of entries. -/

/-- The value of the first entry with key `k`. -/
def lookup : List (K × V) → K → Option V
  | [], _ => none
  | e :: l, k => if e.1 = k then some e.2 else lookup l k

/-- Put an entry in its place, replacing the one with the same key. -/
def insertEntry (k : K) (v : V) : List (K × V) → List (K × V)
  | [] => [(k, v)]
  | e :: l =>
    if k < e.1 then (k, v) :: e :: l
    else if k = e.1 then (k, v) :: l
    else e :: insertEntry k v l

theorem lookup_cons (e : K × V) (l : List (K × V)) (k : K) :
    lookup (e :: l) k = if k = e.1 then some e.2 else lookup l k := by
  by_cases same : k = e.1
  · rw [lookup, if_pos same.symm, if_pos same]
  · rw [lookup, if_neg (fun h => same h.symm), if_neg same]

theorem lookup_eq_none {l : List (K × V)} {k : K} (absent : k ∉ l.map Prod.fst) :
    lookup l k = none := by
  induction l with
  | nil => rfl
  | cons e l ih =>
    rw [List.map_cons, List.mem_cons, not_or] at absent
    rw [lookup_cons, if_neg absent.1]
    exact ih absent.2

theorem lookup_isSome {l : List (K × V)} {k : K} :
    (lookup l k).isSome = true ↔ k ∈ l.map Prod.fst := by
  induction l with
  | nil => simp [lookup]
  | cons e l ih =>
    rw [lookup_cons, List.map_cons, List.mem_cons]
    by_cases same : k = e.1
    · simp [same]
    · rw [if_neg same, ih]
      simp [same]

private theorem lookup_eq_some {l : List (K × V)} (ascending : (l.map Prod.fst).Pairwise (· < ·))
    {k : K} {v : V} : lookup l k = some v ↔ (k, v) ∈ l := by
  induction l with
  | nil => simp [lookup]
  | cons e l ih =>
    rw [List.map_cons, List.pairwise_cons] at ascending
    rw [lookup_cons, List.mem_cons]
    by_cases same : k = e.1
    · rw [if_pos same]
      constructor
      · intro h
        exact Or.inl (Prod.ext same (Option.some.inj h).symm)
      · rintro (h | member)
        · rw [← h]
        · have below := ascending.1 k (List.mem_map_of_mem member)
          exact absurd (same ▸ below) (lt_irrefl e.1)
    · rw [if_neg same, ih ascending.2]
      constructor
      · exact Or.inr
      · rintro (h | member)
        · exact absurd (congrArg Prod.fst h) same
        · exact member

private theorem mem_keys_insertEntry {k a : K} {v : V} {l : List (K × V)} :
    a ∈ (insertEntry k v l).map Prod.fst ↔ a = k ∨ a ∈ l.map Prod.fst := by
  induction l with
  | nil => simp [insertEntry]
  | cons e l ih =>
    rw [insertEntry]
    split
    · simp
    · split
      · rename_i same
        simp [same]
      · rw [List.map_cons, List.mem_cons, ih, List.map_cons, List.mem_cons]
        constructor
        · rintro (h | h | h)
          · exact Or.inr (Or.inl h)
          · exact Or.inl h
          · exact Or.inr (Or.inr h)
        · rintro (h | h | h)
          · exact Or.inr (Or.inl h)
          · exact Or.inl h
          · exact Or.inr (Or.inr h)

private theorem insertEntry_ascending (k : K) (v : V) {l : List (K × V)}
    (ascending : (l.map Prod.fst).Pairwise (· < ·)) :
    ((insertEntry k v l).map Prod.fst).Pairwise (· < ·) := by
  induction l with
  | nil => simp [insertEntry]
  | cons e l ih =>
    have whole := ascending
    rw [List.map_cons, List.pairwise_cons] at ascending
    rw [insertEntry]
    split
    · rename_i before
      rw [List.map_cons, List.pairwise_cons]
      refine ⟨?_, whole⟩
      intro a member
      rw [List.map_cons, List.mem_cons] at member
      rcases member with rfl | later
      · exact before
      · exact before.trans (ascending.1 a later)
    · rename_i not_before
      split
      · rename_i same
        subst same
        exact whole
      · rename_i differs
        rw [List.map_cons, List.pairwise_cons]
        refine ⟨?_, ih ascending.2⟩
        intro a member
        rcases mem_keys_insertEntry.mp member with rfl | later
        · exact lt_of_le_of_ne (not_lt.mp not_before) (fun h => differs h.symm)
        · exact ascending.1 a later

private theorem lookup_insertEntry (k k' : K) (v : V) (l : List (K × V)) :
    lookup (insertEntry k v l) k' = if k' = k then some v else lookup l k' := by
  induction l with
  | nil => rw [insertEntry, lookup_cons]
  | cons e l ih =>
    rw [insertEntry]
    split
    · rw [lookup_cons]
    · split
      · rename_i same
        rw [lookup_cons, lookup_cons, same]
        split
        · rfl
        · rfl
      · rename_i differs
        rw [lookup_cons, ih, lookup_cons]
        by_cases here : k' = e.1
        · have other : ¬ k' = k := fun h => differs (h.symm.trans here)
          rw [if_pos here, if_neg other, if_pos here]
        · rw [if_neg here, if_neg here]

private theorem lookup_filter (p : K → V → Bool) {l : List (K × V)}
    (ascending : (l.map Prod.fst).Pairwise (· < ·)) (k : K) :
    lookup (l.filter fun e => p e.1 e.2) k = (lookup l k).filter (p k) := by
  induction l with
  | nil => rfl
  | cons e l ih =>
    rw [List.map_cons, List.pairwise_cons] at ascending
    have rest := ih ascending.2
    rw [List.filter_cons, lookup_cons]
    by_cases same : k = e.1
    · subst same
      rw [if_pos rfl]
      by_cases kept : p e.1 e.2 = true
      · rw [if_pos kept, lookup_cons, if_pos rfl, Option.filter_some, if_pos kept]
      · have gone : lookup l e.1 = none :=
          lookup_eq_none fun member => lt_irrefl _ (ascending.1 e.1 member)
        rw [if_neg kept, rest, gone, Option.filter_some, if_neg kept]
        rfl
    · rw [if_neg same, ← rest]
      split
      · rw [lookup_cons, if_neg same]
      · rfl

namespace AscMap

def empty : AscMap K V := ⟨[], List.Pairwise.nil⟩

instance : EmptyCollection (AscMap K V) := ⟨empty⟩

instance [DecidableEq V] : DecidableEq (AscMap K V) := fun m n =>
  decidable_of_iff (m.entries = n.entries) (by
    cases m
    cases n
    simp)

variable (m : AscMap K V)

def get? (k : K) : Option V := lookup m.entries k

def insert (k : K) (v : V) : AscMap K V :=
  ⟨insertEntry k v m.entries, insertEntry_ascending k v m.ascending⟩

/-- Keep the entries that satisfy `p`. -/
def retain (p : K → V → Bool) : AscMap K V where
  entries := m.entries.filter fun e => p e.1 e.2
  ascending := m.ascending.sublist (List.filter_sublist.map Prod.fst)

def erase (k : K) : AscMap K V := m.retain fun k' _ => k' ≠ k

def mapValues (f : V → W) : AscMap K W where
  entries := m.entries.map fun e => (e.1, f e.2)
  ascending := by
    rw [List.map_map]
    exact m.ascending

def keys : List K := m.entries.map Prod.fst

/-- Update the value at `k`, which starts from `initial` when there is none. -/
def upsert (k : K) (initial : V) (f : V → V) : AscMap K V :=
  m.insert k (f ((m.get? k).getD initial))

theorem get?_empty (k : K) : (∅ : AscMap K V).get? k = none := rfl

@[simp] theorem get?_insert (k k' : K) (v : V) :
    (m.insert k v).get? k' = if k' = k then some v else m.get? k' :=
  lookup_insertEntry k k' v m.entries

@[simp] theorem get?_retain (p : K → V → Bool) (k : K) :
    (m.retain p).get? k = (m.get? k).filter (p k) :=
  lookup_filter p m.ascending k

@[simp] theorem get?_erase (k k' : K) :
    (m.erase k).get? k' = if k' = k then none else m.get? k' := by
  rw [erase, get?_retain]
  by_cases same : k' = k
  · cases found : m.get? k' with
    | none => simp
    | some v => simp [same]
  · cases found : m.get? k' with
    | none => simp
    | some v => simp [same]

@[simp] theorem get?_mapValues (f : V → W) (k : K) :
    (m.mapValues f).get? k = (m.get? k).map f := by
  obtain ⟨l, ascending⟩ := m
  show lookup (l.map fun e => (e.1, f e.2)) k = (lookup l k).map f
  clear ascending
  induction l with
  | nil => rfl
  | cons e l ih =>
    rw [List.map_cons, lookup_cons, lookup_cons, ih]
    split
    · rfl
    · rfl

@[simp] theorem get?_upsert (k k' : K) (initial : V) (f : V → V) :
    (m.upsert k initial f).get? k' =
      if k' = k then some (f ((m.get? k).getD initial)) else m.get? k' :=
  get?_insert m k k' _

theorem mem_keys {k : K} : k ∈ m.keys ↔ (m.get? k).isSome = true := lookup_isSome.symm

theorem mem_keys_insert {k k' : K} {v : V} : k' ∈ (m.insert k v).keys ↔ k' = k ∨ k' ∈ m.keys :=
  mem_keys_insertEntry

theorem mem_keys_erase {k k' : K} : k' ∈ (m.erase k).keys ↔ k' ≠ k ∧ k' ∈ m.keys := by
  rw [mem_keys, mem_keys, get?_erase]
  by_cases same : k' = k
  · simp [same]
  · simp [same]

theorem keys_nodup : m.keys.Nodup := m.ascending.imp fun lt => ne_of_lt lt

/-- Two ascending lists with the same keys are equal. -/
theorem keys_eq {n : AscMap K W} (same : ∀ k, k ∈ m.keys ↔ k ∈ n.keys) : m.keys = n.keys :=
  m.ascending.eq_of_mem_iff n.ascending same

theorem mem_entries {k : K} {v : V} : (k, v) ∈ m.entries ↔ m.get? k = some v :=
  (lookup_eq_some m.ascending).symm

theorem ext_get? {m n : AscMap K V} (same : ∀ k, m.get? k = n.get? k) : m = n := by
  have entries : m.entries = n.entries := by
    have antisymm : Std.Antisymm fun e f : K × V => e.1 < f.1 :=
      ⟨fun e f below above => absurd (below.trans above) (lt_irrefl e.1)⟩
    have irrefl : Std.Irrefl fun e f : K × V => e.1 < f.1 := ⟨fun e => lt_irrefl e.1⟩
    refine (List.pairwise_map.mp m.ascending).eq_of_mem_iff (List.pairwise_map.mp n.ascending) ?_
    rintro ⟨k, v⟩
    rw [mem_entries, mem_entries, same]
  cases m
  cases n
  cases entries
  rfl

theorem insert_of_get? {m : AscMap K V} {k : K} {v : V} (present : m.get? k = some v) :
    m.insert k v = m := by
  refine ext_get? fun k' => ?_
  rw [get?_insert]
  by_cases own : k' = k
  · rw [if_pos own, own, present]
  · rw [if_neg own]

theorem erase_of_get? {m : AscMap K V} {k : K} (absent : m.get? k = none) : m.erase k = m := by
  refine ext_get? fun k' => ?_
  rw [get?_erase]
  by_cases own : k' = k
  · rw [if_pos own, own, absent]
  · rw [if_neg own]

end AscMap

end EasyTierEdge.Lib.AscendingMap
