/- module: EasyTierEdge/Lib/OrderedMap
   layer: library
   digest: Maps that remember the order of insertion, as a JavaScript Map does. -/

import Mathlib.Data.List.AList

set_option autoImplicit false
set_option relaxedAutoImplicit false

namespace EasyTierEdge.Lib.OrderedMap

universe u v

variable {K : Type u} {V : Type v} [DecidableEq K]

/-- A finite map whose keys stand in the order of their insertion. -/
abbrev OMap (K : Type u) (V : Type v) := AList (fun _ : K => V)

namespace OMap

/-- Write a value: in place under a key that is there, at the end under a new one. -/
def set (m : OMap K V) (k : K) (v : V) : OMap K V :=
  if present : k ∈ m then m.replace k v
  else
    { entries := m.entries ++ [⟨k, v⟩]
      nodupKeys := by
        have fresh : k ∉ m.entries.keys := present
        have nodup : m.entries.keys.Nodup := m.nodupKeys
        simp only [List.NodupKeys, List.keys, List.map_append, List.map_cons, List.map_nil]
        rw [List.nodup_append]
        refine ⟨nodup, List.nodup_singleton k, ?_⟩
        intro a old b new same
        rw [List.mem_singleton] at new
        rw [same, new] at old
        exact fresh old }

/-- Change the value under a key that is there. -/
def modify (m : OMap K V) (k : K) (f : V → V) : OMap K V :=
  match m.lookup k with
  | some v => m.replace k (f v)
  | none => m

private theorem dlookup_kreplace (k k' : K) (v : V) (l : List ((_ : K) × V))
    (present : k ∈ l.keys) :
    (l.kreplace k v).dlookup k' = if k' = k then some v else l.dlookup k' := by
  induction l with
  | nil => simp at present
  | cons e l ih =>
    obtain ⟨a, b⟩ := e
    by_cases here : k = a
    · subst here
      have first : List.kreplace k v (⟨k, b⟩ :: l) = ⟨k, v⟩ :: l :=
        List.lookmap_cons_some _ l (if_pos rfl)
      rw [first]
      by_cases same : k' = k
      · subst same
        simp
      · rw [if_neg same, List.dlookup_cons_ne l ⟨k, v⟩ same, List.dlookup_cons_ne l ⟨k, b⟩ same]
    · have later : List.kreplace k v (⟨a, b⟩ :: l) = ⟨a, b⟩ :: List.kreplace k v l :=
        List.lookmap_cons_none _ l (if_neg here)
      have rest : k ∈ l.keys := by
        simp only [List.keys_cons, List.mem_cons] at present
        exact present.resolve_left here
      rw [later]
      by_cases same : k' = a
      · subst same
        simp [Ne.symm here]
      · have skip (rest : List ((_ : K) × V)) :
            List.dlookup k' ((⟨a, b⟩ : (_ : K) × V) :: rest) = List.dlookup k' rest :=
          List.dlookup_cons_ne rest ⟨a, b⟩ same
        rw [skip, skip, ih rest]

theorem lookup_replace {m : OMap K V} {k : K} (k' : K) (v : V) (present : k ∈ m) :
    (m.replace k v).lookup k' = if k' = k then some v else m.lookup k' :=
  dlookup_kreplace k k' v m.entries present

@[simp] theorem lookup_set (m : OMap K V) (k k' : K) (v : V) :
    (set m k v).lookup k' = if k' = k then some v else m.lookup k' := by
  unfold set
  by_cases present : k ∈ m
  · rw [dif_pos present]
    exact lookup_replace k' v present
  · rw [dif_neg present]
    show List.dlookup k' (m.entries ++ [(⟨k, v⟩ : (_ : K) × V)]) = _
    rw [List.dlookup_append]
    by_cases same : k' = k
    · subst same
      have gone : m.entries.dlookup k' = none := List.dlookup_eq_none.mpr present
      simp [gone]
    · rw [if_neg same, List.dlookup_cons_ne _ (⟨k, v⟩ : (_ : K) × V) same]
      simp [AList.lookup]

theorem lookup_modify (m : OMap K V) (k k' : K) (f : V → V) :
    (modify m k f).lookup k' = if k' = k then (m.lookup k).map f else m.lookup k' := by
  unfold modify
  cases found : m.lookup k with
  | none =>
    by_cases same : k' = k
    · subst same
      simp [found]
    · simp [same]
  | some v =>
    have present : k ∈ m := by
      rw [← AList.lookup_isSome, found]
      rfl
    exact lookup_replace k' (f v) present

theorem lookup_erase_eq_ite (m : OMap K V) (k k' : K) :
    (m.erase k).lookup k' = if k' = k then none else m.lookup k' := by
  by_cases same : k' = k
  · subst same
    rw [if_pos rfl, AList.lookup_erase]
  · rw [if_neg same, AList.lookup_erase_ne same]

theorem mem_of_lookup {m : OMap K V} {k : K} {v : V} (found : m.lookup k = some v) : k ∈ m := by
  rw [← AList.lookup_isSome, found]
  rfl

end OMap

end EasyTierEdge.Lib.OrderedMap
