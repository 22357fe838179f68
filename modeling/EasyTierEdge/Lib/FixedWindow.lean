/- module: EasyTierEdge/Lib/FixedWindow
   layer: library
   digest: A limit on windows that start anywhere bounds every interval by twice the limit. -/

import Mathlib.Algebra.BigOperators.Group.List.Lemmas
import Mathlib.Algebra.GroupWithZero.Nat
import Mathlib.Data.List.Basic

set_option autoImplicit false
set_option relaxedAutoImplicit false

namespace EasyTierEdge.Lib.FixedWindow

/-- Something of a weight that was admitted at a time. -/
structure Entry where
  time : Nat
  weight : Nat

/-- What was admitted from `a` on and before `b`. -/
def spent (log : List Entry) (a b : Nat) : Nat :=
  ((log.filter fun e => a ≤ e.time ∧ e.time < b).map Entry.weight).sum

theorem spent_nil (a b : Nat) : spent [] a b = 0 := rfl

theorem spent_cons (e : Entry) (log : List Entry) (a b : Nat) :
    spent (e :: log) a b = (if a ≤ e.time ∧ e.time < b then e.weight else 0) + spent log a b := by
  unfold spent
  by_cases inside : a ≤ e.time ∧ e.time < b
  · rw [List.filter_cons_of_pos (by simpa using inside), List.map_cons, List.sum_cons,
      if_pos inside]
  · rw [List.filter_cons_of_neg (by simpa using inside), if_neg inside, Nat.zero_add]

theorem spent_snoc (log : List Entry) (e : Entry) (a b : Nat) :
    spent (log ++ [e]) a b = spent log a b + if a ≤ e.time ∧ e.time < b then e.weight else 0 := by
  induction log with
  | nil =>
    rw [List.nil_append, spent_cons, spent_nil]
    omega
  | cons first log ih =>
    rw [List.cons_append, spent_cons, spent_cons, ih]
    omega

theorem spent_empty (log : List Entry) : spent log 0 0 = 0 := by
  unfold spent
  rw [List.filter_eq_nil_iff.mpr (by simp)]
  rfl

/-- Whatever lies between `a` and `b` lies in one of these intervals. -/
theorem spent_le_add {log : List Entry} {a b a₁ b₁ a₂ b₂ : Nat}
    (covered : ∀ e ∈ log, a ≤ e.time → e.time < b →
      a₁ ≤ e.time ∧ e.time < b₁ ∨ a₂ ≤ e.time ∧ e.time < b₂) :
    spent log a b ≤ spent log a₁ b₁ + spent log a₂ b₂ := by
  induction log with
  | nil => exact Nat.zero_le _
  | cons e log ih =>
    have rest := ih fun e' member => covered e' (List.mem_cons_of_mem e member)
    have here := covered e List.mem_cons_self
    rw [spent_cons, spent_cons, spent_cons]
    by_cases inside : a ≤ e.time ∧ e.time < b
    · rw [if_pos inside]
      rcases here inside.1 inside.2 with first | second
      · rw [if_pos first]
        omega
      · rw [if_pos second]
        omega
    · rw [if_neg inside]
      omega

theorem spent_mono {log : List Entry} {a b a' b' : Nat}
    (covered : ∀ e ∈ log, a ≤ e.time → e.time < b → a' ≤ e.time ∧ e.time < b') :
    spent log a b ≤ spent log a' b' := by
  have both := @spent_le_add log a b a' b' 0 0 fun e member after before =>
    Or.inl (covered e member after before)
  have nothing := spent_empty log
  omega

/-- The current window started at `start`, its entries lie between `opened` and `start + span`, and
`used` counts them. Whatever is older is bounded on every interval. -/
structure Bounded (span limit opened start used : Nat) (log : List Entry) : Prop where
  begun : opened ≤ start
  recent : ∀ e ∈ log, e.time < start + span
  counted : spent log opened (start + span) ≤ used
  within : spent log opened (start + span) ≤ limit
  previous : ∀ t, opened < t + span → spent log t opened ≤ limit
  bounded : ∀ t, spent log t (t + span) ≤ 2 * limit

namespace Bounded

variable {span limit opened start used now weight : Nat} {log : List Entry}

theorem new (span limit start used : Nat) : Bounded span limit 0 start used [] where
  begun := Nat.zero_le _
  recent := fun _ impossible => absurd impossible List.not_mem_nil
  counted := Nat.zero_le _
  within := Nat.zero_le _
  previous := fun _ _ => Nat.zero_le _
  bounded := fun _ => Nat.zero_le _

theorem restart (inv : Bounded span limit opened start used log) (past : start + span ≤ now) :
    Bounded span limit now now 0 log := by
  have begun := inv.begun
  have nothing : spent log now (now + span) = 0 := by
    have empty := @spent_mono log now (now + span) 0 0 fun e member after _ => by
      have before := inv.recent e member
      omega
    rwa [spent_empty, Nat.le_zero] at empty
  refine ⟨Nat.le_refl now, ?_, Nat.le_of_eq nothing, ?_, ?_, inv.bounded⟩
  · intro e member
    have before := inv.recent e member
    omega
  · rw [nothing]
    exact Nat.zero_le limit
  · intro t meets
    have last := @spent_mono log t now opened (start + span) fun e member after _ => by
      have before := inv.recent e member
      omega
    exact Nat.le_trans last inv.within

theorem record (inv : Bounded span limit opened start used log) (after : opened ≤ now)
    (before : now < start + span) (fits : used + weight ≤ limit) :
    Bounded span limit opened start (used + weight) (log ++ [⟨now, weight⟩]) := by
  have counted := inv.counted
  have here : spent (log ++ [⟨now, weight⟩]) opened (start + span) =
      spent log opened (start + span) + weight := by
    rw [spent_snoc, if_pos ⟨after, before⟩]
  refine ⟨inv.begun, ?_, ?_, ?_, ?_, ?_⟩
  · intro e member
    rcases List.mem_append.mp member with old | new
    · exact inv.recent e old
    · rw [List.mem_singleton.mp new]
      exact before
  · rw [here]
    omega
  · rw [here]
    omega
  · intro t meets
    rw [spent_snoc, if_neg fun inside => absurd inside.2 (Nat.not_lt.mpr after)]
    exact inv.previous t meets
  · intro t
    rw [spent_snoc]
    by_cases inside : t ≤ now ∧ now < t + span
    · -- the interval meets the current window and at most the one before
      have parts : spent log t (t + span) ≤
          spent log t opened + spent log opened (start + span) := by
        apply spent_le_add
        intro e member _ _
        have late := inv.recent e member
        omega
      have older := inv.previous t (by omega)
      rw [if_pos inside]
      show spent log t (t + span) + weight ≤ 2 * limit
      omega
    · rw [if_neg inside]
      exact inv.bounded t

end Bounded

end EasyTierEdge.Lib.FixedWindow
