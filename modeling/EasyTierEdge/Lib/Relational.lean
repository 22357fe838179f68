/- module: EasyTierEdge/Lib/Relational
   layer: library
   digest: Two runs of one operation from related states: same result, related states. -/

import EasyTierEdge.Lib.Fallible

set_option autoImplicit false
set_option relaxedAutoImplicit false

namespace EasyTierEdge.Lib.Relational

open Fallible

universe u

variable {ε σ τ α β : Type u}

/-- Two calls handed back the same and left related states. -/
def Agree (R : σ → τ → Prop) (x : EStateM.Result ε σ α) (y : EStateM.Result ε τ α) : Prop :=
  value x = value y ∧ R (final x) (final y)

variable {R M : σ → τ → Prop} {s : σ} {t : τ}

theorem agree_pure (a : α) (related : R s t) :
    Agree R ((pure a : EStateM ε σ α) s) ((pure a : EStateM ε τ α) t) :=
  ⟨rfl, related⟩

theorem agree_throw (e : ε) (related : R s t) :
    Agree R ((throw e : EStateM ε σ α) s) ((throw e : EStateM ε τ α) t) :=
  ⟨rfl, related⟩

theorem agree_bind {x : EStateM ε σ β} {y : EStateM ε τ β} {f : β → EStateM ε σ α}
    {g : β → EStateM ε τ α} (first : Agree M (x s) (y t)) (stop : ∀ s' t', M s' t' → R s' t')
    (next : ∀ b s' t', x s = .ok b s' → y t = .ok b t' → M s' t' → Agree R (f b s') (g b t')) :
    Agree R ((x >>= f) s) ((y >>= g) t) := by
  obtain ⟨same, related⟩ := first
  cases ranX : x s with
  | ok b s' =>
    cases ranY : y t with
    | ok b' t' =>
      rw [ranX, ranY] at same related
      have same : b = b' := Except.ok.inj same
      subst same
      rw [bind_of_ok ranX, bind_of_ok ranY]
      exact next b s' t' ranX ranY related
    | error e t' =>
      rw [ranX, ranY] at same
      cases same
  | error e s' =>
    cases ranY : y t with
    | ok b t' =>
      rw [ranX, ranY] at same
      cases same
    | error e' t' =>
      rw [ranX, ranY] at same related
      have same : e = e' := Except.error.inj same
      subst same
      rw [bind_of_error ranX, bind_of_error ranY]
      exact ⟨rfl, stop s' t' related⟩

theorem agree_get_bind {f : σ → EStateM ε σ α} {g : τ → EStateM ε τ α}
    (next : Agree R (f s s) (g t t)) : Agree R ((get >>= f) s) ((get >>= g) t) :=
  next

theorem agree_set_bind {s' : σ} {t' : τ} {f : PUnit → EStateM ε σ α} {g : PUnit → EStateM ε τ α}
    (next : Agree R (f ⟨⟩ s') (g ⟨⟩ t')) : Agree R ((set s' >>= f) s) ((set t' >>= g) t) :=
  next

theorem agree_modify_bind {k : σ → σ} {l : τ → τ} {f : PUnit → EStateM ε σ α}
    {g : PUnit → EStateM ε τ α} (next : Agree R (f ⟨⟩ (k s)) (g ⟨⟩ (l t))) :
    Agree R ((modify k >>= f) s) ((modify l >>= g) t) :=
  next

theorem agree_ite {c : Prop} [Decidable c] {x x' : EStateM ε σ α} {y y' : EStateM ε τ α}
    (yes : c → Agree R (x s) (y t)) (no : ¬ c → Agree R (x' s) (y' t)) :
    Agree R ((if c then x else x') s) ((if c then y else y') t) := by
  split
  · exact yes ‹_›
  · exact no ‹_›

/-! Failures that are not told apart. -/

/-- Two calls handed back the same, or failed both, and left related states. -/
def Indistinct (R : σ → τ → Prop) (x : EStateM.Result ε σ α) (y : EStateM.Result ε τ α) : Prop :=
  (value x).toOption = (value y).toOption ∧ R (final x) (final y)

/-- Sequencing: two failures of the first part skip the second one in both runs. -/
theorem indistinct_bind {x : EStateM ε σ β} {y : EStateM ε τ β} {f : β → EStateM ε σ α}
    {g : β → EStateM ε τ α} (first : Indistinct M (x s) (y t))
    (stop : ∀ s' t', M s' t' → R s' t')
    (next : ∀ b s' t', x s = .ok b s' → y t = .ok b t' → M s' t' →
      Indistinct R (f b s') (g b t')) :
    Indistinct R ((x >>= f) s) ((y >>= g) t) := by
  obtain ⟨same, related⟩ := first
  cases ranX : x s with
  | ok b s' =>
    cases ranY : y t with
    | ok b' t' =>
      rw [ranX, ranY] at same related
      have same : b = b' := Option.some.inj same
      subst same
      rw [bind_of_ok ranX, bind_of_ok ranY]
      exact next b s' t' ranX ranY related
    | error e t' =>
      rw [ranX, ranY] at same
      cases same
  | error e s' =>
    cases ranY : y t with
    | ok b t' =>
      rw [ranX, ranY] at same
      cases same
    | error e' t' =>
      rw [ranX, ranY] at related
      rw [bind_of_error ranX, bind_of_error ranY]
      exact ⟨rfl, stop s' t' related⟩

theorem indistinct_get_bind {f : σ → EStateM ε σ α} {g : τ → EStateM ε τ α}
    (next : Indistinct R (f s s) (g t t)) : Indistinct R ((get >>= f) s) ((get >>= g) t) :=
  next

theorem indistinct_set_bind {s' : σ} {t' : τ} {f : PUnit → EStateM ε σ α}
    {g : PUnit → EStateM ε τ α} (next : Indistinct R (f ⟨⟩ s') (g ⟨⟩ t')) :
    Indistinct R ((set s' >>= f) s) ((set t' >>= g) t) :=
  next

theorem indistinct_modify_bind {k : σ → σ} {l : τ → τ} {f : PUnit → EStateM ε σ α}
    {g : PUnit → EStateM ε τ α} (next : Indistinct R (f ⟨⟩ (k s)) (g ⟨⟩ (l t))) :
    Indistinct R ((modify k >>= f) s) ((modify l >>= g) t) :=
  next

end EasyTierEdge.Lib.Relational
