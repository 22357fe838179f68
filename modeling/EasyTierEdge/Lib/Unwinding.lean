/- module: EasyTierEdge/Lib/Unwinding
   layer: library
   digest: Two runs that share the events of one party show that party the same. -/

import EasyTierEdge.Lib.Machine

set_option autoImplicit false
set_option relaxedAutoImplicit false

namespace EasyTierEdge.Lib.Unwinding

open Machine

universe u v w

variable {σ : Type u} {ε : Type v} {α : Type w}

/-- What a party sees of a run: its own events, each with what it observes of it. -/
def view (step : σ → ε → σ) (own : ε → Bool) (obs : σ → ε → α) (s : σ) (es : List ε) : List α :=
  log step (fun s e => if own e then some (obs s e) else none) s es

section Snoc

variable {step : σ → ε → σ} {own : ε → Bool} {obs : σ → ε → α} {s : σ} {es : List ε} {e : ε}

theorem view_snoc_own (mine : own e = true) :
    view step own obs s (es ++ [e]) = view step own obs s es ++ [obs (run step s es) e] := by
  rw [view, log_snoc, if_pos mine]
  rfl

theorem view_snoc_other (other : own e = false) :
    view step own obs s (es ++ [e]) = view step own obs s es := by
  rw [view, log_snoc, if_neg (by simp [other])]
  exact List.append_nil _

private theorem filter_snoc_own (mine : own e = true) :
    (es ++ [e]).filter own = es.filter own ++ [e] := by
  rw [List.filter_append, List.filter_cons_of_pos mine]
  rfl

private theorem filter_snoc_other (other : own e = false) :
    (es ++ [e]).filter own = es.filter own := by
  rw [List.filter_append, List.filter_cons_of_neg (by simp [other])]
  exact List.append_nil _

end Snoc

/-- A relation of two runs that every event of the others keeps on its side, and that the party's
own events keep on both sides while the party observes the same, holds of any two runs with the
same events of the party; and the party sees the same in both. -/
theorem unwinding {step : σ → ε → σ} {own : ε → Bool} {obs : σ → ε → α} {s : σ}
    {P : List ε → σ → ε → Prop} {R : List ε → List ε → Prop} (start : R [] [])
    (left : ∀ pre pre' e, own e = false → P pre (run step s pre) e → R pre pre' →
      R (pre ++ [e]) pre')
    (right : ∀ pre pre' e, own e = false → P pre' (run step s pre') e → R pre pre' →
      R pre (pre' ++ [e]))
    (both : ∀ pre pre' e, own e = true → P pre (run step s pre) e → P pre' (run step s pre') e →
      R pre pre' → obs (run step s pre) e = obs (run step s pre') e ∧
        R (pre ++ [e]) (pre' ++ [e]))
    {es es' : List ε} (steps : AllSteps step P s es) (steps' : AllSteps step P s es')
    (same : es.filter own = es'.filter own) :
    R es es' ∧ view step own obs s es = view step own obs s es' := by
  -- the induction is on the length of both runs together
  induction size : es.length + es'.length using Nat.strongRecOn generalizing es es' with
  | ind n ih =>
    rcases List.eq_nil_or_concat es with rfl | ⟨pre, e, rfl⟩
    · rcases List.eq_nil_or_concat es' with rfl | ⟨pre', e', rfl⟩
      · exact ⟨start, rfl⟩
      · rw [List.concat_eq_append] at size steps' same ⊢
        cases mine : own e' with
        | true =>
          rw [filter_snoc_own mine] at same
          simp at same
        | false =>
          rw [filter_snoc_other mine] at same
          have shorter : ([] : List ε).length + pre'.length < n := by
            rw [← size, List.length_append, List.length_singleton]
            omega
          obtain ⟨related, seen⟩ := ih _ shorter steps steps'.init same rfl
          rw [view_snoc_other mine]
          exact ⟨right _ _ _ mine steps'.last related, seen⟩
    · rw [List.concat_eq_append] at size steps same ⊢
      cases mine : own e with
      | false =>
        rw [filter_snoc_other mine] at same
        have shorter : pre.length + es'.length < n := by
          rw [← size, List.length_append, List.length_singleton]
          omega
        obtain ⟨related, seen⟩ := ih _ shorter steps.init steps' same rfl
        rw [view_snoc_other mine]
        exact ⟨left _ _ _ mine steps.last related, seen⟩
      | true =>
        rw [filter_snoc_own mine] at same
        rcases List.eq_nil_or_concat es' with rfl | ⟨pre', e', rfl⟩
        · simp at same
        · rw [List.concat_eq_append] at size steps' same ⊢
          cases mine' : own e' with
          | false =>
            rw [filter_snoc_other mine', ← filter_snoc_own mine] at same
            have shorter : (pre ++ [e]).length + pre'.length < n := by
              rw [← size]
              simp only [List.length_append, List.length_singleton]
              omega
            obtain ⟨related, seen⟩ := ih _ shorter steps steps'.init same rfl
            rw [view_snoc_other mine']
            exact ⟨right _ _ _ mine' steps'.last related, seen⟩
          | true =>
            rw [filter_snoc_own mine'] at same
            obtain ⟨earlier, last⟩ := List.append_inj' same rfl
            rw [List.singleton_inj] at last
            subst last
            have shorter : pre.length + pre'.length < n := by
              rw [← size]
              simp only [List.length_append, List.length_singleton]
              omega
            obtain ⟨related, seen⟩ := ih _ shorter steps.init steps'.init earlier rfl
            obtain ⟨observed, related'⟩ := both _ _ _ mine steps.last steps'.last related
            rw [view_snoc_own mine, view_snoc_own mine', seen, observed]
            exact ⟨related', rfl⟩

end EasyTierEdge.Lib.Unwinding
