/- module: EasyTierEdge/Lib/Machine
   layer: library
   digest: Runs, histories and observation logs of a deterministic machine. -/

import Mathlib.Data.List.Nodup
import Mathlib.Data.List.Induction

set_option autoImplicit false
set_option relaxedAutoImplicit false

namespace EasyTierEdge.Lib.Machine

universe u v w

variable {σ : Type u} {ε : Type v} {α : Type w}

/-- The state after a finite list of events. -/
def run (step : σ → ε → σ) (s : σ) (es : List ε) : σ := es.foldl step s

/-- What an observer records of a run; `obs` sees each event in the state before it. -/
def log (step : σ → ε → σ) (obs : σ → ε → Option α) : σ → List ε → List α
  | _, [] => []
  | s, e :: es => (obs s e).toList ++ log step obs (step s e) es

/-- Every step of the run satisfies `P`, which may look at the events before it. -/
def AllSteps (step : σ → ε → σ) (P : List ε → σ → ε → Prop) (s : σ) (es : List ε) : Prop :=
  ∀ pre e post, es = pre ++ e :: post → P pre (run step s pre) e

theorem split_snoc {es before mid : List ε} {b e : ε} (split : es ++ [e] = before ++ b :: mid) :
    (mid = [] ∧ before = es ∧ b = e) ∨ ∃ mid', mid = mid' ++ [e] ∧ es = before ++ b :: mid' := by
  rcases List.eq_nil_or_concat mid with rfl | ⟨mid', last, rfl⟩
  · obtain ⟨rfl, same⟩ := List.append_inj' split rfl
    rw [List.singleton_inj] at same
    exact Or.inl ⟨rfl, rfl, same.symm⟩
  · rw [List.concat_eq_append] at split ⊢
    have assoc : es ++ [e] = (before ++ b :: mid') ++ [last] := by simpa using split
    obtain ⟨same, final⟩ := List.append_inj' assoc rfl
    rw [List.singleton_inj] at final
    subst final
    exact Or.inr ⟨mid', rfl, same⟩

theorem exists_change {P : List ε → Prop} {es : List ε} (start : P []) (lost : ¬ P es) :
    ∃ pre e post, es = pre ++ e :: post ∧ P pre ∧ ¬ P (pre ++ [e]) := by
  induction es using List.reverseRecOn with
  | nil => exact absurd start lost
  | append_singleton es e ih =>
    by_cases before : P es
    · exact ⟨es, e, [], rfl, before, lost⟩
    · obtain ⟨pre, f, post, rfl, had, now⟩ := ih before
      exact ⟨pre, f, post ++ [e], by simp, had, now⟩

section Basic

variable (step : σ → ε → σ) (obs : σ → ε → Option α)

@[simp] theorem run_nil (s : σ) : run step s [] = s := rfl

@[simp] theorem run_cons (s : σ) (e : ε) (es : List ε) :
    run step s (e :: es) = run step (step s e) es := rfl

theorem run_append (s : σ) (es fs : List ε) :
    run step s (es ++ fs) = run step (run step s es) fs :=
  List.foldl_append

theorem run_snoc (s : σ) (es : List ε) (e : ε) :
    run step s (es ++ [e]) = step (run step s es) e := by
  rw [run_append]
  rfl

@[simp] theorem log_nil (s : σ) : log step obs s [] = [] := rfl

theorem log_append (s : σ) (es fs : List ε) :
    log step obs s (es ++ fs) = log step obs s es ++ log step obs (run step s es) fs := by
  induction es generalizing s with
  | nil => rfl
  | cons e es ih =>
    simp only [List.cons_append, log, run_cons, ih, List.append_assoc]

theorem log_snoc (s : σ) (es : List ε) (e : ε) :
    log step obs s (es ++ [e]) = log step obs s es ++ (obs (run step s es) e).toList := by
  rw [log_append]
  simp [log]

end Basic

section Rules

variable {step : σ → ε → σ} {obs : σ → ε → Option α} {P : List ε → σ → ε → Prop} {s : σ}

theorem AllSteps.nil : AllSteps step P s [] := by
  intro pre e post h
  simp at h

theorem AllSteps.last {es : List ε} {e : ε} (h : AllSteps step P s (es ++ [e])) :
    P es (run step s es) e :=
  h es e [] rfl

theorem AllSteps.snoc {es : List ε} {e : ε} (h : AllSteps step P s es)
    (last : P es (run step s es) e) : AllSteps step P s (es ++ [e]) := by
  intro pre f post split
  rcases split_snoc split with ⟨_, rfl, rfl⟩ | ⟨post', _, earlier⟩
  · exact last
  · exact h pre f post' earlier

theorem AllSteps.append_left {es fs : List ε} (h : AllSteps step P s (es ++ fs)) :
    AllSteps step P s es := by
  intro pre e post split
  exact h pre e (post ++ fs) (by simp [split])

theorem AllSteps.init {es : List ε} {e : ε} (h : AllSteps step P s (es ++ [e])) :
    AllSteps step P s es :=
  h.append_left

theorem AllSteps.and {Q : List ε → σ → ε → Prop} {es : List ε} (h : AllSteps step P s es)
    (k : AllSteps step Q s es) : AllSteps step (fun pre s e => P pre s e ∧ Q pre s e) s es :=
  fun pre e post split => ⟨h pre e post split, k pre e post split⟩

theorem AllSteps.mono {Q : List ε → σ → ε → Prop} {es : List ε} (h : AllSteps step P s es)
    (weaker : ∀ pre s e, P pre s e → Q pre s e) : AllSteps step Q s es :=
  fun pre e post split => weaker pre _ e (h pre e post split)

theorem AllSteps.append {Q : σ → ε → Prop} {es fs : List ε}
    (h : AllSteps step (fun _ => Q) s es)
    (k : AllSteps step (fun _ => Q) (run step s es) fs) :
    AllSteps step (fun _ => Q) s (es ++ fs) := by
  induction fs using List.reverseRecOn with
  | nil => simpa using h
  | append_singleton fs f ih =>
    rw [← List.append_assoc]
    refine (ih k.init).snoc ?_
    rw [run_append]
    exact k.last

/-- A run without repeated observations observes something new at every step. -/
theorem allSteps_of_log_nodup {es : List ε} (h : (log step obs s es).Nodup) :
    AllSteps step (fun pre s' e => ∀ a, obs s' e = some a → a ∉ log step obs s pre) s es := by
  intro pre e post split a seen
  rw [split, log_append, List.nodup_append] at h
  have last : a ∈ log step obs (run step s pre) (e :: post) := by
    simp [log, seen]
  intro before
  exact h.2.2 a before a last rfl

/-- Checking a condition along a run, one step after the other; `done` are the events before. -/
def checkSteps (step : σ → ε → σ) (check : List ε → σ → ε → Bool) :
    List ε → σ → List ε → Bool
  | _, _, [] => true
  | done, s, e :: es => check done s e && checkSteps step check (done ++ [e]) (step s e) es

theorem allSteps_of_check (check : List ε → σ → ε → Bool)
    (sound : ∀ pre s e, check pre s e = true → P pre s e) {es : List ε}
    (checked : checkSteps step check [] s es = true) : AllSteps step P s es := by
  have from_here : ∀ (es done : List ε) (s : σ), checkSteps step check done s es = true →
      AllSteps step (fun pre => P (done ++ pre)) s es := by
    intro es
    induction es with
    | nil =>
      intro done s _
      exact AllSteps.nil
    | cons f es ih =>
      intro done s checked pre e post split
      obtain ⟨first, rest⟩ := Bool.and_eq_true_iff.mp checked
      cases pre with
      | nil =>
        obtain ⟨rfl, _⟩ := List.cons.inj split
        have here := sound done s f first
        simpa using here
      | cons g pre =>
        obtain ⟨rfl, tail⟩ := List.cons.inj split
        have later := ih (done ++ [f]) (step s f) rest pre e post tail
        simpa using later
  exact from_here es [] s checked

/-- What only `Birth` brings about and only `Keep` keeps holds exactly if some step was its birth
and all later ones kept it. -/
theorem holds_iff_birth {Holds : σ → Prop} {Birth Keep : σ → ε → Prop}
    (moves : ∀ s e, Holds (step s e) ↔ Birth s e ∨ (Holds s ∧ Keep s e)) (start : ¬ Holds s)
    (es : List ε) :
    Holds (run step s es) ↔ ∃ before e mid, es = before ++ e :: mid ∧ Birth (run step s before) e ∧
      AllSteps step (fun _ => Keep) (run step s (before ++ [e])) mid := by
  induction es using List.reverseRecOn with
  | nil => simp [start]
  | append_singleton es f ih =>
    rw [run_snoc, moves, ih]
    constructor
    · rintro (born | ⟨⟨before, e, mid, rfl, born, kept⟩, keeps⟩)
      · exact ⟨es, f, [], rfl, born, AllSteps.nil⟩
      · refine ⟨before, e, mid ++ [f], by simp, born, kept.snoc ?_⟩
        rw [← run_append]
        simpa using keeps
    · rintro ⟨before, e, mid, split, born, kept⟩
      rcases split_snoc split with ⟨_, rfl, rfl⟩ | ⟨mid', rfl, earlier⟩
      · exact Or.inl born
      · subst earlier
        have keeps := kept.last
        rw [← run_append] at keeps
        refine Or.inr ⟨⟨before, e, mid', rfl, born, kept.init⟩, ?_⟩
        simpa using keeps

theorem run_invariant {Inv : σ → Prop} (keep : ∀ s e, Inv s → Inv (step s e)) {s : σ}
    (start : Inv s) (es : List ε) : Inv (run step s es) := by
  induction es generalizing s with
  | nil => exact start
  | cons e es ih => exact ih (keep s e start)

/-- An invariant of the events so far and the state they lead to holds after every run whose
steps satisfy `P`. -/
theorem history_invariant {Inv : List ε → σ → Prop} (start : Inv [] s)
    (keep : ∀ pre e, Inv pre (run step s pre) → P pre (run step s pre) e →
      Inv (pre ++ [e]) (step (run step s pre) e))
    {es : List ε} (steps : AllSteps step P s es) : Inv es (run step s es) := by
  induction es using List.reverseRecOn with
  | nil => exact start
  | append_singleton es e ih =>
    rw [run_snoc]
    exact keep es e (ih steps.init) steps.last

theorem log_nodup {Inv : List ε → σ → Prop} (start : Inv [] s)
    (keep : ∀ pre e, Inv pre (run step s pre) → P pre (run step s pre) e →
      Inv (pre ++ [e]) (step (run step s pre) e))
    (fresh : ∀ pre e a, Inv pre (run step s pre) → P pre (run step s pre) e →
      obs (run step s pre) e = some a → a ∉ log step obs s pre)
    {es : List ε} (steps : AllSteps step P s es) : (log step obs s es).Nodup := by
  induction es using List.reverseRecOn with
  | nil => exact List.nodup_nil
  | append_singleton es e ih =>
    rw [log_snoc]
    cases seen : obs (run step s es) e with
    | none => simpa using ih steps.init
    | some a =>
      have inv := history_invariant start keep steps.init
      have new := fresh es e a inv steps.last seen
      refine List.nodup_append.mpr ⟨ih steps.init, by simp, ?_⟩
      intro b hb c hc same
      have hca : c = a := by simpa using hc
      exact new (hca ▸ same ▸ hb)

end Rules

end EasyTierEdge.Lib.Machine
