/- module: EasyTierEdge/Lib/Fallible
   layer: library
   digest: Postconditions of operations that keep their writes when they fail. -/

import Mathlib.Logic.Basic

set_option autoImplicit false
set_option relaxedAutoImplicit false

namespace EasyTierEdge.Lib.Fallible

universe u

variable {ε σ α β : Type u}

/-- Run from `s`, `op` ends in `ok` with its value or in `err` with its error. -/
def Ensures (op : EStateM ε σ α) (s : σ) (ok : α → σ → Prop) (err : ε → σ → Prop) : Prop :=
  match op s with
  | .ok a s' => ok a s'
  | .error e s' => err e s'

/-- The state a call ends in, whether it failed or not. -/
def final : EStateM.Result ε σ α → σ
  | .ok _ s => s
  | .error _ s => s

/-- What a call hands back to its caller. -/
def value : EStateM.Result ε σ α → Except ε α
  | .ok a _ => .ok a
  | .error e _ => .error e

@[simp] theorem final_ok (a : α) (s : σ) : final (.ok a s : EStateM.Result ε σ α) = s := rfl

@[simp] theorem final_error (e : ε) (s : σ) : final (.error e s : EStateM.Result ε σ α) = s := rfl

@[simp] theorem value_ok (a : α) (s : σ) : value (.ok a s : EStateM.Result ε σ α) = .ok a := rfl

@[simp] theorem value_error (e : ε) (s : σ) :
    value (.error e s : EStateM.Result ε σ α) = .error e := rfl

variable {s : σ} {ok : α → σ → Prop} {err : ε → σ → Prop}

theorem ensures_of_ok {op : EStateM ε σ α} {a : α} {s' : σ} (h : Ensures op s ok err)
    (ran : op s = .ok a s') : ok a s' := by
  unfold Ensures at h
  rw [ran] at h
  exact h

theorem ensures_of_error {op : EStateM ε σ α} {e : ε} {s' : σ} (h : Ensures op s ok err)
    (ran : op s = .error e s') : err e s' := by
  unfold Ensures at h
  rw [ran] at h
  exact h

theorem Ensures.mono {op : EStateM ε σ α} {ok' : α → σ → Prop} {err' : ε → σ → Prop}
    (h : Ensures op s ok err) (onOk : ∀ a s', ok a s' → ok' a s')
    (onErr : ∀ e s', err e s' → err' e s') : Ensures op s ok' err' := by
  cases ran : op s with
  | ok a s' =>
    have got := onOk a s' (ensures_of_ok h ran)
    simpa [Ensures, ran] using got
  | error e s' =>
    have got := onErr e s' (ensures_of_error h ran)
    simpa [Ensures, ran] using got

theorem ensures_of_forall {op : EStateM ε σ α} (onOk : ∀ a s', ok a s')
    (onErr : ∀ e s', err e s') : Ensures op s ok err := by
  unfold Ensures
  cases op s with
  | ok a s' => exact onOk a s'
  | error e s' => exact onErr e s'

theorem ensures_result {op : EStateM ε σ α} {R : EStateM.Result ε σ α → Prop}
    (h : Ensures op s (fun a s' => R (.ok a s')) (fun e s' => R (.error e s'))) : R (op s) := by
  cases ran : op s with
  | ok a s' => exact ensures_of_ok h ran
  | error e s' => exact ensures_of_error h ran

theorem value_of_ensures {op : EStateM ε σ α} {a : α}
    (h : Ensures op s (fun out _ => out = a) (fun _ _ => False)) : value (op s) = .ok a := by
  cases ran : op s with
  | ok out s' => rw [value_ok, ensures_of_ok h ran]
  | error e s' => exact (ensures_of_error h ran).elim

theorem eq_ok_of_value {x : EStateM.Result ε σ α} {a : α} (ran : value x = .ok a) :
    x = .ok a (final x) := by
  cases x with
  | ok a' s' =>
    cases ran
    rfl
  | error e s' => cases ran

theorem eq_error_of_value {x : EStateM.Result ε σ α} {e : ε} (failed : value x = .error e) :
    x = .error e (final x) := by
  cases x with
  | ok a s' => cases failed
  | error e' s' =>
    cases failed
    rfl

theorem bind_of_ok {x : EStateM ε σ β} {f : β → EStateM ε σ α} {s' : σ} {b : β}
    (ran : x s = .ok b s') : (x >>= f) s = f b s' := by
  show EStateM.bind x f s = _
  rw [EStateM.bind, ran]

theorem bind_of_error {x : EStateM ε σ β} {f : β → EStateM ε σ α} {s' : σ} {e : ε}
    (failed : x s = .error e s') : (x >>= f) s = .error e s' := by
  show EStateM.bind x f s = _
  rw [EStateM.bind, failed]

theorem get_bind (f : σ → EStateM ε σ α) : (get >>= f) s = f s s := rfl

theorem ensures_final {op : EStateM ε σ α} {R : σ → Prop}
    (h : Ensures op s (fun _ s' => R s') (fun _ s' => R s')) : R (final (op s)) := by
  cases ran : op s with
  | ok a s' => exact ensures_of_ok h ran
  | error e s' => exact ensures_of_error h ran

/-- A postcondition may mention the run itself. -/
theorem Ensures.ran {op : EStateM ε σ α} (h : Ensures op s ok err) :
    Ensures op s (fun a s' => ok a s' ∧ op s = .ok a s')
      (fun e s' => err e s' ∧ op s = .error e s') := by
  cases result : op s with
  | ok a s' =>
    have got := ensures_of_ok h result
    simp [Ensures, result, got]
  | error e s' =>
    have got := ensures_of_error h result
    simp [Ensures, result, got]

theorem Ensures.and {op : EStateM ε σ α} {ok' : α → σ → Prop} {err' : ε → σ → Prop}
    (left : Ensures op s ok err) (right : Ensures op s ok' err') :
    Ensures op s (fun a s' => ok a s' ∧ ok' a s') (fun e s' => err e s' ∧ err' e s') := by
  cases ran : op s with
  | ok a s' =>
    have got := And.intro (ensures_of_ok left ran) (ensures_of_ok right ran)
    simpa [Ensures, ran] using got
  | error e s' =>
    have got := And.intro (ensures_of_error left ran) (ensures_of_error right ran)
    simpa [Ensures, ran] using got

@[simp] theorem ensures_pure (a : α) : Ensures (pure a : EStateM ε σ α) s ok err ↔ ok a s :=
  Iff.rfl

@[simp] theorem ensures_throw (e : ε) : Ensures (throw e : EStateM ε σ α) s ok err ↔ err e s :=
  Iff.rfl

/-- Sequencing: the error of the first part skips the second. -/
@[simp] theorem ensures_bind (x : EStateM ε σ β) (f : β → EStateM ε σ α) :
    Ensures (x >>= f) s ok err ↔ Ensures x s (fun b s' => Ensures (f b) s' ok err) err := by
  have split : (x >>= f) s = match x s with
      | .ok b s' => f b s'
      | .error e s' => .error e s' := by
    show EStateM.bind x f s = _
    unfold EStateM.bind
    cases x s with
    | ok b s' => rfl
    | error e s' => rfl
  unfold Ensures
  rw [split]
  cases x s with
  | ok b s' => rfl
  | error e s' => rfl

@[simp] theorem ensures_get {ok : σ → σ → Prop} :
    Ensures (get : EStateM ε σ σ) s ok err ↔ ok s s :=
  Iff.rfl

@[simp] theorem ensures_set {ok : PUnit → σ → Prop} (s' : σ) :
    Ensures (set s' : EStateM ε σ PUnit) s ok err ↔ ok ⟨⟩ s' :=
  Iff.rfl

@[simp] theorem ensures_modify {ok : PUnit → σ → Prop} (f : σ → σ) :
    Ensures (modify f : EStateM ε σ PUnit) s ok err ↔ ok ⟨⟩ (f s) :=
  Iff.rfl

@[simp] theorem ensures_ite (c : Prop) [Decidable c] (x y : EStateM ε σ α) :
    Ensures (if c then x else y) s ok err ↔
      (c → Ensures x s ok err) ∧ (¬ c → Ensures y s ok err) := by
  by_cases h : c
  · simp [h]
  · simp [h]

/-- A handler runs in the state the failed part left behind. -/
@[simp] theorem ensures_tryCatch (x : EStateM ε σ α) (handle : ε → EStateM ε σ α) :
    Ensures (tryCatch x handle) s ok err ↔
      Ensures x s ok (fun e s' => Ensures (handle e) s' ok err) := by
  have split : (tryCatch x handle : EStateM ε σ α) s = match x s with
      | .ok a s' => .ok a s'
      | .error e s' => handle e s' := by
    show EStateM.tryCatch x handle s = _
    unfold EStateM.tryCatch
    cases x s with
    | ok a s' => rfl
    | error e s' => rfl
  unfold Ensures
  rw [split]
  cases x s with
  | ok a s' => rfl
  | error e s' => rfl

/-- `op` keeps `I`, whether it fails or not. -/
def Keeps (I : σ → Prop) (op : EStateM ε σ α) : Prop :=
  ∀ s, I s → Ensures op s (fun _ s' => I s') (fun _ s' => I s')

section Keeps

variable {I : σ → Prop}

theorem keeps_pure (a : α) : Keeps I (pure a : EStateM ε σ α) := fun _ held => held

theorem keeps_throw (e : ε) : Keeps I (throw e : EStateM ε σ α) := fun _ held => held

theorem Keeps.bind {x : EStateM ε σ β} {f : β → EStateM ε σ α} (first : Keeps I x)
    (rest : ∀ b, Keeps I (f b)) : Keeps I (x >>= f) := by
  intro s held
  rw [ensures_bind]
  exact (first s held).mono (fun b s' held' => rest b s' held') fun _ _ held' => held'

theorem keeps_get_bind {f : σ → EStateM ε σ α}
    (rest : ∀ s, I s → Ensures (f s) s (fun _ s' => I s') (fun _ s' => I s')) :
    Keeps I (get >>= f) := by
  intro s held
  rw [ensures_bind, ensures_get]
  exact rest s held

theorem Keeps.ite {c : Prop} [Decidable c] {x y : EStateM ε σ α} (yes : c → Keeps I x)
    (no : ¬ c → Keeps I y) : Keeps I (if c then x else y) := by
  intro s held
  rw [ensures_ite]
  exact ⟨fun h => yes h s held, fun h => no h s held⟩

theorem Keeps.tryCatch {x : EStateM ε σ α} {handle : ε → EStateM ε σ α} (body : Keeps I x)
    (handler : ∀ e, Keeps I (handle e)) : Keeps I (tryCatch x handle) := by
  intro s held
  rw [ensures_tryCatch]
  exact (body s held).mono (fun _ _ held' => held') fun e s' held' => handler e s' held'

theorem Keeps.final {op : EStateM ε σ α} (keeps : Keeps I op) (held : I s) :
    I (final (op s)) :=
  ensures_final (keeps s held)

end Keeps

end EasyTierEdge.Lib.Fallible
