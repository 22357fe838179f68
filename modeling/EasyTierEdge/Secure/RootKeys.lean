/- module: EasyTierEdge/Secure/RootKeys
   source: cloudflare/wasm/src/secure.rs, random_32 in upsert_session
   digest: With fresh draws, a root key belongs to one session key for ever. -/

import EasyTierEdge.Secure.SessionMoves

set_option autoImplicit false
set_option relaxedAutoImplicit false

namespace EasyTierEdge.Secure.RootKeys

open Lib.Fallible Lib.FiniteMap Lib.Machine
open Session Peer Connections Calls Steps SessionMoves

variable {HS : Type} {E : SecureEnv HS}

/-- Every root key that is drawn is a new one. -/
def FreshRootKeys (E : SecureEnv HS) (es : List Event) : Prop :=
  (World.createdRootKeys E es).Nodup

/-- One step draws no root key a second time. -/
def FreshStep (E : SecureEnv HS) (pre : List Event) (w : World HS) (e : Event) : Prop :=
  ∀ rootKey, w.createdRootKey E e = some rootKey → rootKey ∉ World.createdRootKeys E pre

theorem FreshRootKeys.steps {es : List Event} (fresh : FreshRootKeys E es) :
    AllSteps (World.step E) (FreshStep E) World.empty es :=
  allSteps_of_log_nodup fresh

theorem createdRootKeys_snoc (pre : List Event) (e : Event) :
    World.createdRootKeys E (pre ++ [e]) =
      World.createdRootKeys E pre ++ ((World.after E pre).createdRootKey E e).toList :=
  log_snoc (World.step E) (World.createdRootKey E) World.empty pre e

section Steps

variable {w : World HS} {e : Event} {key : SessionKey} {s s' : StoredSession}

theorem moved_rootKey (moved : Moved E w e key s s') :
    s'.rootKey = s.rootKey ∧ s'.generation = s.generation ∧
      s'.clientAlgorithm = s.clientAlgorithm := by
  cases moved with
  | kept => exact ⟨rfl, rfl, rfl⟩
  | synced => exact ⟨rfl, rfl, rfl⟩
  | pinned => exact ⟨rfl, rfl, rfl⟩
  | sent => exact ⟨rfl, rfl, rfl⟩
  | received => exact ⟨rfl, rfl, rfl⟩

theorem created_rootKey (created : Created E w e key s') :
    w.createdRootKey E e = some s'.rootKey := by
  cases created with
  | create i networkSecret draws upsertMs attachMs p sel rootKey algorithm lastTouchMs attachments
      live selected absent session =>
    simp only [World.createdRootKey, World.selection, live, Option.bind_some, selected.ran, session,
      createSelection, if_true]
    rfl

private theorem created_unique {key' : SessionKey} {t : StoredSession}
    (created : Created E w e key s') (created' : Created E w e key' t) : key = key' := by
  cases created with
  | create i networkSecret draws upsertMs attachMs p sel rootKey algorithm lastTouchMs attachments
      live selected absent session =>
    cases created' with
    | create _ _ _ _ _ p' sel' rootKey' algorithm' lastTouchMs' attachments' live' selected'
        absent' session' =>
      have same_p : p = p' := Option.some.inj (live.symm.trans live')
      subst same_p
      have ran := selected.ran.symm.trans selected'.ran
      injection ran with same_sel
      rw [same_sel]

end Steps

/-- Stored root keys were drawn, and no two stored sessions share one. -/
structure OwnKeys (E : SecureEnv HS) (pre : List Event) (w : World HS) : Prop where
  drawn : ∀ key s, w.store.lookup key = some s → s.rootKey ∈ World.createdRootKeys E pre
  distinct : ∀ key key' s s', w.store.lookup key = some s → w.store.lookup key' = some s' →
    s.rootKey = s'.rootKey → key = key'

theorem ownKeys_empty : OwnKeys E [] World.empty where
  drawn := by
    intro key s present
    exact absurd present (by simp [World.empty])
  distinct := by
    intro key key' s s' present
    exact absurd present (by simp [World.empty])

theorem ownKeys_step (pre : List Event) (e : Event) (inv : OwnKeys E pre (World.after E pre))
    (fresh : FreshStep E pre (World.after E pre) e) :
    OwnKeys E (pre ++ [e]) ((World.after E pre).step E e) where
  drawn := by
    intro key s' present
    rw [createdRootKeys_snoc, List.mem_append]
    rcases step_lookup present with ⟨s, before, moved⟩ | created
    · left
      rw [(moved_rootKey moved).1]
      exact inv.drawn key s before
    · right
      rw [created_rootKey created]
      simp
  distinct := by
    intro key key' s s' present present' same
    rcases step_lookup present with ⟨t, before, moved⟩ | created
    · rcases step_lookup present' with ⟨t', before', moved'⟩ | created'
      · rw [(moved_rootKey moved).1, (moved_rootKey moved').1] at same
        exact inv.distinct key key' t t' before before' same
      · have old := inv.drawn key t before
        rw [← (moved_rootKey moved).1, same] at old
        exact absurd old (fresh _ (created_rootKey created'))
    · rcases step_lookup present' with ⟨t', before', moved'⟩ | created'
      · have old := inv.drawn key' t' before'
        rw [← (moved_rootKey moved').1, ← same] at old
        exact absurd old (fresh _ (created_rootKey created))
      · exact created_unique created created'

end EasyTierEdge.Secure.RootKeys
