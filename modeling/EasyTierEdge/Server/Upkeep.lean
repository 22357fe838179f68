/- module: EasyTierEdge/Server/Upkeep
   source: cloudflare/src/server.ts, cloudflare/src/runtime/connection.ts
   digest: The list of connections and the timers fit the phases, and maintenance goes on. -/

import EasyTierEdge.Server.Freshness
import EasyTierEdge.Server.Refinement

set_option autoImplicit false
set_option relaxedAutoImplicit false

namespace EasyTierEdge.Server.Upkeep

open Lib.Fallible Lib.FiniteMap Lib.Machine
open Rpc.Core (WasmRpcCore)
open Rpc.Scheduler (EasyTierRpc RouteSyncFailure ensures_onHost)
open Rpc.CoreHost (ensures_onCore)
open Secure.Session Secure.Peer Secure.Connections
open Rooms Sockets Relay Books Ledger Milestones Cascade Handlers Registries Moves Refinement
open Relay.EasyTierServer

variable {HS : Type} {V : ServerEnv HS} {g g' : Grid HS} {c : Nat}

/-- A connection waits for its handshake to end. -/
def Connection.shaking (o : Connection) : Prop := o.phase = .msg1 ∨ o.phase = .msg3

/-- The connections that are not closed are listed once each and are not too many, the handshakes
that are under way are timed, and the maintenance timer runs for somebody. -/
structure Fit (g : Grid HS) : Prop where
  listed : ∀ c, c ∈ g.connections ↔ Opened g c
  once : g.connections.Nodup
  few : g.connections.length ≤ maxConnections
  timed : ∀ (c : Nat) (o : Connection), g.objects[c]? = some o →
    (o.handshakeTimer = true ↔ Connection.shaking o)
  needed : g.maintenanceTimer = true → g.connections ≠ []

/-- The maintenance timer runs as long as anybody is connected. -/
def Upkept (g : Grid HS) : Prop := g.connections ≠ [] → g.maintenanceTimer = true

namespace Fit

private theorem edit (fit : Fit g) {f : Connection → Connection}
    (closed : ∀ o, g.objects[c]? = some o → ((f o).phase = .closed ↔ o.phase = .closed))
    (timed : ∀ o, g.objects[c]? = some o →
      ((f o).handshakeTimer = true ↔ Connection.shaking (f o))) :
    Fit { g with objects := g.objects.modify c f } where
  listed := by
    intro d
    rw [fit.listed d]
    constructor
    · rintro ⟨o, there, opened⟩
      refine ⟨_, object_modified there, ?_⟩
      split
      · rename_i own
        subst own
        exact fun shut => opened ((closed o there).mp shut)
      · exact opened
    · rintro ⟨o', there', opened⟩
      obtain ⟨o, there, same⟩ := modified_object there'
      refine ⟨o, there, fun shut => opened ?_⟩
      rw [same]
      split
      · rename_i own
        subst own
        exact (closed o there).mpr shut
      · exact shut
  once := fit.once
  few := fit.few
  timed := by
    intro d o' there'
    obtain ⟨o, there, same⟩ := modified_object there'
    rw [same]
    split
    · rename_i own
      subst own
      exact timed o there
    · exact fit.timed d o there
  needed := fit.needed

private theorem close (fit : Fit g) {f : Connection → Connection}
    (closed : ∀ o, (f o).phase = .closed)
    (timed : ∀ o, g.objects[c]? = some o → (f o).handshakeTimer = false) :
    Fit { g with
      objects := g.objects.modify c f
      connections := g.connections.erase c
      maintenanceTimer := g.maintenanceTimer && !(g.connections.erase c).isEmpty } where
  listed := by
    intro d
    rw [fit.once.mem_erase_iff, fit.listed d]
    constructor
    · rintro ⟨other, o, there, opened⟩
      refine ⟨o, ?_, opened⟩
      show (g.objects.modify c f)[d]? = some o
      rw [object_modified there, if_neg other]
    · rintro ⟨o', there', opened⟩
      obtain ⟨o, there, same⟩ := modified_object there'
      by_cases own : d = c
      · rw [if_pos own] at same
        rw [same] at opened
        exact absurd (closed o) opened
      · rw [if_neg own] at same
        exact ⟨own, o, there, same ▸ opened⟩
  once := fit.once.erase c
  few := Nat.le_trans List.length_erase_le fit.few
  timed := by
    intro d o' there'
    obtain ⟨o, there, same⟩ := modified_object there'
    rw [same]
    split
    · rename_i own
      subst own
      rw [timed o there]
      constructor
      · intro impossible
        cases impossible
      · rintro (msg1 | msg3)
        · rw [closed] at msg1
          cases msg1
        · rw [closed] at msg3
          cases msg3
    · exact fit.timed d o there
  needed := by
    intro runs
    have left := (Bool.and_eq_true_iff.mp runs).2
    rintro empty
    have empty' : g.connections.erase c = [] := empty
    rw [empty'] at left
    cases left

private theorem same (fit : Fit g) (board : SameBoard g g') : Fit g' where
  listed := by
    intro d
    rw [board.connections, fit.listed d]
    have phase {o o' : Connection} (cards : card o' = card o) : o'.phase = o.phase :=
      shown Connection.phase cards fun _ => rfl
    constructor
    · rintro ⟨o, there, opened⟩
      obtain ⟨o', there', cards⟩ := board.object' there
      exact ⟨o', there', phase cards ▸ opened⟩
    · rintro ⟨o', there', opened⟩
      obtain ⟨o, there, cards⟩ := board.object there'
      exact ⟨o, there, phase cards ▸ opened⟩
  once := board.connections ▸ fit.once
  few := board.connections ▸ fit.few
  timed := by
    intro d o' there'
    obtain ⟨o, there, cards⟩ := board.object there'
    have phase : o'.phase = o.phase := shown Connection.phase cards fun _ => rfl
    have timer : o'.handshakeTimer = o.handshakeTimer :=
      shown Connection.handshakeTimer cards fun _ => rfl
    unfold Connection.shaking
    rw [timer, phase]
    exact fit.timed d o there
  needed := by
    rw [board.maintenanceTimer, board.connections]
    exact fit.needed

private theorem opened (fit : Fit g) {E : SecureEnv HS} {call : Event} {o : Connection}
    (room : g.connections.length < maxConnections) (msg1 : o.phase = .msg1)
    (timer : o.handshakeTimer = true) :
    Fit { opening E call o g with maintenanceTimer := true } where
  listed := by
    intro d
    show d ∈ g.connections ++ [g.objects.length] ↔ _
    rw [List.mem_append, List.mem_singleton, fit.listed d]
    constructor
    · rintro (⟨u, there, standing⟩ | rfl)
      · refine ⟨u, ?_, standing⟩
        exact (List.getElem?_append_left (List.getElem?_eq_some_iff.mp there).1).trans there
      · refine ⟨o, ?_, by rw [msg1]; decide⟩
        show (g.objects ++ [o])[g.objects.length]? = some o
        simp
    · rintro ⟨u, there, standing⟩
      rcases opened_object there with before | ⟨last, _⟩
      · exact Or.inl ⟨u, before, standing⟩
      · exact Or.inr last
  once := by
    refine List.nodup_append.mpr ⟨fit.once, List.nodup_singleton _, ?_⟩
    intro d member e last same
    obtain ⟨u, there, _⟩ := (fit.listed d).mp member
    have bound := (List.getElem?_eq_some_iff.mp there).1
    rw [same, List.mem_singleton.mp last] at bound
    exact absurd bound (Nat.lt_irrefl _)
  few := by
    show (g.connections ++ [g.objects.length]).length ≤ maxConnections
    rw [List.length_append]
    exact room
  timed := by
    intro d u there
    rcases opened_object there with before | ⟨_, rfl⟩
    · exact fit.timed d u before
    · exact iff_of_true timer (Or.inl msg1)
  needed := by
    intro _ empty
    have empty' : g.connections ++ [g.objects.length] = [] := empty
    simp at empty'

private theorem moved (fit : Fit g) {e : ServerEvent} (move : Move V e g g') : Fit g' := by
  cases move with
  | quiet same => exact fit.same same
  | called => exact ⟨fit.listed, fit.once, fit.few, fit.timed, fit.needed⟩
  | returned => exact ⟨fit.listed, fit.once, fit.few, fit.timed, fit.needed⟩
  | passed => exact ⟨fit.listed, fit.once, fit.few, fit.timed, fit.needed⟩
  | opened room => exact fit.opened room rfl rfl
  | identified there =>
    exact fit.edit (fun _ _ => Iff.rfl) fun o found => fit.timed _ o found
  | answered there msg1 =>
    refine fit.edit (fun o found => ?_) fun o found => ?_
    · rw [there] at found
      cases Option.some.inj found
      exact iff_of_false (by simp) (by rw [msg1]; decide)
    · rw [there] at found
      cases Option.some.inj found
      exact iff_of_true ((fit.timed _ _ there).mpr (Or.inl msg1)) (Or.inr rfl)
  | keyed => exact fit.edit (fun _ _ => Iff.rfl) fun o found => fit.timed _ o found
  | entered => exact ⟨fit.listed, fit.once, fit.few, fit.timed, fit.needed⟩
  | completed there msg3 =>
    refine fit.edit (fun o found => ?_) fun o found => ?_
    · rw [there] at found
      cases Option.some.inj found
      exact iff_of_false (by simp) (by rw [msg3]; decide)
    · exact iff_of_false (by simp) (by simp [Connection.shaking])
  | @discarded c o =>
    have closed := @close _ g c fit (fun o => { o with phase := .closed, handshakeTimer := false })
      (fun _ => rfl) fun _ _ => rfl
    exact ⟨closed.listed, closed.once, closed.few, closed.timed, closed.needed⟩
  | @retired c o there ready =>
    have untimed : ¬ o.handshakeTimer = true := by
      intro timer
      rcases (fit.timed c o there).mp timer with msg1 | msg3
      · rw [ready] at msg1
        cases msg1
      · rw [ready] at msg3
        cases msg3
    have closed := @close _ g c fit (fun o => { o with phase := .closed }) (fun _ => rfl)
      fun u found => by
        rw [there] at found
        cases Option.some.inj found
        exact Bool.eq_false_iff.mpr untimed
    exact ⟨closed.listed, closed.once, closed.few, closed.timed, closed.needed⟩
  | @freed c o _ there shut =>
    have edited := @edit _ g c fit (fun o => { o with handshakeTimer := false })
      (fun _ _ => Iff.rfl) fun u found => by
        rw [there] at found
        cases Option.some.inj found
        refine iff_of_false (by simp) ?_
        rintro (msg1 | msg3)
        · exact absurd (shut.symm.trans msg1) (by decide)
        · exact absurd (shut.symm.trans msg3) (by decide)
    exact ⟨edited.listed, edited.once, edited.few, edited.timed, edited.needed⟩
  | armed =>
    refine ⟨fit.listed, fit.once, fit.few, fit.timed, ?_⟩
    intro runs
    rcases Bool.or_eq_true_iff.mp runs with already | anybody
    · exact fit.needed already
    · intro empty
      have empty' : g.connections = [] := empty
      rw [empty'] at anybody
      cases anybody

private theorem fired (fit : Fit g) : Fit (fired g) :=
  ⟨fit.listed, fit.once, fit.few, fit.timed, fun impossible => by cases impossible⟩

private theorem first (core : WasmRpcCore) (inputs : Inputs) :
    Fit (start core inputs : ServerState HS).host.ambient := by
  refine ⟨?_, List.nodup_nil, Nat.zero_le _, ?_, fun impossible => by cases impossible⟩
  · intro c
    refine iff_of_false List.not_mem_nil ?_
    rintro ⟨o, there, _⟩
    cases there
  · intro c o there
    cases there

private theorem along (fit : Fit g) {e : ServerEvent}
    (moves : Relation.ReflTransGen (Move V e) g g') :
    Fit g' := by
  induction moves with
  | refl => exact fit
  | tail _ move ih => exact ih.moved move

end Fit

theorem run_fit {core : WasmRpcCore}
    (built : WasmRpcCore.new V.config.localPublicKeyBytes V.config.hostname serverPeerId = .ok core)
    (inputs : Inputs) (hs : List Happening) :
    Fit (run (step V) (start core inputs) hs).host.ambient :=
  run_kept built (fun _ _ _ _ move fit => fit.moved move) (fun _ fit => fit.fired) inputs
    (Fit.first core inputs)

/-- In every run, between any two events, the list of connections and the timers fit. -/
theorem connections_fit {core : WasmRpcCore}
    (built : WasmRpcCore.new V.config.localPublicKeyBytes V.config.hostname serverPeerId = .ok core)
    (inputs : Inputs) (hs : List Happening) :
    Fit (run (step V) (start core inputs) hs).host.ambient :=
  run_fit built inputs hs

theorem connections_fit_two :
    Fit (plainRun (joins 0 5 ++ joins 1 6)).host.ambient ∧
      (plainRun (joins 0 5 ++ joins 1 6)).host.ambient.connections = [0, 1] :=
  ⟨@connections_fit Turn plainServer plainCore rfl plainInputs (joins 0 5 ++ joins 1 6),
    by decide +kernel⟩

/-! Maintenance. -/

private theorem Upkept.close {g : Grid HS} (upkept : Upkept g) (objects : List Connection)
    (c : Nat) :
    Upkept { g with
      objects
      connections := g.connections.erase c
      maintenanceTimer := g.maintenanceTimer && !(g.connections.erase c).isEmpty } := by
  intro some_left
  have left : g.connections.erase c ≠ [] := some_left
  have before : g.connections ≠ [] := by
    intro empty
    rw [empty] at left
    exact left rfl
  show (g.maintenanceTimer && !(g.connections.erase c).isEmpty) = true
  rw [upkept before, Bool.true_and, Bool.not_eq_true', List.isEmpty_eq_false_iff]
  exact left

private theorem Upkept.moved (upkept : Upkept g) {e : ServerEvent} (move : Move V e g g') :
    Upkept g' := by
  cases move with
  | quiet same =>
    unfold Upkept
    rw [same.connections, same.maintenanceTimer]
    exact upkept
  | opened => exact fun _ => rfl
  | @discarded c => exact upkept.close g.objects c
  | @retired c => exact upkept.close g.objects c
  | armed =>
    intro anybody
    have anybody' : g.connections ≠ [] := anybody
    show (g.maintenanceTimer || !g.connections.isEmpty) = true
    rw [upkept anybody', Bool.true_or]
  | _ => exact upkept

section Maintenance

variable {s s' : ServerState HS}

/-- Nothing stands in the way of a maintenance round. -/
structure Tended (V : ServerEnv HS) (s : ServerState HS) : Prop where
  sound : ∃ k F, Sound V none none [] k F s
  fit : Fit s.host.ambient
  calm : Calm s.host.ambient.inputs
  self : s.serverPeerId = serverPeerId

private theorem Tended.reach (tended : Tended V s) {k : Nat} {F : List Forward}
    (sound : Sound V none none [] k F s') {e : ServerEvent} (reached : Reaches V e s s')
    (inputs : s'.host.ambient.inputs = s.host.ambient.inputs) : Tended V s' :=
  ⟨⟨k, F, sound⟩, tended.fit.along reached.moves, inputs ▸ tended.calm, reached.self⟩

private theorem Tended.follow {k : Nat} {F : List Forward} (tended : Tended V s)
    (sound : Sound V none none [] k F s) {e : ServerEvent} (reached : Reaches V e s s')
    (follows : Follows V s s') :
    Tended V s' :=
  tended.reach (sound.follow follows) reached follows.1.books.inputs

private theorem close_tended (tended : Tended V s) {o : Connection}
    (there : s.host.ambient.objects[c]? = some o) (ready : o.phase = .ready) (code : Nat)
    (reason : String) :
    Ensures (EasyTierServer.close V c code reason) s (fun _ s' => Tended V s')
      (fun _ _ => False) := by
  obtain ⟨k, F, sound⟩ := tended.sound
  have closes := close_closes c o code reason s (sound.leave there ready) there ready
  have moves := @keeps_close HS V .maintenance s c code reason s (.refl tended.self)
  refine (closes.and moves).mono ?_ fun _ s' stopped => stopped.1.2 tended.calm
  rintro _ s' ⟨⟨sound', _, progress, _⟩, reached⟩
  exact tended.reach sound' reached progress.inputs

private theorem closeFailed_tended (failures : List RouteSyncFailure) (tended : Tended V s) :
    Ensures (closeFailed V failures) s (fun _ s' => Tended V s') (fun _ _ => False) := by
  induction failures generalizing s with
  | nil => exact tended
  | cons failure rest ih =>
    rw [closeFailed, ensures_bind, ensures_grid]
    cases found : s.host.ambient.rooms.get failure.peer.networkName failure.peer.peerId with
    | none => exact ih tended
    | some c =>
      obtain ⟨k, F, sound⟩ := tended.sound
      obtain ⟨_, o, there, ready, _⟩ := (Sound.agree sound).rooms _ _ c found
      dsimp only
      rw [ensures_bind]
      exact (close_tended tended there ready _ _).mono (fun _ _ closed => ih closed)
        fun _ _ impossible => impossible

private theorem maintainAll_tended (now : Nat) (connections : List Nat) (tended : Tended V s) :
    Ensures (maintainAll V now connections) s (fun _ s' => Tended V s') (fun _ _ => False) := by
  induction connections generalizing s with
  | nil => exact tended
  | cons c rest ih =>
    rw [maintainAll, ensures_bind, ensures_grid, ensures_ite]
    refine ⟨fun _ => ih tended, fun listed => ?_⟩
    obtain ⟨o, there, _⟩ := (tended.fit.listed c).mp (not_not.mp listed)
    rw [ensures_bind]
    apply ensures_there there
    rw [ensures_ite]
    refine ⟨fun _ => ih tended, fun unready => ?_⟩
    have ready : o.phase = .ready := not_not.mp unready
    obtain ⟨k, F, sound⟩ := tended.sound
    have enrolled : Enrolled s.host.ambient (rpcPeer c o) := ⟨c, o, there, ready, rfl⟩
    have kept := sound.atoms.parts.keeps_maintainPeer enrolled now s sound.follows
    have moves :=
      @Rpc.SchedulerRules.Parts.keeps_maintainPeer _ _ _ _ (@atoms HS V .maintenance s).parts
      (rpcPeer c o) trivial now s (.refl tended.self)
    rw [ensures_bind, ensures_tryCatch]
    refine (kept.and moves).mono (fun _ s' ended => ih (tended.follow sound ended.2 ended.1)) ?_
    rintro e s' ⟨follows, reached⟩
    obtain ⟨o', there', cards⟩ := follows.1.books.object' there
    have ready' : o'.phase = .ready := (shown Connection.phase cards fun _ => rfl).trans ready
    exact (close_tended (tended.follow sound reached follows) there' ready' _ _).mono
      (fun _ _ closed => ih closed) fun _ _ impossible => impossible

/-- The failures of a sweep are collected, not thrown. -/
private theorem cleanExpired_returns {σ : Type} {H : Rpc.Scheduler.RpcHost σ} (now : Nat)
    {r : EasyTierRpc σ}
    (cleans : ∀ h, Ensures (H.cleanExpired (Rpc.Scheduler.toBigInt now)) h (fun _ _ => True)
      (fun _ _ => False)) :
    Ensures (EasyTierRpc.cleanExpired H now) r (fun _ _ => True) (fun _ _ => False) := by
  have rounds (keys : List Rpc.Scheduler.RouteSyncKey) (r : EasyTierRpc σ) :
      Ensures (EasyTierRpc.retryAll H now keys) r (fun _ _ => True) (fun _ _ => False) := by
    induction keys generalizing r with
    | nil => trivial
    | cons key keys ih =>
      have one : Ensures (EasyTierRpc.retryExpired H now key) r (fun _ _ => True)
          (fun _ _ => False) := by
        unfold EasyTierRpc.retryExpired
        rw [ensures_bind, ensures_get]
        cases r.routeSyncStates.lookup key with
        | none => trivial
        | some state =>
          dsimp only
          rw [ensures_ite]
          refine ⟨fun _ => trivial, fun _ => ?_⟩
          rw [ensures_bind, Rpc.Scheduler.ensures_note, ensures_bind, Rpc.Scheduler.ensures_assign,
            ensures_tryCatch]
          exact ensures_of_forall (fun _ _ => trivial) fun _ _ => trivial
      rw [EasyTierRpc.retryAll, ensures_bind]
      refine one.mono (fun failure r' _ => ?_) fun _ _ impossible => impossible
      rw [ensures_bind]
      exact (ih r').mono (fun _ _ _ => trivial) fun _ _ impossible => impossible
  unfold EasyTierRpc.cleanExpired
  rw [ensures_bind, ensures_onHost]
  refine (cleans r.host).mono (fun _ host _ => ?_) fun _ _ impossible => impossible
  rw [ensures_bind, ensures_get]
  exact rounds _ _

private theorem maintain_upkept (tended : Tended V s) :
    Ensures (maintain V) s (fun _ s' => Upkept s'.host.ambient) (fun _ _ => False) := by
  unfold maintain
  rw [ensures_bind]
  have fired : Tended V (withGrid s (fired s.host.ambient)) := by
    obtain ⟨k, F, sound⟩ := tended.sound
    exact ⟨⟨k, F, Sound.timer sound false⟩, tended.fit.fired, tended.calm, tended.self⟩
  show Ensures (onGrid (reading Inputs.dateNow) >>= _) (withGrid s (Refinement.fired _)) _ _
  generalize withGrid s (Refinement.fired s.host.ambient) = s₁ at fired ⊢
  rw [ensures_bind]
  have read : Tended V (ticked s₁) := by
    obtain ⟨k, F, sound⟩ := fired.sound
    have ticking : Reaches V .maintenance s₁ (ticked s₁) :=
      (Reaches.refl fired.self).quiet (.tick _ 1)
    exact fired.reach sound.tick ticking rfl
  show Ensures (EasyTierRpc.cleanExpired (host V) _ >>= _) (ticked s₁) _ _
  generalize s₁.host.ambient.inputs.dateNow s₁.host.ambient.tick = now
  generalize ticked s₁ = s₂ at read ⊢
  obtain ⟨k, F, sound⟩ := read.sound
  have kept := sound.atoms.parts.keeps_cleanExpired now s₂ sound.follows
  have moves := (@atoms HS V .maintenance s₂).parts.keeps_cleanExpired now s₂ (.refl read.self)
  have returned : Ensures (EasyTierRpc.cleanExpired (host V) now) s₂ (fun _ _ => True)
      (fun _ _ => False) := by
    refine cleanExpired_returns now fun h => ?_
    show Ensures (Rpc.CoreHost.onCore (surroundings V.secure) _ fun host =>
      WasmRpcCore.cleanExpired V.rpc host _) h _ _
    rw [ensures_onCore]
    exact trivial
  rw [ensures_bind]
  refine ((kept.and moves).and returned).mono ?_ fun _ _ impossible => impossible.2
  rintro failures s₃ ⟨⟨follows, reached⟩, _⟩
  rw [ensures_bind]
  refine (closeFailed_tended failures (read.follow sound reached follows)).mono ?_
    fun _ _ impossible => impossible
  intro _ s₄ tended₄
  rw [ensures_bind, ensures_grid, ensures_bind]
  refine (maintainAll_tended now _ tended₄).mono ?_ fun _ _ impossible => impossible
  intro _ s₅ _ anybody
  show (s₅.host.ambient.maintenanceTimer || !s₅.host.ambient.connections.isEmpty) = true
  have anybody' : s₅.host.ambient.connections ≠ [] := anybody
  simp [anybody']

private theorem step_upkept {k : Nat} {F : List Forward} {h : Happening}
    (self : s.serverPeerId = serverPeerId) (sound : Sound V none none [] k F s)
    (fit : Fit s.host.ambient) (calm : Calm h.inputs) (upkept : Upkept s.host.ambient) :
    Upkept (step V s h).host.ambient := by
  have arrived : Sound V none none [] k F (arriving s h.inputs) := Sound.arriving sound h.inputs
  have fit' : Fit (arriving s h.inputs).host.ambient :=
    ⟨fit.listed, fit.once, fit.few, fit.timed, fit.needed⟩
  have upkept' : Upkept (arriving s h.inputs).host.ambient := upkept
  have self' : (arriving s h.inputs).serverPeerId = serverPeerId := self
  have calm' : Calm (arriving s h.inputs).host.ambient.inputs := calm
  unfold step
  generalize arriving s h.inputs = s₁ at arrived fit' upkept' self' calm'
  have along {e : ServerEvent} {s' : ServerState HS} (reached : Reaches V e s₁ s') :
    Upkept s'.host.ambient := by
    have moves := reached.moves
    generalize s'.host.ambient = g at moves
    induction moves with
    | refl => exact upkept'
    | tail _ move ih => exact ih.moved move
  by_cases due : h.event = .maintenance ∧ s₁.host.ambient.maintenanceTimer = true
  · obtain ⟨round, armed⟩ := due
    rw [round]
    refine @ensures_final _ _ _ s₁ (perform V .maintenance)
      (fun s' => Upkept s'.host.ambient) ?_
    show Ensures (grid >>= _) s₁ _ _
    rw [ensures_bind, ensures_grid, ensures_ite]
    refine ⟨fun _ => ?_, fun unarmed => absurd armed unarmed⟩
    exact (maintain_upkept ⟨⟨k, F, arrived⟩, fit', calm', self'⟩).mono (fun _ _ ended => ended)
      fun _ _ impossible => impossible.elim
  · have same : firing h.event s₁ = s₁ := by
      unfold firing
      split
      · rename_i round
        exact if_neg fun armed => due ⟨round, armed⟩
      · rfl
    have reached := ensures_final (perform_moves self' arrived h.event)
    rw [same] at reached
    exact along reached

end Maintenance

/-- As long as no socket throws from its own `close`, maintenance goes on exactly while anybody is
connected. -/
theorem maintenance_goes_on {core : WasmRpcCore}
    (built : WasmRpcCore.new V.config.localPublicKeyBytes V.config.hostname serverPeerId = .ok core)
    (inputs : Inputs) (hs : List Happening) (calm : ∀ h ∈ hs, Calm h.inputs) :
    (run (step V) (start core inputs) hs).host.ambient.maintenanceTimer = true ↔
      (run (step V) (start core inputs) hs).host.ambient.connections ≠ [] := by
  refine ⟨(run_fit built inputs hs).needed, ?_⟩
  induction hs using List.reverseRecOn with
  | nil => exact fun impossible => absurd rfl impossible
  | append_singleton hs h ih =>
    have upkept := ih fun h' member => calm h' (List.mem_append_left _ member)
    obtain ⟨k, F, sound⟩ := run_sound built inputs hs
    rw [run_snoc]
    exact step_upkept (run_self built inputs hs) sound (run_fit built inputs hs)
      (calm h (by simp)) upkept

/-- Two peers join, and at the next maintenance round the socket of one of them is broken. -/
def brokenRound : List Happening :=
  joins 0 5 ++ joins 1 6 ++ [⟨.maintenance, { brokenInputs with dateNow := fun _ => 20_000 }⟩]

/-- The round closes one connection, and goes on for the other one. -/
theorem maintenance_goes_on_brokenRound :
    (plainRun brokenRound).host.ambient.maintenanceTimer = true ∧
      (plainRun brokenRound).host.ambient.connections = [0] ∧
      Milestone.closing 1 ∈ (plainRun brokenRound).host.ambient.history := by
  have calm : ∀ h ∈ brokenRound, Calm h.inputs := by
    intro h member _ _ _
    simp only [brokenRound, joins, knocks, List.cons_append, List.nil_append, List.mem_cons,
      List.not_mem_nil, or_false] at member
    rcases member with rfl | rfl | rfl | rfl | rfl | rfl | rfl <;> rfl
  have stays : (plainRun brokenRound).host.ambient.connections = [0] := by decide +kernel
  refine ⟨(@maintenance_goes_on Turn plainServer plainCore rfl plainInputs brokenRound calm).mpr ?_,
    stays, by decide +kernel⟩
  rw [show (run (step plainServer) (start plainCore plainInputs) brokenRound) = plainRun brokenRound
    from rfl, stays]
  exact List.cons_ne_nil 0 []

end EasyTierEdge.Server.Upkeep
