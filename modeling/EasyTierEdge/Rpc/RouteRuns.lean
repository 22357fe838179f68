/- module: EasyTierEdge/Rpc/RouteRuns
   source: cloudflare/wasm/src/route_state.rs, the calls that rpc.rs makes
   digest: The route state as a machine whose every call works on one group. -/

import EasyTierEdge.Lib.Machine
import EasyTierEdge.Rpc.RouteMoves

set_option autoImplicit false
set_option relaxedAutoImplicit false

namespace EasyTierEdge.Rpc.RouteRuns

open Lib.AscendingMap Lib.Fallible Lib.FiniteMap Lib.Machine
open Packet (Bytes keyOfBytes)
open Proto Routes RouteMoves

/-- A call on the route state, with the key of its group first. -/
inductive RouteCall
  | addPeer (groupKey : String) (peerId : UInt32) (publicKey : Bytes)
  | removePeer (groupKey : String) (peerId : UInt32)
  | onRouteSessionAck (groupKey : String) (peerId : UInt32) (theirSessionId : UInt64)
      (weAreInitiator : Bool)
  | commitRouteUpdate (groupKey : String) (peerId : UInt32)
      (peerInfoVersions : List (UInt32 × UInt32)) (topologyVersion : Option UInt64)
  | setMyInfoField (groupKey field value : String)
  | setMyNoisePublicKey (groupKey : String) (publicKey : Bytes)
  | buildSyncRouteInfoRequest (groupKey : String) (targetPeerId : UInt32)
      (serverSessionId : UInt64) (weAreInitiator forceFull : Bool)
  | handleSyncRouteInfoRequest (groupKey : String) (fromPeerId : UInt32) (requestBytes : Bytes)
  deriving DecidableEq

inductive RouteReply
  | done
  | update (u : RouteUpdate)
  | synced (outcome : RouteSyncOutcome)
  deriving DecidableEq

def RouteCall.groupKey : RouteCall → String
  | .addPeer groupKey .. | .removePeer groupKey .. | .onRouteSessionAck groupKey ..
  | .commitRouteUpdate groupKey .. | .setMyInfoField groupKey .. | .setMyNoisePublicKey groupKey ..
  | .buildSyncRouteInfoRequest groupKey .. | .handleSyncRouteInfoRequest groupKey .. => groupKey

/-- A call with what the host supplies during it. -/
structure RouteEvent where
  host : Host
  call : RouteCall

variable (E : Codec)

def perform (host : Host) : RouteCall → RouteM RouteReply
  | .addPeer groupKey peerId publicKey => do
    RouteState.addPeer host groupKey peerId publicKey
    return .done
  | .removePeer groupKey peerId => do
    RouteState.removePeer host groupKey peerId
    return .done
  | .onRouteSessionAck groupKey peerId theirSessionId weAreInitiator => do
    RouteState.onRouteSessionAck host groupKey peerId theirSessionId weAreInitiator
    return .done
  | .commitRouteUpdate groupKey peerId peerInfoVersions topologyVersion => do
    RouteState.commitRouteUpdate host groupKey peerId peerInfoVersions topologyVersion
    return .done
  | .setMyInfoField groupKey field value => do
    RouteState.setMyInfoField host groupKey field value
    return .done
  | .setMyNoisePublicKey groupKey publicKey => do
    RouteState.setMyNoisePublicKey host groupKey publicKey
    return .done
  | .buildSyncRouteInfoRequest groupKey targetPeerId serverSessionId weAreInitiator forceFull => do
    let u ← RouteState.buildSyncRouteInfoRequest E host groupKey targetPeerId serverSessionId
      weAreInitiator forceFull
    return .update u
  | .handleSyncRouteInfoRequest groupKey fromPeerId requestBytes => do
    let outcome ← RouteState.handleSyncRouteInfoRequest E host groupKey fromPeerId requestBytes
    return .synced outcome

def step (s : RouteState) (e : RouteEvent) : RouteState := final (perform E e.host e.call s)

/-- A route update that was handed out. -/
structure Built where
  groupKey : String
  targetPeerId : UInt32
  update : RouteUpdate
  deriving DecidableEq

/-- The update that a call hands out. -/
def built (s : RouteState) (e : RouteEvent) : Option Built :=
  match e.call with
  | .buildSyncRouteInfoRequest groupKey targetPeerId serverSessionId weAreInitiator forceFull =>
    match RouteState.buildSyncRouteInfoRequest E e.host groupKey targetPeerId serverSessionId
        weAreInitiator forceFull s with
    | .ok u _ => some ⟨groupKey, targetPeerId, u⟩
    | .error _ _ => none
  | _ => none

/-! Every call works on its own group. -/

/-- What a call does to its group once its arguments are accepted. -/
def groupOp (host : Host) : RouteCall → Except String (UInt32 → GroupM RouteReply)
  | .addPeer _ peerId publicKey =>
    match keyOfBytes publicKey with
    | none => .error "authenticated peer public key must be 32 bytes"
    | some publicKey => .ok fun myPeerId => do
      RouteGroupData.addPeer myPeerId peerId publicKey
      return .done
  | .removePeer _ peerId => .ok fun myPeerId => do
    modify fun g => g.removePeer myPeerId peerId
    return .done
  | .onRouteSessionAck _ peerId theirSessionId weAreInitiator => .ok fun _ => do
    modify fun g => g.onRouteSessionAck peerId theirSessionId weAreInitiator (host.clock 0)
    return .done
  | .commitRouteUpdate _ peerId peerInfoVersions topologyVersion => .ok fun _ => do
    modify fun g => g.commitRouteUpdate peerId peerInfoVersions topologyVersion (host.clock 1)
    return .done
  | .setMyInfoField _ field value => .ok fun _ => do
    RouteGroupData.setMyInfoField field value
    return .done
  | .setMyNoisePublicKey _ publicKey =>
    if publicKey.length ≠ 32 then .error "Noise public key must be 32 bytes"
    else .ok fun _ => do
      modify fun g => g.publishMyInfo { g.myInfo with noiseStaticPubkey := publicKey }
      return .done
  | .buildSyncRouteInfoRequest _ targetPeerId serverSessionId weAreInitiator forceFull =>
    .ok fun myPeerId => do
      let u ← RouteGroupData.buildSyncRouteInfoRequest E host myPeerId targetPeerId serverSessionId
        weAreInitiator forceFull
      return .update u
  | .handleSyncRouteInfoRequest _ fromPeerId requestBytes =>
    match E.decodeSyncRouteInfoRequest requestBytes with
    | .error e => .error s!"decode SyncRouteInfoRequest failed: {e}"
    | .ok req =>
      if req.myPeerId ≠ fromPeerId then
        .error "SyncRouteInfoRequest peer id does not match the authenticated connection"
      else .ok fun myPeerId => do
        let outcome ← RouteGroupData.handleSyncRouteInfoRequest E host myPeerId fromPeerId req
        return .synced outcome

private theorem onGroup_bind {α β : Type} (host : Host) (groupKey : String) (op : UInt32 → GroupM α)
    (f : α → β) (s : RouteState) :
    (RouteState.onGroup host groupKey op >>= fun a => pure (f a)) s =
      RouteState.onGroup host groupKey (fun myPeerId => op myPeerId >>= fun a => pure (f a)) s := by
  show EStateM.bind _ _ s = _
  simp only [EStateM.bind, RouteState.onGroup, bind, pure, EStateM.pure]
  cases op s.myPeerId (s.ensureGroup host groupKey) with
  | ok a g => rfl
  | error e g => rfl

private theorem perform_eq (host : Host) (c : RouteCall) (s : RouteState) :
    perform E host c s = match groupOp E host c with
      | .error e => .error e s
      | .ok op => RouteState.onGroup host c.groupKey op s := by
  cases c with
  | addPeer groupKey peerId publicKey =>
    simp only [perform, groupOp, RouteState.addPeer]
    cases keyOfBytes publicKey with
    | none => rfl
    | some key => exact onGroup_bind host groupKey _ (fun _ => RouteReply.done) s
  | removePeer groupKey peerId => exact onGroup_bind host groupKey _ (fun _ => RouteReply.done) s
  | onRouteSessionAck groupKey peerId theirSessionId weAreInitiator =>
    exact onGroup_bind host groupKey _ (fun _ => RouteReply.done) s
  | commitRouteUpdate groupKey peerId peerInfoVersions topologyVersion =>
    exact onGroup_bind host groupKey _ (fun _ => RouteReply.done) s
  | setMyInfoField groupKey field value =>
    exact onGroup_bind host groupKey _ (fun _ => RouteReply.done) s
  | setMyNoisePublicKey groupKey publicKey =>
    simp only [perform, groupOp, RouteState.setMyNoisePublicKey]
    by_cases short : publicKey.length ≠ 32
    · rw [if_pos short, if_pos short]
      rfl
    · rw [if_neg short, if_neg short]
      exact onGroup_bind host groupKey _ (fun _ => RouteReply.done) s
  | buildSyncRouteInfoRequest groupKey targetPeerId serverSessionId weAreInitiator forceFull =>
    exact onGroup_bind host groupKey _ RouteReply.update s
  | handleSyncRouteInfoRequest groupKey fromPeerId requestBytes =>
    simp only [perform, groupOp, RouteState.handleSyncRouteInfoRequest]
    cases E.decodeSyncRouteInfoRequest requestBytes with
    | error e => rfl
    | ok req =>
      by_cases foreign : req.myPeerId ≠ fromPeerId
      · simp only [if_pos foreign]
        rfl
      · simp only [if_neg foreign]
        exact onGroup_bind host groupKey _ RouteReply.synced s

@[simp] theorem onGroup_myPeerId {α : Type} (host : Host) (groupKey : String)
    (op : UInt32 → GroupM α) (s : RouteState) :
    (final (RouteState.onGroup host groupKey op s)).myPeerId = s.myPeerId := by
  rw [RouteState.onGroup]
  cases op s.myPeerId (s.ensureGroup host groupKey) with
  | ok a g => rfl
  | error e g => rfl

private theorem onGroup_groups {α : Type} (host : Host) (groupKey : String)
    (op : UInt32 → GroupM α) (s : RouteState) :
    (final (RouteState.onGroup host groupKey op s)).groups =
      s.groups.insert groupKey (final (op s.myPeerId (s.ensureGroup host groupKey))) := by
  rw [RouteState.onGroup]
  cases op s.myPeerId (s.ensureGroup host groupKey) with
  | ok a g => rfl
  | error e g => rfl

theorem step_myPeerId (s : RouteState) (e : RouteEvent) :
    (step E s e).myPeerId = s.myPeerId := by
  rw [step, perform_eq]
  cases groupOp E e.host e.call with
  | error e => rfl
  | ok op => exact onGroup_myPeerId e.host e.call.groupKey op s

private theorem step_refused {s : RouteState} {e : RouteEvent} {error : String}
    (refused : groupOp E e.host e.call = .error error) : step E s e = s := by
  rw [step, perform_eq, refused]
  rfl

theorem step_accepted {s : RouteState} {e : RouteEvent} {op : UInt32 → GroupM RouteReply}
    (accepted : groupOp E e.host e.call = .ok op) :
    (step E s e).groups = s.groups.insert e.call.groupKey
      (final (op s.myPeerId (s.ensureGroup e.host e.call.groupKey))) := by
  rw [step, perform_eq, accepted]
  exact onGroup_groups e.host e.call.groupKey op s

theorem built_some {s : RouteState} {e : RouteEvent} {b : Built} (handed : built E s e = some b) :
    ∃ serverSessionId weAreInitiator forceFull g',
      e.call = .buildSyncRouteInfoRequest b.groupKey b.targetPeerId serverSessionId weAreInitiator
        forceFull ∧
      RouteGroupData.buildSyncRouteInfoRequest E e.host s.myPeerId b.targetPeerId serverSessionId
        weAreInitiator forceFull (s.ensureGroup e.host b.groupKey) = .ok b.update g' := by
  obtain ⟨host, c⟩ := e
  cases c with
  | buildSyncRouteInfoRequest groupKey targetPeerId serverSessionId weAreInitiator forceFull =>
    simp only [built, RouteState.buildSyncRouteInfoRequest, RouteState.onGroup] at handed
    cases ran : RouteGroupData.buildSyncRouteInfoRequest E host s.myPeerId targetPeerId
        serverSessionId weAreInitiator forceFull (s.ensureGroup host groupKey) with
    | ok u g =>
      rw [ran] at handed
      have same := Option.some.inj handed
      subst same
      exact ⟨serverSessionId, weAreInitiator, forceFull, g, rfl, ran⟩
    | error e g =>
      rw [ran] at handed
      cases handed
  | _ => cases handed

theorem step_groups (s : RouteState) (e : RouteEvent) (groupKey : String) :
    ((step E s e).groups.lookup groupKey = s.groups.lookup groupKey ∧
        ∀ b, built E s e = some b → b.groupKey ≠ groupKey) ∨
      ∃ op, e.call.groupKey = groupKey ∧ groupOp E e.host e.call = .ok op ∧
        (step E s e).groups.lookup groupKey =
          some (final (op s.myPeerId (s.ensureGroup e.host groupKey))) := by
  cases accepted : groupOp E e.host e.call with
  | error error =>
    rw [step_refused E accepted]
    refine Or.inl ⟨rfl, ?_⟩
    intro b handed
    obtain ⟨serverSessionId, weAreInitiator, forceFull, g', asked, _⟩ := built_some E handed
    rw [asked] at accepted
    cases accepted
  | ok op =>
    rw [step_accepted E accepted, FMap.lookup_insert_eq_ite]
    by_cases own : groupKey = e.call.groupKey
    · subst own
      exact Or.inr ⟨op, rfl, rfl, if_pos rfl⟩
    · refine Or.inl ⟨if_neg own, ?_⟩
      intro b handed
      obtain ⟨serverSessionId, weAreInitiator, forceFull, g', asked, _⟩ := built_some E handed
      rintro rfl
      exact own (by rw [asked]; rfl)

theorem final_bind_pure {σ α β : Type} (op : EStateM String σ α) (f : α → β) (s : σ) :
    final ((op >>= fun a => pure (f a)) s) = final (op s) := by
  show final (EStateM.bind _ _ s) = _
  rw [EStateM.bind]
  cases op s with
  | ok a s' => rfl
  | error e s' => rfl

private theorem setMyInfoField_cases (field value : String) (g : RouteGroupData) :
    Ensures (RouteGroupData.setMyInfoField field value) g
      (fun _ g' => ∃ myInfo, g' = g.publishMyInfo myInfo) (fun _ g' => g' = g) := by
  simp only [RouteGroupData.setMyInfoField, ensures_bind, ensures_get]
  split
  · exact ⟨_, rfl⟩
  · cases parseU32 value with
    | none => exact rfl
    | some networkLength => exact ⟨_, rfl⟩
  · cases parseU32 value with
    | none => exact rfl
    | some addr => exact ⟨_, rfl⟩
  · exact rfl

theorem groupOp_final {E : Codec} {host : Host} {c : RouteCall} {op : UInt32 → GroupM RouteReply}
    (accepted : groupOp E host c = .ok op) (myPeerId : UInt32) (g : RouteGroupData) :
    match c with
    | .addPeer _ peerId publicKey => ∃ key, keyOfBytes publicKey = some key ∧
        final (op myPeerId g) = final (RouteGroupData.addPeer myPeerId peerId key g)
    | .removePeer _ peerId => final (op myPeerId g) = g.removePeer myPeerId peerId
    | .onRouteSessionAck _ peerId theirSessionId weAreInitiator =>
        final (op myPeerId g) =
          g.onRouteSessionAck peerId theirSessionId weAreInitiator (host.clock 0)
    | .commitRouteUpdate _ peerId versions topologyVersion =>
        final (op myPeerId g) = g.commitRouteUpdate peerId versions topologyVersion (host.clock 1)
    | .setMyInfoField .. =>
        (∃ myInfo, final (op myPeerId g) = g.publishMyInfo myInfo) ∨ final (op myPeerId g) = g
    | .setMyNoisePublicKey .. => ∃ myInfo, final (op myPeerId g) = g.publishMyInfo myInfo
    | .buildSyncRouteInfoRequest _ targetPeerId serverSessionId weAreInitiator forceFull =>
        final (op myPeerId g) = final (RouteGroupData.buildSyncRouteInfoRequest E host myPeerId
          targetPeerId serverSessionId weAreInitiator forceFull g)
    | .handleSyncRouteInfoRequest _ fromPeerId requestBytes => ∃ req,
        E.decodeSyncRouteInfoRequest requestBytes = .ok req ∧ req.myPeerId = fromPeerId ∧
        final (op myPeerId g) =
          final (RouteGroupData.handleSyncRouteInfoRequest E host myPeerId fromPeerId req g) := by
  cases c with
  | addPeer groupKey peerId publicKey =>
    simp only [groupOp] at accepted
    cases bound : keyOfBytes publicKey with
    | none =>
      rw [bound] at accepted
      cases accepted
    | some key =>
      rw [bound] at accepted
      cases accepted
      exact ⟨key, bound, final_bind_pure _ _ g⟩
  | setMyInfoField groupKey field value =>
    cases accepted
    have ran := final_bind_pure (RouteGroupData.setMyInfoField field value)
      (fun _ => RouteReply.done) g
    cases result : RouteGroupData.setMyInfoField field value g with
    | ok a g' =>
      obtain ⟨myInfo, published⟩ := ensures_of_ok (setMyInfoField_cases field value g) result
      refine Or.inl ⟨myInfo, ?_⟩
      rw [ran, result]
      exact published
    | error e g' =>
      have same := ensures_of_error (setMyInfoField_cases field value g) result
      refine Or.inr ?_
      rw [ran, result]
      exact same
  | setMyNoisePublicKey groupKey publicKey =>
    simp only [groupOp] at accepted
    split at accepted
    · cases accepted
    · cases accepted
      exact ⟨_, rfl⟩
  | buildSyncRouteInfoRequest groupKey targetPeerId serverSessionId weAreInitiator forceFull =>
    cases accepted
    exact final_bind_pure _ _ g
  | handleSyncRouteInfoRequest groupKey fromPeerId requestBytes =>
    simp only [groupOp] at accepted
    split at accepted
    · cases accepted
    · rename_i req decoded
      split at accepted
      · cases accepted
      · rename_i own
        cases accepted
        exact ⟨req, decoded, not_not.mp own, final_bind_pure _ _ g⟩
  | _ =>
    cases accepted
    rfl

section GroupRules

variable {E} {myPeerId : UInt32} {groupKey : String}

theorem run_myPeerId (es : List RouteEvent) :
    (run (step E) (RouteState.new myPeerId) es).myPeerId = myPeerId := by
  have keep : ∀ s e, RouteState.myPeerId s = myPeerId → (step E s e).myPeerId = myPeerId := by
    intro s e own
    exact (step_myPeerId E s e).trans own
  exact run_invariant keep rfl es

/-- If the group exists, it satisfies `R`. -/
def OfGroup (groupKey : String) (R : List RouteEvent → RouteGroupData → Prop)
    (es : List RouteEvent) (s : RouteState) : Prop :=
  ∀ g, s.groups.lookup groupKey = some g → R es g

/-- What a new group satisfies and every accepted call on it preserves, the group satisfies in
every reachable state; the property may look at the calls so far. -/
theorem group_history {R : List RouteEvent → RouteGroupData → Prop}
    {P : List RouteEvent → RouteState → RouteEvent → Prop}
    (start : ∀ pre host, (run (step E) (RouteState.new myPeerId) pre).groups.lookup groupKey =
      none →
      R pre (RouteGroupData.new myPeerId host))
    (other : ∀ pre e g, R pre g →
      (run (step E) (RouteState.new myPeerId) pre).groups.lookup groupKey = some g →
      (step E (run (step E) (RouteState.new myPeerId) pre) e).groups.lookup groupKey = some g →
      R (pre ++ [e]) g)
    (keep : ∀ pre e op g, R pre g → P pre (run (step E) (RouteState.new myPeerId) pre) e →
      g = (run (step E) (RouteState.new myPeerId) pre).ensureGroup e.host groupKey →
      e.call.groupKey = groupKey → groupOp E e.host e.call = .ok op →
      (step E (run (step E) (RouteState.new myPeerId) pre) e).groups.lookup groupKey =
        some (final (op myPeerId g)) →
      R (pre ++ [e]) (final (op myPeerId g)))
    {es : List RouteEvent} (steps : AllSteps (step E) P (RouteState.new myPeerId) es) :
    ∀ g, (run (step E) (RouteState.new myPeerId) es).groups.lookup groupKey = some g → R es g := by
  have whole : OfGroup groupKey R es (run (step E) (RouteState.new myPeerId) es) := by
    refine history_invariant ?_ ?_ steps
    · intro g found
      cases found
    · intro pre e inv allowed g found
      have own : (run (step E) (RouteState.new myPeerId) pre).myPeerId = myPeerId :=
        run_myPeerId pre
      rcases step_groups E (run (step E) (RouteState.new myPeerId) pre) e groupKey with
        ⟨same, _⟩ | ⟨op, here, accepted, moved⟩
      · exact other pre e g (inv g (same ▸ found)) (same ▸ found) found
      · rw [own] at moved
        rw [moved] at found
        cases Option.some.inj found
        refine keep pre e op _ ?_ allowed rfl here accepted moved
        rw [RouteState.ensureGroup, own]
        cases before : (run (step E) (RouteState.new myPeerId) pre).groups.lookup groupKey with
        | none => exact start pre e.host before
        | some g => exact inv g before
  exact whole

theorem ensureGroup_eq {R : RouteGroupData → Prop} {host : Host} {s : RouteState}
    {g : RouteGroupData} (started : g = s.ensureGroup host groupKey)
    (found : ∀ g, s.groups.lookup groupKey = some g → R g)
    (absent : s.groups.lookup groupKey = none → R (RouteGroupData.new s.myPeerId host)) : R g := by
  rw [started, RouteState.ensureGroup]
  cases before : s.groups.lookup groupKey with
  | none => exact absent before
  | some g => exact found g before

theorem group_invariant {R : RouteGroupData → Prop}
    (start : ∀ host, R (RouteGroupData.new myPeerId host))
    (keep : ∀ host c op g, R g → groupOp E host c = .ok op → R (final (op myPeerId g)))
    {es : List RouteEvent} {g : RouteGroupData}
    (found : (run (step E) (RouteState.new myPeerId) es).groups.lookup groupKey = some g) :
    R g := by
  have steps : AllSteps (step E) (fun _ _ _ => True) (RouteState.new myPeerId) es :=
    fun _ _ _ _ => trivial
  refine group_history (fun _ host _ => start host) ?_ ?_ steps g found
  · intro pre e g inv _ _
    exact inv
  · intro pre e op g inv _ _ _ accepted _
    exact keep e.host e.call op g inv accepted

end GroupRules

end EasyTierEdge.Rpc.RouteRuns
