/- module: EasyTierEdge/Rpc/Isolation
   source: cloudflare/wasm/src/rpc.rs, every call
   digest: What the core answers to one network does not depend on the calls of the others. -/

import EasyTierEdge.Lib.Unwinding
import EasyTierEdge.Rpc.NetworkCalls

set_option autoImplicit false
set_option relaxedAutoImplicit false

namespace EasyTierEdge.Rpc.Isolation

open Lib.Fallible Lib.FiniteMap Lib.Machine Lib.Relational Lib.Unwinding
open Packet (Bytes)
open Proto Routes Fragments FragmentAccounting Rpc.Core CoreMoves CoreRuns
open MergeIsolation NetworkState NetworkCalls

/-! Calls. -/

/-- The network a call is for; a clean-up is for all of them. -/
def networkOf : CoreCall → Option String
  | .addPeer network _ _ => some network
  | .removePeer network _ => some network
  | .handleRequest network _ _ _ => some network
  | .handleResponse network _ _ _ => some network
  | .buildRouteUpdate network _ _ _ _ => some network
  | .cleanExpired _ => none

def concerns (network : String) (e : CoreEvent) : Bool :=
  (networkOf e.call).all (· == network)

/-- The time a call is given. -/
def timeOf : CoreCall → Option UInt64
  | .addPeer _ _ _ => none
  | .removePeer _ _ => none
  | .handleRequest _ _ _ nowMs => some nowMs
  | .handleResponse _ _ _ nowMs => some nowMs
  | .buildRouteUpdate _ _ _ _ nowMs => some nowMs
  | .cleanExpired nowMs => some nowMs

/-- The sender, the packet and the time of a call that brings a packet. -/
def delivery : CoreCall → Option (String × UInt32 × Bytes × UInt64)
  | .handleRequest network peerId payload nowMs => some (network, peerId, payload, nowMs)
  | .handleResponse network peerId payload nowMs => some (network, peerId, payload, nowMs)
  | _ => none

/-- No earlier call was given a later time. -/
def NonDecreasing (pre : List CoreEvent) (e : CoreEvent) : Prop :=
  ∀ e' ∈ pre, ∀ earlier ∈ timeOf e'.call, ∀ nowMs ∈ timeOf e.call, earlier ≤ nowMs

instance nonDecreasingDecidable (pre : List CoreEvent) (e : CoreEvent) :
    Decidable (NonDecreasing pre e) :=
  decidable_of_iff
    ((pre.all fun e' => (timeOf e'.call).all fun earlier =>
      (timeOf e.call).all fun nowMs => earlier ≤ nowMs) = true) (by
    simp only [NonDecreasing, List.all_eq_true, Option.all_eq_true, decide_eq_true_eq,
      Option.mem_def])

/-- A shared limit refuses the packet of the call only if it would refuse it with the fragments of
its network alone. -/
def OwnLimits (E : Env) (c : WasmRpcCore) (e : CoreEvent) : Prop :=
  ∀ network peerId payload nowMs packet, delivery e.call = some (network, peerId, payload, nowMs) →
    E.codec.decodeRpcPacket payload = .ok packet → limited (outcome E c e) = true →
      limited (value (mergePacket network peerId packet nowMs (only network c.fragments))) = true

/-- What the caller is handed back, failures not told apart. -/
def answer (E : Env) (c : WasmRpcCore) (e : CoreEvent) : Option CoreReply :=
  (outcome E c e).toOption

section Calls

variable {E : Env} {network : String} {nowMs : UInt64} {c d : WasmRpcCore}

private theorem validated {groupKey : String} {peerId : UInt32} {isRequest : Bool}
    {packet : RpcPacket} (envelope : Envelope c groupKey peerId isRequest packet) :
    WasmRpcCore.validateEnvelope packet groupKey peerId isRequest c = .ok () c := by
  cases ran : WasmRpcCore.validateEnvelope packet groupKey peerId isRequest c with
  | ok _ c' => rw [(ensures_of_ok (validateEnvelope_cases isRequest) ran).1]
  | error e c' => exact absurd envelope (ensures_of_error (validateEnvelope_cases isRequest) ran).2

private theorem limited_eq {α β : Type} {x : Except String α} {y : Except String β}
    (failed : ∀ e, x = .error e → y = .error e) (stopped : limited x = true) :
    limited y = true := by
  cases x with
  | ok a => cases stopped
  | error e =>
    rw [failed e rfl]
    exact stopped

section Refused

variable {host : Host} {peerId : UInt32} {payload : Bytes} {packet : RpcPacket} {e : String}

private theorem merge_refused
    (refused : value (mergePacket network peerId packet nowMs c.fragments) = .error e) :
    ∃ c', onFragments (mergePacket network peerId packet nowMs) c = .error e c' :=
  ⟨_, eq_error_of_value ((onFragments_ends _ c).1.trans refused)⟩

private theorem handleRequest_refused (decoded : E.codec.decodeRpcPacket payload = .ok packet)
    (envelope : Envelope c network peerId true packet)
    (refused : value (mergePacket network peerId packet nowMs c.fragments) = .error e) :
    ∃ c', WasmRpcCore.handleRequest E host network peerId payload nowMs c = .error e c' := by
  obtain ⟨c', merged⟩ := merge_refused refused
  refine ⟨c', ?_⟩
  rw [WasmRpcCore.handleRequest, decoded]
  exact (bind_of_ok (validated envelope)).trans (bind_of_error merged)

private theorem handleResponse_refused {route : OutstandingRoute}
    (decoded : E.codec.decodeRpcPacket payload = .ok packet)
    (envelope : Envelope c network peerId false packet)
    (found : c.outstandingRoutes.lookup (rpcKey network peerId packet.transactionId false) =
      some route) (soon : nowMs ≤ route.deadlineMs)
    (refused : value (mergePacket network peerId packet nowMs c.fragments) = .error e) :
    ∃ c', WasmRpcCore.handleResponse E host network peerId payload nowMs c = .error e c' := by
  obtain ⟨c', merged⟩ := merge_refused refused
  refine ⟨c', ?_⟩
  rw [WasmRpcCore.handleResponse, decoded]
  refine (bind_of_ok (validated envelope)).trans ?_
  refine (get_bind _).trans ?_
  simp only [found, if_neg (UInt64.not_lt.mpr soon)]
  exact bind_of_error merged

private theorem unhindered_request
    (free : OwnLimits E c ⟨host, .handleRequest network peerId payload nowMs⟩)
    (decoded : E.codec.decodeRpcPacket payload = .ok packet)
    (envelope : Envelope c network peerId true packet) :
    Unhindered network peerId packet nowMs c.fragments := by
  intro stopped
  refine free network peerId payload nowMs packet rfl decoded (limited_eq ?_ stopped)
  intro e refused
  obtain ⟨c', ran⟩ := @handleRequest_refused E _ _ _ host _ _ _ _ decoded envelope refused
  rw [outcome, perform, bind_of_error ran]
  rfl

private theorem unhindered_response {route : OutstandingRoute}
    (free : OwnLimits E c ⟨host, .handleResponse network peerId payload nowMs⟩)
    (decoded : E.codec.decodeRpcPacket payload = .ok packet)
    (envelope : Envelope c network peerId false packet)
    (found : c.outstandingRoutes.lookup (rpcKey network peerId packet.transactionId false) =
      some route) (soon : nowMs ≤ route.deadlineMs) :
    Unhindered network peerId packet nowMs c.fragments := by
  intro stopped
  refine free network peerId payload nowMs packet rfl decoded (limited_eq ?_ stopped)
  intro e refused
  obtain ⟨c', ran⟩ := @handleResponse_refused E _ _ _ host _ _ _ _ _ decoded envelope found soon
    refused
  rw [outcome, perform, bind_of_error ran]
  rfl

end Refused

/-- The answer of a call is taken from the part of it that can fail. -/
private theorem replied {α : Type} {x : CoreM α} (reply : α → CoreReply)
    (ran : Indistinct (Alike network nowMs) (x c) (x d)) :
    Indistinct (Alike network nowMs) ((x >>= fun a => pure (reply a)) c)
      ((x >>= fun a => pure (reply a)) d) := by
  refine indistinct_bind ran (fun _ _ alike => alike) ?_
  intro a c d _ _ alike
  exact ⟨rfl, alike⟩

/-- A call for the network, given its time, cannot tell two cores with the same state of the
network apart. -/
private theorem own_indistinct {e : CoreEvent} (own : concerns network e = true)
    (timed : ∀ atMs, timeOf e.call = some atMs → atMs = nowMs) (alike : Alike network nowMs c d)
    (left : Accounted c.fragments) (right : Accounted d.fragments) (free : OwnLimits E c e)
    (free' : OwnLimits E d e) :
    Indistinct (Alike network nowMs) (perform E e.host e.call c) (perform E e.host e.call d) := by
  obtain ⟨host, call⟩ := e
  cases call with
  | addPeer groupKey peerId publicKey =>
    obtain rfl : groupKey = network := eq_of_beq own
    exact replied (fun _ => .done) (addPeer_indistinct publicKey alike)
  | removePeer groupKey peerId =>
    obtain rfl : groupKey = network := eq_of_beq own
    exact replied (fun _ => .done) (removePeer_indistinct alike)
  | handleRequest groupKey peerId payload atMs =>
    obtain rfl : groupKey = network := eq_of_beq own
    obtain rfl : atMs = nowMs := timed atMs rfl
    exact replied .bytes (handleRequest_indistinct payload alike left right
      (fun packet decoded envelope => unhindered_request free decoded envelope)
      fun packet decoded envelope => unhindered_request free' decoded envelope)
  | handleResponse groupKey peerId payload atMs =>
    obtain rfl : groupKey = network := eq_of_beq own
    obtain rfl : atMs = nowMs := timed atMs rfl
    exact replied .completed (handleResponse_indistinct payload alike left right
      (fun packet route decoded envelope found soon =>
        unhindered_response free decoded envelope found soon)
      fun packet route decoded envelope found soon =>
        unhindered_response free' decoded envelope found soon)
  | buildRouteUpdate groupKey peerId serverSessionId forceFull atMs =>
    obtain rfl : groupKey = network := eq_of_beq own
    obtain rfl : atMs = nowMs := timed atMs rfl
    exact replied .bytes (buildRouteUpdate_indistinct serverSessionId forceFull alike)
  | cleanExpired atMs =>
    obtain rfl : atMs = nowMs := timed atMs rfl
    exact replied (fun _ => .done) (cleanExpired_indistinct alike)

/-- A call for another network changes nothing that the network will read. -/
private theorem foreign_keeps {e : CoreEvent} (foreign : concerns network e = false)
    (past : ∀ atMs, timeOf e.call = some atMs → atMs ≤ nowMs) (alike : Alike network nowMs c d) :
    Alike network nowMs c (step E d e) := by
  obtain ⟨host, call⟩ := e
  have after : Keeps (Alike network nowMs c) (perform E host call) := by
    cases call with
    | addPeer groupKey peerId publicKey =>
      have other : network ≠ groupKey := Ne.symm (beq_eq_false_iff_ne.mp foreign)
      exact (addPeer_keeps publicKey other).bind fun _ => keeps_pure _
    | removePeer groupKey peerId =>
      have other : network ≠ groupKey := Ne.symm (beq_eq_false_iff_ne.mp foreign)
      exact (removePeer_keeps other).bind fun _ => keeps_pure _
    | handleRequest groupKey peerId payload atMs =>
      have other : network ≠ groupKey := Ne.symm (beq_eq_false_iff_ne.mp foreign)
      exact (handleRequest_keeps payload (past atMs rfl) other).bind fun _ => keeps_pure _
    | handleResponse groupKey peerId payload atMs =>
      have other : network ≠ groupKey := Ne.symm (beq_eq_false_iff_ne.mp foreign)
      exact (handleResponse_keeps payload (past atMs rfl) other).bind fun _ => keeps_pure _
    | buildRouteUpdate groupKey peerId serverSessionId forceFull atMs =>
      have other : network ≠ groupKey := Ne.symm (beq_eq_false_iff_ne.mp foreign)
      exact (buildRouteUpdate_keeps serverSessionId forceFull (past atMs rfl) other).bind
        fun _ => keeps_pure _
    | cleanExpired atMs => cases foreign
  exact after.final alike

end Calls

/-! Runs. -/

/-- No call was given a later time than `nowMs`. -/
def Past (nowMs : UInt64) (es : List CoreEvent) : Prop :=
  ∀ e ∈ es, ∀ atMs, timeOf e.call = some atMs → atMs ≤ nowMs

/-- What two runs from `c` have in common: from the latest of their times on, they cannot be told
apart by the network. -/
def Related (E : Env) (network : String) (c : WasmRpcCore) (es es' : List CoreEvent) : Prop :=
  ∀ nowMs, Past nowMs es → Past nowMs es' →
    Alike network nowMs (run (step E) c es) (run (step E) c es')

section Runs

variable {E : Env} {network : String} {nowMs : UInt64} {c : WasmRpcCore}
  {es es' : List CoreEvent} {e : CoreEvent}

private theorem Past.init (past : Past nowMs (es ++ [e])) : Past nowMs es :=
  fun e' member => past e' (List.mem_append_left _ member)

private theorem Past.last (past : Past nowMs (es ++ [e])) {atMs : UInt64}
    (timed : timeOf e.call = some atMs) : atMs ≤ nowMs :=
  past e (List.mem_append_right _ List.mem_cons_self) atMs timed

theorem Related.symm (related : Related E network c es es') : Related E network c es' es :=
  fun nowMs past past' => (related nowMs past' past).symm

private theorem Related.foreign (foreign : concerns network e = false)
    (related : Related E network c es es') : Related E network c es (es' ++ [e]) := by
  intro nowMs past past'
  rw [run_snoc]
  exact foreign_keeps foreign (fun atMs timed => past'.last timed) (related nowMs past past'.init)

private theorem Related.answered (created : Accounted c.fragments) (own : concerns network e = true)
    (timed : ∀ atMs, timeOf e.call = some atMs → atMs = nowMs)
    (free : OwnLimits E (run (step E) c es) e) (free' : OwnLimits E (run (step E) c es') e)
    (related : Related E network c es es') (past : Past nowMs es) (past' : Past nowMs es') :
    answer E (run (step E) c es) e = answer E (run (step E) c es') e ∧
      Alike network nowMs (run (step E) c (es ++ [e])) (run (step E) c (es' ++ [e])) := by
  have reached : ∀ es, Accounted (run (step E) c es).fragments := fun es =>
    @run_invariant _ _ _ (fun c => Accounted c.fragments)
      (fun c e accounted => accounted_step accounted (step_fragments c e)) c created es
  obtain ⟨same, after⟩ := own_indistinct own timed (related nowMs past past') (reached es)
    (reached es') free free'
  rw [run_snoc, run_snoc]
  exact ⟨same, after⟩

private theorem Related.own (created : Accounted c.fragments) (own : concerns network e = true)
    (ordered : NonDecreasing es e) (ordered' : NonDecreasing es' e)
    (free : OwnLimits E (run (step E) c es) e) (free' : OwnLimits E (run (step E) c es') e)
    (related : Related E network c es es') :
    answer E (run (step E) c es) e = answer E (run (step E) c es') e ∧
      Related E network c (es ++ [e]) (es' ++ [e]) := by
  cases timed : timeOf e.call with
  | none =>
    have untimed : ∀ nowMs atMs, timeOf e.call = some atMs → atMs = nowMs := by
      intro nowMs atMs impossible
      rw [timed] at impossible
      cases impossible
    have last : ∀ es, Past (UInt64.ofNat (2 ^ 64 - 1)) es :=
      fun es e' _ atMs _ => UInt64.le_iff_toNat_le.mpr (Nat.le_pred_of_lt atMs.toNat_lt)
    have same := (Related.answered created own (untimed _) free free' related (last es)
      (last es')).1
    refine ⟨same, ?_⟩
    intro nowMs past past'
    exact (Related.answered created own (untimed _) free free' related past.init past'.init).2
  | some atMs =>
    have exactly : ∀ atMs', timeOf e.call = some atMs' → atMs' = atMs := by
      intro atMs' given
      rw [timed] at given
      exact (Option.some.inj given).symm
    have past : Past atMs es := fun e' member earlier given =>
      ordered e' member earlier given atMs timed
    have past' : Past atMs es' := fun e' member earlier given =>
      ordered' e' member earlier given atMs timed
    obtain ⟨same, after⟩ :=
      Related.answered created own exactly free free' related past past'
    refine ⟨same, ?_⟩
    intro nowMs later _
    exact after.later (later.last timed)

end Runs

/-- What the calls for a network are answered depends on these calls and the clean-ups only, as
long as the shared limits refuse nothing of it that its own fragments would not have refused. -/
theorem network_isolation {E : Env} {publicKey : Bytes} {hostname : String} {serverPeerId : UInt32}
    {c : WasmRpcCore} (created : WasmRpcCore.new publicKey hostname serverPeerId = .ok c)
    (network : String) {es es' : List CoreEvent}
    (ordered : AllSteps (step E) (fun pre _ => NonDecreasing pre) c es)
    (ordered' : AllSteps (step E) (fun pre _ => NonDecreasing pre) c es')
    (limits : AllSteps (step E) (fun _ c e => concerns network e = true → OwnLimits E c e) c es)
    (limits' : AllSteps (step E) (fun _ c e => concerns network e = true → OwnLimits E c e) c es')
    (same : es.filter (concerns network) = es'.filter (concerns network)) :
    view (step E) (concerns network) (answer E) c es =
      view (step E) (concerns network) (answer E) c es' := by
  have start : Accounted c.fragments := by
    rw [new_fragments created]
    exact accounted_empty
  refine (@unwinding _ _ _ (step E) (concerns network) (answer E) c
    (fun pre c e => NonDecreasing pre e ∧ (concerns network e = true → OwnLimits E c e))
    (Related E network c) ?_ ?_ ?_ ?_ es es' (ordered.and limits) (ordered'.and limits') same).2
  · intro nowMs _ _
    exact Alike.refl c
  · intro pre pre' e other _ related
    exact (related.symm.foreign other).symm
  · intro pre pre' e other _ related
    exact related.foreign other
  · intro pre pre' e mine allowed allowed' related
    exact related.own start mine allowed.1 allowed'.1 (allowed.2 mine) (allowed'.2 mine)

/-! The first half of a message, alone and after a fragment of another network. -/

def otherPiece : RpcPacket := { onePiece with fromPeer := 6 }

/-- One of as many pieces as a message may have. -/
def largestPiece : RpcPacket := { otherPiece with totalPieces := maxRpcPieces }

def twoNetworks : Env :=
  ⟨Wire.codec ⟨[onePiece, otherPiece, largestPiece], [], [], [], [], [], []⟩, fun _ => 0⟩

def netRun : List CoreEvent :=
  [⟨pieceHost, .addPeer "net" 5 (List.replicate 32 7)⟩,
    ⟨pieceHost, .handleRequest "net" 5 (Wire.rpcPacket onePiece) 1_000⟩]

def netRunAfter (packet : RpcPacket) : List CoreEvent :=
  [⟨pieceHost, .addPeer "other" 6 (List.replicate 32 8)⟩,
    ⟨pieceHost, .handleRequest "other" 6 (Wire.rpcPacket packet) 1_000⟩] ++ netRun

private theorem ordered_of_check {E : Env} {c : WasmRpcCore} {es : List CoreEvent}
    (checked : checkSteps (step E) (fun pre _ e => decide (NonDecreasing pre e)) [] c es = true) :
    AllSteps (step E) (fun pre _ => NonDecreasing pre) c es :=
  allSteps_of_check _ (fun _ _ _ ordered => of_decide_eq_true ordered) checked

private theorem limits_of_check {E : Env} {network : String} {c : WasmRpcCore} {es : List CoreEvent}
    (checked : checkSteps (step E) (fun _ c e => !limited (outcome E c e)) [] c es = true) :
    AllSteps (step E) (fun _ c e => concerns network e = true → OwnLimits E c e) c es := by
  refine allSteps_of_check _ ?_ checked
  intro _ c e unlimited _ groupKey peerId payload nowMs packet _ _ stopped
  rw [stopped] at unlimited
  cases unlimited

theorem network_isolation_netRun : ∃ c, oneCore = .ok c ∧
    view (step twoNetworks) (concerns "net") (answer twoNetworks) c netRun =
      [some .done, some (.bytes [0])] ∧
    view (step twoNetworks) (concerns "net") (answer twoNetworks) c (netRunAfter otherPiece) =
      view (step twoNetworks) (concerns "net") (answer twoNetworks) c netRun :=
  ⟨_, rfl, by decide +kernel,
    @network_isolation twoNetworks (List.replicate 32 1) "edge" 1 _ rfl "net"
      (netRunAfter otherPiece) netRun
      (ordered_of_check (by decide +kernel)) (ordered_of_check (by decide +kernel))
      (limits_of_check (by decide +kernel)) (limits_of_check (by decide +kernel)) rfl⟩

/-- The fragment of one network can use up the pieces that may be pending for all of them. -/
theorem shared_limit_crosses : ¬ ∀ (E : Env) (publicKey : Bytes) (hostname : String)
    (serverPeerId : UInt32) (c : WasmRpcCore),
    WasmRpcCore.new publicKey hostname serverPeerId = .ok c →
    ∀ (network : String) (es es' : List CoreEvent),
      AllSteps (step E) (fun pre _ => NonDecreasing pre) c es →
      AllSteps (step E) (fun pre _ => NonDecreasing pre) c es' →
      es.filter (concerns network) = es'.filter (concerns network) →
      view (step E) (concerns network) (answer E) c es =
        view (step E) (concerns network) (answer E) c es' := by
  intro isolated
  obtain ⟨c, created, ordered, ordered', refused, alone⟩ : ∃ c, oneCore = .ok c ∧
      AllSteps (step twoNetworks) (fun pre _ => NonDecreasing pre) c (netRunAfter largestPiece) ∧
      AllSteps (step twoNetworks) (fun pre _ => NonDecreasing pre) c netRun ∧
      view (step twoNetworks) (concerns "net") (answer twoNetworks) c (netRunAfter largestPiece) =
        [some .done, none] ∧
      view (step twoNetworks) (concerns "net") (answer twoNetworks) c netRun =
        [some .done, some (.bytes [0])] :=
    ⟨_, rfl, ordered_of_check (by decide +kernel), ordered_of_check (by decide +kernel),
      by decide +kernel, by decide +kernel⟩
  have same := isolated twoNetworks (List.replicate 32 1) "edge" 1 c created "net"
    (netRunAfter largestPiece) netRun ordered ordered' rfl
  rw [refused, alone] at same
  cases same

end EasyTierEdge.Rpc.Isolation
