/- module: EasyTierEdge/Rpc/NetworkCalls
   source: cloudflare/wasm/src/rpc.rs, every call
   digest: What a call does to the state of its own network, and to that of another one. -/

import EasyTierEdge.Rpc.NetworkState

set_option autoImplicit false
set_option relaxedAutoImplicit false

namespace EasyTierEdge.Rpc.NetworkCalls

open Lib.Fallible Lib.FiniteMap Lib.Relational
open Packet (Bytes)
open Proto Routes PeerCenter Fragments FragmentMoves FragmentAccounting Rpc.Core CoreMoves
open MergeIsolation NetworkState

/-! The parts of the core. -/

section Lifting

variable {α : Type} {c d : WasmRpcCore}

private theorem onRoutes_ends (op : RouteM α) (c : WasmRpcCore) :
    value (onRoutes op c) = value (op c.routes) ∧
      final (onRoutes op c) = { c with routes := final (op c.routes) } := by
  rw [onRoutes]
  cases op c.routes with
  | ok a routes => exact ⟨rfl, rfl⟩
  | error e routes => exact ⟨rfl, rfl⟩

private theorem onCenter_ends (op : CenterM α) (c : WasmRpcCore) :
    value (onCenter op c) = value (op c.peerCenter) ∧
      final (onCenter op c) = { c with peerCenter := final (op c.peerCenter) } := by
  rw [onCenter]
  cases op c.peerCenter with
  | ok a peerCenter => exact ⟨rfl, rfl⟩
  | error e peerCenter => exact ⟨rfl, rfl⟩

theorem onFragments_ends (op : FragmentsM α) (c : WasmRpcCore) :
    value (onFragments op c) = value (op c.fragments) ∧
      final (onFragments op c) = { c with fragments := final (op c.fragments) } := by
  rw [onFragments]
  cases op c.fragments with
  | ok a fragments => exact ⟨rfl, rfl⟩
  | error e fragments => exact ⟨rfl, rfl⟩

end Lifting

/-! The calls for the network itself. -/

section Own

variable {E : Env} {host : Host} {network : String} {nowMs : UInt64} {c d : WasmRpcCore}
  {peerId : UInt32}

private theorem routes_indistinct {α : Type} {op : RouteM α} (on : OnGroup host network op)
    (alike : Alike network nowMs c d) :
    Indistinct (Alike network nowMs) (onRoutes op c) (onRoutes op d) := by
  obtain ⟨same, related⟩ := on.agree alike.routes
  obtain ⟨got, left⟩ := onRoutes_ends op c
  obtain ⟨got', left'⟩ := onRoutes_ends op d
  rw [Indistinct, got, got', left, left', same]
  exact ⟨rfl, { alike with routes := related }⟩

private theorem center_indistinct {α : Type} {op : CenterM α}
    (agree : Agree (SameReports network) (op c.peerCenter) (op d.peerCenter))
    (alike : Alike network nowMs c d) :
    Indistinct (Alike network nowMs) (onCenter op c) (onCenter op d) := by
  obtain ⟨same, related⟩ := agree
  obtain ⟨got, left⟩ := onCenter_ends op c
  obtain ⟨got', left'⟩ := onCenter_ends op d
  rw [Indistinct, got, got', left, left', same]
  exact ⟨rfl, { alike with peerCenter := related }⟩

private theorem initiated_alike (alike : Alike network nowMs c d) (peerId : UInt32)
    (initiator : Bool) :
    Alike network nowMs
      { c with peerInitiator := c.peerInitiator.insert (network, peerId) initiator }
      { d with peerInitiator := d.peerInitiator.insert (network, peerId) initiator } :=
  { alike with
    peerInitiator := by
      intro peerId'
      rw [FMap.lookup_insert_eq_ite, FMap.lookup_insert_eq_ite, alike.peerInitiator peerId'] }

theorem addPeer_indistinct (publicKey : Bytes) (alike : Alike network nowMs c d) :
    Indistinct (Alike network nowMs) (WasmRpcCore.addPeer host network peerId publicKey c)
      (WasmRpcCore.addPeer host network peerId publicKey d) := by
  rw [WasmRpcCore.addPeer]
  refine indistinct_bind (routes_indistinct (onGroup_addPeer host network peerId publicKey) alike)
    (fun _ _ alike => alike) ?_
  intro _ c d _ _ alike
  refine indistinct_get_bind ?_
  rw [alike.configuredGroups]
  by_cases fresh : (d.configuredGroups.lookup network).isNone = true
  · simp only [if_pos fresh]
    rw [alike.hostname, alike.publicKey]
    refine indistinct_set_bind ?_
    refine indistinct_bind (routes_indistinct (.runs _) ?_) (fun _ _ alike => alike) ?_
    · exact { alike with
        configuredGroups := by rw [Finmap.lookup_insert, Finmap.lookup_insert]
        publicKey := rfl
        hostname := rfl }
    intro _ c d _ _ alike
    refine indistinct_bind (routes_indistinct (onGroup_setMyNoisePublicKey host network _) alike)
      (fun _ _ alike => alike) ?_
    intro _ c d _ _ alike
    exact ⟨rfl, initiated_alike alike peerId false⟩
  · simp only [if_neg fresh]
    exact ⟨rfl, initiated_alike alike peerId false⟩

theorem removePeer_indistinct (alike : Alike network nowMs c d) :
    Indistinct (Alike network nowMs) (WasmRpcCore.removePeer E host network peerId c)
      (WasmRpcCore.removePeer E host network peerId d) := by
  rw [WasmRpcCore.removePeer]
  refine indistinct_bind (routes_indistinct (.runs _) alike) (fun _ _ alike => alike) ?_
  intro _ c d _ _ alike
  refine ⟨rfl, alike.routes, ?_, alike.configuredGroups, ?_, ?_, ?_, alike.publicKey,
    alike.hostname, alike.serverPeerId⟩
  · show (c.peerCenter.removePeer _ _ _).groups.lookup _ =
      (d.peerCenter.removePeer _ _ _).groups.lookup _
    rw [removePeer_lookup, removePeer_lookup, alike.peerCenter]
  · intro peerId'
    show Finmap.lookup _ (c.peerInitiator.erase _) = Finmap.lookup _ (d.peerInitiator.erase _)
    rw [FMap.lookup_erase_eq_ite, FMap.lookup_erase_eq_ite, alike.peerInitiator peerId']
  · exact PendingAlike.removeWhere alike.fragments _
  · exact alike.outstandingRoutes.retain _

/-! Requests. -/

/-- A shared limit refuses the packet only if it would refuse it with the fragments of the network
alone. -/
def Unhindered (network : String) (peerId : UInt32) (packet : RpcPacket) (nowMs : UInt64)
    (t : PendingTable) : Prop :=
  limited (value (mergePacket network peerId packet nowMs t)) = true →
    limited (value (mergePacket network peerId packet nowMs (only network t))) = true

private theorem merge_indistinct {packet : RpcPacket} (alike : Alike network nowMs c d)
    (left : Accounted c.fragments) (right : Accounted d.fragments)
    (free : Unhindered network peerId packet nowMs c.fragments)
    (free' : Unhindered network peerId packet nowMs d.fragments) :
    Indistinct (Alike network nowMs)
      (onFragments (mergePacket network peerId packet nowMs) c)
      (onFragments (mergePacket network peerId packet nowMs) d) := by
  obtain ⟨same, related⟩ := merge_alike left right alike.fragments free free'
  obtain ⟨got, kept⟩ := onFragments_ends (mergePacket network peerId packet nowMs) c
  obtain ⟨got', kept'⟩ := onFragments_ends (mergePacket network peerId packet nowMs) d
  rw [Indistinct, got, got', kept, kept', same]
  exact ⟨rfl, { alike with fragments := related }⟩

private theorem validateEnvelope_indistinct (packet : RpcPacket) (isRequest : Bool)
    (alike : Alike network nowMs c d) :
    Indistinct (Alike network nowMs)
      (WasmRpcCore.validateEnvelope packet network peerId isRequest c)
      (WasmRpcCore.validateEnvelope packet network peerId isRequest d) := by
  rw [WasmRpcCore.validateEnvelope]
  refine indistinct_get_bind ?_
  rw [alike.serverPeerId]
  by_cases misplaced : packet.fromPeer ≠ peerId ∨ packet.toPeer ≠ d.serverPeerId
  · simp only [if_pos misplaced]
    exact ⟨rfl, alike⟩
  · by_cases turned : packet.isRequest ≠ isRequest
    · simp only [if_neg misplaced, if_pos turned]
      exact ⟨rfl, alike⟩
    · by_cases abroad : (packet.descriptor.any fun descriptor =>
          descriptor.domainName ≠ network) = true
      · simp only [if_neg misplaced, if_neg turned, if_pos abroad]
        exact ⟨rfl, alike⟩
      · simp only [if_neg misplaced, if_neg turned, if_neg abroad]
        exact ⟨rfl, alike⟩

private theorem validateCompression_indistinct (packet : RpcPacket)
    (alike : Alike network nowMs c d) :
    Indistinct (Alike network nowMs) (WasmRpcCore.validateCompression packet c)
      (WasmRpcCore.validateCompression packet d) := by
  rw [WasmRpcCore.validateCompression]
  split
  · exact ⟨rfl, alike⟩
  · exact ⟨rfl, alike⟩

private theorem serve_indistinct (descriptor : RpcDescriptor) (request : Bytes)
    (alike : Alike network nowMs c d) :
    Indistinct (Alike network nowMs)
      (WasmRpcCore.serve E host network peerId descriptor request c)
      (WasmRpcCore.serve E host network peerId descriptor request d) := by
  rw [WasmRpcCore.serve]
  split
  · split
    · exact ⟨rfl, alike⟩
    · cases E.codec.decodeSyncRouteInfoRequest request with
      | error e => exact ⟨rfl, alike⟩
      | ok sync =>
        refine indistinct_modify_bind ?_
        refine indistinct_bind (routes_indistinct
          (onGroup_handleSyncRouteInfoRequest host network E.codec peerId request)
          (initiated_alike alike peerId _)) (fun _ _ alike => alike) ?_
        intro outcome c d _ _ alike
        exact ⟨rfl, alike⟩
  · split
    · split
      · refine indistinct_bind (center_indistinct
          (reportPeers_agree E.codec E.hash peerId request (host.clock 0) alike.peerCenter) alike)
          (fun _ _ alike => alike) ?_
        intro response c d _ _ alike
        exact ⟨rfl, alike⟩
      · split
        · refine indistinct_bind (center_indistinct
            (getGlobalPeerMap_agree E.codec request alike.peerCenter) alike)
            (fun _ _ alike => alike) ?_
          intro response c d _ _ alike
          exact ⟨rfl, alike⟩
        · exact ⟨rfl, alike⟩
    · exact ⟨rfl, alike⟩

private theorem answerRequest_indistinct (packet : RpcPacket) (alike : Alike network nowMs c d) :
    Indistinct (Alike network nowMs) (WasmRpcCore.answerRequest E host network peerId packet c)
      (WasmRpcCore.answerRequest E host network peerId packet d) := by
  rw [WasmRpcCore.answerRequest]
  refine indistinct_bind (validateCompression_indistinct packet alike) (fun _ _ alike => alike) ?_
  intro _ c d _ _ alike
  cases packet.descriptor with
  | none => exact ⟨rfl, alike⟩
  | some descriptor =>
    cases E.codec.decodeRpcRequest packet.body with
    | error e => exact ⟨rfl, alike⟩
    | ok request =>
      refine indistinct_bind (serve_indistinct descriptor request.request alike)
        (fun _ _ alike => alike) ?_
      intro served c d _ _ alike
      refine indistinct_get_bind ?_
      rw [alike.serverPeerId]
      exact ⟨rfl, alike⟩

theorem handleRequest_indistinct (payload : Bytes) (alike : Alike network nowMs c d)
    (left : Accounted c.fragments) (right : Accounted d.fragments)
    (free : ∀ packet, E.codec.decodeRpcPacket payload = .ok packet →
      Envelope c network peerId true packet →
      Unhindered network peerId packet nowMs c.fragments)
    (free' : ∀ packet, E.codec.decodeRpcPacket payload = .ok packet →
      Envelope d network peerId true packet →
      Unhindered network peerId packet nowMs d.fragments) :
    Indistinct (Alike network nowMs)
      (WasmRpcCore.handleRequest E host network peerId payload nowMs c)
      (WasmRpcCore.handleRequest E host network peerId payload nowMs d) := by
  rw [WasmRpcCore.handleRequest]
  cases decoded : E.codec.decodeRpcPacket payload with
  | error e => exact ⟨rfl, alike⟩
  | ok packet =>
    refine indistinct_bind (validateEnvelope_indistinct packet true alike)
      (fun _ _ alike => alike) ?_
    intro _ c' d' valid valid' _
    obtain ⟨rfl, envelope⟩ := ensures_of_ok (validateEnvelope_cases true) valid
    obtain ⟨rfl, envelope'⟩ := ensures_of_ok (validateEnvelope_cases true) valid'
    refine indistinct_bind (merge_indistinct alike left right (free packet decoded envelope)
      (free' packet decoded envelope')) (fun _ _ alike => alike) ?_
    intro merged c d _ _ alike
    cases merged with
    | pending => exact ⟨rfl, alike⟩
    | complete whole => exact answerRequest_indistinct whole alike

/-! Responses. -/

private theorem acceptedResponse_indistinct (packet : RpcPacket) (alike : Alike network nowMs c d) :
    Indistinct (Alike network nowMs) (WasmRpcCore.acceptedResponse E packet c)
      (WasmRpcCore.acceptedResponse E packet d) := by
  rw [WasmRpcCore.acceptedResponse]
  refine indistinct_bind (validateCompression_indistinct packet alike) (fun _ _ alike => alike) ?_
  intro _ c d _ _ alike
  cases packet.descriptor with
  | none => exact ⟨rfl, alike⟩
  | some descriptor =>
    by_cases other : !isService descriptor "OspfRouteRpc" ∨ descriptor.methodIndex ≠ 1
    · simp only [if_pos other]
      exact ⟨rfl, alike⟩
    · simp only [if_neg other]
      cases E.codec.decodeRpcResponse packet.body with
      | error e => exact ⟨rfl, alike⟩
      | ok response =>
        by_cases rejected : response.error.isSome = true
        · simp only [if_pos rejected]
          exact ⟨rfl, alike⟩
        · simp only [if_neg rejected]
          cases E.codec.decodeSyncRouteInfoResponse response.response with
          | error e => exact ⟨rfl, alike⟩
          | ok sync =>
            dsimp only
            cases sync.error with
            | none => exact ⟨rfl, alike⟩
            | some routeError => exact ⟨rfl, alike⟩

private theorem acknowledge_indistinct {key : RpcKey} {route : OutstandingRoute}
    (sessionId : UInt64)
    (alike : Alike network nowMs c d) (found : c.outstandingRoutes.lookup key = some route)
    (found' : d.outstandingRoutes.lookup key = some route) :
    Indistinct (Alike network nowMs) (WasmRpcCore.acknowledge host network peerId key sessionId c)
      (WasmRpcCore.acknowledge host network peerId key sessionId d) := by
  rw [WasmRpcCore.acknowledge]
  refine indistinct_get_bind ?_
  rw [alike.peerInitiator peerId, found, found']
  refine indistinct_set_bind ?_
  refine indistinct_bind (routes_indistinct (.runs _) ?_) (fun _ _ alike => alike) ?_
  · exact { alike with outstandingRoutes := alike.outstandingRoutes.erase key }
  intro _ c d _ _ alike
  exact routes_indistinct (.runs _) alike

private theorem onRoutes_ok {α : Type} {op : RouteM α} {a : α} {c' : WasmRpcCore}
    (ran : onRoutes op c = .ok a c') : c'.outstandingRoutes = c.outstandingRoutes := by
  have left := (onRoutes_ends op c).2
  rw [ran] at left
  have left : c' = { c with routes := final (op c.routes) } := left
  rw [left]

private theorem onFragments_ok {α : Type} {op : FragmentsM α} {a : α} {c' : WasmRpcCore}
    (ran : onFragments op c = .ok a c') : c'.outstandingRoutes = c.outstandingRoutes := by
  have left := (onFragments_ends op c).2
  rw [ran] at left
  have left : c' = { c with fragments := final (op c.fragments) } := left
  rw [left]

theorem handleResponse_indistinct (payload : Bytes) (alike : Alike network nowMs c d)
    (left : Accounted c.fragments) (right : Accounted d.fragments)
    (free : ∀ packet route, E.codec.decodeRpcPacket payload = .ok packet →
      Envelope c network peerId false packet →
      c.outstandingRoutes.lookup (rpcKey network peerId packet.transactionId false) =
        some route → nowMs ≤ route.deadlineMs →
      Unhindered network peerId packet nowMs c.fragments)
    (free' : ∀ packet route, E.codec.decodeRpcPacket payload = .ok packet →
      Envelope d network peerId false packet →
      d.outstandingRoutes.lookup (rpcKey network peerId packet.transactionId false) =
        some route → nowMs ≤ route.deadlineMs →
      Unhindered network peerId packet nowMs d.fragments) :
    Indistinct (Alike network nowMs)
      (WasmRpcCore.handleResponse E host network peerId payload nowMs c)
      (WasmRpcCore.handleResponse E host network peerId payload nowMs d) := by
  rw [WasmRpcCore.handleResponse]
  cases decoded : E.codec.decodeRpcPacket payload with
  | error e => exact ⟨rfl, alike⟩
  | ok packet =>
    refine indistinct_bind (validateEnvelope_indistinct packet false alike)
      (fun _ _ alike => alike) ?_
    intro _ c' d' valid valid' _
    obtain ⟨rfl, envelope⟩ := ensures_of_ok (validateEnvelope_cases false) valid
    obtain ⟨rfl, envelope'⟩ := ensures_of_ok (validateEnvelope_cases false) valid'
    have here : (rpcKey network peerId packet.transactionId false).network = network := rfl
    refine indistinct_get_bind ?_
    cases found : c'.outstandingRoutes.lookup
        (rpcKey network peerId packet.transactionId false) with
    | none =>
      cases found' : d'.outstandingRoutes.lookup
          (rpcKey network peerId packet.transactionId false) with
      | none => exact ⟨rfl, alike⟩
      | some route' =>
        -- only the second core still holds the transaction, which is over
        have late : ¬ nowMs ≤ route'.deadlineMs := by
          intro soon
          have missing := alike.symm.outstandingRoutes.timely here found' soon
          rw [found] at missing
          cases missing
        simp only [if_pos (UInt64.not_le.mp late)]
        exact ⟨rfl, { alike with outstandingRoutes := alike.outstandingRoutes.closed found' late }⟩
    | some route =>
      by_cases soon : nowMs ≤ route.deadlineMs
      · have found' := alike.outstandingRoutes.timely here found soon
        simp only [found', if_neg (UInt64.not_lt.mpr soon)]
        refine indistinct_bind (merge_indistinct alike left right
          (free packet route decoded envelope found soon)
          (free' packet route decoded envelope' found' soon)) (fun _ _ alike => alike) ?_
        intro merged c d ran ran' alike
        rw [← onFragments_ok ran] at found
        rw [← onFragments_ok ran'] at found'
        cases merged with
        | pending => exact ⟨rfl, alike⟩
        | complete whole =>
          refine indistinct_bind (acceptedResponse_indistinct whole alike)
            (fun _ _ alike => alike) ?_
          intro sessionId c' d' checked checked' _
          have kept := ensures_of_ok (@acceptedResponse_cases c E whole) checked
          have kept' := ensures_of_ok (@acceptedResponse_cases d E whole) checked'
          subst kept kept'
          refine indistinct_bind (acknowledge_indistinct sessionId alike found found')
            (fun _ _ alike => alike) ?_
          intro _ c d _ _ alike
          exact ⟨rfl, alike⟩
      · have closed : Alike network nowMs { c' with
            outstandingRoutes := c'.outstandingRoutes.erase
              (rpcKey network peerId packet.transactionId false) } d' :=
          { alike with
            outstandingRoutes := (alike.outstandingRoutes.symm.closed found soon).symm }
        simp only [if_pos (UInt64.not_le.mp soon)]
        cases found' : d'.outstandingRoutes.lookup
            (rpcKey network peerId packet.transactionId false) with
        | none => exact ⟨rfl, closed⟩
        | some route' =>
          have late : ¬ nowMs ≤ route'.deadlineMs := by
            intro timely
            have same := alike.symm.outstandingRoutes.timely here found' timely
            rw [found] at same
            exact soon (Option.some.inj same ▸ timely)
          simp only [if_pos (UInt64.not_le.mp late)]
          exact ⟨rfl, { closed with
            outstandingRoutes := closed.outstandingRoutes.closed found' late }⟩

/-! Updates. -/

private theorem drawTransactionId_congr
    (same : ∀ key, key.network = network →
      c.outstandingRoutes.lookup key = d.outstandingRoutes.lookup key) (attempts k : Nat) :
    WasmRpcCore.drawTransactionId host c network peerId attempts k =
      WasmRpcCore.drawTransactionId host d network peerId attempts k := by
  induction attempts generalizing k with
  | zero => rfl
  | succ attempts ih =>
    rw [WasmRpcCore.drawTransactionId, WasmRpcCore.drawTransactionId]
    cases host.fill k with
    | error e => rfl
    | ok drawn =>
      show (if _ ∧ (c.outstandingRoutes.lookup _).isNone = true then _ else _) =
        if _ ∧ (d.outstandingRoutes.lookup _).isNone = true then _ else _
      rw [same _ rfl, ih]

private theorem nextTransactionId_indistinct (alike : Alike network nowMs c d)
    (same : ∀ key, key.network = network →
      c.outstandingRoutes.lookup key = d.outstandingRoutes.lookup key) :
    Indistinct (Alike network nowMs) (WasmRpcCore.nextTransactionId host network peerId c)
      (WasmRpcCore.nextTransactionId host network peerId d) := by
  rw [WasmRpcCore.nextTransactionId]
  refine indistinct_get_bind ?_
  rw [drawTransactionId_congr same]
  cases WasmRpcCore.drawTransactionId host d network peerId 16 0 with
  | error e => exact ⟨rfl, alike⟩
  | ok transactionId => exact ⟨rfl, alike⟩

private theorem cleanRpcState_alike (alike : Alike network nowMs c d) :
    Alike network nowMs (c.cleanRpcState nowMs) (d.cleanRpcState nowMs) :=
  { alike with
    fragments := PendingAlike.removeWhere alike.fragments _
    outstandingRoutes := alike.outstandingRoutes.retain _ }

private theorem cleanRpcState_outstanding (alike : Alike network nowMs c d) {key : RpcKey}
    (here : key.network = network) :
    (c.cleanRpcState nowMs).outstandingRoutes.lookup key =
      (d.cleanRpcState nowMs).outstandingRoutes.lookup key := by
  show Finmap.lookup key (FMap.retain _ _) = Finmap.lookup key (FMap.retain _ _)
  rw [FMap.lookup_retain, FMap.lookup_retain]
  exact alike.outstandingRoutes key here

theorem buildRouteUpdate_indistinct (serverSessionId : UInt64) (forceFull : Bool)
    (alike : Alike network nowMs c d) :
    Indistinct (Alike network nowMs)
      (WasmRpcCore.buildRouteUpdate E host network peerId serverSessionId forceFull nowMs c)
      (WasmRpcCore.buildRouteUpdate E host network peerId serverSessionId forceFull nowMs d) := by
  have cleaned := cleanRpcState_alike alike
  have same := fun key => @cleanRpcState_outstanding _ _ _ _ alike key
  generalize ranC : c.cleanRpcState nowMs = c' at cleaned same
  generalize ranD : d.cleanRpcState nowMs = d' at cleaned same
  rw [WasmRpcCore.buildRouteUpdate]
  refine indistinct_modify_bind ?_
  rw [ranC, ranD]
  refine indistinct_get_bind ?_
  rw [cleaned.peerInitiator peerId]
  refine indistinct_bind (routes_indistinct (.runs _) cleaned) (fun _ _ alike => alike) ?_
  intro update c d built built' alike
  refine indistinct_bind (nextTransactionId_indistinct alike ?_) (fun _ _ alike => alike) ?_
  · intro key here
    rw [onRoutes_ok built, onRoutes_ok built']
    exact same key here
  intro transactionId c d _ _ alike
  refine indistinct_get_bind ?_
  rw [alike.serverPeerId]
  refine indistinct_modify_bind ⟨rfl, ?_⟩
  exact { alike with outstandingRoutes := alike.outstandingRoutes.insert _ _ }

theorem cleanExpired_indistinct (alike : Alike network nowMs c d) :
    Indistinct (Alike network nowMs) (WasmRpcCore.cleanExpired E host nowMs c)
      (WasmRpcCore.cleanExpired E host nowMs d) := by
  have cleaned := cleanRpcState_alike alike
  refine ⟨rfl, { cleaned with peerCenter := ?_ }⟩
  show (Center.cleanOutdated _ _ _ _).groups.lookup _ =
    (Center.cleanOutdated _ _ _ _).groups.lookup _
  rw [cleanOutdated_lookup, cleanOutdated_lookup, cleaned.peerCenter]

end Own

/-! The calls for another network. -/

section Foreign

variable {E : Env} {host : Host} {network groupKey : String} {nowMs : UInt64} {c : WasmRpcCore}
  {peerId : UInt32}

private theorem routes_keeps {α : Type} {op : RouteM α} (on : OnGroup host groupKey op)
    (other : network ≠ groupKey) : Keeps (Alike network nowMs c) (onRoutes op) := by
  intro d alike
  rw [ensures_onRoutes]
  exact (on.keeps other d.routes alike.routes).mono
    (fun _ _ related => { alike with routes := related })
    fun _ _ related => { alike with routes := related }

private theorem center_keeps {α : Type} {op : CenterM α}
    (keeps : Keeps (SameReports network c.peerCenter) op) :
    Keeps (Alike network nowMs c) (onCenter op) := by
  intro d alike
  rw [ensures_onCenter]
  exact (keeps d.peerCenter alike.peerCenter).mono
    (fun _ _ related => { alike with peerCenter := related })
    fun _ _ related => { alike with peerCenter := related }

private theorem merge_keeps (packet : RpcPacket) {atMs : UInt64} (le : atMs ≤ nowMs)
    (other : network ≠ groupKey) :
    Keeps (Alike network nowMs c) (onFragments (mergePacket groupKey peerId packet atMs)) := by
  intro d alike
  rw [ensures_onFragments]
  have foreign : (rpcKey groupKey peerId packet.transactionId packet.isRequest).network ≠ network :=
    fun same => other (Eq.symm same)
  refine (mergePacket_cases groupKey peerId packet atMs d.fragments).mono ?_ ?_
  · intro merged t move
    exact { alike with fragments := PendingAlike.merged alike.fragments le foreign move }
  · intro e t move
    exact { alike with fragments := PendingAlike.merged alike.fragments le foreign move }

private theorem initiated_keeps {d : WasmRpcCore} (alike : Alike network nowMs c d)
    (other : network ≠ groupKey) (initiator : Bool) :
    Alike network nowMs c
      { d with peerInitiator := d.peerInitiator.insert (groupKey, peerId) initiator } :=
  { alike with
    peerInitiator := by
      intro peerId'
      have elsewhere : (network, peerId') ≠ (groupKey, peerId) :=
        fun same => other (congrArg Prod.fst same)
      rw [Finmap.lookup_insert_of_ne _ elsewhere]
      exact alike.peerInitiator peerId' }

theorem addPeer_keeps (publicKey : Bytes) (other : network ≠ groupKey) :
    Keeps (Alike network nowMs c) (WasmRpcCore.addPeer host groupKey peerId publicKey) := by
  have last : ∀ d, Alike network nowMs c d → Ensures (modify fun c : WasmRpcCore =>
      { c with peerInitiator := c.peerInitiator.insert (groupKey, peerId) false } : CoreM Unit) d
      (fun _ d' => Alike network nowMs c d') fun _ d' => Alike network nowMs c d' :=
    fun d alike => initiated_keeps alike other false
  refine (routes_keeps (onGroup_addPeer host groupKey peerId publicKey) other).bind fun _ => ?_
  refine keeps_get_bind fun d alike => ?_
  rw [ensures_ite]
  refine ⟨fun _ => ?_, fun _ => last d alike⟩
  rw [ensures_bind, ensures_set]
  have configured : Alike network nowMs c
      { d with configuredGroups := d.configuredGroups.insert groupKey () } :=
    { alike with
      configuredGroups := by
        rw [Finmap.lookup_insert_of_ne _ other]
        exact alike.configuredGroups }
  refine ((routes_keeps (.runs _) other).bind fun _ => ?_) _ configured
  refine (routes_keeps (onGroup_setMyNoisePublicKey host groupKey _) other).bind fun _ => ?_
  exact last

theorem removePeer_keeps (other : network ≠ groupKey) :
    Keeps (Alike network nowMs c) (WasmRpcCore.removePeer E host groupKey peerId) := by
  refine (routes_keeps (.runs _) other).bind fun _ => ?_
  intro d alike
  refine ⟨alike.routes, ?_, alike.configuredGroups, ?_, ?_, ?_, alike.publicKey,
    alike.hostname, alike.serverPeerId⟩
  · show _ = (d.peerCenter.removePeer _ _ _).groups.lookup _
    rw [removePeer_lookup, if_neg other]
    exact alike.peerCenter
  · intro peerId'
    show _ = Finmap.lookup _ (d.peerInitiator.erase _)
    have elsewhere : (network, peerId') ≠ (groupKey, peerId) :=
      fun same => other (congrArg Prod.fst same)
    rw [Finmap.lookup_erase_ne elsewhere]
    exact alike.peerInitiator peerId'
  · refine PendingAlike.removed alike.fragments ?_
    intro key p here chosen
    have own : key.network = groupKey := eq_of_beq (Bool.and_eq_true_iff.mp chosen).1
    exact absurd (here.symm.trans own) other
  · refine alike.outstandingRoutes.dropped ?_
    intro key route here _
    have elsewhere : (key.network != groupKey) = true := by
      rw [here]
      exact bne_iff_ne.mpr other
    rw [elsewhere, Bool.true_or]

private theorem serve_keeps (descriptor : RpcDescriptor) (request : Bytes)
    (other : network ≠ groupKey) :
    Keeps (Alike network nowMs c)
      (WasmRpcCore.serve E host groupKey peerId descriptor request) := by
  rw [WasmRpcCore.serve]
  refine .ite (fun _ => ?_) fun _ => .ite (fun _ => ?_) fun _ => keeps_pure _
  · refine .ite (fun _ => keeps_pure _) fun _ => ?_
    cases E.codec.decodeSyncRouteInfoRequest request with
    | error e => exact keeps_throw _
    | ok sync =>
      intro d alike
      rw [ensures_bind, ensures_modify]
      have on := onGroup_handleSyncRouteInfoRequest host groupKey E.codec peerId request
      exact ((routes_keeps on other).bind fun _ => keeps_pure _) _
        (initiated_keeps alike other _)
  · refine .ite (fun _ => ?_) fun _ => .ite (fun _ => ?_) fun _ => keeps_pure _
    · have reported :=
        @reportPeers_keeps groupKey network c.peerCenter E.codec E.hash peerId request
        (host.clock 0) other
      exact (center_keeps reported).bind fun _ => keeps_pure _
    · have asked := @getGlobalPeerMap_keeps groupKey network c.peerCenter E.codec request other
      exact (center_keeps asked).bind fun _ => keeps_pure _

private theorem answerRequest_keeps (packet : RpcPacket) (other : network ≠ groupKey) :
    Keeps (Alike network nowMs c)
      (WasmRpcCore.answerRequest E host groupKey peerId packet) := by
  rw [WasmRpcCore.answerRequest]
  refine .bind (.ite (fun _ => keeps_throw _) fun _ => keeps_pure _) fun _ => ?_
  cases packet.descriptor with
  | none => exact keeps_throw _
  | some descriptor =>
    cases E.codec.decodeRpcRequest packet.body with
    | error e => exact keeps_throw _
    | ok request =>
      exact (serve_keeps descriptor request.request other).bind fun _ =>
        keeps_get_bind fun _ alike => alike

private theorem validateEnvelope_keeps (packet : RpcPacket) (isRequest : Bool) :
    Keeps (Alike network nowMs c)
      (WasmRpcCore.validateEnvelope packet groupKey peerId isRequest) := by
  intro d alike
  refine (validateEnvelope_cases isRequest).mono ?_ ?_
  · rintro _ _ ⟨rfl, _⟩
    exact alike
  · rintro _ _ ⟨rfl, _⟩
    exact alike

theorem handleRequest_keeps (payload : Bytes) {atMs : UInt64} (le : atMs ≤ nowMs)
    (other : network ≠ groupKey) :
    Keeps (Alike network nowMs c)
      (WasmRpcCore.handleRequest E host groupKey peerId payload atMs) := by
  rw [WasmRpcCore.handleRequest]
  cases E.codec.decodeRpcPacket payload with
  | error e => exact keeps_throw _
  | ok packet =>
    refine (validateEnvelope_keeps packet true).bind fun _ => ?_
    refine (merge_keeps packet le other).bind fun merged => ?_
    cases merged with
    | pending => exact keeps_pure _
    | complete whole => exact answerRequest_keeps whole other

private theorem erased_keeps {d : WasmRpcCore} (alike : Alike network nowMs c d) {key : RpcKey}
    (foreign : key.network ≠ network) :
    Alike network nowMs c { d with outstandingRoutes := d.outstandingRoutes.erase key } :=
  { alike with
    outstandingRoutes := by
      intro key' here
      have elsewhere : key' ≠ key := fun same => foreign (same ▸ here)
      rw [Finmap.lookup_erase_ne elsewhere]
      exact alike.outstandingRoutes key' here }

private theorem acknowledge_keeps {key : RpcKey} (sessionId : UInt64)
    (foreign : key.network ≠ network) (other : network ≠ groupKey) :
    Keeps (Alike network nowMs c)
      (WasmRpcCore.acknowledge host groupKey peerId key sessionId) := by
  rw [WasmRpcCore.acknowledge]
  refine keeps_get_bind fun d alike => ?_
  cases d.outstandingRoutes.lookup key with
  | none => exact alike
  | some outstanding =>
    rw [ensures_bind, ensures_set]
    exact ((routes_keeps (.runs _) other).bind fun _ => routes_keeps (.runs _) other) _
      (erased_keeps alike foreign)

theorem handleResponse_keeps (payload : Bytes) {atMs : UInt64} (le : atMs ≤ nowMs)
    (other : network ≠ groupKey) :
    Keeps (Alike network nowMs c)
      (WasmRpcCore.handleResponse E host groupKey peerId payload atMs) := by
  rw [WasmRpcCore.handleResponse]
  cases E.codec.decodeRpcPacket payload with
  | error e => exact keeps_throw _
  | ok packet =>
    have foreign : (rpcKey groupKey peerId packet.transactionId false).network ≠ network :=
      fun same => other (Eq.symm same)
    refine (validateEnvelope_keeps packet false).bind fun _ => ?_
    refine keeps_get_bind fun d alike => ?_
    cases d.outstandingRoutes.lookup (rpcKey groupKey peerId packet.transactionId false) with
    | none => exact alike
    | some route =>
      rw [ensures_ite]
      refine ⟨fun _ => erased_keeps alike foreign, fun _ => ?_⟩
      refine ((merge_keeps packet le other).bind fun merged => ?_) d alike
      cases merged with
      | pending => exact keeps_pure _
      | complete whole =>
        refine .bind ?_ fun sessionId => ?_
        · intro d alike
          exact (acceptedResponse_cases E whole).mono (fun _ _ same => same ▸ alike)
            fun _ _ same => same ▸ alike
        · exact (acknowledge_keeps sessionId foreign other).bind fun _ => keeps_pure _

private theorem cleanRpcState_keeps {d : WasmRpcCore} (alike : Alike network nowMs c d)
    {atMs : UInt64} (le : atMs ≤ nowMs) : Alike network nowMs c (d.cleanRpcState atMs) :=
  { alike with
    fragments := PendingAlike.removed alike.fragments fun _ _ _ old => expired_later le old
    outstandingRoutes := by
      refine alike.outstandingRoutes.dropped ?_
      intro key route _ soon
      exact decide_eq_true (UInt64.le_trans le soon) }

theorem buildRouteUpdate_keeps (serverSessionId : UInt64) (forceFull : Bool) {atMs : UInt64}
    (le : atMs ≤ nowMs) (other : network ≠ groupKey) :
    Keeps (Alike network nowMs c)
      (WasmRpcCore.buildRouteUpdate E host groupKey peerId serverSessionId forceFull atMs) := by
  intro d alike
  rw [WasmRpcCore.buildRouteUpdate, ensures_bind, ensures_modify]
  refine (keeps_get_bind fun d alike => ?_) _ (cleanRpcState_keeps alike le)
  refine ((routes_keeps (.runs _) other).bind fun update => ?_) d alike
  refine .bind ?_ fun transactionId => ?_
  · rw [WasmRpcCore.nextTransactionId]
    refine keeps_get_bind fun d alike => ?_
    cases WasmRpcCore.drawTransactionId host d groupKey peerId 16 0 with
    | error e => exact alike
    | ok transactionId => exact alike
  · refine keeps_get_bind fun d alike => ?_
    rw [ensures_bind, ensures_modify]
    exact { alike with
      outstandingRoutes := by
        intro key here
        have elsewhere : key ≠ rpcKey groupKey peerId transactionId false :=
          fun same => other (here.symm.trans (congrArg RpcKey.network same))
        rw [Finmap.lookup_insert_of_ne _ elsewhere]
        exact alike.outstandingRoutes key here }

end Foreign

end EasyTierEdge.Rpc.NetworkCalls
