/- module: EasyTierEdge/Server/Chronicle
   source: cloudflare/src/server.ts, cloudflare/wasm/src/secure.rs
   digest: The calls on `SecurePeer`s behind every state of the server, and what rests on them. -/

import EasyTierEdge.Secure.Handshake
import EasyTierEdge.Server.Refinement

set_option autoImplicit false
set_option relaxedAutoImplicit false

namespace EasyTierEdge.Server.Chronicle

open Lib.Fallible Lib.Machine
open Packet (Bytes PacketHeader encryptedFlag)
open Rpc.Core (WasmRpcCore)
open Rpc.Scheduler (RpcPeer)
open Secure.Session Secure.Peer Secure.Connections
open Secure.Handshake (after_snoc)
open Rooms Sockets Relay Books Ledger Moves Refinement

variable {HS : Type}

/-- What the server calls: constructors with the configured keys, destructors, and what is
permitted in between. -/
inductive Lawful (V : ServerEnv HS) (w : World HS) : Event → Prop
  | construct (nowMs : UInt64) : Lawful V w
      (.construct V.config.localPrivateKey V.config.localPublicKey serverPeerId nowMs)
  | permitted {i : Nat} {call : Event} (permitted : Permitted V w i call) : Lawful V w call
  | drop (i : Nat) (nowMs : UInt64) : Lawful V w (.drop i nowMs)

/-- At some time the connection proved to own the key it has. -/
def Proved (E : SecureEnv HS) (es : List Event) (o : Connection) : Prop :=
  ∃ earlier later, es = earlier ++ later ∧ Proves (World.after E earlier) o o.remotePublicKey

/-- What is on record of a connection. -/
structure OnRecord (E : SecureEnv HS) (es : List Event) (o : Connection) : Prop where
  fresh : o.phase = .msg1 → o.remotePublicKey = []
  proved : o.phase = .msg3 ∨ o.phase = .ready → o.remotePublicKey ≠ [] → Proved E es o
  sized : o.phase = .ready → o.remotePublicKey.length = 32

/-- Where a packet for connection `c` came from. -/
inductive Origin (V : ServerEnv HS) (hs : List Happening) (es : List Event) (g : Grid HS)
    (c : Nat) : Bytes → Prop
  | returned {o : Connection} {call : Event} {packet : Bytes} {earlier later : List Event}
      (there : g.objects[c]? = some o) (history : es = earlier ++ call :: later)
      (returned : Returned V (World.after V.secure earlier) o.secure call packet) :
      Origin V hs es g c packet
  | pong {o : Connection} {frame pong : Bytes} {header : PacketHeader} {inputs : Inputs}
      (received : ⟨.message c (.binary frame), inputs⟩ ∈ hs) (there : g.objects[c]? = some o)
      (settled : o.phase = .ready ∨ o.phase = .closed) (proved : Proved V.secure es o)
      (parsed : Packet.parsePacket frame = .ok header) (direct : header.toPeerId = serverPeerId)
      (own : header.fromPeerId = o.peerId) (ping : header.packetType = packetTypePing)
      (plain : header.flags &&& encryptedFlag = 0)
      (answer : Packet.preparePong frame = .ok pong) : Origin V hs es g c pong
  | relayed {o : Connection} {f : Forward} (there : g.objects[c]? = some o)
      (settled : o.phase = .ready ∨ o.phase = .closed) (proved : Proved V.secure es o)
      (member : f ∈ g.forwards) (target : f.target = c) : Origin V hs es g c f.forwarded

/-- The calls that led to the world of `g`, what is on record of its connections, and where all that
was sent came from. -/
structure Recorded (V : ServerEnv HS) (hs : List Happening) (es : List Event) (g : Grid HS) :
    Prop where
  world : World.after V.secure es = g.world
  lawful : AllSteps (World.step V.secure) (fun _ => Lawful V) World.empty es
  records : ∀ (c : Nat) (o : Connection), g.objects[c]? = some o → OnRecord V.secure es o
  sends : ∀ sent ∈ g.sends, Origin V hs es g sent.connection sent.packet

/-! What is on record stays on record. -/

section Records

variable {E : SecureEnv HS} {es : List Event} {o o' : Connection}

private theorem Proved.later (proved : Proved E es o) (more : List Event) :
    Proved E (es ++ more) o := by
  obtain ⟨earlier, later, rfl, proves⟩ := proved
  exact ⟨earlier, later ++ more, by simp, proves⟩

private theorem Proved.same {c : Nat} (proved : Proved E es o) (secure : o'.secure = o.secure)
    (peer : rpcPeer c o' = rpcPeer c o) : Proved E es o' := by
  obtain ⟨earlier, later, split, key, own, on, name, id, pinned, sized⟩ := proved
  refine ⟨earlier, later, split, key, own, ?_, ?_, ?_, pinned, ?_⟩
  · rw [secure]
    exact on
  · exact name.trans (congrArg RpcPeer.networkName peer).symm
  · exact id.trans (congrArg RpcPeer.peerId peer).symm
  · have shown : o'.remotePublicKey = o.remotePublicKey := congrArg RpcPeer.remotePublicKey peer
    rw [shown]
    exact sized

private theorem OnRecord.later (record : OnRecord E es o) (more : List Event) :
    OnRecord E (es ++ more) o where
  fresh := record.fresh
  proved standing known := (record.proved standing known).later more
  sized := record.sized

private theorem proves_card {w : World HS} {key : Bytes} :
    Proves w (card o) key ↔ Proves w o key := Iff.rfl

private theorem OnRecord.card (record : OnRecord E es o) (same : Books.card o' = Books.card o) :
    OnRecord E es o' := by
  have phase : o'.phase = o.phase := shown Connection.phase same fun _ => rfl
  have key : o'.remotePublicKey = o.remotePublicKey :=
    shown Connection.remotePublicKey same fun _ => rfl
  refine ⟨?_, ?_, ?_⟩
  · rw [phase, key]
    exact record.fresh
  · rw [phase, key]
    intro standing known
    obtain ⟨earlier, later, split, proves⟩ := record.proved standing known
    refine ⟨earlier, later, split, ?_⟩
    rw [key, ← proves_card, same]
    exact proves
  · rw [phase, key]
    exact record.sized

theorem OnRecord.ready (record : OnRecord E es o) (ready : o.phase = .ready) : Proved E es o := by
  refine record.proved (Or.inr ready) fun empty => ?_
  have sized := record.sized ready
  rw [empty] at sized
  cases sized

private theorem OnRecord.closed (closed : o.phase = .closed) : OnRecord E es o := by
  constructor
  · rw [closed]
    intro impossible
    cases impossible
  · rw [closed]
    rintro (impossible | impossible)
    · cases impossible
    · cases impossible
  · rw [closed]
    intro impossible
    cases impossible

private theorem records_modify {objects : List Connection} {c : Nat} {f : Connection → Connection}
    (records : ∀ (d : Nat) (o : Connection), objects[d]? = some o → OnRecord E es o)
    (changed : ∀ o, objects[c]? = some o → OnRecord E es o → OnRecord E es (f o)) :
    ∀ (d : Nat) (o' : Connection), (objects.modify c f)[d]? = some o' → OnRecord E es o' := by
  intro d o' there'
  obtain ⟨o, there, same⟩ := modified_object there'
  have record := records d o there
  rw [same]
  split
  · rename_i own
    subst own
    exact changed o there record
  · exact record

end Records

/-! How a state may go on. -/

/-- Connections keep their `SecurePeer`, and once ready also who they are. -/
structure Onward (g g' : Grid HS) : Prop where
  objects : ∀ (c : Nat) (o : Connection), g.objects[c]? = some o →
    ∃ o', g'.objects[c]? = some o' ∧ o'.secure = o.secure ∧
      (o.phase = .ready ∨ o.phase = .closed →
        (o'.phase = .ready ∨ o'.phase = .closed) ∧ rpcPeer c o' = rpcPeer c o)
  forwards : ∃ more, g'.forwards = g.forwards ++ more

private theorem Onward.still {g g' : Grid HS} (objects : g'.objects = g.objects)
    (forwards : g'.forwards = g.forwards) : Onward g g' where
  objects c o there := ⟨o, by rw [objects]; exact there, rfl, fun settled => ⟨settled, rfl⟩⟩
  forwards := ⟨[], by rw [forwards, List.append_nil]⟩

private theorem Onward.modify {g g' : Grid HS} {c : Nat} {f : Connection → Connection}
    (objects : g'.objects = g.objects.modify c f) (forwards : g'.forwards = g.forwards)
    (secure : ∀ o, (f o).secure = o.secure)
    (settled : ∀ o, g.objects[c]? = some o → o.phase = .ready ∨ o.phase = .closed →
      ((f o).phase = .ready ∨ (f o).phase = .closed) ∧ rpcPeer c (f o) = rpcPeer c o) :
    Onward g g' where
  objects d o there := by
    refine ⟨_, by rw [objects]; exact object_modified there, ?_, ?_⟩
    · split
      · exact secure o
      · rfl
    · intro standing
      split
      · rename_i own
        subst own
        exact settled o there standing
      · exact ⟨standing, rfl⟩
  forwards := ⟨[], by rw [forwards, List.append_nil]⟩

private theorem Origin.onward {V : ServerEnv HS} {hs : List Happening} {es : List Event}
    {g g' : Grid HS}
    {c : Nat} {packet : Bytes} (origin : Origin V hs es g c packet) (onward : Onward g g')
    (more : List Event) : Origin V hs (es ++ more) g' c packet := by
  cases origin with
  | @returned o call _ earlier later there history returned =>
    obtain ⟨o', there', secure, _⟩ := onward.objects c o there
    have history' : es ++ more = earlier ++ call :: (later ++ more) := by
      rw [history, List.append_assoc, List.cons_append]
    exact .returned there' history' (secure ▸ returned)
  | @pong o _ _ _ _ received there settled proved parsed direct own ping plain answer =>
    obtain ⟨o', there', secure, kept⟩ := onward.objects c o there
    obtain ⟨settled', peer⟩ := kept settled
    have id : o'.peerId = o.peerId := congrArg RpcPeer.peerId peer
    exact .pong received there' settled' ((proved.later more).same secure peer) parsed direct
      (id ▸ own) ping plain answer
  | @relayed o f there settled proved member target =>
    obtain ⟨o', there', secure, kept⟩ := onward.objects c o there
    obtain ⟨settled', peer⟩ := kept settled
    obtain ⟨others, grown⟩ := onward.forwards
    refine .relayed there' settled' ((proved.later more).same secure peer) ?_ target
    rw [grown]
    exact List.mem_append_left _ member

section Moving

variable {V : ServerEnv HS} {hs : List Happening} {g g' : Grid HS}

private theorem unsettled {o : Connection} {phase : ConnectionPhase} (moving : o.phase = phase)
    (early : phase = .msg1 ∨ phase = .msg3) : ¬ (o.phase = .ready ∨ o.phase = .closed) := by
  rw [moving]
  rcases early with rfl | rfl
  · decide
  · decide

private theorem Move.onward {e : ServerEvent} (move : Move V e g g') : Onward g g' := by
  cases move with
  | quiet same =>
    refine ⟨fun c o there => ?_, same.forwards⟩
    obtain ⟨o', there', cards⟩ := same.object' there
    have phase : o'.phase = o.phase := shown Connection.phase cards fun _ => rfl
    refine ⟨o', there', shown Connection.secure cards fun _ => rfl, fun settled => ⟨?_, ?_⟩⟩
    · rw [phase]
      exact settled
    · rw [← rpcPeer_card c o', cards, rpcPeer_card]
  | called => exact .still rfl rfl
  | returned => exact .still rfl rfl
  | passed => exact .still rfl rfl
  | opened =>
    refine ⟨fun c o there => ⟨o, object_opened there, rfl, fun settled => ⟨settled, rfl⟩⟩, [], ?_⟩
    exact (List.append_nil _).symm
  | identified there msg1 =>
    refine .modify rfl rfl (fun _ => rfl) fun o found settled => ?_
    rw [there] at found
    cases Option.some.inj found
    exact absurd settled (unsettled msg1 (Or.inl rfl))
  | answered there msg1 =>
    refine .modify rfl rfl (fun _ => rfl) fun o found settled => ?_
    rw [there] at found
    cases Option.some.inj found
    exact absurd settled (unsettled msg1 (Or.inl rfl))
  | keyed there msg3 =>
    refine .modify rfl rfl (fun _ => rfl) fun o found settled => ?_
    rw [there] at found
    cases Option.some.inj found
    exact absurd settled (unsettled msg3 (Or.inr rfl))
  | entered => exact .still rfl rfl
  | completed there msg3 =>
    exact .modify rfl rfl (fun _ => rfl) fun _ _ _ => ⟨Or.inl rfl, rfl⟩
  | discarded => exact .modify rfl rfl (fun _ => rfl) fun _ _ _ => ⟨Or.inr rfl, rfl⟩
  | retired => exact .modify rfl rfl (fun _ => rfl) fun _ _ _ => ⟨Or.inr rfl, rfl⟩
  | freed => exact .modify rfl rfl (fun _ => rfl) fun _ _ settled => ⟨settled, rfl⟩
  | armed => exact .still rfl rfl

private theorem Recorded.next {es more : List Event} (recorded : Recorded V hs es g)
    (onward : Onward g g') (world : World.after V.secure (es ++ more) = g'.world)
    (lawful : AllSteps (World.step V.secure) (fun _ => Lawful V) World.empty (es ++ more))
    (records : ∀ (c : Nat) (o : Connection), g'.objects[c]? = some o →
      OnRecord V.secure (es ++ more) o)
    (sends : ∀ sent ∈ g'.sends,
      sent ∈ g.sends ∨ Origin V hs (es ++ more) g' sent.connection sent.packet) :
    Recorded V hs (es ++ more) g' := by
  refine ⟨world, lawful, records, fun sent member => ?_⟩
  rcases sends sent member with before | origin
  · exact (recorded.sends sent before).onward onward more
  · exact origin

section Steps

variable {es : List Event} (recorded : Recorded V hs es g)

include recorded

private theorem Recorded.still (onward : Onward g g') (world : g'.world = g.world)
    (records : ∀ (c : Nat) (o : Connection), g'.objects[c]? = some o → OnRecord V.secure es o)
    (sends : ∀ sent ∈ g'.sends,
      sent ∈ g.sends ∨ Origin V hs es g' sent.connection sent.packet) :
    ∃ more, Recorded V hs (es ++ more) g' := by
  refine ⟨[], recorded.next onward ?_ ?_ ?_ ?_⟩
  · rw [List.append_nil, recorded.world, world]
  · rw [List.append_nil]
    exact recorded.lawful
  · rw [List.append_nil]
    exact records
  · rw [List.append_nil]
    exact sends

private theorem Recorded.called {call : Event} (onward : Onward g g')
    (lawful : Lawful V g.world call) (world : g'.world = g.world.step V.secure call)
    (records : ∀ (c : Nat) (o : Connection), g'.objects[c]? = some o → OnRecord V.secure es o)
    (sends : ∀ sent ∈ g'.sends,
      sent ∈ g.sends ∨ Origin V hs (es ++ [call]) g' sent.connection sent.packet) :
    ∃ more, Recorded V hs (es ++ more) g' := by
  refine ⟨[call], recorded.next onward ?_ ?_ ?_ sends⟩
  · rw [after_snoc, recorded.world, world]
  · refine recorded.lawful.snoc ?_
    show Lawful V (World.after V.secure es) call
    rw [recorded.world]
    exact lawful
  · exact fun c o there => (records c o there).later [call]

private theorem Recorded.moved {h : Happening} (happened : h ∈ hs) (move : Move V h.event g g') :
    ∃ more, Recorded V hs (es ++ more) g' := by
  have onward := Move.onward move
  have old {sends : List Sent} (same : sends = g.sends) {es' : List Event} :
      ∀ sent ∈ sends, sent ∈ g.sends ∨ Origin V hs es' g' sent.connection sent.packet :=
    fun sent member => Or.inl (same ▸ member)
  cases move with
  | quiet same =>
    refine recorded.still onward same.world (fun c o' there' => ?_) (old same.sends)
    obtain ⟨o, there, cards⟩ := same.object there'
    exact (recorded.records c o there).card cards
  | called there permitted =>
    exact recorded.called onward (.permitted permitted) rfl recorded.records (old rfl)
  | @returned c o call packet time there returned =>
    refine recorded.called onward (.permitted returned.permitted) rfl recorded.records
      fun sent member => ?_
    rcases List.mem_append.mp member with before | last
    · exact Or.inl before
    · rw [List.mem_singleton.mp last]
      rw [← recorded.world] at returned
      exact Or.inr (.returned there rfl returned)
  | @passed c o packet time there passed =>
    refine recorded.still onward rfl recorded.records fun sent member => ?_
    rcases List.mem_append.mp member with before | last
    · exact Or.inl before
    · rw [List.mem_singleton.mp last]
      have proved (ready : o.phase = .ready) : Proved V.secure es o :=
        (recorded.records c o there).ready ready
      cases passed with
      | pong event ready parsed direct own ping plain answer =>
        obtain ⟨_, inputs⟩ := h
        cases event
        exact Or.inr
          (.pong happened there (Or.inl ready) (proved ready) parsed direct own ping plain answer)
      | relayed ready handed target =>
        exact Or.inr (.relayed there (Or.inl ready) (proved ready) handed target)
  | opened room =>
    refine recorded.called onward (.construct _) rfl (fun c o there => ?_) (old rfl)
    rcases opened_object there with before | ⟨_, rfl⟩
    · exact recorded.records c o before
    · refine ⟨fun _ => rfl, fun _ known => absurd rfl known, fun impossible => ?_⟩
      cases impossible
  | @identified c o _ _ there msg1 =>
    refine recorded.still onward rfl (records_modify recorded.records fun u found record => ?_)
      (old rfl)
    rw [there] at found
    cases Option.some.inj found
    refine ⟨fun _ => record.fresh msg1, fun _ known => absurd (record.fresh msg1) known, ?_⟩
    intro impossible
    have ready : o.phase = .ready := impossible
    rw [msg1] at ready
    cases ready
  | @answered c o there msg1 =>
    refine recorded.still onward rfl (records_modify recorded.records fun u found record => ?_)
      (old rfl)
    rw [there] at found
    cases Option.some.inj found
    exact ⟨fun _ => record.fresh msg1, fun _ known => absurd (record.fresh msg1) known,
      fun impossible => by cases impossible⟩
  | @keyed c o remotePublicKey there msg3 proves =>
    refine recorded.still onward rfl (records_modify recorded.records fun u found record => ?_)
      (old rfl)
    rw [there] at found
    cases Option.some.inj found
    have waiting {phase : ConnectionPhase} (other : ConnectionPhase.msg3 ≠ phase) :
        ¬ o.phase = phase := by
      rw [msg3]
      exact other
    refine ⟨fun impossible => absurd impossible (waiting (by decide)), fun _ _ => ?_,
      fun impossible => absurd impossible (waiting (by decide))⟩
    rw [← recorded.world] at proves
    exact ⟨es, [], (List.append_nil es).symm, proves⟩
  | entered => exact recorded.still onward rfl recorded.records (old rfl)
  | @completed c o there msg3 sized =>
    refine recorded.still onward rfl (records_modify recorded.records fun u found record => ?_)
      (old rfl)
    rw [there] at found
    cases Option.some.inj found
    refine ⟨fun impossible => ?_, fun _ => record.proved (Or.inl msg3), fun _ => sized⟩
    cases impossible
  | discarded there unready =>
    exact recorded.called onward (.drop _ _) rfl
      (records_modify recorded.records fun _ _ _ => .closed rfl) (old rfl)
  | retired there ready =>
    exact recorded.still onward rfl (records_modify recorded.records fun _ _ _ => .closed rfl)
      (old rfl)
  | freed there closed =>
    exact recorded.called onward (.drop _ _) rfl
      (records_modify recorded.records fun _ _ record =>
        ⟨record.fresh, record.proved, record.sized⟩)
      (old rfl)
  | armed => exact recorded.still onward rfl recorded.records (old rfl)

end Steps

end Moving

/-- Whatever happens to the server, there is a record. -/
theorem run_recorded {V : ServerEnv HS} {core : WasmRpcCore}
    (built : WasmRpcCore.new V.config.localPublicKeyBytes V.config.hostname serverPeerId = .ok core)
    (inputs : Inputs) (hs : List Happening) :
    ∃ es, Recorded V hs es (run (step V) (start core inputs) hs).host.ambient := by
  refine run_kept built (P := fun g => ∃ es, Recorded V hs es g) ?_ ?_ inputs ?_
  · rintro h happened g g' move ⟨es, recorded⟩
    obtain ⟨more, recorded'⟩ := recorded.moved happened move
    exact ⟨es ++ more, recorded'⟩
  · rintro g ⟨es, recorded⟩
    obtain ⟨more, recorded'⟩ := @Recorded.still _ V hs g (fired g) es recorded (.still rfl rfl) rfl
      recorded.records fun sent member => Or.inl member
    exact ⟨es ++ more, recorded'⟩
  · refine ⟨[], rfl, .nil, fun c o there => ?_, fun sent member => ?_⟩
    · cases there
    · cases member

end EasyTierEdge.Server.Chronicle
