/- module: EasyTierEdge/Server/Registries
   source: cloudflare/src/server.ts, EasyTierServer
   digest: In every run of the server the registries agree between events. -/

import EasyTierEdge.Server.Handlers
import EasyTierEdge.Wire

set_option autoImplicit false
set_option relaxedAutoImplicit false

namespace EasyTierEdge.Server.Registries

open Lib.AscendingMap Lib.Fallible Lib.FiniteMap Lib.Machine Lib.OrderedMap
open Packet (Bytes)
open Rpc.Core (WasmRpcCore)
open Rpc.Scheduler (EasyTierRpc RouteSyncFailure)
open Secure.Session Secure.Peer Secure.Connections
open Rooms Sockets Relay Books Ledger Milestones Cascade Handlers
open Relay.EasyTierServer

variable {HS : Type} {V : ServerEnv HS} {k : Nat} {F : List Forward} {s : ServerState HS} {c : Nat}

/-! Messages. -/

theorem handleMessage_sound (sound : Sound V none none [] k F s) (data : MessageData) :
    Ensures (handleMessage V c data) s
      (fun _ s' => ∃ F', Sound V none none [] k F' s' ∧
        (F' = F ∨ ∃ frame, data = .binary frame ∧ Grown s.host.ambient c frame F F'))
      (fun _ s' => ∃ joining F', (joining = none ∨ joining = some c) ∧
        Sound V joining none [] k F' s' ∧
        (F' = F ∨ ∃ frame, data = .binary frame ∧ Grown s.host.ambient c frame F F')) := by
  unfold handleMessage
  cases data with
  | text => exact ⟨none, F, Or.inl rfl, sound, Or.inl rfl⟩
  | binary frame =>
    dsimp only
    rw [ensures_ite]
    refine ⟨fun _ => ⟨none, F, Or.inl rfl, sound, Or.inl rfl⟩, fun _ => ?_⟩
    rw [ensures_bind, ensures_orThrow]
    refine ⟨fun header parsed => ?_, fun _ _ => ⟨none, F, Or.inl rfl, sound, Or.inl rfl⟩⟩
    rw [ensures_bind, Cascade.ensures_object]
    refine ⟨fun o there => ?_, fun _ => ⟨none, F, Or.inl rfl, sound, Or.inl rfl⟩⟩
    cases phase : o.phase with
    | msg1 =>
      exact (handleHandshakeMessage1_sound sound there phase frame header.packetType).mono
        (fun _ _ ended => ⟨F, ended, Or.inl rfl⟩)
        fun _ _ ended => ⟨none, F, Or.inl rfl, ended, Or.inl rfl⟩
    | msg3 =>
      refine (handleHandshakeMessage3_sound sound there phase frame header.packetType).mono
        (fun _ _ ended => ⟨F, ended, Or.inl rfl⟩) ?_
      rintro _ _ ⟨joining, alone, ended⟩
      exact ⟨joining, F, alone, ended, Or.inl rfl⟩
    | ready =>
      refine (handleReadyPacket_sound sound there phase parsed).mono ?_ ?_
      · rintro _ _ ⟨F', ended, grown⟩
        exact ⟨F', ended, Or.inr ⟨frame, rfl, grown⟩⟩
      · rintro _ _ ⟨F', ended, grown⟩
        exact ⟨none, F', Or.inl rfl, ended, Or.inr ⟨frame, rfl, grown⟩⟩
    | closed => exact ⟨F, sound, Or.inl rfl⟩

/-! Maintenance. -/

theorem closeFailed_sound (failures : List RouteSyncFailure) (sound : Sound V none none [] k F s) :
    Ensures (closeFailed V failures) s (fun _ s' => Sound V none none [] k F s')
      (fun _ s' => Sound V none none [] k F s') := by
  induction failures generalizing s with
  | nil => exact sound
  | cons failure rest ih =>
    rw [closeFailed, ensures_bind, ensures_grid]
    cases s.host.ambient.rooms.get failure.peer.networkName failure.peer.peerId with
    | none => exact ih sound
    | some c =>
      dsimp only
      rw [ensures_bind]
      exact (close_sound sound (Or.inl rfl) _ _).mono (fun _ _ closed => ih closed)
        fun _ _ closed => closed

private theorem maintainAll_sound (now : Nat) (connections : List Nat)
    (sound : Sound V none none [] k F s) :
    Ensures (maintainAll V now connections) s (fun _ s' => Sound V none none [] k F s')
      (fun _ s' => Sound V none none [] k F s') := by
  induction connections generalizing s with
  | nil => exact sound
  | cons c rest ih =>
    rw [maintainAll, ensures_bind, ensures_grid, ensures_ite]
    refine ⟨fun _ => ih sound, fun _ => ?_⟩
    rw [ensures_bind, Cascade.ensures_object]
    refine ⟨fun o there => ?_, fun _ => sound⟩
    rw [ensures_ite]
    refine ⟨fun _ => ih sound, fun unready => ?_⟩
    have enrolled : Enrolled s.host.ambient (rpcPeer c o) := ⟨c, o, there, not_not.mp unready, rfl⟩
    rw [ensures_bind, ensures_tryCatch]
    refine (sound.atoms.parts.keeps_maintainPeer enrolled now s sound.follows).mono
      (fun _ _ follows => ih (sound.follow follows)) ?_
    intro e s' follows
    exact (close_sound (sound.follow follows) (Or.inl rfl) _ _).mono (fun _ _ closed => ih closed)
      fun _ _ closed => closed

theorem Sound.timer (sound : Sound V none none [] k F s) (running : Bool) :
    Sound V none none [] k F
      (withGrid s { s.host.ambient with maintenanceTimer := running }) :=
  sound.follow ⟨⟨⟨rfl, rfl, rfl, ⟨[], rfl, by simp⟩, rfl, rfl, rfl, rfl, rfl, rfl⟩,
    .refl s.host.core⟩, sound.registered.entries⟩

private theorem maintain_sound (sound : Sound V none none [] k F s) :
    Ensures (maintain V) s (fun _ s' => Sound V none none [] k F s')
      (fun _ s' => Sound V none none [] k F s') := by
  unfold maintain
  rw [ensures_bind]
  have sound₁ := (Sound.timer sound false).tick
  show Ensures (onGrid (reading Inputs.dateNow) >>= _) _ _ _
  rw [ensures_bind]
  show Ensures (EasyTierRpc.cleanExpired (host V) _ >>= _) _ _ _
  rw [ensures_bind]
  refine (sound₁.atoms.parts.keeps_cleanExpired _ _ sound₁.follows).mono ?_
    fun _ _ follows => sound₁.follow follows
  intro failures s₂ follows
  rw [ensures_bind]
  refine (closeFailed_sound failures (sound₁.follow follows)).mono ?_ fun _ _ ended => ended
  intro _ s₃ sound₃
  rw [ensures_bind, ensures_grid, ensures_bind]
  refine (maintainAll_sound _ _ sound₃).mono ?_ fun _ _ ended => ended
  intro _ s₄ sound₄
  exact Sound.timer sound₄ _

/-! Upgrades. -/

theorem construct_cases (E : SecureEnv HS) (w : World HS) (privateKey publicKey : String)
    (serverPeerId : UInt32) (nowMs : UInt64) :
    ((w.perform E (.construct privateKey publicKey serverPeerId nowMs)).1 = w ∧
      ∀ i, (w.perform E (.construct privateKey publicKey serverPeerId nowMs)).2 ≠
        .constructed i) ∨
    ((w.perform E (.construct privateKey publicKey serverPeerId nowMs)).1.peer?
        w.peers.length).isSome = true ∧
      ∃ i, (w.perform E (.construct privateKey publicKey serverPeerId nowMs)).2 =
        .constructed i := by
  have moved := Secure.Steps.perform_cases E w
    (.construct privateKey publicKey serverPeerId nowMs)
  generalize w.perform E (.construct privateKey publicKey serverPeerId nowMs) = out at moved ⊢
  cases moved with
  | idle _ o quiet =>
    refine Or.inl ⟨rfl, ?_⟩
    rintro i rfl
    rcases quiet with impossible | ⟨text, impossible⟩
    · cases impossible
    · cases impossible
  | constructed _ _ _ _ p =>
    refine Or.inr ⟨?_, _, rfl⟩
    rw [Secure.Steps.peer?_append, if_pos rfl]
    rfl

private theorem openCount_opening {E : SecureEnv HS} {g : Grid HS} {call : Event} {o : Connection}
    (opened : o.phase ≠ .closed) : openCount (opening E call o g) = openCount g + 1 := by
  show (g.objects ++ [o]).countP isOpen = g.objects.countP isOpen + 1
  rw [List.countP_append, List.countP_singleton, if_pos (by simpa [isOpen] using opened)]

theorem ensures_construct {E : SecureEnv HS} {call : Event}
    {ok : Outcome → ServerState HS → Prop} {err : String → ServerState HS → Prop} :
    Ensures (onGrid (fun g =>
      let r := g.world.perform E call
      .ok r.2 { g with world := r.1 })) s ok err ↔
      ok (World.perform E s.host.ambient.world call).2 (withGrid s { s.host.ambient with
        world := (World.perform E s.host.ambient.world call).1 }) := Iff.rfl

private theorem fetch_sound (sound : Sound V none none [] k F s) (pathname : String)
    (upgrade : Option String) :
    Ensures (fetch V pathname upgrade) s (fun _ s' => ∃ k', Sound V none none [] k' F s')
      (fun _ s' => ∃ k', Sound V none none [] k' F s') := by
  unfold fetch
  rw [ensures_ite]
  refine ⟨fun _ => ⟨k, sound⟩, fun _ => ?_⟩
  rw [ensures_ite]
  refine ⟨fun _ => ⟨k, sound⟩, fun _ => ?_⟩
  rw [ensures_bind, ensures_grid, ensures_ite]
  refine ⟨fun _ => ⟨k, sound⟩, fun _ => ?_⟩
  rw [ensures_bind, ensures_grid, ensures_bind]
  have ticked := sound.tick
  show Ensures (onGrid _ >>= _) (Cascade.ticked s) _ _
  rw [ensures_bind, ensures_construct]
  have made := construct_cases V.secure (Cascade.ticked s).host.ambient.world
    V.config.localPrivateKey V.config.localPublicKey serverPeerId
    (s.host.ambient.inputs.secureNow s.host.ambient.tick)
  generalize called : Event.construct V.config.localPrivateKey V.config.localPublicKey serverPeerId
    (s.host.ambient.inputs.secureNow s.host.ambient.tick) = call at made ⊢
  generalize ran : World.perform V.secure (Cascade.ticked s).host.ambient.world call = r at made ⊢
  obtain ⟨w, out⟩ := r
  rcases made with ⟨same, other⟩ | ⟨grown, i, constructed⟩
  · cases same
    cases out with
    | constructed i => exact absurd rfl (other i)
    | _ => exact ⟨k, ticked⟩
  · cases constructed
    dsimp only
    have kept (i : Nat) (t : UInt64) : call ≠ .drop i t := by
      rw [← called]
      intro impossible
      cases impossible
    let g : Grid HS := { s.host.ambient with tick := s.host.ambient.tick + 3 }
    let o : Connection := createConnection s.host.ambient.world.peers.length
      (g.inputs.randomU64 (s.host.ambient.tick + 1)) (g.inputs.dateNow (s.host.ambient.tick + 2))
    have started : g.world.perform V.secure call = (w, .constructed i) := ran
    have sound₃ : Sound V none none [] k F (withGrid s g) := sound.tick.tick.tick
    have unready : o.phase ≠ .ready := by
      intro impossible
      cases impossible
    have unanswered : o.phase ≠ .msg3 := by
      intro impossible
      cases impossible
    have opened : o.phase ≠ .closed := by
      intro impossible
      cases impossible
    have sound' : Sound V none none [] (k + 1) F (withGrid s (opening V.secure call o g)) := {
      living := by
        refine sound₃.living.opening kept rfl unanswered ?_
        show ((g.world.perform V.secure call).1.peer? g.world.peers.length).isSome = true
        rw [started]
        exact grown
      registered := sound₃.registered.opening kept unready
      sized := sound.sized
      opened := by
        show openCount (opening V.secure call o g) ≤ k + 1
        rw [openCount_opening opened]
        exact Nat.succ_le_succ sound₃.opened
      forwards := sound.forwards }
    have world : (opening V.secure call o g).world = w := by
      show (g.world.perform V.secure call).1 = w
      rw [started]
    subst world
    exact ⟨k + 1, Sound.timer sound' _⟩

/-! Events. -/

/-- What an event adds to the forwarded frames. -/
def Delivered (g : Grid HS) (e : ServerEvent) (c : Nat) (F F' : List Forward) : Prop :=
  F' = F ∨ ∃ frame, e = .message c (.binary frame) ∧ Grown g c frame F F'

private theorem perform_sound (sound : Sound V none none [] k F s) (e : ServerEvent) :
    Ensures (perform V e) s
      (fun _ s' => ∃ k' F' c, Sound V none none [] k' F' s' ∧ Delivered s.host.ambient e c F F')
      (fun _ s' => ∃ k' F' c, Sound V none none [] k' F' s' ∧
        Delivered s.host.ambient e c F F') := by
  have quiet {s' : ServerState HS} {k' : Nat} (sound' : Sound V none none [] k' F s') :
      ∃ k' F' c, Sound V none none [] k' F' s' ∧ Delivered s.host.ambient e c F F' :=
    ⟨k', F, 0, sound', Or.inl rfl⟩
  cases e with
  | fetch pathname upgrade =>
    show Ensures (fetch V pathname upgrade >>= _) s _ _
    rw [ensures_bind]
    refine (fetch_sound sound pathname upgrade).mono ?_ ?_
    · rintro _ s' ⟨k', sound'⟩
      exact quiet sound'
    · rintro _ s' ⟨k', sound'⟩
      exact quiet sound'
  | message c data =>
    show Ensures (tryCatch (handleMessage V c data) fun _ => failConnection V c) s _ _
    have delivered {F' : List Forward}
        (grown : F' = F ∨ ∃ frame, data = .binary frame ∧ Grown s.host.ambient c frame F F') :
        Delivered s.host.ambient (.message c data) c F F' := by
      rcases grown with same | ⟨frame, rfl, grown⟩
      · exact Or.inl same
      · exact Or.inr ⟨frame, rfl, grown⟩
    rw [ensures_tryCatch]
    refine (handleMessage_sound sound data).mono ?_ ?_
    · rintro _ s' ⟨F', sound', grown⟩
      exact ⟨k, F', c, sound', delivered grown⟩
    · rintro _ s' ⟨joining, F', alone, sound', grown⟩
      exact (close_sound sound' alone _ _).mono
        (fun _ _ closed => ⟨k, F', c, closed, delivered grown⟩)
        fun _ _ closed => ⟨k, F', c, closed, delivered grown⟩
  | socketClosed c =>
    exact (removeConnection_sound sound).mono (fun _ _ ended => quiet ended)
      fun _ _ ended => quiet ended
  | socketError c =>
    exact (removeConnection_sound sound).mono (fun _ _ ended => quiet ended)
      fun _ _ ended => quiet ended
  | handshakeTimeout c =>
    show Ensures (onGrid (object c) >>= _) s _ _
    rw [ensures_bind, Cascade.ensures_object]
    refine ⟨fun o there => ?_, fun _ => quiet sound⟩
    rw [ensures_ite]
    refine ⟨fun _ => ?_, fun _ => quiet sound⟩
    exact (close_sound sound (Or.inl rfl) _ _).mono (fun _ _ closed => quiet closed)
      fun _ _ closed => quiet closed
  | maintenance =>
    show Ensures (grid >>= _) s _ _
    rw [ensures_bind, ensures_grid, ensures_ite]
    refine ⟨fun _ => ?_, fun _ => quiet sound⟩
    exact (maintain_sound sound).mono (fun _ _ ended => quiet ended) fun _ _ ended => quiet ended

theorem Sound.arriving (sound : Sound V none none [] k F s) (inputs : Inputs) :
    Sound V none none [] k F (Relay.arriving s inputs) where
  living := ⟨sound.living.connected, sound.living.alive, sound.living.resting, sound.living.own,
    sound.living.made, sound.living.answered, sound.living.reached, sound.living.freedCalls,
    sound.living.keysMet, sound.living.cutOff⟩
  registered := ⟨sound.registered.rooms, sound.registered.ready, sound.registered.joined,
    sound.registered.routed, sound.registered.replaced, sound.registered.keyless,
    sound.registered.entries, sound.registered.authentic⟩
  sized := sound.sized
  opened := sound.opened
  forwards := sound.forwards

theorem step_sound (sound : Sound V none none [] k F s) (h : Happening) :
    ∃ k' F' c, Sound V none none [] k' F' (step V s h) ∧
      Delivered (Relay.arriving s h.inputs).host.ambient h.event c F F' :=
  ensures_final (perform_sound (Sound.arriving sound h.inputs) h.event)

private theorem start_sound {core : WasmRpcCore}
    (built : WasmRpcCore.new V.config.localPublicKeyBytes V.config.hostname serverPeerId = .ok core)
    (inputs : Inputs) : Sound V none none [] 0 [] (start core inputs) := by
  rw [WasmRpcCore.new] at built
  split at built
  · cases built
  rename_i sized
  split at built
  · cases built
  cases built
  have nobody (c : Nat) (o : Connection) : ([] : List Connection)[c]? ≠ some o := by simp
  constructor
  · constructor
    · exact fun c o there => absurd there (nobody c o)
    · exact fun c o there => absurd there (nobody c o)
    · exact fun c impossible => absurd impossible List.not_mem_nil
    · exact fun c d o o' there => absurd there (nobody c o)
    · exact fun c o there => absurd there (nobody c o)
    · exact fun c o there => absurd there (nobody c o)
    · exact ⟨[], rfl⟩
    · rfl
    · exact fun met impossible => absurd impossible List.not_mem_nil
    · rfl
  · constructor
    · intro n p c found
      cases found
    · exact fun c o there => absurd there (nobody c o)
    · intro c impossible
      cases impossible
    · intro n p _
      constructor
      · intro impossible
        cases impossible
      · rintro ⟨c, impossible, _⟩
        cases impossible
    · intro c o d impossible
      cases impossible
    · exact fun n p _ => rfl
    · intro key state found
      cases found
    · exact fun c o there => absurd there (nobody c o)
  · exact not_not.mp sized
  · exact Nat.le_refl 0
  · rfl

theorem run_sound {core : WasmRpcCore}
    (built : WasmRpcCore.new V.config.localPublicKeyBytes V.config.hostname serverPeerId = .ok core)
    (inputs : Inputs) (hs : List Happening) :
    ∃ k F, Sound V none none [] k F (run (step V) (start core inputs) hs) := by
  have kept (s : ServerState HS) (h : Happening) (inv : ∃ k F, Sound V none none [] k F s) :
      ∃ k F, Sound V none none [] k F (step V s h) := by
    obtain ⟨k, F, sound⟩ := inv
    obtain ⟨k', F', _, sound', _⟩ := step_sound sound h
    exact ⟨k', F', sound'⟩
  exact run_invariant kept ⟨0, [], start_sound built inputs⟩ hs

/-- The maps of the server, the scheduler and the route state say the same, and nobody has called a
`SecurePeer` that was freed. The last field says that no recursion was cut off. -/
structure RegistriesAgree (s : ServerState HS) : Prop where
  rooms : ∀ n p c, s.host.ambient.rooms.get n p = some c → c ∈ s.host.ambient.connections ∧
    ∃ o, s.host.ambient.objects[c]? = some o ∧ o.phase = .ready ∧ o.networkName = n ∧ o.peerId = p
  ready : ∀ (c : Nat) (o : Connection), s.host.ambient.objects[c]? = some o → o.phase = .ready →
    s.host.ambient.rooms.get o.networkName o.peerId = some c
  routes : ∀ n p, ((s.host.core.routes.groups.lookup n).bind fun group =>
      group.peers.get? p).isSome = true ↔ (s.host.ambient.rooms.get n p).isSome = true
  states : ∀ key state, s.routeSyncStates.lookup key = some state →
    ∃ c o, s.host.ambient.objects[c]? = some o ∧ o.phase = .ready ∧ state.peer = rpcPeer c o ∧
      key = (o.networkName, o.peerId) ∧ s.host.ambient.rooms.get o.networkName o.peerId = some c
  freedCalls : s.host.ambient.freedCalls = []
  complete : s.host.ambient.cutOff = false

theorem Sound.agree (sound : Sound V none none [] k F s) : RegistriesAgree s where
  rooms := by
    intro n p c found
    obtain ⟨o, there, name, id, standing⟩ := sound.registered.rooms n p c found
    have ready : o.phase = .ready := by
      rcases standing with ready | ⟨impossible, _⟩
      · exact ready
      · cases impossible
    exact ⟨sound.living.connected c o there (by rw [ready]; decide), o, there, ready, name, id⟩
  ready := fun c o there ready => sound.registered.ready c o there ready (by simp)
  routes := by
    intro n p
    apply (sound.registered.routed n p (by simp)).trans
    constructor
    · rintro ⟨c, found, _⟩
      rw [found]
      rfl
    · intro found
      obtain ⟨c, found⟩ := Option.isSome_iff_exists.mp found
      exact ⟨c, found, by simp⟩
  states := by
    intro key state found
    obtain ⟨⟨c, o, there, ready, same⟩, own⟩ := sound.registered.entries key state found
    refine ⟨c, o, there, ready, same, ?_, sound.registered.ready c o there ready (by simp)⟩
    rw [← own, same]
    rfl
  freedCalls := sound.living.freedCalls
  complete := sound.living.cutOff

/-- In every run, between any two events, the registries agree. -/
theorem registries_agree {core : WasmRpcCore}
    (built : WasmRpcCore.new V.config.localPublicKeyBytes V.config.hostname serverPeerId = .ok core)
    (inputs : Inputs) (hs : List Happening) :
    RegistriesAgree (run (step V) (start core inputs) hs) := by
  obtain ⟨k, F, sound⟩ := run_sound built inputs hs
  exact Sound.agree sound

/-! A server on transparent dependencies, and two clients that join it. -/

def plainServer : ServerEnv Turn where
  secure := plainEnv
  rpc := ⟨Wire.codec ⟨[], [], [], [], [], [], []⟩, fun _ => 0⟩
  config := {
    rooms := (∅ : FMap String String).insert "n" "s"
    hostname := "edge"
    localPrivateKey := ""
    localPublicKey := ""
    localPublicKeyBytes := List.replicate 32 7
    maxFrameBytes := 65_536 }

/-- It is second 1, and every socket is open. -/
def plainInputs : Inputs where
  dateNow := fun _ => 1_000
  secureNow := fun _ => 1_000
  core := fun _ => ⟨fun _ => 1_000, ⟨1, 2, 3, 4⟩, 9, fun _ => .ok 9⟩
  draws := fun _ => ⟨.ok (Vector.replicate 32 1), .ok ⟨0, 0, 0, 0⟩⟩
  randomU64 := fun _ => 1
  readyState := fun _ => 1
  socketSend := fun _ _ => .ok ()
  socketClose := fun _ _ _ => .ok ()

/-- The socket of peer 6 throws from `send`. -/
def brokenInputs : Inputs :=
  { plainInputs with
    socketSend := fun _ packet =>
      if (Packet.parsePacket packet).toOption.any fun header => header.toPeerId = 6 then
        .error "broken pipe"
      else .ok () }

def helloFrom (peerId : UInt32) : Bytes :=
  Packet.wrapPacket peerId serverPeerId packetNoiseMsg1 0 []

def proofFrom (peerId : UInt32) : Bytes :=
  Packet.wrapPacket peerId serverPeerId packetNoiseMsg3 0
    (List.replicate 32 3 ++ secretProof plainEnv (utf8 "s") [2])

/-- An upgrade, and message 1 on it. -/
def knocks (c : Nat) (peerId : UInt32) : List Happening :=
  [⟨.fetch "/" (some "websocket"), plainInputs⟩,
    ⟨.message c (.binary (helloFrom peerId)), plainInputs⟩]

def joins (c : Nat) (peerId : UInt32) : List Happening :=
  knocks c peerId ++ [⟨.message c (.binary (proofFrom peerId)), plainInputs⟩]

def plainCore : WasmRpcCore :=
  (WasmRpcCore.new plainServer.config.localPublicKeyBytes plainServer.config.hostname
    serverPeerId).toOption.get (by decide +kernel)

/-- The state after these events. -/
def plainRun (hs : List Happening) : ServerState Turn :=
  run (step plainServer) (start plainCore plainInputs) hs

theorem registries_agree_two :
    RegistriesAgree (plainRun (joins 0 5 ++ joins 1 6)) ∧
      (plainRun (joins 0 5 ++ joins 1 6)).host.ambient.connections = [0, 1] ∧
      (plainRun (joins 0 5 ++ joins 1 6)).host.ambient.rooms.get "n" 6 = some 1 :=
  ⟨@registries_agree Turn plainServer plainCore rfl plainInputs (joins 0 5 ++ joins 1 6),
    by decide +kernel, by decide +kernel⟩

end EasyTierEdge.Server.Registries
