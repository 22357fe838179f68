/- module: EasyTierEdge/Server/Outbox
   source: cloudflare/src/server.ts, runtime/connection.ts; cloudflare/wasm/src/secure.rs
   digest: Where every packet that the server sends comes from. -/

import EasyTierEdge.Server.Admission

set_option autoImplicit false
set_option relaxedAutoImplicit false

namespace EasyTierEdge.Server.Outbox

open Lib.Machine
open Packet (Bytes PacketHeader splitPacket joinHeaderPayload encryptedFlag)
open Rpc.Core (WasmRpcCore)
open Secure.Session Secure.Peer Secure.Connections Secure.Calls Secure.Steps Secure.Handshake
open Rooms Sockets Relay Registries Moves Chronicle Admission

variable {HS : Type}

/-- `SecurePeer` `i` is authenticated and made this packet of `clear`, with the payload sealed under
the traffic key of its session. -/
inductive Sealed (E : SecureEnv HS) (w : World HS) (i : Nat) (clear : Bytes) : Bytes → Prop
  | sealed {p : SecurePeer HS} {key : SessionKey} {s : StoredSession} {header : PacketHeader}
      {payload ciphertext tag : Bytes} {epoch : UInt32} {sequence : UInt64} {d : Direction}
      (live : w.peer? i = some p) (authenticated : p.authenticated = true)
      (bound : p.sessionKey = some key) (present : w.store.lookup key = some s)
      (split : splitPacket clear = .ok (header, payload))
      (sender : header.fromPeerId = p.serverPeerId) (receiver : p.peerId = some header.toPeerId)
      (ran : sealPayload E "aes-gcm" (trafficKey E s.rootKey epoch d) (nonceBytes epoch sequence)
        payload = .ok (ciphertext, tag)) :
      Sealed E w i clear (joinHeaderPayload { header with flags := header.flags ||| encryptedFlag }
        (ciphertext ++ tag ++ nonceBytes epoch sequence))

private theorem sealed_of_outcome {E : SecureEnv HS} {w : World HS} {i : Nat} {clear packet : Bytes}
    {rotateMs persistMs : UInt64}
    (ran : w.outcome E (.encrypt i clear rotateMs persistMs) = .data (.ok packet)) :
    Sealed E w i clear packet := by
  have moved := perform_cases E w (.encrypt i clear rotateMs persistMs)
  have returned : w.perform E (.encrypt i clear rotateMs persistMs) =
      (w.step E (.encrypt i clear rotateMs persistMs), .data (.ok packet)) := Prod.ext rfl ran
  rw [returned] at moved
  generalize same : (w.step E (.encrypt i clear rotateMs persistMs),
    Outcome.data (.ok packet)) = out at moved
  cases moved with
  | idle _ o quiet =>
    obtain ⟨_, rfl⟩ := Prod.ext_iff.mp same
    rcases quiet with impossible | ⟨text, impossible⟩
    · cases impossible
    · cases impossible
  | encrypt _ _ _ _ p r live encrypted =>
    obtain ⟨_, same⟩ := Prod.ext_iff.mp same
    cases encrypted with
    | stopped => cases same
    | failed => cases same
    | sealed key s header payload ciphertext tag rotated d loaded sender receiver _ _ _ _ shut =>
      cases same
      exact .sealed live loaded.authenticated loaded.bound loaded.present loaded.split sender
        receiver shut

/-- Where a packet for connection `c` came from. Only message 2 goes to somebody who has not
finished a handshake; of what the server has to say itself, all but pongs is sealed. -/
inductive Accounted (V : ServerEnv HS) (hs : List Happening) (es : List Event) (g : Grid HS)
    (c : Nat) : Bytes → Prop
  | message2 {o : Connection} {earlier later : List Event} {p : SecurePeer HS}
      {networkName networkSecret : String} {draws : Msg2Draws} {upsertMs attachMs : UInt64}
      {m : Msg2} (there : g.objects[c]? = some o)
      (history : es =
        earlier ++ .buildMsg2 o.secure networkSecret draws upsertMs attachMs :: later)
      (live : (World.after V.secure earlier).peer? o.secure = some p)
      (name : p.networkName = some networkName)
      (configured : V.config.rooms.lookup networkName = some networkSecret)
      (ran : (World.after V.secure earlier).outcome V.secure
        (.buildMsg2 o.secure networkSecret draws upsertMs attachMs) = .msg2 (.ok m)) :
      Accounted V hs es g c m.packet
  | control {o : Connection} {earlier later : List Event} {peerId : UInt32} {packetType : UInt8}
      {payload clear packet : Bytes} {rotateMs persistMs : UInt64}
      (there : g.objects[c]? = some o)
      (history : es = earlier ++ .encrypt o.secure clear rotateMs persistMs :: later)
      (framed : Packet.buildPacket serverPeerId peerId packetType payload = .ok clear)
      (shut : Sealed V.secure (World.after V.secure earlier) o.secure clear packet)
      (shaken : ∃ first second third, Shaken V es o.secure first second third) :
      Accounted V hs es g c packet
  | pong {o : Connection} {frame pong : Bytes} {header : PacketHeader} {inputs : Inputs}
      (received : ⟨.message c (.binary frame), inputs⟩ ∈ hs)
      (there : g.objects[c]? = some o)
      (admitted : ∃ key first second third, Admitted V es o key first second third)
      (parsed : Packet.parsePacket frame = .ok header) (direct : header.toPeerId = serverPeerId)
      (own : header.fromPeerId = o.peerId) (ping : header.packetType = packetTypePing)
      (plain : header.flags &&& encryptedFlag = 0)
      (answer : Packet.preparePong frame = .ok pong) : Accounted V hs es g c pong
  | relayed {o : Connection} {f : Forward} (there : g.objects[c]? = some o)
      (admitted : ∃ key first second third, Admitted V es o key first second third)
      (member : f ∈ g.forwards) (target : f.target = c) : Accounted V hs es g c f.forwarded

/-- What came from somewhere is accounted for. -/
private theorem accounted_of_origin {V : ServerEnv HS} {writing : HS → Prop} {hs : List Happening}
    {es : List Event} {g : Grid HS} {c : Nat} {packet : Bytes} (turns : TakesTurns V.secure writing)
    (lawful : AllSteps (World.step V.secure) (fun _ => Lawful V) World.empty es)
    (origin : Origin V hs es g c packet) : Accounted V hs es g c packet := by
  cases origin with
  | returned there history returned =>
    cases returned with
    | message2 live name configured ran =>
      exact .message2 there history live name configured ran
    | @control _ _ _ clear _ rotateMs persistMs framed ran =>
      have shut := sealed_of_outcome ran
      refine .control there history framed shut ?_
      cases shut with
      | sealed live authenticated =>
        obtain ⟨first, second, third, shaken, _⟩ :=
          authenticated_shaken turns history lawful live authenticated
        exact ⟨first, second, third, shaken⟩
  | pong received there settled proved parsed direct own ping plain answer =>
    exact .pong received there (admitted_of_proved turns proved lawful) parsed direct own ping plain
      answer
  | relayed there settled proved member target =>
    exact .relayed there (admitted_of_proved turns proved lawful) member target

/-- Whatever happens to the server, every packet it ever handed to a socket is accounted for. -/
theorem sends_accounted {V : ServerEnv HS} {core : WasmRpcCore} {writing : HS → Prop}
    (turns : TakesTurns V.secure writing)
    (built : WasmRpcCore.new V.config.localPublicKeyBytes V.config.hostname serverPeerId = .ok core)
    (inputs : Inputs) (hs : List Happening) :
    ∃ es, AllSteps (World.step V.secure) (fun _ => Lawful V) World.empty es ∧
      World.after V.secure es = (run (step V) (start core inputs) hs).host.ambient.world ∧
      ∀ sent ∈ (run (step V) (start core inputs) hs).host.ambient.sends,
        Accounted V hs es (run (step V) (start core inputs) hs).host.ambient sent.connection
          sent.packet := by
  obtain ⟨es, recorded⟩ := run_recorded built inputs hs
  refine ⟨es, recorded.lawful, recorded.world, fun sent member => ?_⟩
  exact accounted_of_origin turns recorded.lawful (recorded.sends sent member)

def pingFrom (peerId : UInt32) : Bytes :=
  Packet.wrapPacket peerId serverPeerId packetTypePing 0 [1, 2]

/-- Two peers join, and one of them pings the relay. -/
def pingRun : List Happening :=
  joins 0 5 ++ joins 1 6 ++ [⟨.message 1 (.binary (pingFrom 6)), plainInputs⟩]

/-- The last packet of the run is the pong. -/
theorem sends_accounted_pingRun : ∃ es sent,
    (plainRun pingRun).host.ambient.sends.getLast? = some sent ∧ sent.connection = 1 ∧
      some sent.packet = (Packet.preparePong (pingFrom 6)).toOption ∧
      Accounted plainServer pingRun es (plainRun pingRun).host.ambient sent.connection
        sent.packet := by
  have last : (plainRun pingRun).host.ambient.sends.getLast?.map
      (fun sent => (sent.connection, some sent.packet)) =
        some (1, (Packet.preparePong (pingFrom 6)).toOption) := by
    decide +kernel
  obtain ⟨sent, found, fields⟩ := Option.map_eq_some_iff.mp last
  obtain ⟨own, pong⟩ := Prod.ext_iff.mp fields
  obtain ⟨es, _, _, accounted⟩ := @sends_accounted Turn plainServer plainCore _ plainEnv_takesTurns
    rfl plainInputs pingRun
  exact ⟨es, sent, found, own, pong, accounted sent (List.mem_of_getLast? found)⟩

end EasyTierEdge.Server.Outbox
