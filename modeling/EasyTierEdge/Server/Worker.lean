/- module: EasyTierEdge/Server/Worker
   source: cloudflare/src/index.ts; cloudflare/src/server.ts, constructor and fetch
   digest: The worker in front of the server, and what its health check tells. -/

import EasyTierEdge.Server.Configuration
import EasyTierEdge.Server.Upkeep

set_option autoImplicit false
set_option relaxedAutoImplicit false

namespace EasyTierEdge.Server.Worker

open Lib Lib.Fallible Lib.Machine
open Lib.Utf16 (Units)
open Packet (Key keyOfBytes keyOfBytes_eq_some)
open Rpc.Core (WasmRpcCore)
open Secure.Session Secure.Peer Secure.Connections
open Sockets Relay Cascade Messages Server.Configuration
open Relay.EasyTierServer

variable {HS : Type}

structure Request where
  method : String
  pathname : String
  upgrade : Option String

inductive Response
  | healthy (networks : Nat)
  | unhealthy
  | notFound
  | redirect
  | invalidConfiguration
  | forwarded
  deriving DecidableEq

/-- The validator of the health check, which is freed at once. -/
def validator (E : SecureEnv HS) (config : Server.Configuration.ServerConfig) (nowMs : UInt64) :
    Except String (SecurePeer HS) :=
  SecurePeer.new E (text config.localPrivateKey) (text config.localPublicKey) serverPeerId nowMs

def healthCheck (E : SecureEnv HS) (env : EasyTierEnv) (nowMs : UInt64) : Response :=
  let checked : Except String Nat := do
    let config ← readServerConfig env
    let _ ← validator E config nowMs
    return config.rooms.entries.length
  match checked with
  | .ok networks => .healthy networks
  | .error _ => .unhealthy

def fetch (E : SecureEnv HS) (env : EasyTierEnv) (nowMs : UInt64) (request : Request) : Response :=
  if request.pathname = "/healthz" ∧ request.method = "GET" then healthCheck E env nowMs
  else if request.pathname ≠ "/" then .notFound
  else if request.upgrade.map String.toLower ≠ some "websocket" then
    if request.method = "GET" ∨ request.method = "HEAD" then .redirect else .notFound
  else
    match readServerConfig env with
    | .error _ => .invalidConfiguration
    | .ok _ => .forwarded

/-- The constructor of the server. -/
def construct (E : SecureEnv HS) (R : Rpc.Core.Env) (env : EasyTierEnv) (inputs : Inputs) :
    Except String (ServerEnv HS × ServerState HS) := do
  let config ← readServerConfig env
  let core ← WasmRpcCore.new config.relay.localPublicKeyBytes config.relay.hostname serverPeerId
  return (⟨E, R, config.relay⟩, start core inputs)

/-- The server after these events. -/
def lived (E : SecureEnv HS) (R : Rpc.Core.Env) (env : EasyTierEnv) (inputs : Inputs)
    (hs : List Happening) : Except String (ServerEnv HS × ServerState HS) := do
  let (V, s₀) ← construct E R env inputs
  return (V, run (step V) s₀ hs)

def status : EasyTierServer.Response → Nat
  | .notFound => 404
  | .upgradeRequired => 426
  | .capacityExceeded => 503
  | .invalidConfiguration => 503
  | .switching => 101

/-- An exception is a 500. -/
def answered : EStateM.Result String (ServerState HS) EasyTierServer.Response → Nat
  | .ok response _ => status response
  | .error _ _ => 500

/-- The status that a request is answered with. -/
def serve (E : SecureEnv HS) (R : Rpc.Core.Env) (env : EasyTierEnv) (inputs : Inputs)
    (hs : List Happening) (arrival : Inputs) (nowMs : UInt64) (request : Request) : Nat :=
  match fetch E env nowMs request with
  | .healthy _ => 200
  | .unhealthy => 503
  | .notFound => 404
  | .redirect => 302
  | .invalidConfiguration => 503
  | .forwarded =>
    match lived E R env inputs hs with
    | .error _ => 500
    | .ok (V, s) =>
      answered (EasyTierServer.fetch V request.pathname request.upgrade (arriving s arrival))

/-! Keys. -/

/-- The two keys belong together, and are written as Rust reads them. -/
def Keyed (E : SecureEnv HS) (config : Server.Configuration.ServerConfig) (key : Key) : Prop :=
  E.decodeBase64 (text config.localPrivateKey) = some key.toList ∧
    E.decodeBase64 (text config.localPublicKey) = some (E.x25519Public key).toList

variable {E : SecureEnv HS} {R : Rpc.Core.Env} {env : EasyTierEnv}
  {config : Server.Configuration.ServerConfig}

private theorem decodeKey_ok {value label : String} {key : Key} :
    decodeKey E value label = .ok key ↔ E.decodeBase64 value = some key.toList := by
  unfold decodeKey
  cases E.decodeBase64 value with
  | none => exact iff_of_false (fun read => by cases read) (fun read => by cases read)
  | some decoded =>
    rw [Option.some.injEq, @eq_comm _ decoded, ← keyOfBytes_eq_some]
    simp only
    cases keyOfBytes decoded with
    | none => exact iff_of_false (fun read => by cases read) (fun read => by cases read)
    | some key' =>
      simp only [Except.ok.injEq, Option.some.injEq]

private theorem new_ok {privateKey publicKey : String} {nowMs : UInt64} :
    (∃ p, SecurePeer.new E privateKey publicKey serverPeerId nowMs = .ok p) ↔
      ∃ key : Key, E.decodeBase64 privateKey = some key.toList ∧
        E.decodeBase64 publicKey = some (E.x25519Public key).toList := by
  have nonzero : ¬ serverPeerId = 0 := by decide
  constructor
  · rintro ⟨p, made⟩
    simp only [SecurePeer.new, bind, Except.bind, pure, Except.pure, if_neg nonzero] at made
    split at made
    · cases made
    · rename_i key private_
      split at made
      · cases made
      · rename_i configured public_
        split at made
        · cases made
        · rename_i derived
          refine ⟨key, decodeKey_ok.mp private_, ?_⟩
          rw [not_not.mp derived]
          exact decodeKey_ok.mp public_
  · rintro ⟨key, private_, public_⟩
    simp only [SecurePeer.new, bind, Except.bind, pure, Except.pure, if_neg nonzero,
      (@decodeKey_ok _ E privateKey "private" key).mpr private_,
      (@decodeKey_ok _ E publicKey "public" _).mpr public_]
    exact ⟨_, if_neg (not_not.mpr rfl)⟩

private theorem validator_ok {nowMs : UInt64} :
    (∃ p, validator E config nowMs = .ok p) ↔ ∃ key, Keyed E config key := new_ok

private theorem healthCheck_cases {nowMs : UInt64} :
    (∃ networks, healthCheck E env nowMs = .healthy networks) ∨
      healthCheck E env nowMs = .unhealthy := by
  unfold healthCheck
  simp only
  split
  · exact Or.inl ⟨_, rfl⟩
  · exact Or.inr rfl

private theorem healthCheck_healthy {nowMs : UInt64} {networks : Nat} :
    healthCheck E env nowMs = .healthy networks ↔
      ∃ config, readServerConfig env = .ok config ∧ (∃ key, Keyed E config key) ∧
        config.rooms.entries.length = networks := by
  unfold healthCheck
  cases read : readServerConfig env with
  | error e =>
    refine iff_of_false (fun impossible => by cases impossible) ?_
    rintro ⟨config, impossible, _⟩
    cases impossible
  | ok config =>
    cases made : validator E config nowMs with
    | error e =>
      have unkeyed : ¬ ∃ key, Keyed E config key := by
        rw [← validator_ok, made]
        rintro ⟨p, impossible⟩
        cases impossible
      simp only [bind, Except.bind, made]
      refine iff_of_false (fun impossible => by cases impossible) ?_
      rintro ⟨config', same, keyed, _⟩
      cases same
      exact unkeyed keyed
    | ok p =>
      have keyed : ∃ key, Keyed E config key := validator_ok.mp ⟨p, made⟩
      simp only [bind, Except.bind, pure, Except.pure, made, Response.healthy.injEq,
        Except.ok.injEq]
      constructor
      · exact fun same => ⟨config, rfl, keyed, same⟩
      · rintro ⟨config', rfl, _, same⟩
        exact same

/-- What the base64 decoder of Rust does: canonical text is all that it reads. -/
def Strict (E : SecureEnv HS) : Prop :=
  ∀ value : String, E.decodeBase64 value = Base64.decode (value.toList.map Char.toNat)

/-- The text of a key, in JavaScript. -/
def keyText (key : Key) : Units := Utf16.encode (base64Text key.toList)

private theorem decodeBase64_key (strict : Strict E) {value : Units} {key : Key} :
    E.decodeBase64 (text value) = some key.toList ↔ value = keyText key := by
  have ascii := Base64.encode_ascii key.toList
  rw [strict, text, String.toList_ofList, Base64.decode_eq_some_iff]
  constructor
  · intro written
    have small : ∀ c ∈ Utf16.decode value, c.toNat < 128 := by
      intro c member
      exact ascii c.toNat (written ▸ List.mem_map_of_mem member)
    have codes : value.map UInt16.toNat = (keyText key).map UInt16.toNat := by
      rw [← Utf16.decode_ascii small, written]
      exact (Utf16.encode_ascii ascii).symm
    exact List.map_injective_iff.mpr (fun u v same => UInt16.toNat_inj.mp same) codes
  · rintro rfl
    rw [keyText, Utf16.decode_encode, base64Text, List.map_map]
    refine (List.map_congr_left fun c member => ?_).trans (List.map_id _)
    exact Utf16.toNat_ofNat_ascii (ascii c member)

/-- With the decoder of Rust the health check asks for the canonical text of both keys, where the
configuration takes any text that `atob` does. The routes then carry the key of the handshakes. -/
theorem healthy_keys (strict : Strict E) {nowMs : UInt64} {networks : Nat} :
    healthCheck E env nowMs = .healthy networks ↔
      ∃ config key, Accepted env config ∧ config.rooms.entries.length = networks ∧
        env.localPrivateKey = some (keyText key) ∧
        env.localPublicKey = some (keyText (E.x25519Public key)) ∧
        config.localPublicKeyBytes = (E.x25519Public key).toList := by
  rw [healthCheck_healthy]
  constructor
  · rintro ⟨config, read, ⟨key, private_, public_⟩, count⟩
    have accepted := readServerConfig_ok.mp read
    have privateKey := (decodeBase64_key strict).mp private_
    have publicKey := (decodeBase64_key strict).mp public_
    have bytes := accepted.publicBytes.1
    rw [publicKey, keyText, atob_base64Text] at bytes
    refine ⟨config, key, accepted, count, ?_, ?_, (Option.some.inj bytes).symm⟩
    · rw [accepted.privateKey, privateKey]
    · rw [accepted.publicKey, publicKey]
  · rintro ⟨config, key, accepted, count, privateKey, publicKey, _⟩
    rw [accepted.privateKey, Option.some.injEq] at privateKey
    rw [accepted.publicKey, Option.some.injEq] at publicKey
    exact ⟨config, readServerConfig_ok.mpr accepted, ⟨key, (decodeBase64_key strict).mpr privateKey,
      (decodeBase64_key strict).mpr publicKey⟩, count⟩

/-! Upgrades. -/

/-- How the server answers an upgrade. -/
def verdict (V : ServerEnv HS) (g : Grid HS) : EasyTierServer.Response :=
  if g.connections.length ≥ maxConnections then .capacityExceeded
  else if g.world.livePeers ≥ maxLivePeers then .invalidConfiguration
  else
    match SecurePeer.new V.secure V.config.localPrivateKey V.config.localPublicKey serverPeerId
        (g.inputs.secureNow g.tick) with
    | .ok _ => .switching
    | .error _ => .invalidConfiguration

variable {V : ServerEnv HS} {s : ServerState HS}

private theorem fetch_upgrade {upgrade : Option String}
    (websocket : upgrade.map String.toLower = some "websocket") :
    Ensures (EasyTierServer.fetch V "/" upgrade) s
      (fun r s' => r = verdict V s.host.ambient ∧ (r ≠ .switching →
        s'.host.ambient.objects = s.host.ambient.objects ∧
          s'.host.ambient.connections = s.host.ambient.connections ∧
          s'.host.ambient.maintenanceTimer = s.host.ambient.maintenanceTimer))
      (fun _ _ => False) := by
  unfold EasyTierServer.fetch verdict
  rw [ensures_ite]
  refine ⟨fun other => absurd rfl other, fun _ => ?_⟩
  rw [ensures_ite]
  refine ⟨fun other => absurd websocket other, fun _ => ?_⟩
  rw [ensures_bind, ensures_grid, ensures_ite]
  refine ⟨fun full => ?_, fun room => ?_⟩
  · rw [ensures_pure, if_pos full]
    exact ⟨rfl, fun _ => ⟨rfl, rfl, rfl⟩⟩
  · rw [if_neg room, ensures_bind, ensures_grid, ensures_bind]
    show Ensures (onGrid _ >>= _) (Cascade.ticked s) _ _
    rw [ensures_bind, Registries.ensures_construct]
    have world : (Cascade.ticked s).host.ambient.world = s.host.ambient.world := rfl
    rw [world]
    generalize s.host.ambient.inputs.secureNow s.host.ambient.tick = nowMs
    unfold World.perform
    by_cases memory : s.host.ambient.world.livePeers ≥ maxLivePeers
    · simp only [if_pos memory]
      exact ⟨rfl, fun _ => ⟨rfl, rfl, rfl⟩⟩
    · simp only [if_neg memory]
      cases SecurePeer.new V.secure V.config.localPrivateKey V.config.localPublicKey serverPeerId
        nowMs with
      | error e => exact ⟨rfl, fun _ => ⟨rfl, rfl, rfl⟩⟩
      | ok p => exact ⟨rfl, fun opened => absurd rfl opened⟩

/-! A server whose keys are wrong. -/

/-- The server can make objects, but for the memory. -/
def Provided (V : ServerEnv HS) : Prop :=
  ∃ key : Key, V.secure.decodeBase64 V.config.localPrivateKey = some key.toList ∧
    V.secure.decodeBase64 V.config.localPublicKey = some (V.secure.x25519Public key).toList

/-- Nobody ever got in. -/
structure Vacant (s : ServerState HS) : Prop where
  objects : s.host.ambient.objects = []
  connections : s.host.ambient.connections = []
  maintenanceTimer : s.host.ambient.maintenanceTimer = false

private theorem ensures_nobody {c : Nat} {ok : Connection → ServerState HS → Prop}
    {err : String → ServerState HS → Prop} (nobody : s.host.ambient.objects = []) :
    Ensures (onGrid (object c)) s ok err ↔ err "undefined connection" s := by
  rw [ensures_object, nobody]
  simp

private theorem handleMessage_vacant (nobody : s.host.ambient.objects = []) (c : Nat)
    (data : MessageData) :
    Ensures (handleMessage V c data) s (fun _ s' => s' = s) (fun _ s' => s' = s) := by
  unfold handleMessage
  cases data with
  | text => exact rfl
  | binary frame =>
    rw [ensures_ite]
    refine ⟨fun _ => rfl, fun _ => ?_⟩
    rw [ensures_bind, Handlers.ensures_orThrow]
    refine ⟨fun header _ => ?_, fun _ _ => rfl⟩
    rw [ensures_bind, ensures_nobody nobody]

private theorem perform_vacant (vacant : Vacant s) {e : ServerEvent}
    (other : ∀ pathname upgrade, e ≠ .fetch pathname upgrade) :
    Ensures (Relay.perform V e) s (fun _ s' => s' = s) (fun _ s' => s' = s) := by
  cases e with
  | fetch pathname upgrade => exact absurd rfl (other pathname upgrade)
  | message c data =>
    have closing : Ensures (failConnection V c) s (fun _ s' => s' = s) (fun _ s' => s' = s) := by
      unfold failConnection close
      rw [ensures_bind, Handlers.ensures_depth, closeWithin, ensures_bind,
        ensures_nobody vacant.objects]
    unfold Relay.perform
    rw [ensures_tryCatch]
    refine (handleMessage_vacant vacant.objects c data).mono (fun _ _ same => same) ?_
    rintro _ s' rfl
    exact closing
  | socketClosed c =>
    unfold Relay.perform removeConnection
    rw [ensures_bind, Handlers.ensures_depth, removeWith, ensures_bind,
      ensures_nobody vacant.objects]
  | socketError c =>
    unfold Relay.perform removeConnection
    rw [ensures_bind, Handlers.ensures_depth, removeWith, ensures_bind,
      ensures_nobody vacant.objects]
  | handshakeTimeout c =>
    unfold Relay.perform
    rw [ensures_bind, ensures_nobody vacant.objects]
  | maintenance =>
    unfold Relay.perform
    rw [ensures_bind, ensures_grid, vacant.maintenanceTimer]
    exact rfl

private theorem verdict_unkeyed (vacant : s.host.ambient.connections = [])
    (unkeyed : ¬ Provided V) :
    verdict V s.host.ambient = .invalidConfiguration := by
  unfold verdict
  rw [vacant, if_neg (by decide)]
  split
  · rfl
  · split
    · rename_i p made
      exact absurd (new_ok.mp ⟨p, made⟩) unkeyed
    · rfl

private theorem fetch_vacant {pathname : String} {upgrade : Option String} (vacant : Vacant s)
    (unkeyed : ¬ Provided V) :
    Ensures (EasyTierServer.fetch V pathname upgrade) s (fun _ s' => Vacant s')
      (fun _ s' => Vacant s') := by
  by_cases root : pathname = "/"
  · subst root
    by_cases websocket : upgrade.map String.toLower = some "websocket"
    · refine (fetch_upgrade websocket).mono ?_ fun _ _ impossible => impossible.elim
      rintro r s' ⟨rfl, kept⟩
      rw [verdict_unkeyed vacant.connections unkeyed] at kept
      obtain ⟨objects, connections, timer⟩ := kept (by decide)
      exact ⟨objects.trans vacant.objects, connections.trans vacant.connections,
        timer.trans vacant.maintenanceTimer⟩
    · unfold EasyTierServer.fetch
      rw [if_neg (not_not.mpr rfl), if_pos websocket]
      exact vacant
  · unfold EasyTierServer.fetch
    rw [if_pos root]
    exact vacant

private theorem run_vacant (core : WasmRpcCore) (inputs : Inputs)
    (unkeyed : ¬ Provided V)
    (hs : List Happening) : Vacant (run (step V) (start core inputs) hs) := by
  refine @run_invariant _ _ (step V) Vacant ?_ _ ⟨rfl, rfl, rfl⟩ hs
  intro s h vacant
  have arrived : Vacant (arriving s h.inputs) :=
    ⟨vacant.objects, vacant.connections, vacant.maintenanceTimer⟩
  unfold step
  by_cases fetches : ∃ pathname upgrade, h.event = .fetch pathname upgrade
  · obtain ⟨pathname, upgrade, event⟩ := fetches
    rw [event]
    refine ensures_final ?_
    unfold Relay.perform
    rw [ensures_bind]
    exact fetch_vacant arrived unkeyed
  · have other : ∀ pathname upgrade, h.event ≠ .fetch pathname upgrade :=
      fun pathname upgrade event => fetches ⟨pathname, upgrade, event⟩
    refine ensures_final ((perform_vacant arrived other).mono ?_ ?_)
    · rintro _ s' rfl
      exact arrived
    · rintro _ s' rfl
      exact arrived

/-! What the health check tells. -/

private theorem construct_ok {inputs : Inputs} {s₀ : ServerState HS} :
    construct E R env inputs = .ok (V, s₀) ↔ ∃ config core, readServerConfig env = .ok config ∧
      WasmRpcCore.new config.relay.localPublicKeyBytes config.relay.hostname serverPeerId =
        .ok core ∧ V = ⟨E, R, config.relay⟩ ∧ s₀ = start core inputs := by
  unfold construct
  simp only [bind_ok, pure, Except.pure, Except.ok.injEq, Prod.mk.injEq]
  constructor
  · rintro ⟨config, read, core, built, rfl, rfl⟩
    exact ⟨config, core, read, built, rfl, rfl⟩
  · rintro ⟨config, core, read, built, rfl, rfl⟩
    exact ⟨config, read, core, built, rfl, rfl⟩

/-- There is room for one more connection. -/
def Room (g : Grid HS) : Prop :=
  g.connections.length < maxConnections ∧ g.world.livePeers < maxLivePeers

private theorem verdict_switching :
    verdict V s.host.ambient = .switching ↔ Room s.host.ambient ∧ Provided V := by
  unfold verdict Room Provided
  rw [← @new_ok _ _ _ _ (s.host.ambient.inputs.secureNow s.host.ambient.tick)]
  by_cases full : s.host.ambient.connections.length ≥ maxConnections
  · rw [if_pos full]
    exact iff_of_false (by decide) fun room => absurd room.1.1 (Nat.not_lt.mpr full)
  · by_cases memory : s.host.ambient.world.livePeers ≥ maxLivePeers
    · rw [if_neg full, if_pos memory]
      exact iff_of_false (by decide) fun room => absurd room.1.2 (Nat.not_lt.mpr memory)
    · rw [if_neg full, if_neg memory]
      cases SecurePeer.new V.secure V.config.localPrivateKey V.config.localPublicKey serverPeerId
          (s.host.ambient.inputs.secureNow s.host.ambient.tick) with
      | error e =>
        refine iff_of_false (fun impossible => by cases impossible) ?_
        rintro ⟨_, p, impossible⟩
        cases impossible
      | ok p =>
        exact iff_of_true rfl ⟨⟨Nat.not_le.mp full, Nat.not_le.mp memory⟩, p, rfl⟩

def healthRequest : Request := ⟨"GET", "/healthz", none⟩

variable {inputs arrival : Inputs} {hs : List Happening} {nowMs : UInt64}

private theorem serve_health :
    serve E R env inputs hs arrival nowMs healthRequest = 200 ↔
      ∃ config, readServerConfig env = .ok config ∧ ∃ key, Keyed E config key := by
  have checked : fetch E env nowMs healthRequest = healthCheck E env nowMs := if_pos ⟨rfl, rfl⟩
  unfold serve
  rw [checked]
  rcases @healthCheck_cases HS E env nowMs with ⟨networks, answer⟩ | answer
  · obtain ⟨config, read, keyed, _⟩ := healthCheck_healthy.mp answer
    rw [answer]
    exact iff_of_true rfl ⟨config, read, keyed⟩
  · rw [answer]
    refine iff_of_false (fun impossible => by cases impossible) ?_
    rintro ⟨config, read, keyed⟩
    rw [healthCheck_healthy.mpr ⟨config, read, keyed, rfl⟩] at answer
    cases answer

section Upgrades

variable {config : Server.Configuration.ServerConfig} {request : Request}
  (root : request.pathname = "/")
  (websocket : request.upgrade.map String.toLower = some "websocket")

include root websocket

private theorem fetch_forwarded (read : readServerConfig env = .ok config) :
    fetch E env nowMs request = .forwarded := by
  have checked : ¬ ("/" = "/healthz" ∧ request.method = "GET") := fun health =>
    absurd health.1 (by decide)
  unfold fetch
  rw [root, if_neg checked, if_neg (not_not.mpr rfl), if_neg (not_not.mpr websocket), read]

private theorem fetch_refused {e : String} (read : readServerConfig env = .error e) :
    fetch E env nowMs request = .invalidConfiguration := by
  have checked : ¬ ("/" = "/healthz" ∧ request.method = "GET") := fun health =>
    absurd health.1 (by decide)
  unfold fetch
  rw [root, if_neg checked, if_neg (not_not.mpr rfl), if_neg (not_not.mpr websocket), read]

private theorem serve_upgrade (read : readServerConfig env = .ok config)
    (alive : lived E R env inputs hs = .ok (V, s)) :
    serve E R env inputs hs arrival nowMs request =
      status (verdict V (arriving s arrival).host.ambient) := by
  have answers := @fetch_upgrade HS V (arriving s arrival) _ websocket
  unfold serve
  rw [fetch_forwarded root websocket read, alive, root]
  show answered (EasyTierServer.fetch V "/" request.upgrade (arriving s arrival)) = _
  cases ran : EasyTierServer.fetch V "/" request.upgrade (arriving s arrival) with
  | ok response s' =>
    rw [← (ensures_of_ok answers ran).1]
    rfl
  | error e s' => exact (ensures_of_error answers ran).elim

end Upgrades

private theorem status_verdict (V : ServerEnv HS) (g : Grid HS) :
    (status (verdict V g) = 101 ∨ status (verdict V g) = 503) ∧
      (status (verdict V g) = 101 ↔ verdict V g = .switching) := by
  unfold verdict
  split
  · decide
  · split
    · decide
    · split
      · decide
      · decide

/-- An upgrade is answered with 101 as long as the health check is answered with 200 and there is
room, and with 503 otherwise. Where the check fails nobody ever gets in. -/
theorem health_decides (E : SecureEnv HS) (R : Rpc.Core.Env) (env : EasyTierEnv)
    (inputs arrival : Inputs) (hs : List Happening) (nowMs nowMs' : UInt64) {request : Request}
    (root : request.pathname = "/")
    (websocket : request.upgrade.map String.toLower = some "websocket") :
    (serve E R env inputs hs arrival nowMs request = 101 ∨
      serve E R env inputs hs arrival nowMs request = 503) ∧
    (serve E R env inputs hs arrival nowMs request = 101 ↔
      serve E R env inputs hs arrival nowMs' healthRequest = 200 ∧
        ∃ V s, lived E R env inputs hs = .ok (V, s) ∧ Room s.host.ambient) ∧
    (serve E R env inputs hs arrival nowMs' healthRequest ≠ 200 →
      ∀ V s, lived E R env inputs hs = .ok (V, s) → Vacant s) := by
  rw [serve_health]
  cases read : readServerConfig env with
  | error e =>
    have refused : serve E R env inputs hs arrival nowMs request = 503 := by
      unfold serve
      rw [fetch_refused root websocket read]
    have unread : ¬ ∃ config, (.error e : Except String _) = .ok config ∧
        ∃ key, Keyed E config key := by
      rintro ⟨config, impossible, _⟩
      cases impossible
    have unbuilt : lived E R env inputs hs = .error e := by
      unfold lived construct
      rw [read]
      rfl
    refine ⟨Or.inr refused, ?_, fun _ V s alive => ?_⟩
    · rw [refused]
      exact iff_of_false (by decide) fun healthy => unread healthy.1
    · rw [unbuilt] at alive
      cases alive
  | ok config =>
    obtain ⟨core, built⟩ := core_of_accepted (readServerConfig_ok.mp read)
    let V : ServerEnv HS := ⟨E, R, config.relay⟩
    let s := run (step V) (start core inputs) hs
    have alive : lived E R env inputs hs = .ok (V, s) := by
      unfold lived
      rw [construct_ok.mpr ⟨config, core, read, built, rfl, rfl⟩]
      rfl
    have healthy : (∃ config', (.ok config : Except String _) = .ok config' ∧
        ∃ key, Keyed E config' key) ↔ Provided V := by
      constructor
      · rintro ⟨config', same, keyed⟩
        cases same
        exact keyed
      · exact fun provided => ⟨config, rfl, provided⟩
    obtain ⟨either, switching⟩ := status_verdict V (arriving s arrival).host.ambient
    rw [serve_upgrade root websocket read alive, healthy]
    refine ⟨either, ?_, fun unhealthy V' s' alive' => ?_⟩
    · rw [switching, verdict_switching]
      constructor
      · exact fun held => ⟨held.2, V, s, alive, held.1⟩
      · rintro ⟨provided, V', s', alive', room⟩
        rw [alive] at alive'
        cases alive'
        exact ⟨room, provided⟩
    · rw [alive] at alive'
      cases alive'
      refine run_vacant core inputs (fun provided => unhealthy ?_) hs
      exact serve_health.mpr ⟨config, read, provided⟩

/-! An environment with the keys as Rust would write them. -/

def plainEnvironment : EasyTierEnv where
  easytierNetworks := some (units "[\x7b\"network_name\":\"n\",\"network_secret\":\"s\"\x7d]")
  localPrivateKey := some (keyText (Vector.replicate 32 7))
  localPublicKey := some (keyText (Vector.replicate 32 7))
  easytierHostname := none
  maxFrameBytes := none

/-- The plain dependencies, with the decoder of Rust. -/
def strictEnv : SecureEnv Turn :=
  { plainEnv with decodeBase64 := fun value => Base64.decode (value.toList.map Char.toNat) }

def upgradeRequest : Request := ⟨"GET", "/", some "WebSocket"⟩

/-- The answer to an upgrade after another one. -/
def plainAnswer (env : EasyTierEnv) (request : Request) : Nat :=
  serve strictEnv Registries.plainServer.rpc env Registries.plainInputs
    [⟨.fetch "/" (some "websocket"), Registries.plainInputs⟩] Registries.plainInputs 0 request

theorem health_decides_second :
    (plainAnswer plainEnvironment upgradeRequest = 101 ∨
      plainAnswer plainEnvironment upgradeRequest = 503) ∧
    plainAnswer plainEnvironment upgradeRequest = 101 ∧
    plainAnswer plainEnvironment healthRequest = 200 :=
  have told := @health_decides Turn strictEnv Registries.plainServer.rpc plainEnvironment
    Registries.plainInputs Registries.plainInputs
    [⟨.fetch "/" (some "websocket"), Registries.plainInputs⟩] 0 0 upgradeRequest rfl
    (by decide +kernel)
  ⟨told.1, by decide +kernel, (told.2.1.mp (by decide +kernel)).1⟩

theorem healthy_keys_plain :
    (∃ config key, Accepted plainEnvironment config ∧ config.rooms.entries.length = 1 ∧
      plainEnvironment.localPrivateKey = some (keyText key) ∧
      plainEnvironment.localPublicKey = some (keyText (strictEnv.x25519Public key)) ∧
      config.localPublicKeyBytes = (strictEnv.x25519Public key).toList) :=
  (@healthy_keys Turn strictEnv plainEnvironment (fun _ => rfl) 0 1).mp (by decide +kernel)

/-- A blank before a key is nothing to `atob`, and too much for Rust. -/
example : (readServerConfig
      { plainEnvironment with
        localPublicKey := some (32 :: keyText (Vector.replicate 32 7)) }).isOk = true ∧
    plainAnswer { plainEnvironment with
      localPublicKey := some (32 :: keyText (Vector.replicate 32 7)) } upgradeRequest = 503 := by
  decide +kernel

end EasyTierEdge.Server.Worker
