/- module: EasyTierEdge/Server/Configuration
   source: cloudflare/src/core/config.ts
   digest: What the worker reads of its environment, and which environments it accepts. -/

import EasyTierEdge.Server.Messages

set_option autoImplicit false
set_option relaxedAutoImplicit false

namespace EasyTierEdge.Server.Configuration

open Lib Lib.FiniteMap Lib.OrderedMap
open Lib.Double (Number)
open Lib.Json (Value member? parse)
open Lib.Utf16 (Units)
open Packet (Bytes)
open Messages (units atob)

structure RoomConfig where
  networkSecret : Units
  deriving DecidableEq

structure ServerConfig where
  rooms : OMap Units RoomConfig
  hostname : Units
  localPrivateKey : Units
  localPublicKey : Units
  localPublicKeyBytes : Bytes
  maxFrameBytes : Nat

/-- The variables of the worker; any of them may be missing. -/
structure EasyTierEnv where
  easytierNetworks : Option Units
  localPrivateKey : Option Units
  localPublicKey : Option Units
  easytierHostname : Option Units
  maxFrameBytes : Option Units

/-- A JavaScript string as it is printed, or handed to Rust. -/
def text (s : Units) : String := String.ofList (Utf16.decode s)

/-- `UTF8_ENCODER.encode(s).byteLength`. -/
def utf8Length (s : Units) : Nat := (text s).utf8ByteSize

def decodeBase64Key (value : Units) (name : String) : Except String Bytes :=
  match atob value with
  | none => .error s!"{name} must be valid base64"
  | some decoded =>
    if decoded.length ≠ 32 then .error s!"{name} must decode to exactly 32 bytes"
    else .ok decoded

def isZero (bytes : Bytes) : Bool := bytes.all fun byte => byte = 0

/-- One entry of `EASYTIER_NETWORKS`. -/
def readRoom (rooms : OMap Units RoomConfig) (candidate : Value) :
    Except String (OMap Units RoomConfig) :=
  match candidate with
  | .object members =>
    match member? (units "network_name") members with
    | some (.string networkName) =>
      if utf8Length networkName = 0 ∨ utf8Length networkName > 255 then
        .error "each room requires a non-empty network_name of at most 255 bytes"
      else
        match member? (units "network_secret") members with
        | some (.string networkSecret) =>
          if networkSecret.length = 0 then
            .error s!"room {text networkName} requires a non-empty network_secret"
          else if networkName ∈ rooms then
            .error s!"duplicate network_name: {text networkName}"
          else .ok (OMap.set rooms networkName ⟨networkSecret⟩)
        | _ => .error s!"room {text networkName} requires a non-empty network_secret"
    | _ => .error "each room requires a non-empty network_name of at most 255 bytes"
  | _ => .error "each EASYTIER_NETWORKS entry must be an object"

def readRooms (networks : Option Units) : Except String (OMap Units RoomConfig) :=
  -- a missing variable is no JSON either
  match networks.bind parse with
  | none => .error "EASYTIER_NETWORKS must be a JSON array"
  | some (.array (first :: rest)) => (first :: rest).foldlM readRoom ∅
  | some _ => .error "EASYTIER_NETWORKS must configure at least one network"

def readMaxFrameBytes (value : Option Units) : Except String Nat :=
  let maxFrameBytes := value.elim (Number.finite 1_048_576) Double.ofText
  match maxFrameBytes with
  | .finite q =>
    if ¬ (Number.finite q).isSafeInteger ∨ q < 1024 ∨ q > 16_777_216 then
      .error "MAX_FRAME_BYTES must be an integer between 1024 and 16777216"
    else .ok q.num.toNat
  | _ => .error "MAX_FRAME_BYTES must be an integer between 1024 and 16777216"

def readServerConfig (env : EasyTierEnv) : Except String ServerConfig := do
  let localPrivateKey := env.localPrivateKey.getD []
  let localPublicKey := env.localPublicKey.getD []
  if localPrivateKey = [] ∨ localPublicKey = [] then
    throw "secure_mode requires LOCAL_PRIVATE_KEY and LOCAL_PUBLIC_KEY"
  else do
    let privateBytes ← decodeBase64Key localPrivateKey "LOCAL_PRIVATE_KEY"
    let publicBytes ← decodeBase64Key localPublicKey "LOCAL_PUBLIC_KEY"
    if isZero privateBytes || isZero publicBytes then
      throw "secure_mode keys must not be all-zero values"
    else do
      let rooms ← readRooms env.easytierNetworks
      let maxFrameBytes ← readMaxFrameBytes env.maxFrameBytes
      let hostname := env.easytierHostname.getD (units "edge")
      if hostname.length = 0 ∨ utf8Length hostname > 255 then
        throw "EASYTIER_HOSTNAME must be a non-empty string of at most 255 bytes"
      else
        return {
          rooms
          hostname
          localPrivateKey
          localPublicKey
          localPublicKeyBytes := publicBytes
          maxFrameBytes }

/-! What is accepted. -/

/-- A candidate for a room that is one, and its entry in the map. -/
structure Entry (candidate : Value) (room : (_ : Units) × RoomConfig) : Prop where
  written : ∃ members, candidate = .object members ∧
    member? (units "network_name") members = some (.string room.1) ∧
    member? (units "network_secret") members = some (.string room.2.networkSecret)
  named : 0 < utf8Length room.1 ∧ utf8Length room.1 ≤ 255
  secret : room.2.networkSecret ≠ []

/-- An environment that the worker runs with, and its configuration. Every name stands in the map
once. -/
structure Accepted (env : EasyTierEnv) (config : ServerConfig) : Prop where
  privateKey : env.localPrivateKey = some config.localPrivateKey
  publicKey : env.localPublicKey = some config.localPublicKey
  privateBytes : ∃ bytes, atob config.localPrivateKey = some bytes ∧ bytes.length = 32 ∧
    isZero bytes = false
  publicBytes : atob config.localPublicKey = some config.localPublicKeyBytes ∧
    config.localPublicKeyBytes.length = 32 ∧ isZero config.localPublicKeyBytes = false
  rooms : ∃ json candidates, env.easytierNetworks = some json ∧
    Json.Says json (.array candidates) ∧ candidates ≠ [] ∧
    List.Forall₂ Entry candidates config.rooms.entries
  frames : env.maxFrameBytes.elim (Number.finite 1_048_576) Double.ofText =
      .finite config.maxFrameBytes ∧
    1024 ≤ config.maxFrameBytes ∧ config.maxFrameBytes ≤ 16_777_216
  hostname : config.hostname = env.easytierHostname.getD (units "edge") ∧ config.hostname ≠ [] ∧
    utf8Length config.hostname ≤ 255

section Rooms

variable {rooms rooms' : OMap Units RoomConfig}

private theorem entries_set {name : Units} (fresh : name ∉ rooms) (room : RoomConfig) :
    (OMap.set rooms name room).entries = rooms.entries ++ [⟨name, room⟩] := by
  unfold OMap.set
  rw [dif_neg fresh]

private theorem fresh_of_entries {room : (_ : Units) × RoomConfig}
    {added : List ((_ : Units) × RoomConfig)}
    (all : rooms'.entries = rooms.entries ++ room :: added) : room.1 ∉ rooms := by
  have nodup : rooms'.entries.keys.Nodup := rooms'.nodupKeys
  rw [all, List.keys, List.map_append, List.map_cons, List.nodup_append] at nodup
  intro old
  exact nodup.2.2 room.1 old room.1 List.mem_cons_self rfl

private theorem readRoom_ok {candidate : Value} (read : readRoom rooms candidate = .ok rooms') :
    ∃ room, Entry candidate room ∧ rooms'.entries = rooms.entries ++ [room] := by
  unfold readRoom at read
  split at read
  · rename_i members
    split at read
    · rename_i networkName name
      split at read
      · cases read
      · rename_i sized
        split at read
        · rename_i networkSecret secret
          split at read
          · cases read
          split at read
          · cases read
          · rename_i filled fresh
            cases read
            refine ⟨⟨networkName, ⟨networkSecret⟩⟩, ⟨⟨members, rfl, name, secret⟩, ?_, ?_⟩,
              entries_set fresh ⟨networkSecret⟩⟩
            · show 0 < utf8Length networkName ∧ utf8Length networkName ≤ 255
              omega
            · exact mt List.length_eq_zero_iff.mpr filled
        · cases read
    · cases read
  · cases read

private theorem readRoom_entry {candidate : Value} {room : (_ : Units) × RoomConfig}
    (entry : Entry candidate room) (fresh : room.1 ∉ rooms) :
    readRoom rooms candidate = .ok (OMap.set rooms room.1 room.2) := by
  obtain ⟨members, rfl, name, secret⟩ := entry.written
  have sized : ¬ (utf8Length room.1 = 0 ∨ utf8Length room.1 > 255) := by
    have named := entry.named
    omega
  have filled : ¬ room.2.networkSecret.length = 0 :=
    mt List.length_eq_zero_iff.mp entry.secret
  unfold readRoom
  simp only [name, secret, if_neg sized, if_neg filled, if_neg fresh]

/-- The loop over the candidates, from any map. -/
private theorem foldlM_readRoom {candidates : List Value} :
    candidates.foldlM readRoom rooms = .ok rooms' ↔
      ∃ added, List.Forall₂ Entry candidates added ∧
        rooms'.entries = rooms.entries ++ added := by
  induction candidates generalizing rooms with
  | nil =>
    constructor
    · intro read
      cases read
      exact ⟨[], .nil, (List.append_nil _).symm⟩
    · rintro ⟨added, nothing, same⟩
      cases nothing
      rw [List.append_nil] at same
      rw [AList.ext same]
      rfl
  | cons candidate rest ih =>
    rw [List.foldlM_cons]
    constructor
    · intro read
      cases first : readRoom rooms candidate with
      | error e =>
        rw [first] at read
        cases read
      | ok middle =>
        rw [first] at read
        obtain ⟨room, entry, one⟩ := readRoom_ok first
        obtain ⟨added, entries, all⟩ := ih.mp read
        refine ⟨room :: added, .cons entry entries, ?_⟩
        rw [all, one, List.append_assoc, List.singleton_append]
    · rintro ⟨added, entries, all⟩
      cases entries with
      | @cons _ room _ added entry entries =>
        have fresh : room.1 ∉ rooms := fresh_of_entries all
        rw [readRoom_entry entry fresh]
        refine ih.mpr ⟨added, entries, ?_⟩
        rw [all, entries_set fresh, List.append_assoc, List.singleton_append]

private theorem readRooms_ok {networks : Option Units} :
    readRooms networks = .ok rooms ↔ ∃ json candidates, networks = some json ∧
      Json.Says json (.array candidates) ∧ candidates ≠ [] ∧
      List.Forall₂ Entry candidates rooms.entries := by
  constructor
  · intro read
    unfold readRooms at read
    split at read
    · cases read
    · rename_i first rest parsed
      obtain ⟨json, given, parsed⟩ := Option.bind_eq_some_iff.mp parsed
      obtain ⟨added, entries, all⟩ := foldlM_readRoom.mp read
      have same : rooms.entries = added := all
      exact ⟨json, first :: rest, given, Json.parse_eq_some.mp parsed, List.cons_ne_nil _ _,
        same ▸ entries⟩
    · cases read
  · rintro ⟨json, candidates, rfl, told, some_, entries⟩
    obtain ⟨first, rest, rfl⟩ := List.exists_cons_of_ne_nil some_
    unfold readRooms
    rw [Option.bind_some, Json.parse_eq_some.mpr told]
    exact foldlM_readRoom.mpr ⟨rooms.entries, entries, rfl⟩

end Rooms

private theorem decodeBase64Key_ok {value : Units} {name : String} {bytes : Bytes} :
    decodeBase64Key value name = .ok bytes ↔ atob value = some bytes ∧ bytes.length = 32 := by
  unfold decodeBase64Key
  cases atob value with
  | none => exact iff_of_false (fun read => by cases read) (fun held => by cases held.1)
  | some decoded =>
    by_cases sized : decoded.length ≠ 32
    · simp only [if_pos sized]
      refine iff_of_false (fun read => by cases read) ?_
      rintro ⟨same, sized'⟩
      cases same
      exact sized sized'
    · simp only [if_neg sized, Except.ok.injEq, Option.some.injEq]
      constructor
      · rintro rfl
        exact ⟨rfl, not_not.mp sized⟩
      · exact fun held => held.1

private theorem exists_nat_of_safe {q : ℚ} (safe : (Number.finite q).isSafeInteger = true)
    (nonneg : 0 ≤ q) : ∃ n : ℕ, q = n := by
  simp only [Number.isSafeInteger, Bool.and_eq_true, decide_eq_true_eq] at safe
  obtain ⟨n, whole⟩ := Int.eq_ofNat_of_zero_le (Rat.num_nonneg.mpr nonneg)
  refine ⟨n, ?_⟩
  rw [← Rat.coe_int_num_of_den_eq_one safe.1, whole]
  rfl

private theorem readMaxFrameBytes_ok {value : Option Units} {n : Nat} :
    readMaxFrameBytes value = .ok n ↔
      value.elim (Number.finite 1_048_576) Double.ofText = .finite n ∧
        1024 ≤ n ∧ n ≤ 16_777_216 := by
  unfold readMaxFrameBytes
  cases value.elim (Number.finite 1_048_576) Double.ofText with
  | nan => exact iff_of_false (fun read => by cases read) (fun held => by cases held.1)
  | infinite negative =>
    exact iff_of_false (fun read => by cases read) (fun held => by cases held.1)
  | finite q =>
    simp only
    constructor
    · intro read
      split at read
      · cases read
      · rename_i fine
        obtain ⟨safe, low, high⟩ : (Number.finite q).isSafeInteger = true ∧ 1024 ≤ q ∧
            q ≤ 16_777_216 := by
          simpa only [not_or, not_not, not_lt, gt_iff_lt] using fine
        cases read
        obtain ⟨n, rfl⟩ := exists_nat_of_safe safe (le_trans (by norm_num) low)
        rw [Rat.num_natCast, Int.toNat_natCast]
        exact ⟨rfl, by exact_mod_cast low, by exact_mod_cast high⟩
    · rintro ⟨same, low, high⟩
      cases same
      have low' : (1024 : ℚ) ≤ n := by exact_mod_cast low
      have high' : (n : ℚ) ≤ 16_777_216 := by exact_mod_cast high
      have safe : (Number.finite (n : ℚ)).isSafeInteger = true := by
        simp only [Number.isSafeInteger, Rat.den_natCast, decide_true, Bool.true_and,
          decide_eq_true_eq, abs_of_nonneg (Nat.cast_nonneg (α := ℚ) n)]
        exact high'.trans (by norm_num)
      rw [if_neg, Rat.num_natCast, Int.toNat_natCast]
      simp only [safe, not_true_eq_false, false_or, not_or, not_lt, gt_iff_lt]
      exact ⟨low', high'⟩

private theorem key_ne_nil {value : Units} {bytes : Bytes} (read : atob value = some bytes)
    (sized : bytes.length = 32) : value ≠ [] := by
  rintro rfl
  cases read
  cases sized

private theorem eq_some_getD {value : Option Units} (some_ : value.getD [] ≠ []) :
    value = some (value.getD []) := by
  cases value with
  | none => exact absurd rfl some_
  | some key => rfl

theorem bind_ok {α β : Type} {x : Except String α} {f : α → Except String β} {b : β} :
    (x >>= f) = .ok b ↔ ∃ a, x = .ok a ∧ f a = .ok b := by
  cases x with
  | error e => exact iff_of_false (fun held => by cases held) (fun ⟨_, held, _⟩ => by cases held)
  | ok a =>
    constructor
    · exact fun held => ⟨a, rfl, held⟩
    · rintro ⟨_, same, held⟩
      cases same
      exact held

private theorem guard_ok {α : Type} {c : Prop} [Decidable c] {e : String} {x : Except String α}
    {a : α} :
    (if c then throw e else x) = .ok a ↔ ¬ c ∧ x = .ok a := by
  by_cases holds : c
  · rw [if_pos holds]
    exact iff_of_false (fun held => by cases held) (fun held => held.1 holds)
  · rw [if_neg holds]
    exact (and_iff_right holds).symm

theorem readServerConfig_ok {env : EasyTierEnv} {config : ServerConfig} :
    readServerConfig env = .ok config ↔ Accepted env config := by
  unfold readServerConfig
  simp only [guard_ok, bind_ok, decodeBase64Key_ok, readRooms_ok, readMaxFrameBytes_ok]
  constructor
  · rintro ⟨given, privateBytes, privateKey, publicBytes, publicKey, nonzero, rooms, written,
      maxFrameBytes, frames, hostname, made⟩
    cases made
    obtain ⟨some_, some_'⟩ := not_or.mp given
    obtain ⟨filled, sized⟩ := not_or.mp hostname
    have zeros : isZero privateBytes = false ∧ isZero publicBytes = false := by
      simpa only [Bool.not_eq_true, Bool.or_eq_false_iff] using nonzero
    exact {
      privateKey := eq_some_getD some_
      publicKey := eq_some_getD some_'
      privateBytes := ⟨privateBytes, privateKey.1, privateKey.2, zeros.1⟩
      publicBytes := ⟨publicKey.1, publicKey.2, zeros.2⟩
      rooms := written
      frames
      hostname := ⟨rfl, mt List.length_eq_zero_iff.mpr filled, Nat.not_lt.mp sized⟩ }
  · rintro ⟨privateKey, publicKey, ⟨bytes, private₁, private₂, private₃⟩,
      ⟨public₁, public₂, public₃⟩, rooms, frames, hostname, filled, sized⟩
    rw [privateKey, publicKey, ← hostname]
    have given : ¬ (config.localPrivateKey = [] ∨ config.localPublicKey = []) :=
      not_or.mpr ⟨key_ne_nil private₁ private₂, key_ne_nil public₁ public₂⟩
    have nonzero : ¬ (isZero bytes || isZero config.localPublicKeyBytes) = true := by
      simp [private₃, public₃]
    have named : ¬ (config.hostname.length = 0 ∨ utf8Length config.hostname > 255) :=
      not_or.mpr ⟨mt List.length_eq_zero_iff.mp filled, Nat.not_lt.mpr sized⟩
    exact ⟨given, bytes, ⟨private₁, private₂⟩, config.localPublicKeyBytes, ⟨public₁, public₂⟩,
      nonzero, config.rooms, rooms, config.maxFrameBytes, frames, named, rfl⟩

/-! What the server has of it. -/

private theorem text_units (name : String) : text (units name) = name := by
  rw [text, units, Utf16.decode_encode, String.ofList_toList]

/-- The rooms by the names that Rust has; no peer can ask for another one. -/
def namedRooms (rooms : List ((_ : Units) × RoomConfig)) : FMap String String :=
  rooms.foldr (fun room named =>
    if units (text room.1) = room.1 then
      named.insert (text room.1) (text room.2.networkSecret)
    else named) ∅

/-- The configuration as the server works with it. -/
def ServerConfig.relay (config : ServerConfig) : Relay.ServerConfig where
  rooms := namedRooms config.rooms.entries
  hostname := text config.hostname
  localPrivateKey := text config.localPrivateKey
  localPublicKey := text config.localPublicKey
  localPublicKeyBytes := config.localPublicKeyBytes
  maxFrameBytes := config.maxFrameBytes

private theorem lookup_namedRooms (rooms : List ((_ : Units) × RoomConfig)) (name : String) :
    (namedRooms rooms).lookup name =
      (rooms.dlookup (units name)).map fun room => text room.networkSecret := by
  induction rooms with
  | nil => rfl
  | cons room rest ih =>
    obtain ⟨key, room⟩ := room
    have head : namedRooms (⟨key, room⟩ :: rest) = if units (text key) = key then
        (namedRooms rest).insert (text key) (text room.networkSecret) else namedRooms rest := rfl
    rw [head]
    by_cases own : units name = key
    · subst own
      rw [text_units, if_pos rfl, Finmap.lookup_insert, List.dlookup_cons_eq]
      rfl
    · rw [List.dlookup_cons_ne _ (⟨key, room⟩ : (_ : Units) × RoomConfig) own, ← ih]
      by_cases named : units (text key) = key
      · have other : name ≠ text key := by
          rintro rfl
          exact own named
        rw [if_pos named, Finmap.lookup_insert_of_ne _ other]
      · rw [if_neg named]

private theorem relay_rooms (config : ServerConfig) (name : String) :
    config.relay.rooms.lookup name =
      (config.rooms.lookup (units name)).map fun room => text room.networkSecret :=
  lookup_namedRooms config.rooms.entries name

theorem core_of_accepted {env : EasyTierEnv} {config : ServerConfig}
    (accepted : Accepted env config) :
    ∃ core, Rpc.Core.WasmRpcCore.new config.relay.localPublicKeyBytes config.relay.hostname
      Sockets.serverPeerId = .ok core := by
  have sized : ¬ config.relay.localPublicKeyBytes.length ≠ 32 :=
    not_not.mpr accepted.publicBytes.2.1
  unfold Rpc.Core.WasmRpcCore.new
  rw [if_neg sized, if_neg (by decide)]
  exact ⟨_, rfl⟩

/-- The worker runs with an environment exactly when it finds keys, rooms, a frame limit and a host
name in it that are what they have to be. Then its configuration is what stands there, the core can
be made of it, and the server knows the rooms by the names that peers announce. -/
theorem configuration_read (env : EasyTierEnv) (config : ServerConfig) :
    (readServerConfig env = .ok config ↔ Accepted env config) ∧
      (Accepted env config →
        (∃ core, Rpc.Core.WasmRpcCore.new config.relay.localPublicKeyBytes config.relay.hostname
          Sockets.serverPeerId = .ok core) ∧
        ∀ name, config.relay.rooms.lookup name =
          (config.rooms.lookup (units name)).map fun room => text room.networkSecret) :=
  ⟨readServerConfig_ok, fun accepted => ⟨core_of_accepted accepted, relay_rooms config⟩⟩

end EasyTierEdge.Server.Configuration
