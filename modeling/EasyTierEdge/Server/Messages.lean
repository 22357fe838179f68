/- module: EasyTierEdge/Server/Messages
   source: cloudflare/src/runtime/messages.ts; cloudflare/wasm/src/secure.rs, Msg1Info, AuthInfo
   digest: The JSON texts between the secure object of a connection and the server. -/

import EasyTierEdge.Lib.Base64
import EasyTierEdge.Lib.Json
import EasyTierEdge.Secure.Announcements
import EasyTierEdge.Server.Relay

set_option autoImplicit false
set_option relaxedAutoImplicit false

namespace EasyTierEdge.Server.Messages

open Lib Lib.Fallible
open Lib.Double (Number)
open Lib.Json (Value Scalar member? parse readMembers writeObject writeArray)
open Lib.Utf16 (Units)
open Packet (Bytes)
open Rpc.Scheduler (RpcPeer routeSyncKey)
open Secure.Peer

/-- A Rust string as a JavaScript string. -/
def units (s : String) : Units := Utf16.encode s.toList

private theorem units_injective : Function.Injective units := by
  intro s t same
  exact String.toList_injective (Utf16.encode_injective same)

/-! The writers, `serde_json::to_string`. -/

def msg1Fields (info : Msg1Info) : List (List Char × Scalar) := [
  ("peer_id".toList, .natural info.peerId.toNat),
  ("network_name".toList, .text info.networkName.toList),
  ("client_encryption_algorithm".toList, .text info.clientEncryptionAlgorithm.toList)]

def msg1Json (info : Msg1Info) : Units := writeObject (msg1Fields info)

/-- `BASE64_STANDARD.encode`. -/
def base64Text (bytes : Bytes) : List Char := (Base64.encode bytes).map Char.ofNat

def authFields (info : AuthInfo) : List (List Char × Scalar) := [
  ("peer_id".toList, .natural info.peerId.toNat),
  ("network_name".toList, .text info.networkName.toList),
  ("remote_public_key_base64".toList, .text (base64Text info.remotePublicKey)),
  ("auth_level".toList, .text info.authLevel.toList)]

def authJson (info : AuthInfo) : Units := writeObject (authFields info)

/-! The readers of `messages.ts`. -/

structure HandshakeInfo where
  peerId : UInt32
  networkName : Units

structure AuthenticationInfo where
  peerId : UInt32
  networkName : Units
  remotePublicKey : Bytes

/-- `atob`. -/
def atob (text : Units) : Option Bytes := Base64.forgivingDecode (text.map UInt16.toNat)

def decodePublicKey (base64 : Units) : Except String Bytes :=
  match atob base64 with
  | none => .error "remote_public_key_base64 is not valid base64"
  | some key =>
    if key.length ≠ 32 then .error "remote_public_key_base64 must decode to 32 bytes" else .ok key

def parseObject (json : Units) (operation : String) : Except String (List (Units × Value)) :=
  match parse json with
  | none => .error s!"{operation} is not valid JSON"
  | some (.object members) => .ok members
  | some _ => .error s!"{operation} must be a JSON object"

def readPeerId (value : Option Value) (field : String) : Except String UInt32 :=
  match value with
  | some (.number (.finite q)) =>
    if ¬ (Number.finite q).isInteger ∨ q ≤ 0 ∨ q > 0xffffffff then
      .error s!"{field} must be a non-zero u32 peer id"
    else .ok (UInt32.ofNat q.num.toNat)
  | _ => .error s!"{field} must be a non-zero u32 peer id"

def readString (value : Option Value) (field : String) : Except String Units :=
  match value with
  | some (.string text) =>
    if text.length = 0 then .error s!"{field} must be a non-empty string" else .ok text
  | _ => .error s!"{field} must be a non-empty string"

def parseHandshakeInfo (json : Units) : Except String HandshakeInfo := do
  let value ← parseObject json "NoiseHandshakeMsg1 result"
  let _ ← readString (member? (units "client_encryption_algorithm") value)
    "client_encryption_algorithm"
  let peerId ← readPeerId (member? (units "peer_id") value) "peer_id"
  let networkName ← readString (member? (units "network_name") value) "network_name"
  return { peerId, networkName }

/-- Whether a value is this string. -/
def isText (value : Option Value) (text : String) : Bool :=
  match value with
  | some (.string t) => t = units text
  | _ => false

def parseAuthenticationInfo (json : Units) : Except String AuthenticationInfo := do
  let value ← parseObject json "NoiseHandshakeMsg3 result"
  if !isText (member? (units "auth_level") value) "NetworkSecretConfirmed" then
    throw "secure handshake did not confirm the network secret"
  let peerId ← readPeerId (member? (units "peer_id") value) "peer_id"
  let networkName ← readString (member? (units "network_name") value) "network_name"
  let base64 ← readString (member? (units "remote_public_key_base64") value)
    "remote_public_key_base64"
  let remotePublicKey ← decodePublicKey base64
  return { peerId, networkName, remotePublicKey }

/-! What is read of what was written. -/

private theorem exact_u32 (n : UInt32) : (Scalar.natural n.toNat).Exact :=
  Nat.lt_trans n.toNat_lt (by decide)

private theorem readPeerId_natural (n : UInt32) (field : String) :
    readPeerId (some (Scalar.natural n.toNat).read) field = Relay.readPeerId n field := by
  have small : ((n.toNat : ℕ) : ℚ) ≤ 0xffffffff := by
    have bound := n.toNat_lt
    exact_mod_cast Nat.le_of_lt_succ bound
  have whole : (Number.finite ((n.toNat : ℕ) : ℚ)).isInteger = true := by
    simp [Number.isInteger]
  have back : UInt32.ofNat ((n.toNat : ℕ) : ℚ).num.toNat = n := by
    rw [Rat.num_natCast, Int.toNat_natCast, UInt32.ofNat_toNat]
  unfold Scalar.read readPeerId Relay.readPeerId
  simp only [whole, not_true_eq_false, not_lt.mpr small, or_false, false_or, back]
  by_cases zero : n = 0
  · subst zero
    rw [if_pos rfl, if_pos]
    simp
  · have positive : 0 < n.toNat := by
      refine Nat.pos_of_ne_zero fun same => zero ?_
      exact UInt32.toNat_inj.mp same
    rw [if_neg zero, if_neg]
    exact not_le.mpr (by exact_mod_cast positive)

private theorem units_eq_nil {s : String} : units s = [] ↔ s = "" := by
  rw [units, Utf16.encode_eq_nil, String.toList_eq_nil_iff]

private theorem readString_text (s : String) (field : String) :
    readString (some (Scalar.text s.toList).read) field = (Relay.readString s field).map units := by
  unfold Scalar.read readString Relay.readString
  by_cases empty : s = ""
  · subst empty
    rfl
  · have filled : ¬ s.isEmpty = true := by
      rwa [String.isEmpty_iff]
    have long : ¬ (units s).length = 0 :=
      mt List.length_eq_zero_iff.mp (mt units_eq_nil.mp empty)
    rw [if_neg filled]
    exact if_neg long

/-- The key that `secure.rs` writes is the key that the server reads. -/
theorem atob_base64Text (bytes : Bytes) : atob (Utf16.encode (base64Text bytes)) = some bytes := by
  rw [atob, base64Text, Utf16.encode_ascii (Base64.encode_ascii bytes)]
  exact Base64.forgivingDecode_encode bytes

private theorem readString_base64 {bytes : Bytes} (some_ : bytes ≠ []) (field : String) :
    readString (some (Scalar.text (base64Text bytes)).read) field =
      .ok (Utf16.encode (base64Text bytes)) := by
  have filled : Utf16.encode (base64Text bytes) ≠ [] := by
    intro empty
    have read := atob_base64Text bytes
    rw [empty] at read
    exact some_ (Option.some.inj read).symm
  exact if_neg (mt List.length_eq_zero_iff.mp filled)

private theorem decodePublicKey_base64 (bytes : Bytes) :
    decodePublicKey (Utf16.encode (base64Text bytes)) =
      if bytes.length ≠ 32 then .error "remote_public_key_base64 must decode to 32 bytes"
      else .ok bytes := by
  unfold decodePublicKey
  rw [atob_base64Text]

private theorem isText_written (s text : String) :
    isText (some (Scalar.text s.toList).read) text = decide (s = text) :=
  decide_eq_decide.mpr units_injective.eq_iff

/-! Whole messages. -/

/-- The information of a message as JavaScript holds it. -/
def HandshakeInfo.ofRelay (info : Relay.HandshakeInfo) : HandshakeInfo :=
  ⟨info.peerId, units info.networkName⟩

def AuthenticationInfo.ofRelay (info : Relay.AuthenticationInfo) : AuthenticationInfo :=
  ⟨info.peerId, units info.networkName, info.remotePublicKey⟩

private theorem parseObject_written {fields : List (List Char × Scalar)} (operation : String)
    (small : ∀ m ∈ fields, m.2.Exact) :
    parseObject (writeObject fields) operation = .ok (readMembers fields) := by
  rw [parseObject, Json.parse_writeObject small]

private theorem parseHandshakeInfo_written (info : Msg1Info) :
    parseHandshakeInfo (msg1Json info) =
      (Relay.parseHandshakeInfo info).map HandshakeInfo.ofRelay := by
  have exact_ : ∀ m ∈ msg1Fields info, m.2.Exact := by
    simpa [msg1Fields, Scalar.Exact] using exact_u32 info.peerId
  have algorithm : member? (units "client_encryption_algorithm") (readMembers (msg1Fields info)) =
      some (Scalar.text info.clientEncryptionAlgorithm.toList).read := rfl
  have peerId : member? (units "peer_id") (readMembers (msg1Fields info)) =
      some (Scalar.natural info.peerId.toNat).read := rfl
  have networkName : member? (units "network_name") (readMembers (msg1Fields info)) =
      some (Scalar.text info.networkName.toList).read := rfl
  unfold parseHandshakeInfo Relay.parseHandshakeInfo
  simp only [msg1Json, parseObject_written _ exact_, bind, Except.bind, algorithm, peerId,
    networkName, readString_text, readPeerId_natural]
  cases Relay.readString info.clientEncryptionAlgorithm "client_encryption_algorithm" with
  | error e => rfl
  | ok algorithm =>
    cases Relay.readPeerId info.peerId "peer_id" with
    | error e => rfl
    | ok peerId =>
      cases Relay.readString info.networkName "network_name" with
      | error e => rfl
      | ok networkName => rfl

private theorem parseAuthenticationInfo_written {info : AuthInfo}
    (keyed : info.remotePublicKey ≠ []) :
    parseAuthenticationInfo (authJson info) =
      (Relay.parseAuthenticationInfo info).map AuthenticationInfo.ofRelay := by
  have exact_ : ∀ m ∈ authFields info, m.2.Exact := by
    simpa [authFields, Scalar.Exact] using exact_u32 info.peerId
  have level : member? (units "auth_level") (readMembers (authFields info)) =
      some (Scalar.text info.authLevel.toList).read := rfl
  have peerId : member? (units "peer_id") (readMembers (authFields info)) =
      some (Scalar.natural info.peerId.toNat).read := rfl
  have networkName : member? (units "network_name") (readMembers (authFields info)) =
      some (Scalar.text info.networkName.toList).read := rfl
  have base64 : member? (units "remote_public_key_base64") (readMembers (authFields info)) =
      some (Scalar.text (base64Text info.remotePublicKey)).read := rfl
  unfold parseAuthenticationInfo Relay.parseAuthenticationInfo
  simp only [authJson, parseObject_written _ exact_, bind, Except.bind, level, peerId, networkName,
    base64, isText_written, readString_text, readPeerId_natural, readString_base64 keyed,
    decodePublicKey_base64]
  by_cases confirmed : info.authLevel = "NetworkSecretConfirmed"
  · rw [confirmed]
    cases Relay.readPeerId info.peerId "peer_id" with
    | error e => rfl
    | ok peerId =>
      cases Relay.readString info.networkName "network_name" with
      | error e => rfl
      | ok networkName =>
        by_cases sized : info.remotePublicKey.length ≠ 32
        · simp [sized]
          rfl
        · simp [sized]
          rfl
  · simp [confirmed]
    rfl

/-! Every message of a run. -/

open Secure.Connections (Event Outcome World)
open Secure.Announcements (Complete outcome_complete)

/-- The server reads of this answer what the object meant. -/
def Understood : Outcome → Prop
  | .msg1 (.ok info) =>
    parseHandshakeInfo (msg1Json info) = .ok ⟨info.peerId, units info.networkName⟩
  | .auth (.ok info) =>
    parseAuthenticationInfo (authJson info) =
      .ok ⟨info.peerId, units info.networkName, info.remotePublicKey⟩
  | _ => True

private theorem readString_filled {s : String} (filled : s ≠ "") (field : String) :
    Relay.readString s field = .ok s := by
  unfold Relay.readString
  rw [if_neg]
  rwa [String.isEmpty_iff]

private theorem readPeerId_nonzero {n : UInt32} (nonzero : n ≠ 0) (field : String) :
    Relay.readPeerId n field = .ok n := if_neg nonzero

private theorem msg1_understood {info : Msg1Info} (complete : Complete (.msg1 (.ok info))) :
    Understood (.msg1 (.ok info)) := by
  obtain ⟨nonzero, filled, chosen⟩ := complete
  show parseHandshakeInfo (msg1Json info) = _
  rw [parseHandshakeInfo_written]
  unfold Relay.parseHandshakeInfo
  rw [readString_filled chosen, readString_filled filled, readPeerId_nonzero nonzero]
  rfl

private theorem auth_understood {info : AuthInfo} (complete : Complete (.auth (.ok info))) :
    Understood (.auth (.ok info)) := by
  obtain ⟨nonzero, filled, sized, level⟩ := complete
  have keyed : info.remotePublicKey ≠ [] := by
    intro empty
    rw [empty] at sized
    cases sized
  show parseAuthenticationInfo (authJson info) = _
  rw [parseAuthenticationInfo_written keyed]
  unfold Relay.parseAuthenticationInfo
  rw [readString_filled filled, readPeerId_nonzero nonzero, if_neg (not_not.mpr level)]
  simp only [bind, Except.bind, pure, Except.pure, sized]
  rfl

private theorem understood_of_complete {o : Outcome} (complete : Complete o) : Understood o := by
  cases o with
  | msg1 result =>
    cases result with
    | ok info => exact msg1_understood complete
    | error e => trivial
  | auth result =>
    cases result with
    | ok info => exact auth_understood complete
    | error e => trivial
  | constructed i => trivial
  | refused error => trivial
  | msg2 result => trivial
  | data result => trivial
  | dropped => trivial
  | absent => trivial

/-- `JSON.stringify` of the name and the id of a peer. -/
def routeSyncText (peer : RpcPeer) : Units :=
  writeArray [.text peer.networkName.toList, .natural peer.peerId.toNat]

/-- No name, whatever it holds, makes the entry of one peer that of another. -/
theorem routeSyncText_eq_iff {p q : RpcPeer} :
    routeSyncText p = routeSyncText q ↔ routeSyncKey p = routeSyncKey q := by
  have exact_ (peer : RpcPeer) :
      ∀ x ∈ [Scalar.text peer.networkName.toList, .natural peer.peerId.toNat], x.Exact := by
    simpa [Scalar.Exact] using exact_u32 peer.peerId
  constructor
  · intro same
    have fields := Json.writeArray_injective (exact_ p) (exact_ q) same
    simp only [List.cons.injEq, Scalar.text.injEq, Scalar.natural.injEq] at fields
    exact Prod.ext (String.toList_injective fields.1) (UInt32.toNat_inj.mp fields.2.1)
  · intro same
    obtain ⟨name, id⟩ := Prod.mk.inj same
    rw [routeSyncText, routeSyncText, name, id]

end EasyTierEdge.Server.Messages
