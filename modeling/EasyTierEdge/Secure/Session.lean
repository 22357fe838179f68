/- module: EasyTierEdge/Secure/Session
   source: cloudflare/wasm/src/secure.rs, StoredSession, SESSION_STORE and upsert_session
   digest: The session store and the selection of a session for message 2. -/

import EasyTierEdge.Lib.FiniteMap
import EasyTierEdge.Lib.Saturating
import EasyTierEdge.Packet
import EasyTierEdge.Secure.ReplayWindow
import Mathlib.Data.Fintype.Pi

set_option autoImplicit false
set_option relaxedAutoImplicit false

namespace EasyTierEdge.Secure.Session

open Lib.FiniteMap
open ReplayWindow (ReplayWindow256)
export Packet (Key)
export Lib.Saturating (saturatingSub saturatingAdd saturatingSub32 saturatingAdd32)

/-- The value of `direction_index`, an index into two-element arrays. -/
abbrev Direction := Fin 2

instance twoDirections : NeZero 2 := ⟨two_ne_zero⟩

def rxEpochIdleMs : UInt64 := 30_000
def rotateAfterPackets : UInt64 := 1_000_000
def rotateAfterMs : UInt64 := 10 * 60 * 1_000
def maxAcceptedRxEpochAhead : UInt32 := 3
def decryptFailThreshold : UInt32 := 10
def syncRxGraceAfterMs : UInt64 := 5_000
def sessionIdleMs : UInt64 := 60_000
def maxStoredSessions : Nat := 2_048

/-- The `JsValue` of a failed call: made by `js_error` from a text of this crate, or by
`display_error` from an error of a dependency. -/
inductive JsError
  | message (text : String)
  | dependency (text : String)
  deriving DecidableEq, Repr

structure SessionKey where
  networkName : String
  peerId : UInt32
  serverPeerId : UInt32
  serverPublicKey : Key
  deriving DecidableEq

structure EpochRxSlot where
  epoch : UInt32
  window : ReplayWindow256
  lastRxMs : UInt64
  valid : Bool
  deriving DecidableEq

def EpochRxSlot.default : EpochRxSlot := ⟨0, ReplayWindow256.default, 0, false⟩

def EpochRxSlot.clear (slot : EpochRxSlot) : EpochRxSlot where
  epoch := 0
  window := slot.window.clear
  lastRxMs := 0
  valid := false

/-- `[[EpochRxSlot; 2]; 2]`: by direction, then newest epoch first. -/
abbrev RxSlots := Direction → Fin 2 → EpochRxSlot

def RxSlots.default : RxSlots := fun _ _ => EpochRxSlot.default

structure SyncRxGrace where
  slots : RxSlots
  expiresAtMs : UInt64
  valid : Bool
  deriving DecidableEq

def SyncRxGrace.default : SyncRxGrace := ⟨RxSlots.default, 0, false⟩

structure StoredSession where
  rootKey : Key
  generation : UInt32
  nextEpoch : UInt32
  sendSeq : Direction → UInt64
  sendEpochStartedMs : UInt64
  sendPacketsSinceEpoch : UInt64
  rxSlots : RxSlots
  syncRxGrace : SyncRxGrace
  decryptFailCount : UInt32
  clientAlgorithm : String
  remotePublicKey : Option Key
  lastTouchMs : UInt64
  attachments : UInt32
  deriving DecidableEq

/-- `PeerConnSessionActionPb`. -/
inductive SessionAction
  | join | sync | create
  deriving DecidableEq, Repr

structure SessionSelection where
  action : SessionAction
  generation : UInt32
  rootKeyForPeer : Option Key
  sessionRootKey : Key
  initialEpoch : UInt32
  deriving DecidableEq

abbrev SessionStore := FMap SessionKey StoredSession

namespace StoredSession

/-- The eviction predicate of `upsert_session`. -/
def retained (currentMs : UInt64) (s : StoredSession) : Bool :=
  s.attachments > 0 || saturatingSub currentMs s.lastTouchMs < sessionIdleMs

/-- `sync_epoch`: the largest of `next_epoch` and the epochs of the valid receive slots. -/
def syncEpoch (s : StoredSession) : UInt32 :=
  ([0, 1] : List Direction).foldl (fun acc d =>
    ([0, 1] : List (Fin 2)).foldl (fun acc i =>
      if (s.rxSlots d i).valid then max acc (s.rxSlots d i).epoch else acc) acc) s.nextEpoch

/-- The session left behind by the Sync branch. -/
def synced (s : StoredSession) (currentMs : UInt64) : StoredSession :=
  { s with
    nextEpoch := s.syncEpoch + 1
    sendSeq := fun _ => 0
    sendEpochStartedMs := currentMs
    sendPacketsSinceEpoch := 0
    syncRxGrace := ⟨s.rxSlots, saturatingAdd currentMs syncRxGraceAfterMs, true⟩
    rxSlots := RxSlots.default
    decryptFailCount := 0
    lastTouchMs := currentMs }

/-- The session left behind by the Join branch. -/
def joined (s : StoredSession) (currentMs : UInt64) : StoredSession :=
  { s with lastTouchMs := currentMs }

/-- The session made by the Create branch. -/
def created (rootKey : Key) (clientAlgorithm : String) (currentMs : UInt64) : StoredSession where
  rootKey := rootKey
  generation := 1
  nextEpoch := 0
  sendSeq := fun _ => 0
  sendEpochStartedMs := currentMs
  sendPacketsSinceEpoch := 0
  rxSlots := RxSlots.default
  syncRxGrace := SyncRxGrace.default
  decryptFailCount := 0
  clientAlgorithm := clientAlgorithm
  remotePublicKey := none
  lastTouchMs := currentMs
  attachments := 0

end StoredSession

/-- The sweep every `upsert_session` starts with. -/
def sweep (currentMs : UInt64) (sessions : SessionStore) : SessionStore :=
  FMap.retain (fun _ s => s.retained currentMs) sessions

/-- `upsert_session`; `random32` is the outcome of the one draw the Create branch makes. -/
def upsertSession (key : SessionKey) (aSessionGeneration : Option UInt32)
    (clientAlgorithm : String) (random32 : Except String Key) (currentMs : UInt64) :
    EStateM JsError SessionStore SessionSelection := do
  modify (sweep currentMs)
  let sessions ← get
  match sessions.lookup key with
  | some session =>
    if session.clientAlgorithm ≠ clientAlgorithm then
      throw (.message "reconnecting peer changed its secure-session encryption algorithm")
    if aSessionGeneration = some session.generation then
      set (sessions.insert key (session.joined currentMs))
      return {
        action := .join
        generation := session.generation
        rootKeyForPeer := none
        sessionRootKey := session.rootKey
        initialEpoch := 0 }
    set (sessions.insert key (session.synced currentMs))
    return {
      action := .sync
      generation := session.generation
      rootKeyForPeer := some session.rootKey
      sessionRootKey := session.rootKey
      initialEpoch := (session.synced currentMs).nextEpoch }
  | none =>
    if FMap.size sessions ≥ maxStoredSessions then
      throw (.message "secure peer session capacity exceeded")
    let rootKey ← MonadExcept.ofExcept (random32.mapError .dependency)
    set (sessions.insert key (StoredSession.created rootKey clientAlgorithm currentMs))
    return {
      action := .create
      generation := 1
      rootKeyForPeer := some rootKey
      sessionRootKey := rootKey
      initialEpoch := 0 }

/-- `confirm_session_public_key`. -/
def confirmSessionPublicKey (key : SessionKey) (remotePublicKey : Key) (nowMs : UInt64) :
    EStateM JsError SessionStore Unit := do
  let sessions ← get
  match sessions.lookup key with
  | none => throw (.message "secure session disappeared during authentication")
  | some session =>
    if session.remotePublicKey.any (· ≠ remotePublicKey) then
      throw (.message "reconnecting peer changed its Noise static public key")
    set (sessions.insert key
      { session with remotePublicKey := some remotePublicKey, lastTouchMs := nowMs })

end EasyTierEdge.Secure.Session
