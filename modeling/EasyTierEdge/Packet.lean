/- module: EasyTierEdge/Packet
   source: cloudflare/wasm/src/packet.rs, cloudflare/src/core/packet.ts
   digest: The 16-byte EasyTier header, its parser and the in-place rewriters. -/

import EasyTierEdge.Lib.Endian

set_option autoImplicit false
set_option relaxedAutoImplicit false

namespace EasyTierEdge.Packet

open Lib.Endian

abbrev Bytes := List UInt8

/-- A 32-byte key. -/
abbrev Key := Vector UInt8 32

def keyOfBytes (bytes : Bytes) : Option Key :=
  if h : bytes.length = 32 then some ⟨bytes.toArray, by simpa using h⟩ else none

theorem keyOfBytes_eq_some {bytes : Bytes} {key : Key} :
    keyOfBytes bytes = some key ↔ key.toList = bytes := by
  unfold keyOfBytes
  constructor
  · intro read
    split at read
    · cases read
      rfl
    · cases read
  · rintro rfl
    rw [dif_pos (by simp)]
    simp [Vector.toList]

def headerSize : Nat := 16
def aeadTailSize : Nat := 28
def encryptedFlag : UInt8 := 0x01
def maxForwardHops : UInt8 := 7
def packetTypePing : UInt8 := 4
def packetTypePong : UInt8 := 5

/-- The `usize` of the build target wasm32; release arithmetic on it wraps. -/
def usizeSize : Nat := 2 ^ 32

structure PacketHeader where
  fromPeerId : UInt32
  toPeerId : UInt32
  packetType : UInt8
  flags : UInt8
  forwardCounter : UInt8
  reserved : UInt8
  len : UInt32
  deriving DecidableEq, Repr

/-- The bytes `start..stop` of a slice. -/
def slice (bytes : Bytes) (start stop : Nat) : Bytes := (bytes.drop start).take (stop - start)

namespace PacketHeader

def fromBytes (bytes : Bytes) : Except String PacketHeader :=
  if bytes.length < headerSize then
    .error s!"header too short: {bytes.length} < {headerSize}"
  else
    .ok {
      fromPeerId := UInt32.ofNat (ofLe (slice bytes 0 4))
      toPeerId := UInt32.ofNat (ofLe (slice bytes 4 8))
      packetType := bytes.getD 8 0
      flags := bytes.getD 9 0
      forwardCounter := bytes.getD 10 0
      reserved := bytes.getD 11 0
      len := UInt32.ofNat (ofLe (slice bytes 12 16)) }

def toBytes (h : PacketHeader) : Bytes :=
  toLe 4 h.fromPeerId.toNat ++ toLe 4 h.toPeerId.toNat ++
    [h.packetType, h.flags, h.forwardCounter, h.reserved] ++ toLe 4 h.len.toNat

@[simp] theorem toBytes_length (h : PacketHeader) : h.toBytes.length = headerSize := by
  simp [toBytes, headerSize]

end PacketHeader

def parsePacket (bytes : Bytes) : Except String PacketHeader := do
  let header ← PacketHeader.fromBytes bytes
  let payloadLen := bytes.length - headerSize
  let tail := if header.flags &&& encryptedFlag = 0 then 0 else aeadTailSize
  let expectedLen := (header.len.toNat + tail) % usizeSize
  if payloadLen ≠ expectedLen then
    throw s!"payload length mismatch: {payloadLen} != {expectedLen}"
  return header

def buildPacket (fromPeerId toPeerId : UInt32) (packetType : UInt8) (payload : Bytes) :
    Except String Bytes :=
  if payload.length < 2 ^ 32 then
    .ok (PacketHeader.toBytes {
      fromPeerId, toPeerId, packetType
      flags := 0
      forwardCounter := 1
      reserved := 0
      len := UInt32.ofNat payload.length } ++ payload)
  else
    .error "packet payload exceeds the EasyTier u32 length"

def prepareForward (bytes : Bytes) : Except String Bytes := do
  let header ← parsePacket bytes
  if header.forwardCounter > maxForwardHops then
    throw "EasyTier forwarding hop limit exceeded"
  return bytes.set 10 (header.forwardCounter + 1)

def preparePong (bytes : Bytes) : Except String Bytes := do
  let header ← parsePacket bytes
  if header.packetType ≠ packetTypePing then
    throw "only an EasyTier Ping packet can become Pong"
  return bytes.set 8 packetTypePong

/-- `split_packet` of secure.rs. -/
def splitPacket (bytes : Bytes) : Except String (PacketHeader × Bytes) := do
  let header ← parsePacket bytes
  return (header, bytes.drop headerSize)

/-- `join_header_payload` of secure.rs. -/
def joinHeaderPayload (header : PacketHeader) (payload : Bytes) : Bytes :=
  header.toBytes ++ payload

/-- `wrap_packet` of secure.rs. -/
def wrapPacket (fromPeerId toPeerId : UInt32) (packetType flags : UInt8) (payload : Bytes) :
    Bytes :=
  joinHeaderPayload {
    fromPeerId, toPeerId, packetType, flags
    forwardCounter := 1
    reserved := 0
    len := UInt32.ofNat payload.length } payload

theorem splitPacket_eq_ok {bytes payload : Bytes} {header : PacketHeader}
    (h : splitPacket bytes = .ok (header, payload)) :
    parsePacket bytes = .ok header ∧ payload = bytes.drop headerSize := by
  unfold splitPacket at h
  cases parsed : parsePacket bytes with
  | error e => simp [parsed, bind, Except.bind] at h
  | ok header' =>
    simp only [parsed, bind, Except.bind, pure, Except.pure, Except.ok.injEq,
      Prod.mk.injEq] at h
    exact ⟨congrArg Except.ok h.1, h.2.symm⟩

theorem parsePacket_error {bytes : Bytes} {text : String} (h : parsePacket bytes = .error text) :
    text = s!"header too short: {bytes.length} < {headerSize}" ∨
      ∃ found expected : Nat, text = s!"payload length mismatch: {found} != {expected}" := by
  unfold parsePacket at h
  cases parsed : PacketHeader.fromBytes bytes with
  | error e =>
    left
    simp only [parsed, bind, Except.bind, Except.error.injEq] at h
    unfold PacketHeader.fromBytes at parsed
    split at parsed
    · exact h ▸ (Except.error.inj parsed).symm
    · simp at parsed
  | ok header =>
    right
    simp only [parsed, bind, Except.bind] at h
    generalize (header.len.toNat +
      (if header.flags &&& encryptedFlag = 0 then 0 else aeadTailSize)) % usizeSize = expected at h
    split at h
    · exact ⟨_, expected, (Except.error.inj h).symm⟩
    · simp [pure, Except.pure] at h

theorem splitPacket_error {bytes : Bytes} {text : String} (h : splitPacket bytes = .error text) :
    parsePacket bytes = .error text := by
  unfold splitPacket at h
  cases parsed : parsePacket bytes with
  | error e =>
    simp only [parsed, bind, Except.bind, Except.error.injEq] at h
    exact congrArg Except.error h
  | ok header => simp [parsed, bind, Except.bind, pure, Except.pure] at h

example : parsePacket (wrapPacket 7 9 13 0 [1, 2, 3]) =
    .ok ⟨7, 9, 13, 0, 1, 0, 3⟩ := by decide

end EasyTierEdge.Packet
