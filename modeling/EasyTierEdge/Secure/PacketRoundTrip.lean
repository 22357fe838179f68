/- module: EasyTierEdge/Secure/PacketRoundTrip
   source: cloudflare/wasm/src/secure.rs, encrypt_packet, decrypt_packet and the payloads inside
   digest: What is encrypted for a session is decrypted by everybody who holds its root key. -/

import EasyTierEdge.Framing
import EasyTierEdge.Secure.Connections
import EasyTierEdge.Secure.ReplayChecks

set_option autoImplicit false
set_option relaxedAutoImplicit false

namespace EasyTierEdge.Secure.PacketRoundTrip

open Lib.Endian Lib.Fallible
open Framing Packet
open Session Peer Calls ReplayChecks

variable {HS : Type}

/-- What the three ciphers do: opening undoes sealing under the same key and nonce, and both keep
the length. -/
structure Cipher (E : SecureEnv HS) : Prop where
  sealed : ∀ a key nonce plaintext ciphertext tag,
    E.encryptInPlace a key nonce plaintext = some (ciphertext, tag) →
    ciphertext.length = plaintext.length ∧ tag.length = aeadTagSize ∧
      E.decryptInPlace a key nonce ciphertext tag = some plaintext
  opened : ∀ a key nonce ciphertext tag plaintext,
    E.decryptInPlace a key nonce ciphertext tag = some plaintext →
    plaintext.length = ciphertext.length

/-- The replay state lets the nonce of a payload through at the time it is received. -/
def Admits (p : SecurePeer HS) (d : Direction) (payload : Bytes) (nowMs : UInt64) : Prop :=
  (p.evictOldRxSlots nowMs).precheckReplay (payloadEpoch payload) (payloadSequence payload) d = true

/-! Names of algorithms. -/

private theorem normalizedAlgorithm_case {a b : String} (same : eqIgnoreAsciiCase a b = true) :
    normalizedAlgorithm a = normalizedAlgorithm b := by
  have lower : a.toList.map Char.toLower = b.toList.map Char.toLower := beq_iff_eq.mp same
  have equal (name : String) : eqIgnoreAsciiCase a name = eqIgnoreAsciiCase b name := by
    rw [eqIgnoreAsciiCase, lower, eqIgnoreAsciiCase]
  rw [normalizedAlgorithm, equal, equal, equal, equal, normalizedAlgorithm]

/-! Payloads. -/

section Payloads

variable {E : SecureEnv HS} {algorithm : String} {key nonce : Bytes}

private theorem sealPayload_ok {k : Key} {nonce plaintext ciphertext tag : Bytes}
    (cipher : Cipher E) (ran : sealPayload E algorithm k nonce plaintext = .ok (ciphertext, tag)) :
    ciphertext.length = plaintext.length ∧ tag.length = aeadTagSize ∧
      ∀ other, normalizedAlgorithm other = normalizedAlgorithm algorithm →
        openPayload E other k nonce ciphertext tag = .ok plaintext := by
  rw [sealPayload] at ran
  cases normal : normalizedAlgorithm algorithm with
  | error text =>
    rw [normal] at ran
    cases ran
  | ok a =>
    rw [normal] at ran
    simp only [bind, Except.bind] at ran
    cases result : E.encryptInPlace a (cipherKey a k) nonce plaintext with
    | none =>
      rw [result] at ran
      cases ran
    | some sealed =>
      rw [result] at ran
      cases Except.ok.inj ran
      obtain ⟨length, tag_length, opens⟩ := cipher.sealed _ _ _ _ _ _ result
      refine ⟨length, tag_length, ?_⟩
      intro other same
      rw [openPayload, same]
      simp only [bind, Except.bind, opens]
      rfl

/-- The ciphertext, the tag and the nonce are found again where they were put. -/
private theorem openOwn_layout (rootKey : Key) (d : Direction) {ciphertext tag : Bytes}
    (tag_length : tag.length = aeadTagSize) (epoch : UInt32) (sequence : UInt64) :
    aeadTailSize ≤ (ciphertext ++ tag ++ nonceBytes epoch sequence).length ∧
      openOwn E rootKey algorithm d (ciphertext ++ tag ++ nonceBytes epoch sequence) =
        openPayload E algorithm (trafficKey E rootKey epoch d) (nonceBytes epoch sequence)
          ciphertext tag := by
  have tail : aeadTailSize = aeadTagSize + aeadNonceSize := rfl
  have total : (ciphertext ++ tag ++ nonceBytes epoch sequence).length =
      ciphertext.length + aeadTailSize := by
    rw [List.length_append, List.length_append, tag_length, nonceBytes_length, tail, Nat.add_assoc]
  have text : (ciphertext ++ tag ++ nonceBytes epoch sequence).length - aeadTailSize =
      ciphertext.length := by
    rw [total, Nat.add_sub_cancel]
  have found_nonce : payloadNonce (ciphertext ++ tag ++ nonceBytes epoch sequence) =
      nonceBytes epoch sequence := by
    rw [payloadNonce, text]
    refine List.drop_left' ?_
    rw [List.length_append, tag_length]
  refine ⟨by rw [total]; exact Nat.le_add_left _ _, ?_⟩
  rw [openOwn, payloadEpoch, found_nonce, nonceEpoch_nonceBytes, text, List.append_assoc,
    List.take_left' rfl, slice, List.drop_left' rfl, Nat.add_sub_cancel_left,
    List.take_left' tag_length]

private theorem sealed_delivered (cipher : Cipher E) {rootKey : Key} {d : Direction}
    {epoch : UInt32} {sequence : UInt64} {plaintext ciphertext tag : Bytes}
    (ran : sealPayload E algorithm (trafficKey E rootKey epoch d) (nonceBytes epoch sequence)
      plaintext = .ok (ciphertext, tag)) {other : String}
    (same : normalizedAlgorithm other = normalizedAlgorithm algorithm) {r : Ctx HS}
    (keyed : r.peer.rootKey = some rootKey) {nowMs : UInt64}
    (admits : Admits r.peer d (ciphertext ++ tag ++ nonceBytes epoch sequence) nowMs) :
    value (decryptPayload E other d (ciphertext ++ tag ++ nonceBytes epoch sequence) nowMs r) =
      .ok (some plaintext) := by
  obtain ⟨_, tag_length, opens⟩ := sealPayload_ok cipher ran
  obtain ⟨long, layout⟩ :=
    @openOwn_layout _ E other rootKey d ciphertext tag tag_length epoch sequence
  refine delivered_of_precheck E r rootKey other d _ plaintext nowMs long keyed admits ?_
  rw [layout]
  exact opens other same

private theorem encryptPayload_round_trip (cipher : Cipher E) {c c' : Ctx HS} {d : Direction}
    {plaintext out : Bytes} {sentMs : UInt64}
    (ran : encryptPayload E algorithm d plaintext sentMs c = .ok out c') {other : String}
    (same : normalizedAlgorithm other = normalizedAlgorithm algorithm) {r : Ctx HS}
    (keyed : r.peer.rootKey = c.peer.rootKey) {nowMs : UInt64}
    (admits : Admits r.peer d out nowMs) :
    value (decryptPayload E other d out nowMs r) = .ok (some plaintext) := by
  cases root : c.peer.rootKey with
  | none =>
    have spec : Ensures (encryptPayload E algorithm d plaintext sentMs) c (fun _ _ => False)
        (fun _ _ => True) := by
      simp only [encryptPayload, ensures_bind, ensures_getPeer, ensures_setPeer, ensures_ite,
        ensures_throw, ensures_pure, ensures_okOr, ensures_orThrow]
      refine ⟨fun _ => trivial, fun _ => ⟨fun rootKey found => ?_, fun _ => trivial⟩⟩
      rw [maybeRotateEpoch_rootKey, root] at found
      cases found
    exact (ensures_of_ok spec ran).elim
  | some rootKey =>
    have spec := encryptPayload_cases E rootKey algorithm d plaintext sentMs root
    obtain ⟨_, ⟨⟨ciphertext, tag⟩, sealed, rfl⟩, _⟩ := ensures_of_ok spec ran
    exact sealed_delivered cipher sealed same (keyed.trans root) admits

end Payloads

/-! Packets. -/

section Packets

variable {E : SecureEnv HS} {c c' : Ctx HS} {packet out : Bytes}

private theorem expectedLen_flagged {h : PacketHeader} (flagged : h.flags &&& encryptedFlag ≠ 0)
    (small : h.len.toNat + aeadTailSize < usizeSize) :
    expectedLen h = h.len.toNat + aeadTailSize := by
  rw [expectedLen, if_neg flagged, Nat.mod_eq_of_lt small]

private theorem expectedLen_plain {h : PacketHeader} (plain : h.flags &&& encryptedFlag = 0) :
    expectedLen h = h.len.toNat := by
  rw [expectedLen, if_pos plain, Nat.add_zero]
  exact Nat.mod_eq_of_lt h.len.toNat_lt

private theorem encryptPacket_round_trip (cipher : Cipher E) (short : packet.length < 2 ^ 31)
    {rotateMs persistMs : UInt64}
    (ran : encryptPacket E packet rotateMs persistMs c = .ok out c') :
    ∃ h, parsePacket packet = .ok h ∧
      parsePacket out = .ok { h with flags := h.flags ||| encryptedFlag } ∧
      ∀ (r : Ctx HS) (nowMs : UInt64), r.peer.rootKey = c'.peer.rootKey →
        Admits r.peer (directionIndex h.fromPeerId h.toPeerId) (out.drop headerSize) nowMs →
        value (decryptPayload E "aes-gcm" (directionIndex h.fromPeerId h.toPeerId)
          (out.drop headerSize) nowMs r) = .ok (some (packet.drop headerSize)) := by
  have spec := encryptPacket_cases E packet rotateMs persistMs c
  rw [ran] at spec
  cases spec with
  | «sealed» key s header payload ciphertext tag rotated d loaded sender receiver plain rotated_eq
      direction room ran =>
    obtain ⟨parsed, rfl⟩ := splitPacket_eq_ok loaded.split
    obtain ⟨ciphertext_length, tag_length, _⟩ := sealPayload_ok cipher ran
    obtain ⟨long, payload_length⟩ := length_of_parsePacket parsed
    rw [expectedLen_plain plain] at payload_length
    have size : usizeSize = 4_294_967_296 := rfl
    have tail : aeadTailSize = aeadTagSize + aeadNonceSize := rfl
    have values : aeadTagSize = 16 ∧ aeadNonceSize = 12 := ⟨rfl, rfl⟩
    have below : (packet.drop headerSize).length ≤ packet.length := by
      rw [List.length_drop]
      exact Nat.sub_le _ _
    refine ⟨header, parsed, ?_, ?_⟩
    · refine parsePacket_join ?_
      rw [expectedLen_flagged (flag_set header.flags) (by dsimp only; omega), List.length_append,
        List.length_append, ciphertext_length, tag_length, nonceBytes_length, payload_length, tail,
        Nat.add_assoc]
    · intro r nowMs keyed admits
      rw [drop_joinHeaderPayload] at admits ⊢
      have root : (advanced rotated d).rootKey = some s.rootKey := by
        rw [rotated_eq]
        exact maybeRotateEpoch_rootKey _ _
      rw [← direction] at admits ⊢
      exact sealed_delivered cipher ran rfl (keyed.trans root) admits

private theorem long_of_delivered {algorithm : String} {d : Direction} {payload plaintext : Bytes}
    {nowMs : UInt64}
    (handed : value (decryptPayload E algorithm d payload nowMs c) = .ok (some plaintext)) :
    aeadTailSize ≤ payload.length := by
  by_contra short
  have refused : decryptPayload E algorithm d payload nowMs c =
      .error (.message "encrypted EasyTier payload is too short") c := by
    rw [decryptPayload, if_pos (not_le.mp short)]
    rfl
  rw [refused] at handed
  cases handed

private theorem opened_of_received {algorithm : String} {d : Direction} {payload plaintext : Bytes}
    {nowMs : UInt64} {p p' : SecurePeer HS} {result : Except JsError (Option Bytes)}
    (ran : Received E algorithm d payload nowMs p p' result)
    (delivered : result = .ok (some plaintext)) :
    ∃ rootKey, openOwn E rootKey algorithm d payload = .ok plaintext := by
  cases ran with
  | short e other => cases delivered
  | replayed stale => cases delivered
  | unopened failures r quiet =>
    rcases quiet with rfl | ⟨e, rfl, _⟩
    · cases delivered
    · cases delivered
  | opened rootKey plaintext' keyed fresh opens =>
    refine ⟨rootKey, ?_⟩
    split at delivered
    · cases delivered
      exact opens
    · cases delivered

private theorem openPayload_length (cipher : Cipher E) {algorithm : String} {k : Key}
    {nonce ciphertext tag plaintext : Bytes}
    (opens : openPayload E algorithm k nonce ciphertext tag = .ok plaintext) :
    plaintext.length = ciphertext.length := by
  rw [openPayload] at opens
  cases normal : normalizedAlgorithm algorithm with
  | error text =>
    rw [normal] at opens
    cases opens
  | ok a =>
    rw [normal] at opens
    simp only [bind, Except.bind] at opens
    cases result : E.decryptInPlace a (cipherKey a k) nonce ciphertext tag with
    | none =>
      rw [result] at opens
      cases opens
    | some opened =>
      rw [result] at opens
      cases Except.ok.inj opens
      exact cipher.opened _ _ _ _ _ _ result

private theorem decryptPacket_parses (cipher : Cipher E) {receivedMs persistMs : UInt64}
    (ran : decryptPacket E packet receivedMs persistMs c = .ok out c') (occupied : out ≠ [])
    {h : PacketHeader} (parsed : parsePacket packet = .ok h)
    (encrypted : h.flags &&& encryptedFlag ≠ 0) :
    parsePacket out = .ok { h with flags := h.flags &&& ~~~encryptedFlag } := by
  have spec := decryptPacket_cases E packet receivedMs persistMs c
  rw [ran] at spec
  cases spec with
  | passed key s header payload loaded plain =>
    obtain ⟨read, _⟩ := splitPacket_eq_ok loaded.split
    cases parsed.symm.trans read
    exact absurd plain encrypted
  | received key s header payload p result r loaded sender receiver flagged called received left
      handed =>
    obtain ⟨read, rfl⟩ := splitPacket_eq_ok loaded.split
    cases parsed.symm.trans read
    cases result with
    | error e => cases handed
    | ok delivered =>
      cases delivered with
      | none => exact absurd (Except.ok.inj handed) occupied
      | some plaintext =>
        obtain rfl := Except.ok.inj handed
        have long := long_of_delivered called.1
        obtain ⟨rootKey, opens⟩ := opened_of_received received rfl
        obtain ⟨_, payload_length⟩ := length_of_parsePacket parsed
        have length := openPayload_length cipher opens
        rw [List.length_take] at length
        have size : usizeSize = 4_294_967_296 := rfl
        have tail : aeadTailSize = 28 := rfl
        have below : h.len.toNat < 4_294_967_296 := h.len.toNat_lt
        have exact_len : (packet.drop headerSize).length = h.len.toNat + aeadTailSize := by
          -- a length that wraps around leaves fewer bytes than the tail has
          rw [payload_length, expectedLen, if_neg encrypted, size, tail] at long ⊢
          omega
        refine parsePacket_join ?_
        rw [expectedLen_plain (flag_cleared h.flags)]
        show plaintext.length = h.len.toNat
        omega

end Packets

/-- With ciphers whose opening undoes sealing, the framing round-trips: packets of the server,
payloads under every name of an algorithm, and the clear packets that come out of encrypted ones. -/
theorem encryption_round_trips {E : SecureEnv HS} (cipher : Cipher E) :
    (∀ (c c' : Ctx HS) (packet out : Bytes) (rotateMs persistMs : UInt64),
      packet.length < 2 ^ 31 → encryptPacket E packet rotateMs persistMs c = .ok out c' →
      ∃ h, parsePacket packet = .ok h ∧
        parsePacket out = .ok { h with flags := h.flags ||| encryptedFlag } ∧
        ∀ (r : Ctx HS) (nowMs : UInt64), r.peer.rootKey = c'.peer.rootKey →
          Admits r.peer (directionIndex h.fromPeerId h.toPeerId) (out.drop headerSize) nowMs →
          value (decryptPayload E "aes-gcm" (directionIndex h.fromPeerId h.toPeerId)
            (out.drop headerSize) nowMs r) = .ok (some (packet.drop headerSize))) ∧
    (∀ (c c' : Ctx HS) (algorithm : String) (d : Direction) (plaintext out : Bytes)
      (sentMs : UInt64), encryptPayload E algorithm d plaintext sentMs c = .ok out c' →
      ∀ (other : String), normalizedAlgorithm other = normalizedAlgorithm algorithm →
      ∀ (r : Ctx HS) (nowMs : UInt64), r.peer.rootKey = c.peer.rootKey →
        Admits r.peer d out nowMs →
        value (decryptPayload E other d out nowMs r) = .ok (some plaintext)) ∧
    (∀ a b : String, eqIgnoreAsciiCase a b = true →
      normalizedAlgorithm a = normalizedAlgorithm b) ∧
    ∀ (c c' : Ctx HS) (packet out : Bytes) (receivedMs persistMs : UInt64) (h : PacketHeader),
      decryptPacket E packet receivedMs persistMs c = .ok out c' → out ≠ [] →
      parsePacket packet = .ok h → h.flags &&& encryptedFlag ≠ 0 →
      parsePacket out = .ok { h with flags := h.flags &&& ~~~encryptedFlag } := by
  refine ⟨?_, ?_, ?_, ?_⟩
  · intro c c' packet out rotateMs persistMs short ran
    exact encryptPacket_round_trip cipher short ran
  · intro c c' algorithm d plaintext out sentMs ran other same r nowMs keyed admits
    exact encryptPayload_round_trip cipher ran same keyed admits
  · intro a b same
    exact normalizedAlgorithm_case same
  · intro c c' packet out receivedMs persistMs h ran occupied parsed encrypted
    exact decryptPacket_parses cipher ran occupied parsed encrypted

/-! A cipher that masks the bytes and checks its tag. -/

def mask (key nonce text : Bytes) : Bytes :=
  text.mapIdx fun i byte => byte ^^^ (key ++ nonce).getD (i % (key ++ nonce).length) 0

def maskTag (key nonce ciphertext : Bytes) : Bytes :=
  (Connections.plainDigest key (nonce ++ ciphertext)).toList.take aeadTagSize

def maskSeal (key nonce plaintext : Bytes) : Bytes × Bytes :=
  (mask key nonce plaintext, maskTag key nonce (mask key nonce plaintext))

def maskOpen (key nonce ciphertext tag : Bytes) : Option Bytes :=
  if tag = maskTag key nonce ciphertext then some (mask key nonce ciphertext) else none

def maskedEnv : SecureEnv Connections.Turn :=
  { Connections.plainEnv with
    encryptInPlace := fun _ key nonce plaintext => some (maskSeal key nonce plaintext)
    decryptInPlace := fun _ => maskOpen }

private theorem mask_mask (key nonce text : Bytes) :
    mask key nonce (mask key nonce text) = text := by
  rw [mask, mask, List.mapIdx_mapIdx]
  apply List.ext_getElem
  · simp
  · intro i _ _
    rw [List.getElem_mapIdx, Function.comp_apply, UInt8.xor_assoc, UInt8.xor_self, UInt8.xor_zero]

private theorem maskOpen_maskSeal (key nonce plaintext : Bytes) :
    maskOpen key nonce (maskSeal key nonce plaintext).1 (maskSeal key nonce plaintext).2 =
      some plaintext := by
  rw [maskOpen, maskSeal, if_pos rfl, mask_mask]

private theorem maskOpen_length {key nonce ciphertext tag plaintext : Bytes}
    (opens : maskOpen key nonce ciphertext tag = some plaintext) :
    plaintext.length = ciphertext.length := by
  rw [maskOpen] at opens
  split at opens
  · rw [← Option.some.inj opens, mask, List.length_mapIdx]
  · cases opens

private theorem maskedEnv_cipher : Cipher maskedEnv where
  sealed a key nonce plaintext ciphertext tag ran := by
    have pair : maskSeal key nonce plaintext = (ciphertext, tag) := Option.some.inj ran
    have opens := maskOpen_maskSeal key nonce plaintext
    rw [pair] at opens
    obtain ⟨text, mark⟩ := Prod.mk.inj pair
    refine ⟨?_, ?_, opens⟩
    · rw [← text, mask, List.length_mapIdx]
    · rw [← mark, maskTag, List.length_take, Vector.length_toList]
      rfl
  opened a key nonce ciphertext tag plaintext := maskOpen_length

/-- Both sides of a session with one root key. -/
def maskedCtx : Ctx Connections.Turn :=
  ⟨{ Connections.plainPeer with rootKey := some (Vector.replicate 32 1) }, ∅⟩

/-- The bytes 42 and 43, masked, with the tag and the first nonce of the session. -/
def maskedOut : Bytes :=
  [79, 95] ++ [0, 0, 0, 0, 0, 0, 0, 0, 0, 0, 0, 0, 79, 95, 101, 116] ++ nonceBytes 0 0

/-- The two sides write the name of the algorithm in different letter cases. -/
theorem encryption_round_trips_masked :
    value (encryptPayload maskedEnv "AES-GCM" 0 [42, 43] 1_000 maskedCtx) = .ok maskedOut ∧
      value (decryptPayload maskedEnv "aes-gcm" 0 maskedOut 1_000 maskedCtx) =
        .ok (some [42, 43]) := by
  have sent : value (encryptPayload maskedEnv "AES-GCM" 0 [42, 43] 1_000 maskedCtx) =
      .ok maskedOut := by
    decide +kernel
  obtain ⟨_, payloads, names, _⟩ := encryption_round_trips maskedEnv_cipher
  have same := names "aes-gcm" "AES-GCM" (by decide +kernel)
  have admits : Admits maskedCtx.peer 0 maskedOut 1_000 := by
    rw [Admits]
    decide +kernel
  exact ⟨sent, payloads maskedCtx _ "AES-GCM" 0 [42, 43] maskedOut 1_000 (eq_ok_of_value sent)
    "aes-gcm" same maskedCtx 1_000 rfl admits⟩

end EasyTierEdge.Secure.PacketRoundTrip
