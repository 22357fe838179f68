/- module: EasyTierEdge/Framing
   source: cloudflare/wasm/src/packet.rs
   digest: Which byte strings are frames, and that the header codec is exact. -/

import EasyTierEdge.Packet

set_option autoImplicit false
set_option relaxedAutoImplicit false

namespace EasyTierEdge.Framing

open Lib.Endian Packet

/-- The length field of a frame. -/
def lengthField (bytes : Bytes) : Nat := ofLe (slice bytes 12 16)

/-- Bit 0 of the flags byte. -/
def flagged (bytes : Bytes) : Bool := (bytes.getD 9 0).toNat % 2 == 1

/-- A header, and after it as many bytes as the length field says, with the tail of an encrypted
frame on top. -/
def WellFormed (bytes : Bytes) : Prop :=
  headerSize ≤ bytes.length ∧
    bytes.length - headerSize = lengthField bytes + if flagged bytes then aeadTailSize else 0

/-- The length of an encrypted frame does not fit into `usize`, and the frame has the length it is
cut off to, or the length itself. -/
def Wraps (bytes : Bytes) : Prop :=
  headerSize ≤ bytes.length ∧ flagged bytes = true ∧
    (bytes.length - headerSize + usizeSize = lengthField bytes + aeadTailSize ∨
      usizeSize ≤ lengthField bytes + aeadTailSize ∧
        bytes.length - headerSize = lengthField bytes + aeadTailSize)

/-! Headers. -/

private theorem slice_length {bytes : Bytes} {start stop : Nat} (inside : stop ≤ bytes.length) :
    (slice bytes start stop).length = stop - start := by
  rw [slice, List.length_take, List.length_drop]
  omega

private theorem lengthField_lt (bytes : Bytes) : lengthField bytes < usizeSize := by
  have bound := ofLe_lt (slice bytes 12 16)
  have short : (slice bytes 12 16).length ≤ 4 := by
    rw [slice, List.length_take]
    omega
  have power : 256 ^ (slice bytes 12 16).length ≤ 256 ^ 4 := Nat.pow_le_pow_right (by decide) short
  have size : usizeSize = 256 ^ 4 := rfl
  rw [lengthField, size]
  omega

private theorem flag_clear (b : UInt8) : b &&& encryptedFlag = 0 ↔ b.toNat % 2 ≠ 1 := by
  rw [← UInt8.toNat_inj, UInt8.toNat_and]
  have one : encryptedFlag.toNat = 1 := rfl
  have zero : (0 : UInt8).toNat = 0 := rfl
  rw [one, zero, Nat.and_one_is_mod]
  omega

private theorem fromBytes_fields {bytes : Bytes} (long : headerSize ≤ bytes.length) :
    ∃ h, PacketHeader.fromBytes bytes = .ok h ∧ h.len.toNat = lengthField bytes ∧
      (h.flags &&& encryptedFlag = 0 ↔ flagged bytes = false) := by
  rw [PacketHeader.fromBytes, if_neg (not_lt.mpr long)]
  refine ⟨_, rfl, ?_, ?_⟩
  · have small := lengthField_lt bytes
    rw [lengthField] at small ⊢
    exact UInt32.toNat_ofNat_of_lt' small
  · rw [flag_clear, flagged, beq_eq_false_iff_ne]

/-- What `parse_packet` checks, with its addition modulo `2 ^ 32`. -/
private theorem parsePacket_isOk (bytes : Bytes) :
    (parsePacket bytes).isOk = true ↔ headerSize ≤ bytes.length ∧ bytes.length - headerSize =
      (lengthField bytes + if flagged bytes then aeadTailSize else 0) % usizeSize := by
  by_cases long : headerSize ≤ bytes.length
  · obtain ⟨h, read, len, flag⟩ := fromBytes_fields long
    have tail : (if h.flags &&& encryptedFlag = 0 then 0 else aeadTailSize) =
        if flagged bytes then aeadTailSize else 0 := by
      by_cases plain : h.flags &&& encryptedFlag = 0
      · rw [if_pos plain, flag.mp plain]
        rfl
      · have set : flagged bytes = true := by
          rw [← Bool.not_eq_false]
          exact fun clear => plain (flag.mpr clear)
        rw [if_neg plain, set]
        rfl
    generalize (if flagged bytes then aeadTailSize else 0) = expected at tail ⊢
    rw [parsePacket, read]
    simp only [bind, Except.bind, len, tail]
    by_cases same : bytes.length - headerSize = (lengthField bytes + expected) % usizeSize
    · rw [if_neg (not_not.mpr same)]
      exact iff_of_true rfl ⟨long, same⟩
    · rw [if_pos same]
      constructor
      · intro impossible
        cases impossible
      · rintro ⟨_, equal⟩
        exact absurd equal same
  · constructor
    · intro accepted
      rw [parsePacket, PacketHeader.fromBytes, if_pos (not_le.mp long)] at accepted
      cases accepted
    · rintro ⟨enough, _⟩
      exact absurd enough long

/-! Writing a header and reading it back. -/

private theorem ofLe_toLe_u32 (x : UInt32) : UInt32.ofNat (ofLe (toLe 4 x.toNat)) = x := by
  have small : x.toNat % 256 ^ 4 = x.toNat := Nat.mod_eq_of_lt x.toNat_lt
  rw [ofLe_toLe, small, UInt32.ofNat_toNat]

private theorem fromBytes_toBytes (h : PacketHeader) (payload : Bytes) :
    PacketHeader.fromBytes (h.toBytes ++ payload) = .ok h := by
  have long : ¬ (h.toBytes ++ payload).length < headerSize := by
    rw [List.length_append, PacketHeader.toBytes_length]
    omega
  rw [PacketHeader.fromBytes, if_neg long]
  show Except.ok (PacketHeader.mk (UInt32.ofNat (ofLe (toLe 4 h.fromPeerId.toNat)))
    (UInt32.ofNat (ofLe (toLe 4 h.toPeerId.toNat))) h.packetType h.flags h.forwardCounter h.reserved
    (UInt32.ofNat (ofLe (toLe 4 h.len.toNat)))) = _
  rw [ofLe_toLe_u32, ofLe_toLe_u32, ofLe_toLe_u32]

/-- How many bytes follow a header, as `parse_packet` expects them. -/
def expectedLen (h : PacketHeader) : Nat :=
  (h.len.toNat + if h.flags &&& encryptedFlag = 0 then 0 else aeadTailSize) % usizeSize

theorem parsePacket_join {h : PacketHeader} {payload : Bytes}
    (fits : payload.length = expectedLen h) :
    parsePacket (joinHeaderPayload h payload) = .ok h := by
  have length : (joinHeaderPayload h payload).length - headerSize = payload.length := by
    rw [joinHeaderPayload, List.length_append, PacketHeader.toBytes_length]
    omega
  rw [parsePacket, length, joinHeaderPayload, fromBytes_toBytes]
  exact if_neg (not_not.mpr fits)

theorem length_of_parsePacket {bytes : Bytes} {h : PacketHeader}
    (parsed : parsePacket bytes = .ok h) :
    headerSize ≤ bytes.length ∧ (bytes.drop headerSize).length = expectedLen h := by
  obtain ⟨long, _⟩ := (parsePacket_isOk bytes).mp (by rw [parsed]; rfl)
  refine ⟨long, ?_⟩
  obtain ⟨header, read, _⟩ := fromBytes_fields long
  rw [parsePacket, read] at parsed
  by_cases other : bytes.length - headerSize ≠ expectedLen header
  · have refused := parsed.symm.trans (if_pos other)
    cases refused
  · have accepted := parsed.symm.trans (if_neg other)
    cases accepted
    rw [List.length_drop]
    exact not_not.mp other

theorem drop_joinHeaderPayload (h : PacketHeader) (payload : Bytes) :
    (joinHeaderPayload h payload).drop headerSize = payload :=
  List.drop_left' (PacketHeader.toBytes_length h)

theorem flag_set (f : UInt8) : (f ||| encryptedFlag) &&& encryptedFlag ≠ 0 := by
  have kept : (f ||| encryptedFlag) &&& encryptedFlag = encryptedFlag := by
    rw [← UInt8.toBitVec_inj]
    ext i
    simp only [UInt8.toBitVec_and, UInt8.toBitVec_or, BitVec.getElem_and, BitVec.getElem_or]
    cases encryptedFlag.toBitVec[i]
    · simp
    · simp
  rw [kept]
  decide

theorem flag_cleared (f : UInt8) : (f &&& ~~~encryptedFlag) &&& encryptedFlag = 0 := by
  rw [← UInt8.toBitVec_inj]
  ext i
  simp

/-! Reading a header and writing it back. -/

private theorem toLe_ofLe_slice {bytes : Bytes} {start : Nat} (inside : start + 4 ≤ bytes.length) :
    toLe 4 (UInt32.ofNat (ofLe (slice bytes start (start + 4)))).toNat =
      slice bytes start (start + 4) := by
  have length : (slice bytes start (start + 4)).length = 4 := by
    rw [slice_length inside]
    omega
  have bound := ofLe_lt (slice bytes start (start + 4))
  rw [length] at bound
  rw [UInt32.toNat_ofNat_of_lt' bound]
  have back := toLe_ofLe (slice bytes start (start + 4))
  rwa [length] at back

private theorem slice_append_drop (bytes : Bytes) (start size : Nat) :
    slice bytes start (start + size) ++ bytes.drop (start + size) = bytes.drop start := by
  have parts := List.take_append_drop size (bytes.drop start)
  rw [List.drop_drop] at parts
  rwa [slice, Nat.add_sub_cancel_left]

private theorem getD_cons_drop {bytes : Bytes} {i : Nat} (inside : i < bytes.length) :
    bytes.getD i 0 :: bytes.drop (i + 1) = bytes.drop i := by
  have read : bytes.getD i 0 = bytes[i] := by
    rw [List.getD_eq_getElem?_getD, List.getElem?_eq_getElem inside, Option.getD_some]
  rw [List.drop_eq_getElem_cons inside, read]

theorem toBytes_fromBytes {bytes : Bytes} {h : PacketHeader}
    (read : PacketHeader.fromBytes bytes = .ok h) :
    joinHeaderPayload h (bytes.drop headerSize) = bytes := by
  by_cases short : bytes.length < headerSize
  · rw [PacketHeader.fromBytes, if_pos short] at read
    cases read
  · rw [PacketHeader.fromBytes, if_neg short] at read
    cases read
    have size : headerSize = 16 := rfl
    have from' := toLe_ofLe_slice (show 0 + 4 ≤ bytes.length by omega)
    have to' := toLe_ofLe_slice (show 4 + 4 ≤ bytes.length by omega)
    have len := toLe_ofLe_slice (show 12 + 4 ≤ bytes.length by omega)
    simp only [joinHeaderPayload, PacketHeader.toBytes, Nat.reduceAdd] at from' to' len ⊢
    rw [from', to', len]
    calc slice bytes 0 4 ++ slice bytes 4 8 ++
          [bytes.getD 8 0, bytes.getD 9 0, bytes.getD 10 0, bytes.getD 11 0] ++
          slice bytes 12 16 ++ bytes.drop 16
        = slice bytes 0 (0 + 4) ++ (slice bytes 4 (4 + 4) ++
            (bytes.getD 8 0 :: bytes.getD 9 0 :: bytes.getD 10 0 :: bytes.getD 11 0 ::
              (slice bytes 12 (12 + 4) ++ bytes.drop (12 + 4)))) := by
          simp only [List.append_assoc, List.cons_append, List.nil_append]
      _ = slice bytes 0 (0 + 4) ++ (slice bytes 4 (4 + 4) ++ bytes.drop (4 + 4)) := by
          rw [slice_append_drop, getD_cons_drop (show 11 < bytes.length by omega),
            getD_cons_drop (show 10 < bytes.length by omega),
            getD_cons_drop (show 9 < bytes.length by omega),
            getD_cons_drop (show 8 < bytes.length by omega)]
      _ = bytes := by
          rw [slice_append_drop bytes 4 4]
          exact slice_append_drop bytes 0 4

theorem fromBytes_of_parsePacket {bytes : Bytes} {h : PacketHeader}
    (parsed : parsePacket bytes = .ok h) : PacketHeader.fromBytes bytes = .ok h := by
  rw [parsePacket] at parsed
  cases read : PacketHeader.fromBytes bytes with
  | error text =>
    rw [read] at parsed
    cases parsed
  | ok header =>
    rw [read] at parsed
    by_cases other : bytes.length - headerSize ≠ expectedLen header
    · have refused := parsed.symm.trans (if_pos other)
      cases refused
    · have accepted := parsed.symm.trans (if_neg other)
      cases accepted
      rfl

/-! The rewriters. -/

private theorem set_forwardCounter (h : PacketHeader) (payload : Bytes) (x : UInt8) :
    (joinHeaderPayload h payload).set 10 x =
    joinHeaderPayload { h with forwardCounter := x } payload :=
  rfl

private theorem set_packetType (h : PacketHeader) (payload : Bytes) (x : UInt8) :
    (joinHeaderPayload h payload).set 8 x = joinHeaderPayload { h with packetType := x } payload :=
  rfl

private theorem parsePacket_rewrite {bytes : Bytes} {h h' : PacketHeader}
    (parsed : parsePacket bytes = .ok h) (len : h'.len = h.len) (flags : h'.flags = h.flags) :
    parsePacket (joinHeaderPayload h' (bytes.drop headerSize)) = .ok h' := by
  apply parsePacket_join
  have same : expectedLen h' = expectedLen h := by rw [expectedLen, expectedLen, len, flags]
  rw [same]
  exact (length_of_parsePacket parsed).2

theorem prepareForward_ok {bytes forwarded : Bytes} (done : prepareForward bytes = .ok forwarded) :
    ∃ h, parsePacket bytes = .ok h ∧ h.forwardCounter ≤ maxForwardHops ∧
      forwarded = bytes.set 10 (h.forwardCounter + 1) := by
  rw [prepareForward] at done
  cases parsed : parsePacket bytes with
  | error text =>
    rw [parsed] at done
    cases done
  | ok h =>
    rw [parsed] at done
    by_cases far : h.forwardCounter > maxForwardHops
    · have refused := done.symm.trans (if_pos far)
      cases refused
    · have written := done.symm.trans (if_neg far)
      cases written
      exact ⟨h, rfl, UInt8.not_lt.mp far, rfl⟩

private theorem prepareForward_of_le {bytes : Bytes} {h : PacketHeader}
    (parsed : parsePacket bytes = .ok h) (near : h.forwardCounter ≤ maxForwardHops) :
    prepareForward bytes = .ok (bytes.set 10 (h.forwardCounter + 1)) := by
  rw [prepareForward, parsed]
  exact if_neg (UInt8.not_lt.mpr near)

theorem forwardCounter_succ {x : UInt8} (near : x ≤ maxForwardHops) :
    (x + 1).toNat = x.toNat + 1 := by
  have small : x.toNat ≤ 7 := UInt8.le_iff_toNat_le.mp near
  rw [UInt8.toNat_add]
  have one : (1 : UInt8).toNat = 1 := rfl
  omega

private theorem prepareForward_header {bytes forwarded : Bytes}
    (done : prepareForward bytes = .ok forwarded) :
    forwarded.length = bytes.length ∧ ∃ h, parsePacket bytes = .ok h ∧
      parsePacket forwarded = .ok { h with forwardCounter := h.forwardCounter + 1 } ∧
      (h.forwardCounter + 1).toNat = h.forwardCounter.toNat + 1 := by
  obtain ⟨h, parsed, near, rfl⟩ := prepareForward_ok done
  refine ⟨List.length_set, h, parsed, ?_, forwardCounter_succ near⟩
  have shape := toBytes_fromBytes (fromBytes_of_parsePacket parsed)
  have written : bytes.set 10 (h.forwardCounter + 1) =
      joinHeaderPayload { h with forwardCounter := h.forwardCounter + 1 }
        (bytes.drop headerSize) := by
    rw [← set_forwardCounter, shape]
  rw [written]
  exact parsePacket_rewrite parsed rfl rfl

private theorem preparePong_header {bytes pong : Bytes} (done : preparePong bytes = .ok pong) :
    pong.length = bytes.length ∧ ∃ h, parsePacket bytes = .ok h ∧ h.packetType = packetTypePing ∧
      parsePacket pong = .ok { h with packetType := packetTypePong } := by
  rw [preparePong] at done
  cases parsed : parsePacket bytes with
  | error text =>
    rw [parsed] at done
    cases done
  | ok h =>
    rw [parsed] at done
    by_cases other : h.packetType ≠ packetTypePing
    · have refused := done.symm.trans (if_pos other)
      cases refused
    · have answered := done.symm.trans (if_neg other)
      cases answered
      refine ⟨List.length_set, h, rfl, not_not.mp other, ?_⟩
      have shape := toBytes_fromBytes (fromBytes_of_parsePacket parsed)
      have written : bytes.set 8 packetTypePong =
          joinHeaderPayload { h with packetType := packetTypePong } (bytes.drop headerSize) := by
        rw [← set_packetType, shape]
      rw [written]
      exact parsePacket_rewrite parsed rfl rfl

/-- A frame forwarded by `n` relays, one after another. -/
def forwardTimes : Nat → Bytes → Except String Bytes
  | 0, bytes => .ok bytes
  | n + 1, bytes => do
    let forwarded ← prepareForward bytes
    forwardTimes n forwarded

/-- How many relays a frame can still pass. -/
private theorem forwardTimes_isOk {n : Nat} {bytes : Bytes} {h : PacketHeader}
    (parsed : parsePacket bytes = .ok h) :
    (forwardTimes n bytes).isOk = true ↔ n ≤ 8 - h.forwardCounter.toNat := by
  induction n generalizing bytes h with
  | zero => exact iff_of_true rfl (Nat.zero_le _)
  | succ n ih =>
    rw [forwardTimes]
    cases done : prepareForward bytes with
    | error text =>
      apply iff_of_false
      · exact Bool.false_ne_true
      · intro room
        have near : h.forwardCounter ≤ maxForwardHops := by
          apply UInt8.le_iff_toNat_le.mpr
          show h.forwardCounter.toNat ≤ 7
          omega
        have passed := done.symm.trans (prepareForward_of_le parsed near)
        cases passed
    | ok forwarded =>
      obtain ⟨_, header, same, next, count⟩ := prepareForward_header done
      obtain rfl : header = h := Except.ok.inj (same.symm.trans parsed)
      apply (ih next).trans
      show n ≤ 8 - (header.forwardCounter + 1).toNat ↔ _
      obtain ⟨_, again, near, _⟩ := prepareForward_ok done
      obtain rfl := Except.ok.inj (parsed.symm.trans again)
      have small : header.forwardCounter.toNat ≤ 7 := UInt8.le_iff_toNat_le.mp near
      omega

/-- The codec is exact, and the rewriters change one field. -/
theorem framing_exact :
    (∀ h : PacketHeader, PacketHeader.fromBytes h.toBytes = .ok h) ∧
    (∀ (bytes : Bytes) (h : PacketHeader), parsePacket bytes = .ok h →
      h.toBytes ++ bytes.drop headerSize = bytes) ∧
    (∀ (fromPeerId toPeerId : UInt32) (packetType : UInt8) (payload : Bytes),
      payload.length < 2 ^ 32 →
      ∃ bytes h, buildPacket fromPeerId toPeerId packetType payload = .ok bytes ∧
        parsePacket bytes = .ok h ∧ h.fromPeerId = fromPeerId ∧ h.toPeerId = toPeerId ∧
        h.packetType = packetType ∧ bytes.drop headerSize = payload) ∧
    (∀ bytes forwarded : Bytes, prepareForward bytes = .ok forwarded →
      forwarded.length = bytes.length ∧ ∃ h, parsePacket bytes = .ok h ∧
        parsePacket forwarded = .ok { h with forwardCounter := h.forwardCounter + 1 } ∧
        (h.forwardCounter + 1).toNat = h.forwardCounter.toNat + 1) ∧
    (∀ bytes pong : Bytes, preparePong bytes = .ok pong →
      pong.length = bytes.length ∧ ∃ h, parsePacket bytes = .ok h ∧
        parsePacket pong = .ok { h with packetType := packetTypePong }) ∧
    ∀ (bytes : Bytes) (h : PacketHeader), parsePacket bytes = .ok h → ∀ n,
      (forwardTimes n bytes).isOk = true ↔ n ≤ 8 - h.forwardCounter.toNat := by
  refine ⟨?_, ?_, ?_, ?_, ?_, ?_⟩
  · intro h
    have read := fromBytes_toBytes h []
    rwa [List.append_nil] at read
  · intro bytes h parsed
    exact toBytes_fromBytes (fromBytes_of_parsePacket parsed)
  · intro fromPeerId toPeerId packetType payload fits
    refine ⟨_, _, if_pos fits, parsePacket_join ?_, rfl, rfl, rfl, drop_joinHeaderPayload _ payload⟩
    rw [expectedLen, if_pos (show (0 : UInt8) &&& encryptedFlag = 0 by decide), Nat.add_zero,
      UInt32.toNat_ofNat_of_lt' fits]
    exact (Nat.mod_eq_of_lt fits).symm
  · intro bytes forwarded done
    exact prepareForward_header done
  · intro bytes pong done
    obtain ⟨length, h, parsed, _, answered⟩ := preparePong_header done
    exact ⟨length, h, parsed, answered⟩
  · intro bytes h parsed n
    exact forwardTimes_isOk parsed

/-- A frame of three bytes of data. -/
def threeBytes : Bytes := [7, 0, 0, 0, 9, 0, 0, 0, 1, 0, 1, 0, 3, 0, 0, 0, 1, 2, 3]

/-- It passes seven relays and no eighth. -/
theorem framing_exact_three :
    buildPacket 7 9 1 [1, 2, 3] = .ok threeBytes ∧ (forwardTimes 7 threeBytes).isOk = true ∧
      (forwardTimes 8 threeBytes).isOk = false := by
  have parsed : parsePacket threeBytes = .ok ⟨7, 9, 1, 0, 1, 0, 3⟩ := by decide
  have relays := framing_exact.2.2.2.2.2 threeBytes _ parsed
  refine ⟨by decide, (relays 7).mpr (by decide), ?_⟩
  rw [← Bool.not_eq_true, relays 8]
  decide

/-- `parse_packet` accepts exactly the well-formed frames, but for the frames whose length wraps. -/
theorem parsePacket_exact (bytes : Bytes) :
    ((parsePacket bytes).isOk = true ↔ WellFormed bytes) ↔ ¬ Wraps bytes := by
  rw [parsePacket_isOk, WellFormed, Wraps]
  have small := lengthField_lt bytes
  have size : usizeSize = 4_294_967_296 := rfl
  have tail : aeadTailSize = 28 := rfl
  generalize lengthField bytes = len at small ⊢
  generalize bytes.length = n
  by_cases long : headerSize ≤ n
  · cases flagged bytes with
    | false =>
      simp only [Bool.false_eq_true, if_false, Nat.add_zero, false_and, and_false,
        not_false_eq_true, Nat.mod_eq_of_lt small]
    | true =>
      simp only [long, true_and, if_true, size, tail]
      omega
  · simp [long]

/-- A frame of 16 bytes, flagged as encrypted, whose length field is `2 ^ 32 - 28`. -/
def wrappingFrame : Bytes := [0, 0, 0, 0, 0, 0, 0, 0, 0, 1, 0, 0, 0xe4, 0xff, 0xff, 0xff]

/-- It is accepted, although it has no AEAD tail. -/
theorem wrappingFrame_accepted :
    ¬ ∀ bytes : Bytes, (parsePacket bytes).isOk = true ↔ WellFormed bytes := by
  intro claim
  have accepted : (parsePacket wrappingFrame).isOk = true := by decide
  obtain ⟨_, same⟩ := (claim wrappingFrame).mp accepted
  exact absurd same (by decide)

end EasyTierEdge.Framing
