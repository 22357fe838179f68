/- module: EasyTierEdge/Lib/Utf16
   layer: library
   digest: Characters as UTF-16 code units, and the lossy way back. -/

import Mathlib.Data.List.Basic

set_option autoImplicit false
set_option relaxedAutoImplicit false

namespace EasyTierEdge.Lib.Utf16

/-- A string as a list of code units, surrogates included. -/
abbrev Units := List UInt16

def encodeChar (c : Char) : Units :=
  if c.toNat < 0x10000 then [UInt16.ofNat c.toNat]
  else
    [UInt16.ofNat (0xD800 + (c.toNat - 0x10000) / 0x400),
      UInt16.ofNat (0xDC00 + (c.toNat - 0x10000) % 0x400)]

def encode (cs : List Char) : Units := cs.flatMap encodeChar

def isLead (u : UInt16) : Bool := 0xD800 ≤ u.toNat && u.toNat < 0xDC00

def isTrail (u : UInt16) : Bool := 0xDC00 ≤ u.toNat && u.toNat < 0xE000

/-- What stands for a surrogate without its partner. -/
def replacement : Char := Char.ofNat 0xFFFD

/-- The character of a code unit by itself. -/
def single (u : UInt16) : Char :=
  if isLead u || isTrail u then replacement else Char.ofNat u.toNat

def decode : Units → List Char
  | [] => []
  | [u] => [single u]
  | u :: v :: rest =>
    if isLead u && isTrail v then
      Char.ofNat (0x10000 + (u.toNat - 0xD800) * 0x400 + (v.toNat - 0xDC00)) :: decode rest
    else single u :: decode (v :: rest)

@[simp] theorem encode_nil : encode [] = [] := rfl

@[simp] theorem encode_cons (c : Char) (cs : List Char) :
    encode (c :: cs) = encodeChar c ++ encode cs := rfl

theorem encodeChar_units {c : Char} (u : UInt16) (member : u ∈ encodeChar c) :
    (encodeChar c = [u] ∧ u.toNat = c.toNat) ∨ 0xD800 ≤ u.toNat := by
  unfold encodeChar at member ⊢
  split at member
  · rename_i small
    rw [List.mem_singleton.mp member, if_pos small]
    refine Or.inl ⟨rfl, ?_⟩
    rw [UInt16.toNat_ofNat']
    exact Nat.mod_eq_of_lt small
  · have bound : c.toNat < 0x110000 := by
      rcases c.valid with low | high
      · exact Nat.lt_trans low (by decide)
      · exact high.2
    refine Or.inr ?_
    rcases List.mem_pair.mp member with rfl | rfl
    · rw [UInt16.toNat_ofNat', Nat.mod_eq_of_lt (by omega)]
      omega
    · rw [UInt16.toNat_ofNat', Nat.mod_eq_of_lt (by omega)]
      omega

private theorem decode_single {u : UInt16} (alone : isLead u = false) (rest : Units) :
    decode (u :: rest) = single u :: decode rest := by
  cases rest with
  | nil => rfl
  | cons v rest => rw [decode, alone, Bool.false_and, if_neg Bool.false_ne_true]

theorem decode_encodeChar (c : Char) (rest : Units) :
    decode (encodeChar c ++ rest) = c :: decode rest := by
  have valid : c.toNat < 0xD800 ∨ 0xDFFF < c.toNat ∧ c.toNat < 0x110000 := c.valid
  unfold encodeChar
  split
  · rename_i small
    have unit : (UInt16.ofNat c.toNat).toNat = c.toNat := by
      rw [UInt16.toNat_ofNat']
      exact Nat.mod_eq_of_lt small
    have lead : isLead (UInt16.ofNat c.toNat) = false := by
      rw [isLead, unit]
      simp
      omega
    have trail : isTrail (UInt16.ofNat c.toNat) = false := by
      rw [isTrail, unit]
      simp
      omega
    rw [List.singleton_append, decode_single lead, single, lead, trail, unit, Char.ofNat_toNat]
    rfl
  · rename_i large
    have first : (UInt16.ofNat (0xD800 + (c.toNat - 0x10000) / 0x400)).toNat =
        0xD800 + (c.toNat - 0x10000) / 0x400 := by
      rw [UInt16.toNat_ofNat']
      exact Nat.mod_eq_of_lt (by omega)
    have second : (UInt16.ofNat (0xDC00 + (c.toNat - 0x10000) % 0x400)).toNat =
        0xDC00 + (c.toNat - 0x10000) % 0x400 := by
      rw [UInt16.toNat_ofNat']
      exact Nat.mod_eq_of_lt (by omega)
    generalize UInt16.ofNat (0xD800 + (c.toNat - 0x10000) / 0x400) = u at first ⊢
    generalize UInt16.ofNat (0xDC00 + (c.toNat - 0x10000) % 0x400) = v at second ⊢
    have lead : isLead u = true := by
      rw [isLead, first]
      simp
      omega
    have trail : isTrail v = true := by
      rw [isTrail, second]
      simp
      omega
    have whole : 0x10000 + (u.toNat - 0xD800) * 0x400 + (v.toNat - 0xDC00) = c.toNat := by
      rw [first, second]
      omega
    show decode (u :: v :: rest) = _
    rw [decode, lead, trail, Bool.and_self, if_pos rfl, whole, Char.ofNat_toNat]

theorem decode_encode (cs : List Char) : decode (encode cs) = cs := by
  induction cs with
  | nil => rfl
  | cons c cs ih => rw [encode_cons, decode_encodeChar, ih]

theorem encode_injective : Function.Injective encode := by
  intro cs ds same
  rw [← decode_encode cs, same, decode_encode]

private theorem encodeChar_ne_nil (c : Char) : encodeChar c ≠ [] := by
  unfold encodeChar
  split
  · exact List.cons_ne_nil _ _
  · exact List.cons_ne_nil _ _

theorem encode_eq_nil {cs : List Char} : encode cs = [] ↔ cs = [] := by
  cases cs with
  | nil => exact iff_of_true rfl rfl
  | cons c cs => simp [encodeChar_ne_nil]

theorem toNat_ofNat_ascii {c : Nat} (ascii : c < 128) : (Char.ofNat c).toNat = c := by
  have valid : c.isValidChar := Or.inl (Nat.lt_trans ascii (by decide))
  rw [Char.ofNat, dif_pos valid]
  rfl

theorem encode_ascii {codes : List Nat} (ascii : ∀ c ∈ codes, c < 128) :
    (encode (codes.map Char.ofNat)).map UInt16.toNat = codes := by
  induction codes with
  | nil => rfl
  | cons c codes ih =>
    have small : c < 128 := ascii c List.mem_cons_self
    have code : (Char.ofNat c).toNat = c := toNat_ofNat_ascii small
    have unit : (UInt16.ofNat c).toNat = c := by
      rw [UInt16.toNat_ofNat']
      exact Nat.mod_eq_of_lt (by omega)
    have rest := ih fun d member => ascii d (List.mem_cons_of_mem c member)
    rw [List.map_cons, encode_cons, encodeChar, code, if_pos (by omega), List.singleton_append,
      List.map_cons, unit, rest]

private theorem single_ascii {u : UInt16} (ascii : (single u).toNat < 128) :
    (single u).toNat = u.toNat := by
  unfold single at ascii ⊢
  split
  · rename_i surrogate
    rw [if_pos surrogate] at ascii
    exact absurd ascii (by decide)
  · rename_i plain
    have valid : u.toNat.isValidChar := by
      simp only [isLead, isTrail, Bool.or_eq_true, Bool.and_eq_true, decide_eq_true_eq] at plain
      have bound := u.toNat_lt
      show u.toNat < 0xD800 ∨ 0xDFFF < u.toNat ∧ u.toNat < 0x110000
      omega
    rw [Char.ofNat, dif_pos valid]
    rfl

theorem decode_ascii {us : Units} (ascii : ∀ c ∈ decode us, c.toNat < 128) :
    (decode us).map Char.toNat = us.map UInt16.toNat := by
  induction us using decode.induct with
  | case1 => rfl
  | case2 u =>
    have own := single_ascii (ascii (single u) (List.mem_singleton_self _))
    rw [decode, List.map_singleton, List.map_singleton, own]
  | case3 u v rest pair ih =>
    rw [decode, if_pos pair] at ascii
    have small := ascii _ List.mem_cons_self
    simp only [isLead, isTrail, Bool.and_eq_true, decide_eq_true_eq] at pair
    have valid : Nat.isValidChar
        (0x10000 + (u.toNat - 0xD800) * 0x400 + (v.toNat - 0xDC00)) := by
      refine Or.inr ⟨?_, ?_⟩
      · omega
      · omega
    rw [Char.ofNat, dif_pos valid] at small
    have high : 0x10000 + (u.toNat - 0xD800) * 0x400 + (v.toNat - 0xDC00) < 128 := small
    omega
  | case4 u v rest alone ih =>
    rw [decode, if_neg alone] at ascii ⊢
    have own := single_ascii (ascii _ List.mem_cons_self)
    have later := ih fun c member => ascii c (List.mem_cons_of_mem _ member)
    rw [List.map_cons, List.map_cons, own, later]

end EasyTierEdge.Lib.Utf16
