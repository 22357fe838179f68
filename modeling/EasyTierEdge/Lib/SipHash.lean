/- module: EasyTierEdge/Lib/SipHash
   layer: library
   digest: SipHash-1-3, the algorithm behind Rust's default hasher. -/

import EasyTierEdge.Lib.Endian

set_option autoImplicit false
set_option relaxedAutoImplicit false

namespace EasyTierEdge.Lib.SipHash

open Endian

structure State where
  v0 : UInt64
  v1 : UInt64
  v2 : UInt64
  v3 : UInt64

def rotateLeft (x k : UInt64) : UInt64 := (x <<< k) ||| (x >>> (64 - k))

def State.round (s : State) : State :=
  let v0 := s.v0 + s.v1
  let v1 := rotateLeft s.v1 13 ^^^ v0
  let v2 := s.v2 + s.v3
  let v3 := rotateLeft s.v3 16 ^^^ v2
  let v0 := rotateLeft v0 32 + v3
  let v3 := rotateLeft v3 21 ^^^ v0
  let v2 := v2 + v1
  let v1 := rotateLeft v1 17 ^^^ v2
  ⟨v0, v1, rotateLeft v2 32, v3⟩

/-- Absorb one word: one round for each, as the first number of the name says. -/
def State.absorb (s : State) (word : UInt64) : State :=
  let s := State.round { s with v3 := s.v3 ^^^ word }
  { s with v0 := s.v0 ^^^ word }

/-- The whole words of the input, and the bytes that are left. -/
def State.compress (s : State) : List UInt8 → State × List UInt8
  | b0 :: b1 :: b2 :: b3 :: b4 :: b5 :: b6 :: b7 :: rest =>
    State.compress (s.absorb (UInt64.ofNat (ofLe [b0, b1, b2, b3, b4, b5, b6, b7]))) rest
  | tail => (s, tail)

def sipHash13 (k0 k1 : UInt64) (input : List UInt8) : UInt64 :=
  let start : State := ⟨k0 ^^^ 0x736f6d6570736575, k1 ^^^ 0x646f72616e646f6d,
    k0 ^^^ 0x6c7967656e657261, k1 ^^^ 0x7465646279746573⟩
  let (s, tail) := start.compress input
  let s := s.absorb (UInt64.ofNat (ofLe tail + input.length % 256 * 2 ^ 56))
  let s := (State.round { s with v2 := s.v2 ^^^ 0xff }).round.round
  s.v0 ^^^ s.v1 ^^^ s.v2 ^^^ s.v3

end EasyTierEdge.Lib.SipHash
