/- module: EasyTierEdge/Lib/Protobuf
   layer: library
   digest: The protobuf wire format, for writing messages field by field. -/

import Mathlib.Algebra.Group.Int.Defs
import Mathlib.Algebra.Group.Nat.Defs

set_option autoImplicit false
set_option relaxedAutoImplicit false

namespace EasyTierEdge.Lib.Protobuf

abbrev Wire := List UInt8

/-- Seven bits a byte, the lowest first; ten bytes hold any 64-bit number. -/
def varintBytes : Nat → Nat → Wire
  | 0, _ => []
  | k + 1, n => if n < 128 then [UInt8.ofNat n] else
      UInt8.ofNat (n % 128 + 128) :: varintBytes k (n / 128)

def varint (n : Nat) : Wire := varintBytes 10 n

/-- A field that is present, whatever its value. -/
def number (field n : Nat) : Wire := varint (8 * field) ++ varint n

def chunk (field : Nat) (bytes : Wire) : Wire :=
  varint (8 * field + 2) ++ varint bytes.length ++ bytes

/-- A field that is left out when it has its default value. -/
def numberOr (field n : Nat) : Wire := if n = 0 then [] else number field n

def boolOr (field : Nat) (b : Bool) : Wire := numberOr field b.toNat

def chunkOr (field : Nat) (bytes : Wire) : Wire := if bytes.isEmpty then [] else chunk field bytes

def text (value : String) : Wire := value.toByteArray.data.toList

/-- A number of a signed type, sign-extended to 64 bits. -/
def signed (n : Int) : Nat := (n % 2 ^ 64).toNat

def optional {α : Type} (write : α → Wire) (value : Option α) : Wire := value.elim [] write

def repeated {α : Type} (write : α → Wire) (values : List α) : Wire := values.flatMap write

/-- A reader that knows the messages that are written in a run and refuses all other bytes. -/
def readAmong {α : Type} (write : α → Wire) (known : List α) (bytes : Wire) : Except String α :=
  match known.find? fun m => write m == bytes with
  | some m => .ok m
  | none => .error "failed to decode Protobuf message"

end EasyTierEdge.Lib.Protobuf
