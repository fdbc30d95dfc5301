import Mathlib.Algebra.BigOperators.Fin
import Mathlib.Data.ZMod.Basic

/-!
# The X25519 function

RFC 7748 defines X25519 over `GF(2^255 - 19)`: decode the clamped scalar and the
masked u-coordinate, run the Montgomery ladder with its deferred conditional swap,
divide by raising to the power `2^255 - 21`, and encode the canonical residue.
This file states that definition in its own terms, as the function the code is
meant to compute. Nothing here is translated from the code.
-/

namespace GRoute.Rfc7748

/-- The prime `2^255 - 19`. -/
def modulus : ℕ := 2 ^ 255 - 19

instance : NeZero modulus := ⟨by decide⟩

abbrev Felt := ZMod modulus

abbrev Bytes := Vector (BitVec 8) 32

def decodeLittleEndian (b : Bytes) : ℕ := ∑ i : Fin 32, b[i].toNat * 2 ^ (8 * i.val)

/-- The bytes with the most significant bit of the final one cleared. -/
def masked (u : Bytes) : Bytes :=
  u.set 31 (getElem u 31 (Nat.lt_succ_self 31) &&& 127) (Nat.lt_succ_self 31)

/-- The u-coordinate ignores the most significant bit of the final byte. -/
def decodeUCoordinate (u : Bytes) : ℕ := decodeLittleEndian (masked u)

def decodeScalar25519 (k : Bytes) : ℕ :=
  decodeLittleEndian
    ((k.set 0 (getElem k 0 (Nat.succ_pos 31) &&& 248) (Nat.succ_pos 31)).set 31
      ((getElem k 31 (Nat.lt_succ_self 31) &&& 127) ||| 64) (Nat.lt_succ_self 31))

def encodeUCoordinate (u : Felt) : Bytes :=
  Vector.ofFn fun i => BitVec.ofNat 8 (u.val / 2 ^ (8 * i.val))

/-- The variables of the ladder. -/
structure State where
  x₂ : Felt
  z₂ : Felt
  x₃ : Felt
  z₃ : Felt
  swap : Bool

def cswap (swap : Bool) (s : State) : State :=
  if swap then { s with x₂ := s.x₃, x₃ := s.x₂, z₂ := s.z₃, z₃ := s.z₂ } else s

def a24 : Felt := 121665

/-- The differential addition and doubling of one ladder step. -/
def ladderFormulas (x₁ : Felt) (s : State) : State :=
  let A := s.x₂ + s.z₂
  let AA := A ^ 2
  let B := s.x₂ - s.z₂
  let BB := B ^ 2
  let E := AA - BB
  let C := s.x₃ + s.z₃
  let D := s.x₃ - s.z₃
  let DA := D * A
  let CB := C * B
  { s with
    x₃ := (DA + CB) ^ 2
    z₃ := x₁ * (DA - CB) ^ 2
    x₂ := AA * BB
    z₂ := E * (AA + a24 * E) }

/-- One iteration, for the scalar bit `bit`. -/
def ladderStep (x₁ : Felt) (s : State) (bit : Bool) : State :=
  let swapped := cswap (s.swap ^^ bit) s
  ladderFormulas x₁ { swapped with swap := bit }

/-- The result of the ladder for the bits `254, …, 0` of `k`, after the final swap. -/
def ladder (k : ℕ) (u : Felt) : State :=
  let s := Fin.foldl 255 (fun s t => ladderStep u s (k.testBit (254 - t.val)))
    { x₂ := 1, z₂ := 0, x₃ := u, z₃ := 1, swap := false }
  cswap s.swap s

def x25519 (k u : Bytes) : Bytes :=
  let s := ladder (decodeScalar25519 k) (decodeUCoordinate u)
  encodeUCoordinate (s.x₂ * s.z₂ ^ (2 ^ 255 - 21))

/-- The u-coordinate `9` of the base point. -/
def basePoint : Bytes := (Vector.replicate 32 0).set 0 9 (Nat.succ_pos 31)

end GRoute.Rfc7748
