import GRoute.Curve25519.Correctness
import GRoute.Curve25519.Inversion
import GRoute.Foundation.MontgomeryCurve

/-!
# Scalar multiplication in the group of the curve

Above the ladder of RFC 7748 stands what it is for. The curves `B y² = x³ + 486662 x² + x` are
Curve25519 and its twists, and each field element is the x-coordinate of a point of one of them.
The two pairs of the ladder represent consecutive multiples of that point, so `scalarmult`
multiplies the point by the clamped scalar. Two parties that exchange public keys hence derive the
same secret.
-/

namespace GRoute.Curve25519

open Radix Rfc7748 MontgomeryCurve

local instance : Fact (Nat.Prime modulus) := ⟨prime_modulus⟩

theorem two_ne_zero_felt : (2 : Felt) ≠ 0 := by decide +kernel

theorem sq_ne_four_felt : (486662 : Felt) ^ 2 ≠ 4 := by
  decide +kernel

def coefficient : Coefficient Felt where
  A := 486662
  two_ne_zero := two_ne_zero_felt
  sq_ne_four := sq_ne_four_felt

/-- Curve25519 or one of its twists. -/
abbrev Curve : Type := Twist coefficient

theorem ladderFormulas_x₂ (u : Felt) (s : State) :
    (ladderFormulas u s).x₂ = (s.x₂ ^ 2 - s.z₂ ^ 2) ^ 2 := by
  simp only [ladderFormulas]
  ring

theorem ladderFormulas_z₂ (u : Felt) (s : State) :
    (ladderFormulas u s).z₂ =
      4 * s.x₂ * s.z₂ * (s.x₂ ^ 2 + coefficient.A * s.x₂ * s.z₂ + s.z₂ ^ 2) := by
  simp only [ladderFormulas, a24, coefficient]
  ring

theorem ladderFormulas_x₃ (u : Felt) (s : State) :
    (ladderFormulas u s).x₃ = 4 * (s.x₂ * s.x₃ - s.z₂ * s.z₃) ^ 2 := by
  simp only [ladderFormulas]
  ring

theorem ladderFormulas_z₃ (u : Felt) (s : State) :
    (ladderFormulas u s).z₃ = u * (4 * (s.x₂ * s.z₃ - s.z₂ * s.x₃) ^ 2) := by
  simp only [ladderFormulas]
  ring

theorem ladderStep_eq (u : Felt) (s : State) (bit : Bool) :
    Rfc7748.ladderStep u s bit =
      { ladderFormulas u (cswap bit (cswap s.swap s)) with swap := bit } := by
  rw [Rfc7748.ladderStep, cswap_xor]
  rfl

/-- The two pairs, after the swap that is still owed, represent consecutive multiples. -/
structure Tracks (c : Curve) (P : c.Point) (k : ℕ) (s : State) : Prop where
  lower : c.Represents (cswap s.swap s).x₂ (cswap s.swap s).z₂ (k • P)
  upper : c.Represents (cswap s.swap s).x₃ (cswap s.swap s).z₃ ((k + 1) • P)

section Step

variable {c : Curve} {P : c.Point} {u : Felt} {k : ℕ} {s : State}

theorem tracks_start (coordinate : c.coordinate P = u) (nonzero : u ≠ 0) :
    Tracks c P 0 { x₂ := 1, z₂ := 0, x₃ := u, z₃ := 1, swap := false } := by
  refine ⟨?_, ?_⟩
  · rw [zero_smul]
    exact ⟨one_ne_zero, rfl⟩
  · rw [zero_add, one_smul]
    rcases c.point_cases P with rfl | ⟨t, y, h, rfl⟩
    · exact absurd coordinate.symm nonzero
    · rw [c.coordinate_scaled] at coordinate
      exact c.represents_scaled.mpr ⟨one_ne_zero, coordinate.symm.trans (mul_one t).symm⟩

/-- The formulas double the first point and add the second, whatever the difference's sign. -/
theorem represents_ladderFormulas {Q R : c.Point} (first : c.Represents s.x₂ s.z₂ Q)
    (second : c.Represents s.x₃ s.z₃ R) (difference : c.coordinate (Q - R) = u) (nonzero : u ≠ 0) :
    c.Represents (ladderFormulas u s).x₂ (ladderFormulas u s).z₂ (Q + Q) ∧
      c.Represents (ladderFormulas u s).x₃ (ladderFormulas u s).z₃ (Q + R) := by
  rw [ladderFormulas_x₂, ladderFormulas_z₂, ladderFormulas_x₃, ladderFormulas_z₃]
  exact ⟨first.double, first.add second difference nonzero⟩

theorem coordinate_consecutive (coordinate : c.coordinate P = u) :
    c.coordinate (k • P - (k + 1) • P) = u ∧ c.coordinate ((k + 1) • P - k • P) = u := by
  have difference : (k + 1) • P - k • P = P := by
    rw [succ_nsmul]
    abel
  rw [← neg_sub, c.coordinate_neg, difference]
  exact ⟨coordinate, coordinate⟩

/-- One iteration doubles the multiple and adds the bit. -/
theorem Tracks.step (tracks : Tracks c P k s) (coordinate : c.coordinate P = u) (nonzero : u ≠ 0)
    (bit : Bool) : Tracks c P (2 * k + bit.toNat) (Rfc7748.ladderStep u s bit) := by
  rcases coordinate_consecutive (k := k) coordinate with ⟨downward, upward⟩
  have twice (j : ℕ) : j • P + j • P = (2 * j) • P := by rw [two_mul, add_smul]
  have sum : k • P + (k + 1) • P = (2 * k + 1) • P := by
    rw [← add_smul, ← add_assoc, two_mul]
  -- The set bit enters with the two points exchanged, and so their difference negated.
  cases bit with
  | false =>
      have formulas := represents_ladderFormulas tracks.lower tracks.upper downward nonzero
      rw [twice, sum] at formulas
      refine ⟨?_, ?_⟩ <;> rw [ladderStep_eq]
      · exact formulas.1
      · exact formulas.2
  | true =>
      have formulas := represents_ladderFormulas (s := cswap true (cswap s.swap s)) tracks.upper
        tracks.lower upward nonzero
      rw [twice, add_comm ((k + 1) • P), sum] at formulas
      refine ⟨?_, ?_⟩ <;> rw [ladderStep_eq]
      · exact formulas.2
      · exact formulas.1

end Step

/-- The bits above position `j` make the multiple after the iterations for them. -/
theorem shifted_bit (k j : ℕ) : k / 2 ^ j = 2 * (k / 2 ^ (j + 1)) + (k.testBit j).toNat := by
  have halved : k / 2 ^ (j + 1) = k / 2 ^ j / 2 := by rw [pow_succ, Nat.div_div_eq_div_mul]
  rw [halved, Nat.testBit_eq_decide_div_mod_eq]
  have parity := Nat.mod_two_eq_zero_or_one (k / 2 ^ j)
  rcases parity with even | odd
  · simp only [even]
    simp
    omega
  · simp only [odd]
    simp
    omega

theorem tracks_ladder {c : Curve} {P : c.Point} {u : Felt} {k : ℕ} (small : k < 2 ^ 255)
    (coordinate : c.coordinate P = u) (nonzero : u ≠ 0) :
    c.Represents (ladder k u).x₂ (ladder k u).z₂ (k • P) := by
  have run := Loop.foldl_invariant (fun done s => Tracks c P (k / 2 ^ (255 - done)) s)
    (fun s (t : Fin 255) => Rfc7748.ladderStep u s (k.testBit (254 - t.val)))
    { x₂ := 1, z₂ := 0, x₃ := u, z₃ := 1, swap := false }
    (by
      rw [Nat.div_eq_of_lt small]
      exact tracks_start coordinate nonzero)
    (by
      intro t s tracks
      have stepped := tracks.step coordinate nonzero (k.testBit (254 - t.val))
      have position : 255 - t.val = 254 - t.val + 1 := by omega
      have next : 255 - (t.val + 1) = 254 - t.val := by omega
      rw [position, ← shifted_bit] at stepped
      rw [next]
      exact stepped)
  rw [Nat.sub_self, pow_zero, Nat.div_one] at run
  exact run.lower

/-- Both pairs of a ladder for the coordinate zero. -/
structure Degenerate (s : State) : Prop where
  first : s.x₂ * s.z₂ = 0
  second : s.x₃ * s.z₃ = 0

theorem Degenerate.cswap {s : State} (degenerate : Degenerate s) (swap : Bool) :
    Degenerate (cswap swap s) := by
  cases swap with
  | false => exact degenerate
  | true => exact ⟨degenerate.second, degenerate.first⟩

theorem Degenerate.step {s : State} (degenerate : Degenerate s) (bit : Bool) :
    Degenerate (Rfc7748.ladderStep 0 s bit) := by
  have entered := (degenerate.cswap s.swap).cswap bit
  rw [ladderStep_eq]
  refine ⟨?_, ?_⟩
  · apply mul_eq_zero_of_right
    exact (ladderFormulas_z₂ 0 _).trans (by rw [mul_assoc 4, entered.first, mul_zero, zero_mul])
  · apply mul_eq_zero_of_right
    exact (ladderFormulas_z₃ 0 _).trans (zero_mul _)

theorem degenerate_ladder (k : ℕ) : Degenerate (ladder k 0) := by
  apply Degenerate.cswap
  apply Loop.foldl_invariant (fun _ s => Degenerate s)
  · exact ⟨mul_zero 1, zero_mul 1⟩
  · intro t s degenerate
    exact degenerate.step _

theorem mul_pow_eq_div (x z : Felt) : x * z ^ (2 ^ 255 - 21) = x / z := by
  by_cases zero : z = 0
  · rw [zero, div_zero, zero_pow (by norm_num), mul_zero]
  · rw [eq_div_iff zero, mul_assoc, pow_mul_self_eq_one zero, mul_one]

/-- The coordinate that the ladder gives for an even scalar, whatever the point. -/
theorem ladder_coordinate (c : Curve) (P : c.Point) {k : ℕ} (small : k < 2 ^ 255)
    (even : Even k) :
    (ladder k (c.coordinate P)).x₂ * (ladder k (c.coordinate P)).z₂ ^ (2 ^ 255 - 21) =
      c.coordinate (k • P) := by
  rw [mul_pow_eq_div]
  by_cases zero : c.coordinate P = 0
  · rcases even with ⟨half, rfl⟩
    rw [add_smul, ← smul_add, c.add_self_eq_zero zero, smul_zero, zero, c.coordinate_zero,
      div_eq_zero_iff]
    exact mul_eq_zero.mp (degenerate_ladder _).first
  · exact (tracks_ladder small rfl zero).div_eq

theorem decodeLittleEndian_lt (b : ByteArray 32) : decodeLittleEndian b < 2 ^ 256 := by
  have lt : value (2 ^ 8) (byteAt b) 32 < (2 ^ 8) ^ 32 :=
    value_lt_pow (by norm_num) (byteAt_lt b) 32
  rw [← decodeLittleEndian_eq, ← pow_mul] at lt
  exact_mod_cast lt

theorem decodeScalar25519_lt (n : ByteArray 32) : decodeScalar25519 n < 2 ^ 255 := by
  have top : (decodeScalar25519 n).testBit 255 = false := by
    have clear : ∀ byte : Byte, ((byte &&& 127) ||| 64).toNat.testBit 7 = false := by decide
    rw [decodeScalar25519, show (255 : ℕ) = 8 * 31 + 7 by norm_num,
      testBit_decodeLittleEndian _ (by norm_num) (by norm_num), Vector.getElem_set_self]
    exact clear _
  have whole : decodeScalar25519 n < 2 ^ 256 := decodeLittleEndian_lt _
  rw [Nat.testBit_eq_decide_div_mod_eq, decide_eq_false_iff_not] at top
  omega

theorem even_decodeScalar25519 (n : ByteArray 32) : Even (decodeScalar25519 n) := by
  have bottom : (decodeScalar25519 n).testBit 0 = false := by
    have clear : ∀ byte : Byte, (byte &&& 248).toNat.testBit 0 = false := by decide
    refine (testBit_decodeLittleEndian _ (q := 0) (r := 0) (by norm_num) (by norm_num)).trans ?_
    rw [Vector.getElem_set_ne _ _ (by norm_num), Vector.getElem_set_self]
    exact clear _
  rw [Nat.testBit_zero, decide_eq_false_iff_not] at bottom
  rw [Nat.even_iff]
  omega

theorem decodeUCoordinate_encodeUCoordinate (u : Felt) :
    (decodeUCoordinate (encodeUCoordinate u) : Felt) = u := by
  rw [← residue_unpack25519, residue, num_unpack25519_encodeUCoordinate, Int.cast_natCast,
    ZMod.natCast_zmod_val]

theorem scalarmult_of_coordinate {p : ByteArray 32} {c : Curve} {P : c.Point}
    (coordinate : (decodeUCoordinate p : Felt) = c.coordinate P) (n : ByteArray 32) :
    scalarmult n p = encodeUCoordinate (c.coordinate (decodeScalar25519 n • P)) := by
  rw [scalarmult_eq, x25519, coordinate,
    ladder_coordinate c P (decodeScalar25519_lt n) (even_decodeScalar25519 n)]

theorem scalarmult_encodeUCoordinate (n : ByteArray 32) (c : Curve) (P : c.Point) :
    scalarmult n (encodeUCoordinate (c.coordinate P)) =
      encodeUCoordinate (c.coordinate (decodeScalar25519 n • P)) :=
  scalarmult_of_coordinate (decodeUCoordinate_encodeUCoordinate _) n

/-- Curve25519 itself. -/
def curve25519 : Curve := ⟨1, one_ne_zero⟩

theorem generator_on : curve25519.curve.Nonsingular 9
    14781619447589544791020593568409986887264606134616475288964881837755586237401 := by
  rw [curve25519.nonsingular_iff]
  decide +kernel

/-- The base point, with the y-coordinate that RFC 7748 gives. -/
def generator : curve25519.Point := .some _ _ generator_on

theorem decodeUCoordinate_basePoint :
    (decodeUCoordinate basePoint : Felt) = curve25519.coordinate generator := by
  have nine : decodeUCoordinate basePoint = 9 := by decide +kernel
  rw [nine, generator, curve25519.coordinate_some, curve25519, div_one]
  rfl

/-- The generated private key is clamped, so clamping it again changes nothing. -/
theorem decodeScalar25519_privateKey (random : ByteArray 32) :
    decodeScalar25519 (privateKey random) = decodeLittleEndian (privateKey random) := by
  have bottom : ∀ byte : Byte, byte &&& 248 &&& 248 = byte &&& 248 := by decide
  have top : ∀ byte : Byte, (byte &&& 127 ||| 64) &&& 127 ||| 64 = byte &&& 127 ||| 64 := by
    decide
  rw [decodeScalar25519]
  congr 1
  apply Vector.ext
  intro i lt
  simp only [privateKey, Vector.getElem_set]
  by_cases first : i = 0
  · subst first
    simpa using bottom ((random[0].signExtend 32).setWidth 8)
  · by_cases last : i = 31
    · subst last
      simpa using top ((random[31].signExtend 32).setWidth 8)
    · simp [Ne.symm first, Ne.symm last]

/-- Every byte string is the coordinate of a point of Curve25519 or of a twist, `scalarmult`
multiplies the point by the clamped scalar, and a generated public key is the multiple of the base
point by the private key. -/
theorem scalarmult_multiplies :
    (∀ (n : ByteArray 32) (c : Curve) (P : c.Point),
      scalarmult n (encodeUCoordinate (c.coordinate P)) =
        encodeUCoordinate (c.coordinate (decodeScalar25519 n • P))) ∧
    (∀ p : ByteArray 32, ∃ (c : Curve) (P : c.Point), decodeUCoordinate p = c.coordinate P ∧
      ∀ n : ByteArray 32, scalarmult n p =
        encodeUCoordinate (c.coordinate (decodeScalar25519 n • P))) ∧
    ∀ random : ByteArray 32, generateKeyPair random = (keyText (privateKey random),
      keyText (encodeUCoordinate (curve25519.coordinate
        (decodeLittleEndian (privateKey random) • generator)))) := by
  refine ⟨scalarmult_encodeUCoordinate, ?_, ?_⟩
  · intro p
    rcases exists_point coefficient (decodeUCoordinate p) with ⟨c, P, coordinate⟩
    exact ⟨c, P, coordinate.symm, scalarmult_of_coordinate coordinate.symm⟩
  · intro random
    rw [generateKeyPair, scalarmultBase, ← decodeScalar25519_privateKey,
      ← scalarmult_of_coordinate decodeUCoordinate_basePoint]
    rfl

/-- The order in which two scalars multiply a point does not matter: both parties of an exchange
derive one secret, for all scalars and for every point, also one that is on no curve. -/
theorem scalarmult_comm (a b p : ByteArray 32) :
    scalarmult a (scalarmult b p) = scalarmult b (scalarmult a p) := by
  rcases exists_point coefficient (decodeUCoordinate p) with ⟨c, P, coordinate⟩
  rw [scalarmult_of_coordinate coordinate.symm, scalarmult_of_coordinate coordinate.symm,
    scalarmult_encodeUCoordinate, scalarmult_encodeUCoordinate, smul_comm]

end GRoute.Curve25519
