import GRoute.Curve25519.Ladder

/-!
# Bytes and canonical encodings

The code packs and unpacks sixteen 16-bit limbs as 32 little-endian bytes. This
file relates `unpack25519`, the clamped scalar and its bits to the decoding
functions of the specification, and proves that `pack25519` encodes the canonical
residue: three carry passes bring the number into `[0, 2^256)`, and two trial
subtractions of `2^255 - 19` bring it below the modulus.
-/

namespace GRoute.Curve25519

open Radix Word
open Rfc7748 (modulus Felt decodeLittleEndian masked decodeUCoordinate decodeScalar25519
  encodeUCoordinate)

/-- The value of byte `i`, and zero beyond the end. -/
def byteAt (b : ByteArray 32) (i : ℕ) : ℤ := if h : i < 32 then b[i].toNat else 0

theorem byteAt_eq {b : ByteArray 32} {i : ℕ} (lt : i < 32) : byteAt b i = b[i].toNat := by
  simp [byteAt, lt]

theorem byteAt_nonneg (b : ByteArray 32) (i : ℕ) : 0 ≤ byteAt b i := by
  unfold byteAt
  split <;> omega

theorem byteAt_lt (b : ByteArray 32) (i : ℕ) : byteAt b i < 2 ^ 8 := by
  unfold byteAt
  split
  · next lt =>
      have byteLt : b[i].toNat < 2 ^ 8 := b[i].isLt
      omega
  · norm_num

theorem decodeLittleEndian_eq (b : ByteArray 32) :
    (decodeLittleEndian b : ℤ) = value (2 ^ 8) (byteAt b) 32 := by
  rw [decodeLittleEndian, value, Finset.sum_range]
  push_cast
  apply Finset.sum_congr rfl
  intro i _
  rw [byteAt_eq i.isLt, pow_mul]
  norm_num

/-- Bit `8 q + r` of a little-endian number is bit `r` of byte `q`. -/
theorem testBit_decodeLittleEndian (b : ByteArray 32) {q r : ℕ} (qLt : q < 32) (rLt : r < 8) :
    (decodeLittleEndian b).testBit (8 * q + r) = b[q].toNat.testBit r := by
  have byteEq : (decodeLittleEndian b / 2 ^ (8 * q) % 2 ^ 8 : ℕ) = b[q].toNat := by
    have digitEq : digit (2 ^ 8) (value (2 ^ 8) (byteAt b) 32) q = byteAt b q :=
      digit_value_of_canonical (by norm_num) (byteAt_nonneg b) (byteAt_lt b) qLt
    rw [digit, ← decodeLittleEndian_eq, byteAt_eq qLt, ← pow_mul] at digitEq
    exact_mod_cast digitEq
  rw [← byteEq, Nat.testBit_mod_two_pow, Nat.testBit_div_two_pow]
  simp [rLt, add_comm]

theorem toInt_bitWord (bit : Bool) : (bitWord bit).toInt = if bit then 1 else 0 := by
  cases bit <;> decide

theorem decodeLittleEndian_clamp (n : ByteArray 32) :
    decodeLittleEndian (clamp n) = decodeScalar25519 n := by
  have top : ∀ x : Byte, ((x.signExtend 32 &&& 127) ||| 64).setWidth 8 = (x &&& 127) ||| 64 := by
    decide
  have bottom : ∀ x : Byte, (x.signExtend 32 &&& 248).setWidth 8 = x &&& 248 := by
    decide
  have same : clamp n = (n.set 0 (n[0] &&& 248)).set 31 ((n[31] &&& 127) ||| 64) := by
    simp only [clamp, top, bottom]
    apply Vector.ext
    intro i lt
    simp only [Vector.getElem_set]
    by_cases zero : i = 0
    · subst zero
      simp
    · simp [Ne.symm zero]
  rw [same, decodeScalar25519]

theorem scalarBit_clamp (n : ByteArray 32) (i : Fin 255) :
    scalarBit (clamp n) i = bitWord ((decodeScalar25519 n).testBit i) := by
  have byteLt : i.val >>> 3 < 32 := by
    rw [Nat.shiftRight_eq_div_pow]
    omega
  have offset : i.val &&& 7 = i.val % 8 := Nat.and_two_pow_sub_one_eq_mod i.val 3
  have position : i.val = 8 * (i.val >>> 3) + (i.val &&& 7) := by
    rw [offset, Nat.shiftRight_eq_div_pow]
    omega
  have bit : (decodeScalar25519 n).testBit i =
      (clamp n)[i.val >>> 3].toNat.testBit (i.val &&& 7) := by
    rw [← decodeLittleEndian_clamp]
    conv_lhs => rw [position]
    exact testBit_decodeLittleEndian _ byteLt (by omega)
  apply BitVec.eq_of_toInt_eq
  rw [bit, toInt_bitWord, scalarBit]
  have masked := toInt_and_mask
    ((((clamp n)[i.val >>> 3].signExtend 32) &&& 0xff).sshiftRight (i.val &&& 7))
    (n := 1) (by norm_num)
  rw [toInt_shiftRight, toInt_signExtend_and_255 _ (by norm_num)] at masked
  refine masked.trans ?_
  rw [Nat.testBit_eq_decide_div_mod_eq]
  generalize (clamp n)[i.val >>> 3].toNat = byte
  have cast : ((byte : ℤ) / 2 ^ (i.val &&& 7) % 2 ^ 1) = (byte / 2 ^ (i.val &&& 7) % 2 : ℕ) := by
    push_cast
    norm_num
  rw [cast]
  by_cases odd : byte / 2 ^ (i.val &&& 7) % 2 = 1
  · simp [odd]
  · have even : byte / 2 ^ (i.val &&& 7) % 2 = 0 := by omega
    simp [even]

theorem toInt_unpackLimb (x y : Byte) :
    (unpackLimb x y).toInt = x.toNat + 2 ^ 8 * y.toNat := by
  have xLt : x.toNat < 2 ^ 8 := x.isLt
  have yLt : y.toNat < 2 ^ 8 := y.isLt
  have low : (x.signExtend 64 &&& 0xff).toInt = x.toNat :=
    toInt_signExtend_and_255 x (by norm_num)
  have byte : (y.signExtend 64 &&& 0xff).toInt = y.toNat :=
    toInt_signExtend_and_255 y (by norm_num)
  have high : ((y.signExtend 64 &&& 0xff) <<< 8).toInt = y.toNat * 2 ^ 8 := by
    rw [toInt_shiftLeft, byte]
    rw [byte, Fits]
    omega
  rw [unpackLimb, Word.toInt_add, low, high]
  · ring
  · rw [low, high, Fits]
    omega

theorem byteAt_masked (p : ByteArray 32) {i : ℕ} (lt : i < 32) :
    byteAt (masked p) i = if i = 31 then byteAt p 31 % 2 ^ 7 else byteAt p i := by
  rw [byteAt_eq lt, byteAt_eq lt, byteAt_eq (by norm_num : 31 < 32)]
  by_cases top : i = 31
  · subst top
    simp only [masked, Vector.getElem_set_self, if_true, BitVec.toNat_and]
    have low := Nat.and_two_pow_sub_one_eq_mod p[31].toNat 7
    exact_mod_cast low
  · simp [masked, top, Vector.getElem_set_ne _ _ (Ne.symm top)]

theorem limb_unpack25519 (p : ByteArray 32) {i : ℕ} (lt : i < 16) :
    limb (unpack25519 p) i = byteAt (masked p) (2 * i) + 2 ^ 8 * byteAt (masked p) (2 * i + 1) := by
  have pairs (j : ℕ) (jLt : j < 16) :
      limb (Fin.foldl 16 (fun (o : Limbs) i =>
        o.set i (unpackLimb p[2 * i.val] p[2 * i.val + 1])) (longArray 16)) j =
      byteAt p (2 * j) + 2 ^ 8 * byteAt p (2 * j + 1) := by
    rw [limb_eq jLt, Loop.getElem_foldl_set _ _ j jLt, toInt_unpackLimb, byteAt_eq (by omega),
      byteAt_eq (by omega)]
  rw [unpack25519, limb_set, byteAt_masked p (by omega), byteAt_masked p (by omega)]
  by_cases top : i = 15
  · subst top
    have mask := toInt_and_mask (Fin.foldl 16 (fun (o : Limbs) i =>
      o.set i (unpackLimb p[2 * i.val] p[2 * i.val + 1])) (longArray 16))[15]
      (n := 15) (by norm_num)
    have low := byteAt_nonneg p 30
    have lowLt := byteAt_lt p 30
    rw [← limb_eq (by norm_num), pairs 15 lt] at mask
    refine mask.trans ?_
    norm_num
    omega
  · rw [if_neg (Ne.symm top), if_neg (by omega), if_neg (by omega)]
    exact pairs i lt

theorem unpack25519_bounded (p : ByteArray 32) : Bounded (unpack25519 p) (2 ^ 17) := by
  apply Bounded.of_lt (by norm_num)
  intro i lt
  have low := byteAt_nonneg (masked p) (2 * i)
  have lowLt := byteAt_lt (masked p) (2 * i)
  have high := byteAt_nonneg (masked p) (2 * i + 1)
  have highLt := byteAt_lt (masked p) (2 * i + 1)
  rw [limb_unpack25519 p lt, abs_le]
  omega

/-- Unpacking a point reads its u-coordinate. -/
theorem num_unpack25519 (p : ByteArray 32) : num (unpack25519 p) = decodeUCoordinate p := by
  rw [decodeUCoordinate, decodeLittleEndian_eq, num,
    value_congr fun i lt => limb_unpack25519 p lt]
  exact value_pairs 16

theorem residue_unpack25519 (p : ByteArray 32) :
    residue (unpack25519 p) = (decodeUCoordinate p : Felt) := by
  rw [residue, num_unpack25519]
  push_cast
  rfl

end GRoute.Curve25519
