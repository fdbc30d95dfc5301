import GRoute.Curve25519.Bytes

/-!
# Packing a field element

`pack25519` carries three times, which leaves the canonical digits of a number
below `2^256`, and then subtracts the modulus twice on trial, keeping a difference
that does not borrow. The bytes it writes are the digits of the least residue.
-/

namespace GRoute.Curve25519

open Radix Word Rfc7748

/-- All limbs are canonical digits. -/
def Canonical (v : Limbs) : Prop := ∀ i, 0 ≤ limb v i ∧ limb v i < 2 ^ 16

theorem Canonical.num_nonneg {v : Limbs} (canonical : Canonical v) : 0 ≤ num v :=
  value_nonneg (by norm_num) (fun i => (canonical i).1) 16

theorem Canonical.num_lt {v : Limbs} (canonical : Canonical v) : num v < 2 ^ 256 := by
  have lt : num v < (2 ^ 16) ^ 16 := value_lt_pow (by norm_num) (fun i => (canonical i).2) 16
  norm_num at lt ⊢
  exact lt

theorem Canonical.limb_eq_digit {v : Limbs} (canonical : Canonical v) {i : ℕ} (lt : i < 16) :
    limb v i = digit (2 ^ 16) (num v) i :=
  (digit_value_of_canonical (by norm_num) (fun i => (canonical i).1)
    (fun i => (canonical i).2) lt).symm

/-- Limbs that are the digits of a number below `2^256` are canonical and represent it. -/
theorem canonical_of_digits {v : Limbs} {n : ℤ} (nonneg : 0 ≤ n) (lt : n < 2 ^ 256)
    (digits : ∀ i < 16, limb v i = digit (2 ^ 16) n i) : Canonical v ∧ num v = n := by
  constructor
  · intro i
    by_cases iLt : i < 16
    · rw [digits i iLt]
      exact ⟨digit_nonneg (by norm_num) _ _, digit_lt (by norm_num) _ _⟩
    · simp [limb, iLt]
  · rw [num, value_congr digits, value_digit (by norm_num)]
    apply Int.emod_eq_of_lt nonneg
    norm_num at lt ⊢
    exact lt

/-- Three passes leave the canonical digits of a number below `2^256`. -/
theorem car25519_thrice {n : Limbs} (bounded : Bounded n (2 ^ 26)) :
    Canonical (car25519 (car25519 (car25519 n))) ∧
      residue (car25519 (car25519 (car25519 n))) = residue n := by
  have nBounded : Bounded n (3 * 2 ^ 60) := bounded.mono (by norm_num)
  have firstCarry : |num n / 2 ^ 256| ≤ 2 ^ 11 := abs_num_div_le bounded
  have firstRange := abs_le.mp firstCarry
  have firstBounded := car25519_bounded nBounded
  have first := num_car25519 nBounded
  have second := num_car25519 firstBounded
  have secondBounded := car25519_bounded firstBounded
  have nonneg : 0 ≤ num (car25519 (car25519 n)) := by omega
  have lt : num (car25519 (car25519 n)) < 2 ^ 256 := by omega
  have digits : ∀ i < 16, limb (car25519 (car25519 (car25519 n))) i =
      digit (2 ^ 16) (num (car25519 (car25519 n))) i := by
    intro i iLt
    rw [limb_car25519 secondBounded iLt, Int.ediv_eq_zero_of_lt nonneg lt]
    simp
  refine ⟨(canonical_of_digits nonneg lt digits).1, ?_⟩
  rw [residue_car25519 secondBounded, residue_car25519 firstBounded, residue_car25519 nBounded]

/-- The limbs of the modulus, as `subtractModulus` spells them out. -/
def modulusLimb (i : ℕ) : ℤ := if i = 0 then 0xffed else if i = 15 then 0x7fff else 0xffff

/-- The limbs of the difference before any borrow. -/
def difference (t : Limbs) (i : ℕ) : ℤ := limb t i - modulusLimb i

/-- The limbs of the difference after the borrow from the limbs below. -/
def borrowed (t : Limbs) (i : ℕ) : ℤ := difference t i + carryIn (2 ^ 16) (difference t) i

theorem modulusLimb_range (i : ℕ) : 0 ≤ modulusLimb i ∧ modulusLimb i < 2 ^ 16 := by
  rw [modulusLimb]
  split_ifs <;> norm_num

theorem value_difference (t : Limbs) :
    value (2 ^ 16) (difference t) 16 = num t - modulus := by
  have modulusValue : value (2 ^ 16) modulusLimb 16 = modulus := by decide
  rw [← modulusValue, num, ← value_sub]
  rfl

theorem borrow_range {t : Limbs} (canonical : Canonical t) (i : ℕ) :
    -1 ≤ carryIn (2 ^ 16) (difference t) i ∧ carryIn (2 ^ 16) (difference t) i ≤ 0 := by
  induction i with
  | zero => simp [carryIn]
  | succ i ih =>
      have tRange := canonical i
      have mRange := modulusLimb_range i
      rw [carryIn, difference]
      omega

theorem borrowed_range {t : Limbs} (canonical : Canonical t) (i : ℕ) :
    -2 ^ 16 ≤ borrowed t i ∧ borrowed t i < 2 ^ 16 := by
  have tRange := canonical i
  have mRange := modulusLimb_range i
  have bRange := borrow_range canonical i
  rw [borrowed, difference]
  omega

/-- The borrow the code reads from a limb is the carry out of it. -/
theorem toInt_borrow {t m : Limbs} (canonical : Canonical t) (i : Fin 16)
    (here : limb m i = borrowed t i) :
    (borrow m i).toInt = -carryIn (2 ^ 16) (difference t) (i + 1) := by
  have range := borrowed_range canonical i
  have next : carryIn (2 ^ 16) (difference t) (i + 1) = borrowed t i / 2 ^ 16 := rfl
  have mask := toInt_and_mask (m[i].sshiftRight 16) (n := 1) (by norm_num)
  have word : m[i].toInt = limb m i := (limb_eq i.isLt).symm
  rw [toInt_shiftRight, word, here] at mask
  rw [next]
  refine mask.trans ?_
  omega

theorem toInt_sub_borrow {x b : Long} {y c : ℤ} {k : Long} (kInt : k.toInt = y)
    (bInt : b.toInt = -c) (xRange : 0 ≤ x.toInt ∧ x.toInt < 2 ^ 16)
    (yRange : 0 ≤ y ∧ y < 2 ^ 16) (cRange : -1 ≤ c ∧ c ≤ 0) :
    (x - k - b).toInt = x.toInt - y + c := by
  have first : (x - k).toInt = x.toInt - y := by
    rw [Word.toInt_sub, kInt]
    rw [kInt, Fits]
    omega
  rw [Word.toInt_sub, first, bInt]
  · ring
  · rw [first, bInt, Fits]
    omega

/-- The limbs after `done` rounds of the inner loop. -/
def PartlySubtracted (t : Limbs) (done : ℕ) (m : Limbs) : Prop :=
  ∀ j < 16, limb m j =
    if j < done then borrowed t j % 2 ^ 16 else if j = done then borrowed t j else 0

theorem PartlySubtracted.start {t : Limbs} (canonical : Canonical t) :
    PartlySubtracted t 0 ((longArray 16).set 0 (getElem t 0 (by decide) - 0xffed) (by decide)) := by
  intro j jLt
  have range := canonical 0
  have constant : (0xffed : Long).toInt = 0xffed := by decide
  have first : (t[0] - 0xffed).toInt = borrowed t 0 := by
    rw [Word.toInt_sub, constant, ← limb_eq (by norm_num)]
    · simp [borrowed, difference, carryIn, modulusLimb]
    · rw [constant, ← limb_eq (by norm_num), Fits]
      omega
  rw [limb_set, first]
  by_cases zero : j = 0
  · simp [zero]
  · simp [zero, Ne.symm zero]

/-- The limb written by one round is the difference less the borrow below. -/
theorem toInt_next_limb {t m : Limbs} {k : Long} {i : ℕ} (canonical : Canonical t)
    (lt : i + 1 < 16) (here : limb m i = borrowed t i) (constant : k.toInt = modulusLimb (i + 1)) :
    (t[i + 1] - k - borrow m ⟨i, by omega⟩).toInt = borrowed t (i + 1) := by
  have word : t[i + 1].toInt = limb t (i + 1) := (limb_eq lt).symm
  have borrowInt := toInt_borrow canonical ⟨i, by omega⟩ here
  have next := toInt_sub_borrow constant borrowInt
    (by rw [word]; exact canonical (i + 1)) (modulusLimb_range _) (borrow_range canonical _)
  rw [next, word]
  rfl

theorem PartlySubtracted.step {t m : Limbs} (canonical : Canonical t) (k : Fin 14)
    (holds : PartlySubtracted t k m) : PartlySubtracted t (k + 1) (subtractStep t m k) := by
  intro j jLt
  have kLt := k.isLt
  have here := holds k (by omega)
  rw [if_neg (by omega), if_pos rfl] at here
  have constant : (0xffff : Long).toInt = modulusLimb (k + 1) := by
    rw [modulusLimb, if_neg (by omega), if_neg (by omega)]
    decide
  have mask := toInt_and_mask m[k.val] (n := 16) (by norm_num)
  rw [← limb_eq (by omega), here] at mask
  simp only [subtractStep, limb_set]
  by_cases atBelow : k.val = j
  · subst atBelow
    rw [if_pos rfl, if_pos (by omega)]
    simp only [Fin.getElem_fin]
    rw [Vector.getElem_set_ne _ _ (by omega)]
    exact mask
  · rw [if_neg atBelow]
    by_cases atNext : k.val + 1 = j
    · subst atNext
      rw [if_pos rfl, if_neg (by omega), if_pos rfl]
      exact toInt_next_limb canonical (by omega) here constant
    · rw [if_neg atNext, holds j jLt]
      split_ifs <;> first | rfl | omega

/-- All but the last limb are written by the inner loop. -/
theorem partlySubtracted_loop {t : Limbs} (canonical : Canonical t) :
    PartlySubtracted t 14 (Fin.foldl 14 (subtractStep t)
      ((longArray 16).set 0 (getElem t 0 (by decide) - 0xffed) (by decide))) :=
  Loop.foldl_invariant (PartlySubtracted t) (subtractStep t) _
    (PartlySubtracted.start canonical) (fun k _ holds => holds.step canonical k)

/-- The trial subtraction leaves every limb but the last two reduced. -/
theorem limb_subtractModulus {t : Limbs} (canonical : Canonical t) {j : ℕ} (lt : j < 16) :
    limb (subtractModulus t) j = if j < 14 then borrowed t j % 2 ^ 16 else borrowed t j := by
  have run := partlySubtracted_loop canonical
  have last := run 14 (by norm_num)
  rw [if_neg (by norm_num), if_pos rfl] at last
  rw [subtractModulus, limb_set]
  by_cases top : 15 = j
  · subst top
    rw [if_pos rfl, if_neg (by norm_num)]
    exact toInt_next_limb canonical (by norm_num) last (by decide)
  · rw [if_neg top, run j lt]
    split_ifs <;> first | rfl | omega

/-- The subtraction borrows from above exactly when the number is below the modulus. -/
theorem carryOut_difference {t : Limbs} (canonical : Canonical t) :
    carryIn (2 ^ 16) (difference t) 16 = if num t < modulus then -1 else 0 := by
  have chain : carryIn (2 ^ 16) (difference t) 16 =
      value (2 ^ 16) (difference t) 16 / (2 ^ 16) ^ 16 := carryIn_eq_value_div (by norm_num) 16
  have nonneg := canonical.num_nonneg
  have lt := canonical.num_lt
  have prime : (modulus : ℤ) = 2 ^ 255 - 19 := by norm_num [modulus]
  rw [chain, value_difference, prime]
  norm_num at lt ⊢
  split
  · omega
  · omega

/-- When the subtraction does not borrow, the masked limbs are the digits of the difference. -/
theorem limb_masked_difference {t : Limbs} (canonical : Canonical t) {i : ℕ} (lt : i < 16)
    (noBorrow : carryIn (2 ^ 16) (difference t) 16 = 0) :
    limb ((subtractModulus t).set 14 ((subtractModulus t)[14] &&& 0xffff)) i =
      digit (2 ^ 16) (num t - modulus) i := by
  have digitEq : borrowed t i % 2 ^ 16 = digit (2 ^ 16) (num t - modulus) i := by
    rw [← value_difference]
    exact add_carryIn_emod (by norm_num) lt
  have mask := toInt_and_mask (subtractModulus t)[14] (n := 16) (by norm_num)
  rw [← limb_eq (by norm_num), limb_subtractModulus canonical (by norm_num),
    if_neg (by norm_num)] at mask
  rw [← digitEq, limb_set]
  by_cases masked : 14 = i
  · subst masked
    rw [if_pos rfl]
    exact mask
  · rw [if_neg masked, limb_subtractModulus canonical lt]
    by_cases low : i < 14
    · rw [if_pos low]
    · have top : i = 15 := by omega
      subst top
      have carried : borrowed t 15 / 2 ^ 16 = 0 := noBorrow
      rw [if_neg low]
      omega

/-- The final borrow tells whether the number is below the modulus. -/
theorem borrow_subtractModulus {t : Limbs} (canonical : Canonical t) :
    borrow (subtractModulus t) 15 = if num t < modulus then 1 else 0 := by
  have borrowInt := toInt_borrow canonical 15 (limb_subtractModulus canonical (by norm_num))
  apply BitVec.eq_of_toInt_eq
  refine borrowInt.trans ((congrArg Neg.neg (carryOut_difference canonical)).trans ?_)
  split <;> decide

/-- The code keeps the difference unless the number is below the modulus. -/
theorem packStep_choice {t : Limbs} (canonical : Canonical t) :
    1 - (borrow (subtractModulus t) 15).setWidth 32 = bitWord (decide (¬ num t < modulus)) := by
  rw [borrow_subtractModulus canonical]
  by_cases below : num t < modulus
  · simp [below, bitWord]
  · simp [below, bitWord]

/-- One round subtracts the modulus unless the number is already below it. -/
theorem packStep_spec {t : Limbs} (canonical : Canonical t) :
    Canonical (packStep t) ∧
      num (packStep t) = if num t < modulus then num t else num t - modulus := by
  have carryOut := carryOut_difference canonical
  rw [packStep, packStep_choice canonical, sel25519_bitWord]
  by_cases below : num t < modulus
  · simp only [below, not_true_eq_false, decide_false, if_true]
    exact ⟨canonical, rfl⟩
  · simp only [below, not_false_eq_true, decide_true, if_true, if_false]
    rw [if_neg below] at carryOut
    have above := canonical.num_lt
    have positive : (0 : ℤ) ≤ modulus := Int.natCast_nonneg _
    apply canonical_of_digits (by omega) (by omega)
    intro i lt
    exact limb_masked_difference canonical lt carryOut

/-- Two rounds reach the least residue. -/
theorem packStep_twice {t : Limbs} (canonical : Canonical t) :
    Canonical (packStep (packStep t)) ∧
      num (packStep (packStep t)) = (residue t).val := by
  rcases packStep_spec canonical with ⟨onceCanonical, once⟩
  rcases packStep_spec onceCanonical with ⟨twiceCanonical, twice⟩
  refine ⟨twiceCanonical, ?_⟩
  have prime : (modulus : ℤ) = 2 ^ 255 - 19 := by norm_num [modulus]
  have nonneg := canonical.num_nonneg
  have lt := canonical.num_lt
  have least : ((residue t).val : ℤ) = num t % modulus := by
    rw [residue]
    exact ZMod.val_intCast (num t)
  rw [least, twice, once, prime]
  norm_num at lt ⊢
  split_ifs <;> omega

theorem toNat_lowByte (x : Long) : (((x &&& 0xff).setWidth 8).toNat : ℤ) = x.toInt % 2 ^ 8 := by
  have mask := toInt_and_mask x (n := 8) (by norm_num)
  have small : (x &&& 0xff).toNat < 2 ^ 8 := by
    have le : (x &&& 0xff).toNat ≤ 0xff := by
      rw [BitVec.toNat_and]
      exact Nat.and_le_right
    omega
  have unsigned : (x &&& 0xff).toInt = (x &&& 0xff).toNat :=
    BitVec.toInt_eq_toNat_of_lt (by omega)
  rw [BitVec.toNat_setWidth, Nat.mod_eq_of_lt small, ← unsigned]
  exact mask

theorem pack25519_loop (t : Limbs) {j : ℕ} (lt : j < 32) :
    ((Fin.foldl 16 (fun (o : ByteArray 32) i =>
      let o := o.set (2 * i.val) ((t[i] &&& 0xff).setWidth 8)
      o.set (2 * i.val + 1) (((t[i].sshiftRight 8) &&& 0xff).setWidth 8))
      (Vector.replicate 32 0))[j].toNat : ℤ) =
      limb t (j / 2) / (2 ^ 8) ^ (j % 2) % 2 ^ 8 := by
  have run := Loop.foldl_invariant
    (fun done (o : ByteArray 32) => ∀ (j : ℕ) (lt : j < 32), j < 2 * done →
      (o[j].toNat : ℤ) = limb t (j / 2) / (2 ^ 8) ^ (j % 2) % 2 ^ 8)
    (fun (o : ByteArray 32) i =>
      let o := o.set (2 * i.val) ((t[i] &&& 0xff).setWidth 8)
      o.set (2 * i.val + 1) (((t[i].sshiftRight 8) &&& 0xff).setWidth 8))
    (Vector.replicate 32 0) (by intro j _ impossible; omega)
    (by
      intro i o holds j jLt jDone
      have word : t[i].toInt = limb t i := (limb_eq i.isLt).symm
      by_cases odd : 2 * i.val + 1 = j
      · subst odd
        rw [Vector.getElem_set_self, toNat_lowByte, toInt_shiftRight, word,
          show (2 * i.val + 1) / 2 = i by omega, show (2 * i.val + 1) % 2 = 1 by omega]
        norm_num
      · rw [Vector.getElem_set_ne _ _ odd]
        by_cases even : 2 * i.val = j
        · subst even
          rw [Vector.getElem_set_self, toNat_lowByte, word,
            show 2 * i.val / 2 = i by omega, show 2 * i.val % 2 = 0 by omega]
          norm_num
        · rw [Vector.getElem_set_ne _ _ even]
          exact holds j jLt (by omega))
  exact run j lt (by omega)

/-- Packing encodes the residue. -/
theorem pack25519_spec {n : Limbs} (bounded : Bounded n (2 ^ 26)) :
    pack25519 n = encodeUCoordinate (residue n) := by
  rcases car25519_thrice bounded with ⟨carried, sameResidue⟩
  rcases packStep_twice carried with ⟨canonical, least⟩
  rw [sameResidue] at least
  apply Vector.ext
  intro j lt
  apply BitVec.eq_of_toNat_eq
  have byte := pack25519_loop (packStep (packStep (car25519 (car25519 (car25519 n))))) lt
  have pair : digit (2 ^ 8) (digit ((2 ^ 8) ^ 2) (residue n).val (j / 2)) (j % 2) =
      digit (2 ^ 8) (residue n).val j := digit_digit_sq (by norm_num) _ j
  rw [canonical.limb_eq_digit (by omega), least] at byte
  have encoded : (encodeUCoordinate (residue n))[j].toNat =
      (residue n).val / (2 ^ 8) ^ j % 2 ^ 8 := by
    rw [encodeUCoordinate, Vector.getElem_ofFn, BitVec.toNat_ofNat, pow_mul]
  rw [encoded]
  apply Int.ofNat.inj
  refine (byte.trans pair).trans ?_
  rw [digit]
  push_cast
  rfl

theorem byteAt_encodeUCoordinate (u : Felt) {i : ℕ} (lt : i < 32) :
    byteAt (encodeUCoordinate u) i = digit (2 ^ 8) u.val i := by
  rw [byteAt_eq lt, encodeUCoordinate, Vector.getElem_ofFn, BitVec.toNat_ofNat, pow_mul, digit]
  push_cast
  rfl

theorem val_lt_two_pow (u : Felt) : (u.val : ℤ) < 2 ^ 255 := by
  have lt := ZMod.val_lt u
  have prime : modulus = 2 ^ 255 - 19 := rfl
  omega

/-- The top bit of an encoding is clear, so masking it changes nothing. -/
theorem byteAt_masked_encodeUCoordinate (u : Felt) {i : ℕ} (lt : i < 32) :
    byteAt (masked (encodeUCoordinate u)) i = digit (2 ^ 8) u.val i := by
  rw [byteAt_masked _ lt, byteAt_encodeUCoordinate u lt,
    byteAt_encodeUCoordinate u (by norm_num)]
  by_cases top : i = 31
  · subst top
    have small := val_lt_two_pow u
    have nonneg : (0 : ℤ) ≤ u.val := Int.natCast_nonneg _
    generalize (u.val : ℤ) = v at small nonneg ⊢
    simp only [if_true, digit]
    norm_num at small ⊢
    omega
  · rw [if_neg top]

/-- The digits of a field element in base `2^8` give it back. -/
theorem value_digit_val (u : Felt) : value (2 ^ 8) (digit (2 ^ 8) u.val) 32 = u.val := by
  have small := val_lt_two_pow u
  rw [value_digit (by norm_num)]
  apply Int.emod_eq_of_lt (Int.natCast_nonneg _)
  norm_num at small ⊢
  omega

theorem decodeLittleEndian_encodeUCoordinate (u : Felt) :
    (decodeLittleEndian (encodeUCoordinate u) : ℤ) = u.val := by
  rw [decodeLittleEndian_eq, value_congr fun i lt => byteAt_encodeUCoordinate u lt]
  exact value_digit_val u

theorem num_unpack25519_encodeUCoordinate (u : Felt) :
    num (unpack25519 (encodeUCoordinate u)) = u.val := by
  rw [num_unpack25519]
  refine (decodeLittleEndian_eq (masked (encodeUCoordinate u))).trans ?_
  rw [value_congr fun i lt => byteAt_masked_encodeUCoordinate u lt]
  exact value_digit_val u

/-- The representative of `k` in `[0, 2^255 - 19)`. -/
def LeastResidue (k z : ℤ) : Prop := 0 ≤ z ∧ z < modulus ∧ z ≡ k [ZMOD modulus]

theorem leastResidue_iff {k z : ℤ} : LeastResidue k z ↔ z = k % modulus := by
  have positive : (0 : ℤ) < modulus := by exact_mod_cast NeZero.pos modulus
  constructor
  · rintro ⟨nonneg, lt, congruent⟩
    exact (Int.emod_eq_of_lt nonneg lt).symm.trans congruent
  · rintro rfl
    exact ⟨Int.emod_nonneg _ positive.ne', Int.emod_lt_of_pos _ positive, Int.mod_modEq _ _⟩

theorem residue_eq_iff {m n : Limbs} : residue m = residue n ↔ num m ≡ num n [ZMOD modulus] :=
  ZMod.intCast_eq_intCast_iff _ _ _

/-- Packing writes the one representative in `[0, 2^255 - 19)`, whichever limbs it is given for the
field element, and unpacking reads it back. -/
theorem pack25519_canonical {n : Limbs} (narrow : Narrow n) :
    ∃ z : ℤ, (∀ other, LeastResidue (num n) other ↔ other = z) ∧
      (decodeLittleEndian (pack25519 n) : ℤ) = z ∧
      (∀ m, Narrow m → num m ≡ num n [ZMOD modulus] → pack25519 m = pack25519 n) ∧
      num (unpack25519 (pack25519 n)) = z := by
  have least : ((residue n).val : ℤ) = num n % modulus := ZMod.val_intCast (num n)
  have packed := pack25519_spec narrow.bounded
  refine ⟨num n % modulus, fun other => leastResidue_iff, ?_, ?_, ?_⟩
  · rw [packed, decodeLittleEndian_encodeUCoordinate, least]
  · intro m mNarrow congruent
    rw [packed, pack25519_spec mNarrow.bounded, residue_eq_iff.mpr congruent]
  · rw [packed, num_unpack25519_encodeUCoordinate, least]

/-- The limbs of `-1` pack to `2^255 - 20`. -/
theorem pack25519_canonical_minus_one :
    (decodeLittleEndian (pack25519 ((longArray 16).set 0 (-1) (by decide))) : ℤ) =
      2 ^ 255 - 20 := by
  have narrow : Narrow ((longArray 16).set 0 (-1) (by decide)) := by decide +kernel
  have number : num ((longArray 16).set 0 (-1) (by decide)) = -1 := by decide +kernel
  rcases pack25519_canonical narrow with ⟨z, least, decoded, _⟩
  rw [decoded]
  apply ((least _).mp _).symm
  rw [number]
  exact leastResidue_iff.mpr (by decide +kernel)

end GRoute.Curve25519
