import GRoute.Curve25519.Carry
import GRoute.Curve25519.Rfc7748

/-!
# Field arithmetic on limbs

The limbs of a `LongArray` represent an integer, and the code computes with its
residue modulo `2^255 - 19`. This file proves that `add`, `sub`, `mul` and `sqr`
compute the ring operations of `ZMod (2^255 - 19)` on these residues, that no
64-bit operation they perform overflows on limbs below `2^26`, and that every
product is `Reduced`: its limbs lie in `[-38, 2^16 + 38)`, so that sums and
differences of two products may be multiplied again.
-/

namespace GRoute.Curve25519

open Radix Word
open Rfc7748 (modulus Felt)

/-- The field element represented by sixteen limbs. -/
def residue (v : Limbs) : Felt := (num v : Felt)

/-- The shape of every product: one carry away from canonical digits. -/
def Reduced (v : Limbs) : Prop := ∀ i, -38 ≤ limb v i ∧ limb v i < 2 ^ 16 + 38

theorem Reduced.bounded {v : Limbs} (reduced : Reduced v) : Bounded v (2 ^ 17) := by
  intro i
  have range := reduced i
  rw [abs_le]
  omega

theorem limb_add {a b : Limbs} {bound : ℤ} (small : bound ≤ 2 ^ 60) (aBounded : Bounded a bound)
    (bBounded : Bounded b bound) (i : ℕ) : limb (add a b) i = limb a i + limb b i := by
  by_cases lt : i < 16
  · have aRange := abs_le.mp (aBounded i)
    have bRange := abs_le.mp (bBounded i)
    rw [limb_eq lt] at aRange bRange
    rw [limb_eq lt, limb_eq lt, limb_eq lt, add, Loop.getElem_foldl_set _ _ i lt]
    apply Word.toInt_add
    simp only [Fin.getElem_fin, Fits]
    omega
  · simp [limb, lt]

theorem limb_sub {a b : Limbs} {bound : ℤ} (small : bound ≤ 2 ^ 60) (aBounded : Bounded a bound)
    (bBounded : Bounded b bound) (i : ℕ) : limb (sub a b) i = limb a i - limb b i := by
  by_cases lt : i < 16
  · have aRange := abs_le.mp (aBounded i)
    have bRange := abs_le.mp (bBounded i)
    rw [limb_eq lt] at aRange bRange
    rw [limb_eq lt, limb_eq lt, limb_eq lt, sub, Loop.getElem_foldl_set _ _ i lt]
    apply Word.toInt_sub
    simp only [Fin.getElem_fin, Fits]
    omega
  · simp [limb, lt]

theorem add_bounded {a b : Limbs} {bound : ℤ} (small : bound ≤ 2 ^ 60) (aBounded : Bounded a bound)
    (bBounded : Bounded b bound) : Bounded (add a b) (2 * bound) := by
  intro i
  rw [limb_add small aBounded bBounded, two_mul]
  exact (abs_add_le _ _).trans (add_le_add (aBounded i) (bBounded i))

theorem sub_bounded {a b : Limbs} {bound : ℤ} (small : bound ≤ 2 ^ 60) (aBounded : Bounded a bound)
    (bBounded : Bounded b bound) : Bounded (sub a b) (2 * bound) := by
  intro i
  rw [limb_sub small aBounded bBounded, two_mul]
  exact (abs_sub _ _).trans (add_le_add (aBounded i) (bBounded i))

theorem residue_add {a b : Limbs} {bound : ℤ} (small : bound ≤ 2 ^ 60) (aBounded : Bounded a bound)
    (bBounded : Bounded b bound) : residue (add a b) = residue a + residue b := by
  have sum : num (add a b) = num a + num b := by
    unfold num
    rw [← value_add]
    exact value_congr fun i _ => limb_add small aBounded bBounded i
  rw [residue, sum]
  push_cast
  rfl

theorem residue_sub {a b : Limbs} {bound : ℤ} (small : bound ≤ 2 ^ 60) (aBounded : Bounded a bound)
    (bBounded : Bounded b bound) : residue (sub a b) = residue a - residue b := by
  have difference : num (sub a b) = num a - num b := by
    unfold num
    rw [← value_sub]
    exact value_congr fun i _ => limb_sub small aBounded bBounded i
  rw [residue, difference]
  push_cast
  rfl

/-- The number after a pass: the part above `2^256` returns with weight `38`. -/
theorem num_car25519 {o : Limbs} (bounded : Bounded o (3 * 2 ^ 60)) :
    num (car25519 o) = num o % 2 ^ 256 + 38 * (num o / 2 ^ 256) := by
  have pos : (0 : ℤ) < 2 ^ 16 := by norm_num
  have digits := value_digit pos (num o) 16
  have changed : num (car25519 o) = value (2 ^ 16) (digit (2 ^ 16) (num o)) 16 +
      (limb (car25519 o) 0 - digit (2 ^ 16) (num o) 0) * (2 ^ 16) ^ 0 := by
    apply value_of_eq_except (by norm_num)
    intro i lt ne
    rw [limb_car25519 bounded lt, if_neg ne, add_zero]
  rw [changed, digits, limb_car25519 bounded (by norm_num)]
  norm_num

theorem two_pow_256_eq : ((2 ^ 256 : ℤ) : Felt) = 38 := by
  have folded : ((2 ^ 256 - 38 : ℤ) : Felt) = 0 := by
    rw [ZMod.intCast_zmod_eq_zero_iff_dvd]
    exact ⟨2, by norm_num [modulus]⟩
  push_cast at folded ⊢
  linear_combination folded

theorem residue_car25519 {o : Limbs} (bounded : Bounded o (3 * 2 ^ 60)) :
    residue (car25519 o) = residue o := by
  have whole := Int.emod_add_mul_ediv (num o) (2 ^ 256)
  have cast := congrArg (fun z : ℤ => (z : Felt)) whole
  rw [residue, residue, num_car25519 bounded, ← cast]
  push_cast
  have fold := two_pow_256_eq
  push_cast at fold
  rw [fold]

/-- The carry out of the top limb is the part of the number above `2^256`. -/
theorem num_div_eq (o : Limbs) :
    num o / 2 ^ 256 = (limb o 15 + carryIn (2 ^ 16) (limb o) 15) / 2 ^ 16 := by
  have chain : carryIn (2 ^ 16) (limb o) 16 = value (2 ^ 16) (limb o) 16 / (2 ^ 16) ^ 16 :=
    carryIn_eq_value_div (by norm_num) 16
  rw [carryIn] at chain
  rw [chain, num]
  norm_num

/-- The carry out of the top limb is small compared with the limbs. -/
theorem abs_num_div_le {o : Limbs} {bound : ℤ} (bounded : Bounded o (2 ^ 15 * bound)) :
    |num o / 2 ^ 256| ≤ bound := by
  have here := abs_le.mp (bounded 15)
  have carryLe : |carryIn (2 ^ 16) (limb o) 15| ≤ 2 ^ 15 * bound :=
    abs_carryIn_le (by norm_num) bounded 15
  have arriving := abs_le.mp carryLe
  rw [num_div_eq, abs_le]
  omega

theorem reduced_car25519 {o : Limbs} (bounded : Bounded o (3 * 2 ^ 60))
    (low : -2 ^ 256 ≤ num o) (high : num o < 2 * 2 ^ 256) : Reduced (car25519 o) := by
  intro i
  by_cases lt : i < 16
  · have nonneg : 0 ≤ digit (2 ^ 16) (num o) i := digit_nonneg (by norm_num) _ i
    have digitLt : digit (2 ^ 16) (num o) i < 2 ^ 16 := digit_lt (by norm_num) _ i
    rw [limb_car25519 bounded lt]
    split
    · omega
    · omega
  · simp [limb, lt]

/-- One pass keeps the limbs within the bound for the next. -/
theorem car25519_bounded {o : Limbs} (bounded : Bounded o (3 * 2 ^ 60)) :
    Bounded (car25519 o) (3 * 2 ^ 60) := by
  have overflowLe : |num o / 2 ^ 256| ≤ 3 * 2 ^ 45 := abs_num_div_le (bounded.mono (by norm_num))
  have overflow := abs_le.mp overflowLe
  apply Bounded.of_lt (by norm_num)
  intro i lt
  have nonneg : 0 ≤ digit (2 ^ 16) (num o) i := digit_nonneg (by norm_num) _ i
  have digitLt : digit (2 ^ 16) (num o) i < 2 ^ 16 := digit_lt (by norm_num) _ i
  rw [limb_car25519 bounded lt, abs_le]
  split
  · omega
  · omega

/-- Two passes reduce any limbs a multiplication can produce. -/
theorem reduced_car25519_twice {o : Limbs} (bounded : Bounded o (3 * 2 ^ 60)) :
    Reduced (car25519 (car25519 o)) ∧ residue (car25519 (car25519 o)) = residue o := by
  have overflowLe : |num o / 2 ^ 256| ≤ 3 * 2 ^ 45 :=
    abs_num_div_le (bounded.mono (by norm_num))
  have overflow := abs_le.mp overflowLe
  have onceBounded := car25519_bounded bounded
  have once := num_car25519 bounded
  have remainderNonneg := Int.emod_nonneg (num o) (show (2 : ℤ) ^ 256 ≠ 0 by norm_num)
  have remainderLt := Int.emod_lt_of_pos (num o) (show (0 : ℤ) < 2 ^ 256 by norm_num)
  constructor
  · apply reduced_car25519 onceBounded
    · rw [once]
      omega
    · rw [once]
      omega
  · rw [residue_car25519 onceBounded, residue_car25519 bounded]

theorem abs_product_le {x y : ℤ} (xBounded : |x| ≤ 2 ^ 26) (yBounded : |y| ≤ 2 ^ 26) :
    |x * y| ≤ 2 ^ 52 := by
  rw [abs_mul]
  exact (mul_le_mul xBounded yBounded (abs_nonneg _) (by norm_num)).trans (by norm_num)

theorem toInt_product {x y : Long} (xBounded : |x.toInt| ≤ 2 ^ 26) (yBounded : |y.toInt| ≤ 2 ^ 26) :
    (x * y).toInt = x.toInt * y.toInt := by
  have range := abs_le.mp (abs_product_le xBounded yBounded)
  apply Word.toInt_mul
  rw [Fits]
  omega

theorem toInt_add_mul {t x y : Long} (tBounded : |t.toInt| ≤ 2 ^ 56) (xBounded : |x.toInt| ≤ 2 ^ 26)
    (yBounded : |y.toInt| ≤ 2 ^ 26) : (t + x * y).toInt = t.toInt + x.toInt * y.toInt := by
  have tRange := abs_le.mp tBounded
  have range := abs_le.mp (abs_product_le xBounded yBounded)
  have product := toInt_product xBounded yBounded
  rw [Word.toInt_add, product]
  rw [product, Fits]
  omega

theorem limb_lt (i : Fin 16) : i.val < 16 := i.isLt

theorem position_lt (i j : Fin 16) : i.val + j.val < 31 := by omega

/-- One row of the schoolbook product. -/
def productRow (a b : Limbs) (t : LongArray 31) (i : Fin 16) : LongArray 31 :=
  Fin.foldl 16 (fun t j => t.set (i.val + j.val)
    (getElem t (i.val + j.val) (position_lt i j) +
      getElem a i (limb_lt i) * getElem b j (limb_lt j)) (position_lt i j)) t

/-- A row after `done` products, which started from `t`. -/
structure PartRow (a b : Limbs) (t : LongArray 31) (i : Fin 16) (done : ℕ) (acc : LongArray 31) :
    Prop where
  valueEq : value (2 ^ 16) (limb acc) 31 =
    value (2 ^ 16) (limb t) 31 + limb a i * (2 ^ 16) ^ i.val * value (2 ^ 16) (limb b) done
  behind : ∀ k < i + done, |limb acc k| ≤ (i + 1) * 2 ^ 52
  ahead : ∀ k ≥ i + done, |limb acc k| ≤ i * 2 ^ 52

section Rows

variable {a b : Limbs} {t acc : LongArray 31} {i : Fin 16}

theorem PartRow.start (tBounded : ∀ k, |limb t k| ≤ i * 2 ^ 52) : PartRow a b t i 0 t where
  valueEq := by simp
  behind := fun k _ => (tBounded k).trans (by omega)
  ahead := fun k _ => tBounded k

/-- The entry that the next product is added to is still small. -/
theorem PartRow.entry_le (j : Fin 16) (row : PartRow a b t i j acc) :
    |(getElem acc (i.val + j.val) (position_lt i j)).toInt| ≤ 2 ^ 56 := by
  have entry := row.ahead (i + j) le_rfl
  rw [limb_eq (position_lt i j)] at entry
  exact entry.trans (by omega)

theorem PartRow.step (aBounded : Bounded a (2 ^ 26)) (bBounded : Bounded b (2 ^ 26)) (j : Fin 16)
    (row : PartRow a b t i j acc) :
    PartRow a b t i (j + 1) (acc.set (i.val + j.val)
      (getElem acc (i.val + j.val) (position_lt i j) +
        getElem a i (limb_lt i) * getElem b j (limb_lt j)) (position_lt i j)) := by
  have positionLt := position_lt i j
  have aHere := aBounded i
  have bHere := bBounded j
  have entryBounded := row.ahead (i + j) le_rfl
  have productBounded := abs_product_le aHere bHere
  have stepped : (acc[i.val + j.val] + a[i] * b[j]).toInt =
      limb acc (i + j) + limb a i * limb b j := by
    rw [limb_eq i.isLt] at aHere ⊢
    rw [limb_eq j.isLt] at bHere ⊢
    rw [limb_eq positionLt]
    exact toInt_add_mul (row.entry_le j) aHere bHere
  constructor
  · have elsewhere : ∀ k < 31, k ≠ i.val + j.val →
        limb (acc.set (i.val + j.val) (acc[i.val + j.val] + a[i] * b[j])) k = limb acc k := by
      intro k _ ne
      rw [limb_set, if_neg (Ne.symm ne)]
    refine (value_of_eq_except positionLt elsewhere).trans ?_
    rw [limb_set, if_pos rfl, stepped, row.valueEq, value_succ j.val, pow_add]
    ring
  · intro k lt
    rw [limb_set]
    by_cases here : i.val + j.val = k
    · rw [if_pos here]
      calc |(acc[i.val + j.val] + a[i] * b[j]).toInt|
          = |limb acc (i + j) + limb a i * limb b j| := by rw [stepped]
        _ ≤ |limb acc (i + j)| + |limb a i * limb b j| := abs_add_le _ _
        _ ≤ i * 2 ^ 52 + 2 ^ 52 := add_le_add entryBounded productBounded
        _ = (i + 1) * 2 ^ 52 := by ring
    · rw [if_neg here]
      exact row.behind k (by omega)
  · intro k le
    rw [limb_set, if_neg (by omega)]
    exact row.ahead k (by omega)

end Rows

/-- A row adds `a i * b` at position `i` and grows each entry by at most one product. -/
theorem productRow_spec {a b : Limbs} (aBounded : Bounded a (2 ^ 26))
    (bBounded : Bounded b (2 ^ 26)) {t : LongArray 31} {i : Fin 16}
    (tBounded : ∀ k, |limb t k| ≤ i * 2 ^ 52) :
    value (2 ^ 16) (limb (productRow a b t i)) 31 =
        value (2 ^ 16) (limb t) 31 + limb a i * (2 ^ 16) ^ i.val * num b ∧
      ∀ k, |limb (productRow a b t i) k| ≤ (i + 1) * 2 ^ 52 := by
  have run : PartRow a b t i 16 (productRow a b t i) :=
    Loop.foldl_invariant (PartRow a b t i) _ t (PartRow.start tBounded)
      (fun j _ row => row.step aBounded bBounded j)
  refine ⟨run.valueEq, fun k => ?_⟩
  by_cases lt : k < i + 16
  · exact run.behind k lt
  · exact (run.ahead k (by omega)).trans (by omega)

/-- The product of the first `done` limbs of `a` with `b`. -/
structure PartProduct (a b : Limbs) (done : ℕ) (acc : LongArray 31) : Prop where
  valueEq : value (2 ^ 16) (limb acc) 31 = value (2 ^ 16) (limb a) done * num b
  entries : ∀ k, |limb acc k| ≤ done * 2 ^ 52

theorem PartProduct.start (a b : Limbs) : PartProduct a b 0 (longArray 31) where
  valueEq := by simp [value]
  entries := by simp

theorem PartProduct.step {a b : Limbs} {acc : LongArray 31} (aBounded : Bounded a (2 ^ 26))
    (bBounded : Bounded b (2 ^ 26)) (i : Fin 16) (part : PartProduct a b i acc) :
    PartProduct a b (i + 1) (productRow a b acc i) := by
  have row := productRow_spec aBounded bBounded part.entries
  constructor
  · rw [row.1, part.valueEq, value_succ]
    ring
  · intro k
    exact (row.2 k).trans (by push_cast; exact le_rfl)

/-- The schoolbook product multiplies the represented numbers. -/
theorem product_spec {a b : Limbs} (aBounded : Bounded a (2 ^ 26)) (bBounded : Bounded b (2 ^ 26)) :
    value (2 ^ 16) (limb (product a b)) 31 = num a * num b ∧
      ∀ k, |limb (product a b) k| ≤ 2 ^ 56 := by
  have run : PartProduct a b 16 (product a b) :=
    Loop.foldl_invariant (PartProduct a b) (productRow a b) (longArray 31)
      (PartProduct.start a b) (fun i _ part => part.step aBounded bBounded i)
  exact ⟨run.valueEq, fun k => (run.entries k).trans (by norm_num)⟩

/-- The array `t` after `done` of its upper limbs are folded. -/
def PartlyFolded (t : LongArray 31) (done : ℕ) (acc : LongArray 31) : Prop :=
  ∀ k, limb acc k = if k < done then limb t k + 38 * limb t (k + 16) else limb t k

section Folds

variable {t acc : LongArray 31} {i : Fin 15}

theorem lower_lt (i : Fin 15) : i.val < 31 := by omega

theorem upper_lt (i : Fin 15) : i.val + 16 < 31 := by omega

/-- The two entries that the next iteration reads are still those of `t`. -/
theorem PartlyFolded.entries (folded : PartlyFolded t i acc) :
    (getElem acc i.val (lower_lt i)).toInt = limb t i ∧
      (getElem acc (i.val + 16) (upper_lt i)).toInt = limb t (i + 16) := by
  rw [← limb_eq (lower_lt i), ← limb_eq (upper_lt i), folded, folded, if_neg (lt_irrefl _),
    if_neg (by omega)]
  exact ⟨rfl, rfl⟩

theorem PartlyFolded.weighted (tBounded : ∀ k, |limb t k| ≤ 2 ^ 56)
    (folded : PartlyFolded t i acc) :
    (38 * getElem acc (i.val + 16) (upper_lt i)).toInt = 38 * limb t (i + 16) := by
  have range := abs_le.mp (tBounded (i + 16))
  have constant : (38 : Long).toInt = 38 := by decide
  rw [Word.toInt_mul, constant, folded.entries.2]
  rw [constant, folded.entries.2, Fits]
  omega

theorem PartlyFolded.sum (tBounded : ∀ k, |limb t k| ≤ 2 ^ 56) (folded : PartlyFolded t i acc) :
    (getElem acc i.val (lower_lt i) + 38 * getElem acc (i.val + 16) (upper_lt i)).toInt =
      limb t i + 38 * limb t (i + 16) := by
  have lowerRange := abs_le.mp (tBounded i)
  have upperRange := abs_le.mp (tBounded (i + 16))
  have weighted := folded.weighted tBounded
  rw [Word.toInt_add, weighted, folded.entries.1]
  rw [weighted, folded.entries.1, Fits]
  omega

theorem PartlyFolded.step (tBounded : ∀ k, |limb t k| ≤ 2 ^ 56) (folded : PartlyFolded t i acc) :
    PartlyFolded t (i + 1) (acc.set i.val
      (getElem acc i.val (lower_lt i) + 38 * getElem acc (i.val + 16) (upper_lt i))
      (lower_lt i)) := by
  intro k
  rw [limb_set, folded.sum tBounded]
  by_cases here : i.val = k
  · subst here
    rw [if_pos rfl, if_pos (by omega)]
  · rw [if_neg here, folded]
    by_cases lt : k < i
    · rw [if_pos lt, if_pos (by omega)]
    · rw [if_neg lt, if_neg (by omega)]

end Folds

/-- Folding the upper limbs: entry `k < 15` receives `38` times entry `k + 16`. -/
theorem limb_foldUpper {t : LongArray 31} (tBounded : ∀ k, |limb t k| ≤ 2 ^ 56) (k : ℕ) :
    limb (foldUpper t) k = if k < 15 then limb t k + 38 * limb t (k + 16) else limb t k := by
  have run : PartlyFolded t 15 (foldUpper t) :=
    Loop.foldl_invariant (PartlyFolded t) _ t (by intro k; simp)
      (fun _ _ folded => folded.step tBounded)
  exact run k

theorem low_lt (i : Fin 16) : i.val < 31 := by omega

/-- The sixteen limbs handed to the two carry passes of `mul`. -/
def lowLimbs (t : LongArray 31) : Limbs :=
  Vector.ofFn fun i : Fin 16 => getElem t i.val (low_lt i)

theorem limb_lowLimbs (t : LongArray 31) {i : ℕ} (lt : i < 16) :
    limb (lowLimbs t) i = limb t i := by
  rw [limb_eq lt, limb_eq (by omega)]
  simp [lowLimbs]

theorem residue_lowLimbs_foldUpper {t : LongArray 31} (tBounded : ∀ k, |limb t k| ≤ 2 ^ 56) :
    residue (lowLimbs (foldUpper t)) = (value (2 ^ 16) (limb t) 31 : Felt) := by
  have low : num (lowLimbs (foldUpper t)) =
      value (2 ^ 16) (limb t) 16 + 38 * value (2 ^ 16) (fun k => limb t (k + 16)) 15 := by
    have entries : ∀ k < 15, limb (lowLimbs (foldUpper t)) k =
        limb t k + 38 * limb t (k + 16) := by
      intro k lt
      rw [limb_lowLimbs _ (by omega), limb_foldUpper tBounded, if_pos lt]
    have top : limb (lowLimbs (foldUpper t)) 15 = limb t 15 := by
      rw [limb_lowLimbs _ (by omega), limb_foldUpper tBounded, if_neg (by omega)]
    rw [num, value_succ 15, value_congr entries, value_add, value_const_mul, top,
      value_succ 15]
    ring
  have high : value (2 ^ 16) (limb t) 31 =
      value (2 ^ 16) (limb t) 16 + 2 ^ 256 * value (2 ^ 16) (fun k => limb t (k + 16)) 15 := by
    rw [show (2 : ℤ) ^ 256 = (2 ^ 16) ^ 16 by norm_num]
    exact value_split 16 15
  have fold := two_pow_256_eq
  rw [residue, low, high]
  push_cast at fold ⊢
  rw [fold]

/-- The limbs that `mul` hands to the carry passes are small enough for them. -/
theorem lowLimbs_bounded {t : LongArray 31} (tBounded : ∀ k, |limb t k| ≤ 2 ^ 56) :
    Bounded (lowLimbs (foldUpper t)) (3 * 2 ^ 60) := by
  apply Bounded.of_lt (by norm_num)
  intro i lt
  have here := abs_le.mp (tBounded i)
  have above := abs_le.mp (tBounded (i + 16))
  rw [limb_lowLimbs _ lt, limb_foldUpper tBounded, abs_le]
  split
  · omega
  · omega

theorem mul_eq_car25519 (a b : Limbs) :
    mul a b = car25519 (car25519 (lowLimbs (foldUpper (product a b)))) := rfl

/-- Multiplication of field elements, for limbs of at most 26 bits. -/
theorem mul_spec {a b : Limbs} (aBounded : Bounded a (2 ^ 26)) (bBounded : Bounded b (2 ^ 26)) :
    Reduced (mul a b) ∧ residue (mul a b) = residue a * residue b := by
  have product := product_spec aBounded bBounded
  have reduced := reduced_car25519_twice (lowLimbs_bounded product.2)
  refine ⟨reduced.1, ?_⟩
  rw [mul_eq_car25519, reduced.2, residue_lowLimbs_foldUpper product.2, product.1]
  push_cast
  rfl

end GRoute.Curve25519
