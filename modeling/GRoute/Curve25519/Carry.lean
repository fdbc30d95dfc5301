import GRoute.Curve25519.Basic
import GRoute.Foundation.Loop
import GRoute.Foundation.Radix
import GRoute.Foundation.Word
import Mathlib.Data.BitVec

/-!
# The carry pass

`car25519` visits the limbs from the bottom. Each limb keeps its remainder modulo
`2^16` and passes the quotient on; the top limb passes its quotient to limb zero
with weight `38`, because `2^256` is `38` modulo `2^255 - 19`. The main result,
`limb_car25519`, reads the output off the represented number alone: its limbs are
the canonical digits, and limb zero additionally receives `38` times the part of
the number above `2^256`.

No 64-bit operation of a pass overflows while the limbs stay below `3 * 2^60` in
absolute value, which is the only hypothesis.
-/

namespace GRoute.Curve25519

open Radix Word

variable {size : ℕ}

/-- The signed value of limb `i`, and zero beyond the end of the array. -/
def limb (v : LongArray size) (i : ℕ) : ℤ := if h : i < size then v[i].toInt else 0

/-- The integer represented by sixteen limbs. -/
def num (v : Limbs) : ℤ := value (2 ^ 16) (limb v) 16

/-- Every limb is at most `bound` in absolute value. -/
def Bounded (v : Limbs) (bound : ℤ) : Prop := ∀ i, |limb v i| ≤ bound

theorem limb_eq {v : LongArray size} {i : ℕ} (lt : i < size) : limb v i = v[i].toInt := by
  simp [limb, lt]

theorem limb_set {v : LongArray size} {i j : ℕ} {x : Long} (lt : i < size) :
    limb (v.set i x lt) j = if i = j then x.toInt else limb v j := by
  by_cases same : i = j
  · subst same
    simp [limb, lt]
  · simp only [limb, same, if_false]
    split
    · rw [Vector.getElem_set_ne _ _ same]
    · rfl

@[simp]
theorem limb_longArray (i : ℕ) : limb (longArray size) i = 0 := by
  simp [limb, longArray]

theorem Bounded.of_lt {v : Limbs} {bound : ℤ} (nonneg : 0 ≤ bound)
    (bounded : ∀ i < 16, |limb v i| ≤ bound) : Bounded v bound := by
  intro i
  by_cases lt : i < 16
  · exact bounded i lt
  · simpa [limb, lt] using nonneg

theorem Bounded.mono {v : Limbs} {small large : ℤ} (bounded : Bounded v small)
    (le : small ≤ large) : Bounded v large :=
  fun i => (bounded i).trans le

/-- Every limb has less than 26 bits. -/
def Narrow (v : Limbs) : Prop := ∀ i < 16, |limb v i| < 2 ^ 26

instance (v : Limbs) : Decidable (Narrow v) :=
  inferInstanceAs (Decidable (∀ i < 16, |limb v i| < 2 ^ 26))

theorem Narrow.bounded {v : Limbs} (narrow : Narrow v) : Bounded v (2 ^ 26) :=
  Bounded.of_lt (by norm_num) fun i lt => (narrow i lt).le

/-- The position that receives the carry of limb `i`. -/
def carryTarget (i : ℕ) : ℕ := if i < 15 then i + 1 else 0

/-- The weight with which it arrives there. -/
def carryWeight (i : ℕ) : ℤ := if i = 15 then 38 else 1

/-- The word `c` of an iteration: one more than the quotient of the limb. -/
def carryWord (x : Long) : Long := (x + ((1 : Long) <<< 16)).sshiftRight 16

theorem toInt_add_radix {x : Long} (bounded : |x.toInt| ≤ 3 * 2 ^ 61) :
    (x + ((1 : Long) <<< 16)).toInt = x.toInt + 2 ^ 16 := by
  have range := abs_le.mp bounded
  have radix : ((1 : Long) <<< 16).toInt = 2 ^ 16 := by decide
  rw [Word.toInt_add, radix]
  rw [radix, Fits]
  omega

theorem toInt_carryWord {x : Long} (bounded : |x.toInt| ≤ 3 * 2 ^ 61) :
    (carryWord x).toInt = x.toInt / 2 ^ 16 + 1 := by
  rw [carryWord, Word.toInt_shiftRight, toInt_add_radix bounded]
  omega

theorem toInt_carryWord_sub_one {x : Long} (bounded : |x.toInt| ≤ 3 * 2 ^ 61) :
    (carryWord x - 1).toInt = x.toInt / 2 ^ 16 := by
  have range := abs_le.mp bounded
  have one : (1 : Long).toInt = 1 := by decide
  rw [Word.toInt_sub, toInt_carryWord bounded, one]
  · omega
  · rw [toInt_carryWord bounded, one, Fits]
    omega

theorem toInt_carryWord_shiftLeft {x : Long} (bounded : |x.toInt| ≤ 3 * 2 ^ 61) :
    (carryWord x <<< 16).toInt = (x.toInt / 2 ^ 16 + 1) * 2 ^ 16 := by
  have range := abs_le.mp bounded
  rw [Word.toInt_shiftLeft, toInt_carryWord bounded]
  rw [toInt_carryWord bounded, Fits]
  omega

/-- What remains of a limb after its carry is taken out. -/
theorem toInt_sub_carryWord {x : Long} (bounded : |x.toInt| ≤ 3 * 2 ^ 61) :
    (x + ((1 : Long) <<< 16) - carryWord x <<< 16).toInt = x.toInt % 2 ^ 16 := by
  have range := abs_le.mp bounded
  have shifted := toInt_carryWord_shiftLeft bounded
  rw [Word.toInt_sub, shifted, toInt_add_radix bounded]
  · omega
  · rw [shifted, toInt_add_radix bounded, Fits]
    omega

theorem toInt_37_mul {x : Long} (bounded : |x.toInt| ≤ 3 * 2 ^ 61) :
    (37 * (carryWord x - 1)).toInt = 37 * (x.toInt / 2 ^ 16) := by
  have range := abs_le.mp bounded
  have constant : (37 : Long).toInt = 37 := by decide
  have carry := toInt_carryWord_sub_one bounded
  rw [Word.toInt_mul, constant, carry]
  rw [constant, carry, Fits]
  omega

/-- The word that is added to the target: the quotient, with weight `38` from the top limb. -/
theorem toInt_carried {x : Long} (i : ℕ) (bounded : |x.toInt| ≤ 3 * 2 ^ 61) :
    (carryWord x - 1 + 37 * (carryWord x - 1) * (if i = 15 then 1 else 0)).toInt =
      carryWeight i * (x.toInt / 2 ^ 16) := by
  have range := abs_le.mp bounded
  have carry := toInt_carryWord_sub_one bounded
  have multiple := toInt_37_mul bounded
  by_cases top : i = 15
  · simp only [top, if_true, mul_one, carryWeight]
    rw [Word.toInt_add, multiple, carry]
    · ring
    · rw [multiple, carry, Fits]
      omega
  · simp only [top, if_false, mul_zero, add_zero, carryWeight, one_mul, carry]

theorem abs_carried_le {x : Long} (i : ℕ) (bounded : |x.toInt| ≤ 3 * 2 ^ 61) :
    |carryWeight i * (x.toInt / 2 ^ 16)| ≤ 2 ^ 53 := by
  have range := abs_le.mp bounded
  rw [abs_le, carryWeight]
  split <;> omega

/-- What the target of the carry becomes. -/
theorem toInt_add_carryWord {x y : Long} {i : ℕ} (bounded : |x.toInt| ≤ 3 * 2 ^ 61)
    (targetBounded : |y.toInt| ≤ 3 * 2 ^ 61) :
    (y + (carryWord x - 1 + 37 * (carryWord x - 1) * (if i = 15 then 1 else 0))).toInt =
      y.toInt + carryWeight i * (x.toInt / 2 ^ 16) := by
  have carried := toInt_carried i bounded
  have carriedRange := abs_le.mp (abs_carried_le i bounded)
  have targetRange := abs_le.mp targetBounded
  rw [Word.toInt_add, carried]
  rw [carried, Fits]
  omega

theorem next_eq_carryTarget (i : ℕ) : (i + 1) * (if i < 15 then 1 else 0) = carryTarget i := by
  unfold carryTarget
  split <;> simp

theorem carryTarget_lt (i : Fin 16) : carryTarget i < 16 := by
  unfold carryTarget
  split <;> omega

theorem carryTarget_ne (i : Fin 16) : i.val ≠ carryTarget i := by
  unfold carryTarget
  split <;> omega

theorem index_lt (i : Fin 16) : i.val < 16 := i.isLt

/-- The three assignments of an iteration, from the limbs before it. -/
theorem carStep_eq_set (o : Limbs) (i : Fin 16) :
    carStep o i =
      ((o.set i (getElem o i.val (index_lt i) + ((1 : Long) <<< 16)) (index_lt i)).set
        (carryTarget i)
        (getElem o (carryTarget i) (carryTarget_lt i) +
          (carryWord (getElem o i.val (index_lt i)) - 1 +
            37 * (carryWord (getElem o i.val (index_lt i)) - 1) * (if i.val = 15 then 1 else 0)))
        (carryTarget_lt i)).set i
        (getElem o i.val (index_lt i) + ((1 : Long) <<< 16) -
          carryWord (getElem o i.val (index_lt i)) <<< 16) (index_lt i) := by
  simp only [carStep, carryWord, next_eq_carryTarget, Fin.getElem_fin, Vector.getElem_set_self,
    Vector.getElem_set_ne _ _ (carryTarget_ne i), Vector.getElem_set_ne _ _ (carryTarget_ne i).symm]

/-- One iteration: the limb keeps its remainder, the target receives the weighted quotient. -/
theorem limb_carStep {o : Limbs} {i : Fin 16} (bounded : Bounded o (3 * 2 ^ 61)) (j : ℕ) :
    limb (carStep o i) j =
      if j = i then limb o i % 2 ^ 16
      else if j = carryTarget i then limb o j + carryWeight i * (limb o i / 2 ^ 16)
      else limb o j := by
  have targetLt := carryTarget_lt i
  have targetNe := carryTarget_ne i
  have here : |(o[i.val]).toInt| ≤ 3 * 2 ^ 61 := limb_eq i.isLt ▸ bounded i
  have there : |(o[carryTarget i]).toInt| ≤ 3 * 2 ^ 61 := limb_eq targetLt ▸ bounded _
  rw [carStep_eq_set, limb_set, limb_set, limb_set]
  simp only [toInt_sub_carryWord here, toInt_add_carryWord here there, limb_eq i.isLt]
  by_cases same : j = i
  · simp [same]
  · by_cases isTarget : j = carryTarget i
    · subst isTarget
      simp [targetNe, targetNe.symm, limb_eq targetLt]
    · simp [same, isTarget, Ne.symm same, Ne.symm isTarget]

/-- The limbs after `k` iterations of a pass over `f`. -/
def partialCarry (f : ℕ → ℤ) (k j : ℕ) : ℤ :=
  if j < k then digit (2 ^ 16) (value (2 ^ 16) f 16) j +
    (if k = 16 ∧ j = 0 then 38 * carryIn (2 ^ 16) f 16 else 0)
  else if j = k then f j + carryIn (2 ^ 16) f j
  else f j

theorem abs_partialCarry_le {f : ℕ → ℤ} (bounded : ∀ i, |f i| ≤ 3 * 2 ^ 60) {k : ℕ}
    (kLt : k < 16) (j : ℕ) : |partialCarry f k j| ≤ 3 * 2 ^ 61 := by
  have here := abs_le.mp (bounded j)
  have carryLe : |carryIn (2 ^ 16) f j| ≤ 3 * 2 ^ 60 := abs_carryIn_le (by norm_num) bounded j
  have arriving := abs_le.mp carryLe
  have nonneg : 0 ≤ digit (2 ^ 16) (value (2 ^ 16) f 16) j := digit_nonneg (by norm_num) _ j
  have lt : digit (2 ^ 16) (value (2 ^ 16) f 16) j < 2 ^ 16 := digit_lt (by norm_num) _ j
  have notDone : ¬(k = 16 ∧ j = 0) := by omega
  simp only [partialCarry, notDone, if_false]
  rw [abs_le]
  split
  · constructor <;> omega
  · split
    · constructor <;> omega
    · constructor <;> omega

/-- One iteration advances the partial pass. -/
theorem partialCarry_succ (f : ℕ → ℤ) {k j : ℕ} (kLt : k < 16) (jLt : j < 16) :
    (if j = k then partialCarry f k k % 2 ^ 16
      else if j = carryTarget k then
        partialCarry f k j + carryWeight k * (partialCarry f k k / 2 ^ 16)
      else partialCarry f k j) = partialCarry f (k + 1) j := by
  have pos : (0 : ℤ) < 2 ^ 16 := by norm_num
  have current : partialCarry f k k = f k + carryIn (2 ^ 16) f k := by simp [partialCarry]
  have carried : partialCarry f k k / 2 ^ 16 = carryIn (2 ^ 16) f (k + 1) := by
    rw [current, carryIn]
  by_cases same : j = k
  · subst same
    have notWrapped : ¬(j + 1 = 16 ∧ j = 0) := by omega
    rw [if_pos rfl, current, add_carryIn_emod pos kLt]
    simp only [partialCarry, Nat.lt_succ_self, if_true, notWrapped, if_false, add_zero]
  · simp only [same, if_false, carried]
    by_cases top : k = 15
    · subst top
      by_cases zero : j = 0
      · subst zero
        simp [partialCarry, carryTarget, carryWeight]
      · have below : j < 15 := by omega
        have below' : j < 16 := by omega
        simp [partialCarry, carryTarget, zero, below, below']
    · have inside : k < 15 := by omega
      have notLast : ¬(k + 1 = 16) := by omega
      have notLast' : ¬(k = 16) := by omega
      by_cases next : j = k + 1
      · subst next
        simp [partialCarry, carryTarget, carryWeight, inside, top]
      · simp only [carryTarget, inside, if_true, next, if_false, partialCarry, notLast, notLast',
          false_and, same]
        by_cases below : j < k
        · simp [below, Nat.lt_succ_of_lt below]
        · have above : ¬(j < k + 1) := by omega
          simp [below, above]

/-- The limbs after `done` iterations of the pass over `o`. -/
def PartlyCarried (o : Limbs) (done : ℕ) (acc : Limbs) : Prop :=
  ∀ j < 16, limb acc j = partialCarry (limb o) done j

theorem PartlyCarried.start (o : Limbs) : PartlyCarried o 0 o := by
  intro j _
  by_cases zero : j = 0
  · simp [partialCarry, carryIn, zero]
  · simp [partialCarry, zero]

theorem PartlyCarried.bounded {o acc : Limbs} {done : ℕ} (holds : PartlyCarried o done acc)
    (bounded : Bounded o (3 * 2 ^ 60)) (lt : done < 16) : Bounded acc (3 * 2 ^ 61) := by
  apply Bounded.of_lt (by norm_num)
  intro k kLt
  rw [holds k kLt]
  exact abs_partialCarry_le bounded lt k

theorem PartlyCarried.step {o acc : Limbs} (i : Fin 16) (holds : PartlyCarried o i acc)
    (bounded : Bounded o (3 * 2 ^ 60)) : PartlyCarried o (i + 1) (carStep acc i) := by
  intro j jLt
  rw [limb_carStep (holds.bounded bounded i.isLt), holds i i.isLt, holds j jLt]
  exact partialCarry_succ (limb o) i.isLt jLt

/-- A whole pass: canonical digits, with the overflow above `2^256` folded onto limb zero. -/
theorem limb_car25519 {o : Limbs} (bounded : Bounded o (3 * 2 ^ 60)) {j : ℕ} (jLt : j < 16) :
    limb (car25519 o) j =
      digit (2 ^ 16) (num o) j + (if j = 0 then 38 * (num o / 2 ^ 256) else 0) := by
  have run := Loop.foldl_invariant (PartlyCarried o) carStep o (PartlyCarried.start o)
    (fun i _ holds => holds.step i bounded)
  have final := run j jLt
  have overflow : carryIn (2 ^ 16) (limb o) 16 = num o / 2 ^ 256 := by
    rw [carryIn_eq_value_div (by norm_num), num]
    norm_num
  rw [car25519, final]
  simp only [partialCarry, jLt, if_true, true_and, overflow]
  rfl

end GRoute.Curve25519
