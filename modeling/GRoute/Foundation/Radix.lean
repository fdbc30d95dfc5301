import Mathlib.Algebra.BigOperators.Intervals
import Mathlib.Algebra.BigOperators.Ring.Finset
import Mathlib.Algebra.Order.Ring.Abs
import Mathlib.Tactic.Linarith
import Mathlib.Tactic.LinearCombination
import Mathlib.Tactic.Positivity
import Mathlib.Tactic.Ring

/-!
# Unreduced positional numbers and carry chains

A number is given by integer digits `f 0, f 1, …` of weight `base^i` that need not
lie in `[0, base)`. A carry pass visits the digits from the bottom, keeps each
digit's remainder and adds the quotient to the next digit. `carryIn` is the amount
that arrives at each position.

The point of this file is that a carry pass depends on the number alone: the
amount arriving at position `i` is the value of the digits below divided by
`base^i`, and the remainder left at position `i` is the `i`-th canonical digit of
the whole value.
-/

namespace GRoute.Radix

/-- The number whose first `count` digits are `f`. -/
def value (base : ℤ) (f : ℕ → ℤ) (count : ℕ) : ℤ :=
  ∑ i ∈ Finset.range count, f i * base ^ i

/-- The amount carried into position `i` by a carry pass over `f`. -/
def carryIn (base : ℤ) (f : ℕ → ℤ) : ℕ → ℤ
  | 0 => 0
  | i + 1 => (f i + carryIn base f i) / base

/-- The `i`-th canonical digit of `v`. -/
def digit (base v : ℤ) (i : ℕ) : ℤ := v / base ^ i % base

variable {base : ℤ} {f g : ℕ → ℤ}

@[simp]
theorem value_zero : value base f 0 = 0 := by simp [value]

theorem value_succ (count : ℕ) :
    value base f (count + 1) = value base f count + f count * base ^ count := by
  simp [value, Finset.sum_range_succ]

theorem value_congr {count : ℕ} (agree : ∀ i < count, f i = g i) :
    value base f count = value base g count := by
  apply Finset.sum_congr rfl
  intro i inRange
  rw [agree i (Finset.mem_range.mp inRange)]

theorem value_add (count : ℕ) :
    value base (fun i => f i + g i) count = value base f count + value base g count := by
  simp [value, add_mul, Finset.sum_add_distrib]

theorem value_sub (count : ℕ) :
    value base (fun i => f i - g i) count = value base f count - value base g count := by
  simp [value, sub_mul, Finset.sum_sub_distrib]

theorem value_const_mul (c : ℤ) (count : ℕ) :
    value base (fun i => c * f i) count = c * value base f count := by
  simp [value, Finset.mul_sum, mul_assoc]

/-- Changing one digit changes the value by the weighted difference. -/
theorem value_of_eq_except {count k : ℕ} (kLt : k < count)
    (agree : ∀ i < count, i ≠ k → g i = f i) :
    value base g count = value base f count + (g k - f k) * base ^ k := by
  have split (h : ℕ → ℤ) := Finset.add_sum_erase (Finset.range count)
    (fun i => h i * base ^ i) (Finset.mem_range.mpr kLt)
  have rest : ∑ i ∈ (Finset.range count).erase k, g i * base ^ i =
      ∑ i ∈ (Finset.range count).erase k, f i * base ^ i := by
    apply Finset.sum_congr rfl
    intro i iMem
    rw [Finset.mem_erase, Finset.mem_range] at iMem
    rw [agree i iMem.2 iMem.1]
  unfold value
  rw [← split g, ← split f, rest]
  ring

/-- The digits from position `low` on contribute a multiple of `base^low`. -/
theorem value_split (low high : ℕ) :
    value base f (low + high) =
      value base f low + base ^ low * value base (fun k => f (k + low)) high := by
  unfold value
  rw [Finset.sum_range_add, Finset.mul_sum]
  congr 1
  apply Finset.sum_congr rfl
  intro k _
  rw [add_comm low k, pow_add]
  ring

/-- The carry arriving at position `i` is determined by the value of the digits below. -/
theorem carryIn_eq_value_div (pos : 0 < base) (i : ℕ) :
    carryIn base f i = value base f i / base ^ i := by
  induction i with
  | zero => simp [carryIn]
  | succ i ih =>
      have powPos : 0 < base ^ i := by positivity
      rw [carryIn, ih, value_succ, pow_succ, ← Int.ediv_ediv_of_nonneg powPos.le,
        Int.add_mul_ediv_right _ _ powPos.ne', add_comm]

/-- A carry pass leaves the canonical digits of the value it started from. -/
theorem add_carryIn_emod (pos : 0 < base) {i count : ℕ} (lt : i < count) :
    (f i + carryIn base f i) % base = digit base (value base f count) i := by
  have powPos : 0 < base ^ i := by positivity
  rcases Nat.exists_eq_add_of_le (Nat.succ_le_of_lt lt) with ⟨rest, rfl⟩
  have regroup : value base f (i + 1 + rest) =
      value base f i + (f i + base * value base (fun k => f (k + (i + 1))) rest) * base ^ i := by
    rw [value_split, value_succ, pow_succ]
    ring
  rw [digit, regroup, Int.add_mul_ediv_right _ _ powPos.ne', carryIn_eq_value_div pos,
    ← add_assoc, Int.add_mul_emod_self_left, add_comm]

/-- Canonical digits represent the number modulo `base^count`. -/
theorem value_digit (pos : 0 < base) (v : ℤ) (count : ℕ) :
    value base (digit base v) count = v % base ^ count := by
  induction count with
  | zero => simp
  | succ count ih =>
      have powPos : 0 < base ^ count := by positivity
      have outer := Int.emod_add_mul_ediv v (base ^ count)
      have inner := Int.emod_add_mul_ediv (v / base ^ count) base
      rw [value_succ, ih, digit]
      have quotient : v / base ^ (count + 1) = v / base ^ count / base := by
        rw [pow_succ, Int.ediv_ediv_of_nonneg powPos.le]
      have whole := Int.emod_add_mul_ediv v (base ^ (count + 1))
      rw [quotient, pow_succ] at whole
      rw [pow_succ]
      linear_combination outer + base ^ count * inner - whole

theorem digit_nonneg (pos : 0 < base) (v : ℤ) (i : ℕ) : 0 ≤ digit base v i :=
  Int.emod_nonneg _ pos.ne'

theorem digit_lt (pos : 0 < base) (v : ℤ) (i : ℕ) : digit base v i < base :=
  Int.emod_lt_of_pos _ pos

/-- Canonical digits represent a number below `base^count`. -/
theorem value_nonneg (pos : 0 < base) (nonneg : ∀ i, 0 ≤ f i) (count : ℕ) :
    0 ≤ value base f count :=
  Finset.sum_nonneg fun i _ => mul_nonneg (nonneg i) (by positivity)

theorem value_lt_pow (pos : 0 < base) (lt : ∀ i, f i < base) (count : ℕ) :
    value base f count < base ^ count := by
  induction count with
  | zero => simp
  | succ count ih =>
      have powPos : 0 < base ^ count := by positivity
      have digitLe := Int.add_one_le_of_lt (lt count)
      rw [value_succ, pow_succ]
      nlinarith

/-- The canonical digits of a number are unique. -/
theorem digit_value_of_canonical (pos : 0 < base) (nonneg : ∀ i, 0 ≤ f i) (lt : ∀ i, f i < base)
    {i count : ℕ} (iLt : i < count) : digit base (value base f count) i = f i := by
  have noCarry : carryIn base f i = 0 := by
    rw [carryIn_eq_value_div pos]
    exact Int.ediv_eq_zero_of_lt (value_nonneg pos nonneg i) (value_lt_pow pos lt i)
  rw [← add_carryIn_emod pos iLt, noCarry, add_zero]
  exact Int.emod_eq_of_lt (nonneg i) (lt i)

/-- Grouping digits in pairs squares the base. -/
theorem value_pairs (count : ℕ) :
    value (base ^ 2) (fun i => f (2 * i) + base * f (2 * i + 1)) count =
      value base f (2 * count) := by
  induction count with
  | zero => simp
  | succ count ih =>
      rw [value_succ, ih, show 2 * (count + 1) = 2 * count + 1 + 1 by ring, value_succ, value_succ,
        ← pow_mul, pow_succ]
      ring

/-- The digits in a base are the digits of the digits in its square. -/
theorem digit_digit_sq (pos : 0 < base) (v : ℤ) (i : ℕ) :
    digit base (digit (base ^ 2) v (i / 2)) (i % 2) = digit base v i := by
  have square : base ^ 2 = base * base := sq base
  simp only [digit]
  rw [← pow_mul]
  rcases Nat.even_or_odd' i with ⟨k, rfl | rfl⟩
  · rw [show 2 * k / 2 = k by omega, show 2 * k % 2 = 0 by omega, pow_zero, Int.ediv_one, square]
    exact Int.emod_emod_of_dvd _ ⟨base, rfl⟩
  · rw [show (2 * k + 1) / 2 = k by omega, show (2 * k + 1) % 2 = 1 by omega, pow_one,
      pow_succ base (2 * k), ← Int.ediv_ediv_of_nonneg (by positivity)]
    generalize v / base ^ (2 * k) = w
    have split : w % (base ^ 2) = w + base * -(base * (w / base ^ 2)) := by
      rw [Int.emod_def, square]
      ring
    rw [split, Int.add_mul_ediv_left _ _ pos.ne', ← mul_neg, Int.add_mul_emod_self_left]

/-- Digits bounded by `bound` produce carries bounded by `bound`. -/
theorem abs_carryIn_le {bound : ℤ} (two_le : 2 ≤ base) (bounded : ∀ i, |f i| ≤ bound) (i : ℕ) :
    |carryIn base f i| ≤ bound := by
  induction i with
  | zero => simpa [carryIn] using (abs_nonneg _).trans (bounded 0)
  | succ i ih =>
      have nonneg : 0 ≤ bound := (abs_nonneg _).trans (bounded 0)
      have here := abs_le.mp (bounded i)
      have arriving := abs_le.mp ih
      rw [carryIn, abs_le]
      constructor
      · apply Int.le_ediv_of_mul_le (by omega)
        nlinarith
      · apply Int.ediv_le_of_le_mul (by omega)
        nlinarith

end GRoute.Radix
