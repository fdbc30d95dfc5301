import Mathlib.AlgebraicGeometry.EllipticCurve.Affine.Point
import Mathlib.Tactic.FieldSimp
import Mathlib.Tactic.LinearCombination

/-!
# Montgomery curves

The curve `B y² = x³ + A x² + x` over a field of odd characteristic, as a Weierstrass curve in the
coordinates `B x` and `B² y`, so that the group of its points is Mathlib's. A pair `X`, `Z` stands
for the points whose x-coordinate is the fraction `X / Z`, and `X / 0` is infinity. Doubling and
differential addition compute with such pairs alone. Both are complete: the doubling of every point
is represented, and so is the sum of every two points whose difference has a nonzero x-coordinate.
-/

namespace GRoute.MontgomeryCurve

open WeierstrassCurve.Affine

universe u

/-- The coefficient that a curve shares with all of its twists. -/
structure Coefficient (K : Type u) [Field K] where
  A : K
  two_ne_zero : (2 : K) ≠ 0
  sq_ne_four : A ^ 2 ≠ 4

theorem Coefficient.four_ne_zero {K : Type u} [Field K] (m : Coefficient K) : (4 : K) ≠ 0 := by
  have four : (4 : K) = 2 * 2 := by norm_num
  rw [four]
  exact mul_ne_zero m.two_ne_zero m.two_ne_zero

/-- One of the curves `B y² = x³ + A x² + x`. -/
structure Twist {K : Type u} [Field K] (m : Coefficient K) where
  B : K
  B_ne_zero : B ≠ 0

namespace Twist

variable {K : Type u} [Field K] {m : Coefficient K}

def curve (c : Twist m) : WeierstrassCurve.Affine K where
  a₁ := 0
  a₂ := m.A * c.B
  a₃ := 0
  a₄ := c.B ^ 2
  a₆ := 0

abbrev Point (c : Twist m) : Type u := c.curve.Point

theorem equation_iff (c : Twist m) {x y : K} :
    c.curve.Equation x y ↔ y ^ 2 = x ^ 3 + m.A * c.B * x ^ 2 + c.B ^ 2 * x := by
  rw [WeierstrassCurve.Affine.equation_iff]
  simp [curve]

theorem discriminant_ne_zero (c : Twist m) : c.curve.Δ ≠ 0 := by
  have discriminant : c.curve.Δ = 2 ^ 4 * c.B ^ 6 * (m.A ^ 2 - 4) := by
    simp only [WeierstrassCurve.Δ, WeierstrassCurve.b₂, WeierstrassCurve.b₄,
      WeierstrassCurve.b₆, WeierstrassCurve.b₈, curve]
    ring
  rw [discriminant]
  apply mul_ne_zero
  · exact mul_ne_zero (pow_ne_zero _ m.two_ne_zero) (pow_ne_zero _ c.B_ne_zero)
  · exact sub_ne_zero.mpr m.sq_ne_four

theorem nonsingular_iff (c : Twist m) {x y : K} :
    c.curve.Nonsingular x y ↔ y ^ 2 = x ^ 3 + m.A * c.B * x ^ 2 + c.B ^ 2 * x := by
  rw [← equation_iff_nonsingular_of_Δ_ne_zero c.discriminant_ne_zero, c.equation_iff]

@[simp]
theorem negY_eq (c : Twist m) (x y : K) : c.curve.negY x y = -y := by
  simp [negY, curve]

theorem nonsingular_scaled (c : Twist m) {t y : K} (nonsingular : c.curve.Nonsingular (c.B * t) y) :
    y ^ 2 = c.B ^ 3 * (t * (t ^ 2 + m.A * t + 1)) := by
  rw [c.nonsingular_iff.mp nonsingular]
  ring

/-- The x-coordinate, with zero for the point at infinity. -/
def coordinate (c : Twist m) : c.Point → K
  | .zero => 0
  | .some x _ _ => x / c.B

@[simp]
theorem coordinate_zero (c : Twist m) : c.coordinate 0 = 0 := rfl

@[simp]
theorem coordinate_some (c : Twist m) {x y : K} (h : c.curve.Nonsingular x y) :
    c.coordinate (.some x y h) = x / c.B := rfl

@[simp]
theorem coordinate_neg (c : Twist m) (P : c.Point) : c.coordinate (-P) = c.coordinate P := by
  cases P <;> rfl

/-- The pair `X`, `Z` represents the x-coordinate of the point. -/
def Represents (c : Twist m) (X Z : K) : c.Point → Prop
  | .zero => X ≠ 0 ∧ Z = 0
  | .some x _ _ => Z ≠ 0 ∧ c.B * X = x * Z

theorem represents_zero (c : Twist m) {X Z : K} : c.Represents X Z 0 ↔ X ≠ 0 ∧ Z = 0 := Iff.rfl

theorem represents_some (c : Twist m) {X Z x y : K} {h : c.curve.Nonsingular x y} :
    c.Represents X Z (.some x y h) ↔ Z ≠ 0 ∧ c.B * X = x * Z := Iff.rfl

theorem represents_scaled (c : Twist m) {X Z t y : K} {h : c.curve.Nonsingular (c.B * t) y} :
    c.Represents X Z (.some (c.B * t) y h) ↔ Z ≠ 0 ∧ X = t * Z := by
  rw [represents_some, mul_assoc, mul_right_inj' c.B_ne_zero]

theorem represents_neg (c : Twist m) {X Z : K} {P : c.Point} :
    c.Represents X Z (-P) ↔ c.Represents X Z P := by
  cases P <;> exact Iff.rfl

theorem Represents.div_eq {c : Twist m} {X Z : K} {P : c.Point} (represents : c.Represents X Z P) :
    X / Z = c.coordinate P := by
  cases P with
  | zero =>
      rw [represents.2, div_zero]
      rfl
  | some x y h =>
      rw [coordinate_some, div_eq_div_iff represents.1 c.B_ne_zero, mul_comm, represents.2]

/-- A point is infinity or has the coordinate `t`, whose multiple by `B` Weierstrass's form uses. -/
theorem point_cases (c : Twist m) (P : c.Point) :
    P = 0 ∨ ∃ (t y : K) (h : c.curve.Nonsingular (c.B * t) y), P = .some (c.B * t) y h := by
  cases P with
  | zero => exact Or.inl rfl
  | some x y h =>
      have scaled : x = c.B * (x / c.B) := (mul_div_cancel₀ x c.B_ne_zero).symm
      refine Or.inr ⟨x / c.B, y, scaled ▸ h, ?_⟩
      congr

theorem coordinate_scaled (c : Twist m) {t y : K} (h : c.curve.Nonsingular (c.B * t) y) :
    c.coordinate (.some (c.B * t) y h) = t := by
  rw [coordinate_some, mul_div_cancel_left₀ t c.B_ne_zero]

/-- The sum of infinity and a point is the point, whose coordinate is that of the difference. -/
theorem Represents.infinity_add {c : Twist m} {X₂ Z₂ X₃ Z₃ u : K} {R : c.Point}
    (left : c.Represents X₂ Z₂ 0) (right : c.Represents X₃ Z₃ R)
    (coordinate : c.coordinate R = u) (nonzero : u ≠ 0) :
    c.Represents (4 * (X₂ * X₃ - Z₂ * Z₃) ^ 2) (u * (4 * (X₂ * Z₃ - Z₂ * X₃) ^ 2)) R := by
  rcases left with ⟨XNonzero, rfl⟩
  rcases c.point_cases R with rfl | ⟨t, y, h, rfl⟩
  · exact absurd coordinate.symm nonzero
  · rw [coordinate_scaled] at coordinate
    rw [represents_scaled] at right ⊢
    rcases right with ⟨ZNonzero, rfl⟩
    subst coordinate
    refine ⟨?_, by ring⟩
    have product : X₂ * Z₃ - 0 * (t * Z₃) ≠ 0 := by simpa using ⟨XNonzero, ZNonzero⟩
    exact mul_ne_zero nonzero (mul_ne_zero m.four_ne_zero (pow_ne_zero 2 product))

/-- A point of order two has not the x-coordinate `±1`. -/
theorem sq_sub_one_ne_zero {t : K} (order : t * (t ^ 2 + m.A * t + 1) = 0) : t ^ 2 - 1 ≠ 0 := by
  intro unit
  have square : t ^ 2 = 1 := sub_eq_zero.mp unit
  have nonzero : t ≠ 0 := by
    rintro rfl
    simp at square
  have cofactor : t ^ 2 + m.A * t + 1 = 0 := (mul_eq_zero.mp order).resolve_left nonzero
  apply m.sq_ne_four
  linear_combination (m.A * t - 2) * cofactor - (m.A ^ 2 + m.A * t - 2) * square

theorem addX_eq (c : Twist m) (x₁ x₂ slope : K) :
    c.curve.addX x₁ x₂ slope = slope ^ 2 - m.A * c.B - x₁ - x₂ := by
  simp [addX, curve]

/-- The x-coordinate where the tangent with the given slope meets the curve again. -/
theorem tangent_coordinate (c : Twist m) {t y slope : K}
    (equation : y ^ 2 = c.B ^ 3 * (t * (t ^ 2 + m.A * t + 1)))
    (tangent : slope * (2 * y) =
      3 * (c.B * t) ^ 2 + 2 * (m.A * c.B) * (c.B * t) + c.B ^ 2) :
    c.curve.addX (c.B * t) (c.B * t) slope * (4 * (t * (t ^ 2 + m.A * t + 1))) =
      c.B * (t ^ 2 - 1) ^ 2 := by
  rw [addX_eq]
  apply mul_left_cancel₀ (pow_ne_zero 3 c.B_ne_zero)
  linear_combination -4 * slope ^ 2 * equation +
    (slope * (2 * y) + (3 * (c.B * t) ^ 2 + 2 * (m.A * c.B) * (c.B * t) + c.B ^ 2)) * tangent

/-- The two lines through a point and through the other or its negative. -/
theorem chord_coordinates (c : Twist m) {t s y z chord other : K} (distinct : t ≠ s)
    (tEquation : y ^ 2 = c.B ^ 3 * (t * (t ^ 2 + m.A * t + 1)))
    (sEquation : z ^ 2 = c.B ^ 3 * (s * (s ^ 2 + m.A * s + 1)))
    (chordSlope : chord * (c.B * t - c.B * s) = y - z)
    (otherSlope : other * (c.B * t - c.B * s) = y + z) :
    c.curve.addX (c.B * t) (c.B * s) chord * c.curve.addX (c.B * t) (c.B * s) other *
      (t - s) ^ 2 = c.B ^ 2 * (t * s - 1) ^ 2 := by
  have nonzero : c.B ^ 4 * (t - s) ^ 2 ≠ 0 :=
    mul_ne_zero (pow_ne_zero 4 c.B_ne_zero) (pow_ne_zero 2 (sub_ne_zero.mpr distinct))
  apply mul_left_cancel₀ nonzero
  have chordSquare : chord ^ 2 * (c.B * (t - s)) ^ 2 = (y - z) ^ 2 := by
    rw [← chordSlope]
    ring
  have otherSquare : other ^ 2 * (c.B * (t - s)) ^ 2 = (y + z) ^ 2 := by
    rw [← otherSlope]
    ring
  have cleared : c.B ^ 4 * (t - s) ^ 2 * (c.curve.addX (c.B * t) (c.B * s) chord *
      c.curve.addX (c.B * t) (c.B * s) other * (t - s) ^ 2) =
      (chord ^ 2 * (c.B * (t - s)) ^ 2 - c.B * (m.A + t + s) * (c.B * (t - s)) ^ 2) *
        (other ^ 2 * (c.B * (t - s)) ^ 2 - c.B * (m.A + t + s) * (c.B * (t - s)) ^ 2) := by
    rw [addX_eq, addX_eq]
    ring
  rw [cleared, chordSquare, otherSquare]
  linear_combination
    (y ^ 2 - z ^ 2 + c.B ^ 3 * (t * (t ^ 2 + m.A * t + 1)) - c.B ^ 3 * (s * (s ^ 2 + m.A * s + 1)) -
      2 * (c.B * (m.A + t + s) * (c.B * (t - s)) ^ 2)) * tEquation -
    (y ^ 2 - z ^ 2 + c.B ^ 3 * (t * (t ^ 2 + m.A * t + 1)) - c.B ^ 3 * (s * (s ^ 2 + m.A * s + 1)) +
      2 * (c.B * (m.A + t + s) * (c.B * (t - s)) ^ 2)) * sEquation

theorem ne_neg (c : Twist m) {x y : K} (nonzero : y ≠ 0) : y ≠ c.curve.negY x y := by
  rw [negY_eq]
  intro same
  have twice : 2 * y = 0 := by linear_combination same
  exact mul_ne_zero m.two_ne_zero nonzero twice

variable [DecidableEq K]

theorem slope_self (c : Twist m) {x y : K} (nonzero : y ≠ 0) :
    c.curve.slope x x y y * (2 * y) = 3 * x ^ 2 + 2 * (m.A * c.B) * x + c.B ^ 2 := by
  rw [slope_of_Y_ne rfl (c.ne_neg nonzero), negY_eq, sub_neg_eq_add, ← two_mul,
    div_mul_cancel₀ _ (mul_ne_zero m.two_ne_zero nonzero)]
  simp [curve]

theorem Represents.double {c : Twist m} {X Z : K} {P : c.Point} (represents : c.Represents X Z P) :
    c.Represents ((X ^ 2 - Z ^ 2) ^ 2) (4 * X * Z * (X ^ 2 + m.A * X * Z + Z ^ 2)) (P + P) := by
  rcases c.point_cases P with rfl | ⟨t, y, h, rfl⟩
  · rw [represents_zero] at represents
    rw [add_zero, represents_zero, represents.2]
    refine ⟨?_, by ring⟩
    simpa using represents.1
  · rw [represents_scaled] at represents
    rcases represents with ⟨ZNonzero, rfl⟩
    have equation := c.nonsingular_scaled h
    by_cases order : y = 0
    · have torsion : t * (t ^ 2 + m.A * t + 1) = 0 := by
        rw [order] at equation
        simpa [c.B_ne_zero] using equation.symm
      rw [Point.add_self_of_Y_eq (by rw [negY_eq, order, neg_zero]), represents_zero]
      constructor
      · have factored : (t * Z) ^ 2 - Z ^ 2 = (t ^ 2 - 1) * Z ^ 2 := by ring
        rw [factored]
        exact pow_ne_zero 2 (mul_ne_zero (sq_sub_one_ne_zero torsion) (pow_ne_zero 2 ZNonzero))
      · linear_combination 4 * Z ^ 4 * torsion
    · have coordinate := c.tangent_coordinate equation (c.slope_self order)
      have nonzero : t * (t ^ 2 + m.A * t + 1) ≠ 0 := by
        intro torsion
        rw [torsion, mul_zero] at equation
        exact order (pow_eq_zero_iff two_ne_zero |>.mp equation)
      have denominator : 4 * (t * Z) * Z * ((t * Z) ^ 2 + m.A * (t * Z) * Z + Z ^ 2) =
          4 * (t * (t ^ 2 + m.A * t + 1)) * Z ^ 4 := by ring
      rw [Point.add_self_of_Y_ne (c.ne_neg order), represents_some, denominator]
      refine ⟨mul_ne_zero (mul_ne_zero m.four_ne_zero nonzero) (pow_ne_zero 4 ZNonzero), ?_⟩
      linear_combination -Z ^ 4 * coordinate

theorem slope_mul (c : Twist m) {t s y z : K} (distinct : t ≠ s) :
    c.curve.slope (c.B * t) (c.B * s) y z * (c.B * t - c.B * s) = y - z := by
  have scaled : c.B * t ≠ c.B * s := (mul_right_injective₀ c.B_ne_zero).ne distinct
  rw [slope_of_X_ne scaled, div_mul_cancel₀ _ (sub_ne_zero.mpr scaled)]

/-- A point and its negative add to infinity. That the pair is not `0`, `0` is where the
difference, which is twice the point, must not be `(0, 0)`. -/
theorem Represents.add_neg {c : Twist m} {X₂ Z₂ X₃ Z₃ u : K} {Q : c.Point} (affine : Q ≠ 0)
    (left : c.Represents X₂ Z₂ Q) (right : c.Represents X₃ Z₃ Q)
    (difference : c.coordinate (Q + Q) = u) (nonzero : u ≠ 0) :
    c.Represents (4 * (X₂ * X₃ - Z₂ * Z₃) ^ 2) (u * (4 * (X₂ * Z₃ - Z₂ * X₃) ^ 2)) 0 := by
  rcases c.point_cases Q with rfl | ⟨t, y, h, rfl⟩
  · exact absurd rfl affine
  · have unit : c.Represents t 1 (.some (c.B * t) y h) :=
      c.represents_scaled.mpr ⟨one_ne_zero, (mul_one t).symm⟩
    have numerator : t ^ 2 - 1 ≠ 0 := by
      intro zero
      apply nonzero
      rw [← difference, ← unit.double.div_eq, one_pow, zero]
      simp
    rw [represents_scaled] at left right
    rcases left with ⟨Z₂Nonzero, rfl⟩
    rcases right with ⟨Z₃Nonzero, rfl⟩
    rw [represents_zero]
    refine ⟨?_, by ring⟩
    have factored : t * Z₂ * (t * Z₃) - Z₂ * Z₃ = (t ^ 2 - 1) * (Z₂ * Z₃) := by ring
    rw [factored]
    exact mul_ne_zero m.four_ne_zero
      (pow_ne_zero 2 (mul_ne_zero numerator (mul_ne_zero Z₂Nonzero Z₃Nonzero)))

/-- The sum of two points with different coordinates. -/
theorem Represents.add_chord {c : Twist m} {X₂ Z₂ X₃ Z₃ u t s y z : K}
    {tOn : c.curve.Nonsingular (c.B * t) y} {sOn : c.curve.Nonsingular (c.B * s) z}
    (left : c.Represents X₂ Z₂ (.some (c.B * t) y tOn))
    (right : c.Represents X₃ Z₃ (.some (c.B * s) z sOn)) (distinct : t ≠ s)
    (difference : c.coordinate (.some (c.B * t) y tOn - .some (c.B * s) z sOn) = u)
    (nonzero : u ≠ 0) :
    c.Represents (4 * (X₂ * X₃ - Z₂ * Z₃) ^ 2) (u * (4 * (X₂ * Z₃ - Z₂ * X₃) ^ 2))
      (.some (c.B * t) y tOn + .some (c.B * s) z sOn) := by
  have scaled : c.B * t ≠ c.B * s := (mul_right_injective₀ c.B_ne_zero).ne distinct
  rw [sub_eq_add_neg, Point.neg_some, Point.add_of_X_ne scaled, coordinate_some, negY_eq,
    div_eq_iff c.B_ne_zero] at difference
  rw [represents_scaled] at left right
  rcases left with ⟨Z₂Nonzero, rfl⟩
  rcases right with ⟨Z₃Nonzero, rfl⟩
  have chords := c.chord_coordinates distinct (c.nonsingular_scaled tOn) (c.nonsingular_scaled sOn)
    (c.slope_mul distinct) ((c.slope_mul distinct).trans (sub_neg_eq_add y z))
  rw [difference] at chords
  have denominator : t * Z₂ * Z₃ - Z₂ * (s * Z₃) = (t - s) * (Z₂ * Z₃) := by ring
  rw [Point.add_of_X_ne scaled, represents_some, denominator]
  constructor
  · exact mul_ne_zero nonzero (mul_ne_zero m.four_ne_zero
      (pow_ne_zero 2 (mul_ne_zero (sub_ne_zero.mpr distinct) (mul_ne_zero Z₂Nonzero Z₃Nonzero))))
  · apply mul_left_cancel₀ c.B_ne_zero
    linear_combination -4 * (Z₂ * Z₃) ^ 2 * chords

/-- Differential addition: the coordinate of the sum from those of the terms and of their
difference. -/
theorem Represents.add {c : Twist m} {X₂ Z₂ X₃ Z₃ u : K} {Q R : c.Point}
    (left : c.Represents X₂ Z₂ Q) (right : c.Represents X₃ Z₃ R)
    (difference : c.coordinate (Q - R) = u) (nonzero : u ≠ 0) :
    c.Represents (4 * (X₂ * X₃ - Z₂ * Z₃) ^ 2) (u * (4 * (X₂ * Z₃ - Z₂ * X₃) ^ 2)) (Q + R) := by
  rcases c.point_cases Q with rfl | ⟨t, y, tOn, rfl⟩
  · rw [zero_sub, coordinate_neg] at difference
    rw [zero_add]
    exact left.infinity_add right difference nonzero
  rcases c.point_cases R with rfl | ⟨s, z, sOn, rfl⟩
  · rw [sub_zero] at difference
    have swapped := right.infinity_add left difference nonzero
    rw [add_zero]
    have numerator : X₂ * X₃ - Z₂ * Z₃ = X₃ * X₂ - Z₃ * Z₂ := by ring
    have denominator : (X₂ * Z₃ - Z₂ * X₃) ^ 2 = (X₃ * Z₂ - Z₃ * X₂) ^ 2 := by ring
    rw [numerator, denominator]
    exact swapped
  by_cases same : t = s
  · subst same
    rcases Point.X_eq_iff.mp (Eq.refl (c.B * t)) with equal | opposite
    · rw [equal, sub_self] at difference
      exact absurd difference.symm nonzero
    · rw [opposite, ← neg_add', coordinate_neg] at difference
      rw [opposite, represents_neg] at left
      rw [opposite, neg_add_cancel]
      exact left.add_neg (Point.some_ne_zero sOn) right difference nonzero
  · exact left.add_chord right same difference nonzero

/-- The point `(0, 0)` has order two. -/
theorem add_self_eq_zero (c : Twist m) {P : c.Point} (zero : c.coordinate P = 0) : P + P = 0 := by
  rcases c.point_cases P with rfl | ⟨t, y, h, rfl⟩
  · exact add_zero 0
  · rw [coordinate_scaled] at zero
    have equation := c.nonsingular_scaled h
    rw [zero, zero_mul, mul_zero] at equation
    apply Point.add_self_of_Y_eq
    rw [negY_eq, pow_eq_zero_iff two_ne_zero |>.mp equation, neg_zero]

end Twist

/-- Each element of the field is the x-coordinate of a point of the curve or of a twist. -/
theorem exists_point {K : Type u} [Field K] (m : Coefficient K) (t : K) :
    ∃ (c : Twist m) (P : c.Point), c.coordinate P = t := by
  by_cases order : t ^ 3 + m.A * t ^ 2 + t = 0
  · let c : Twist m := ⟨1, one_ne_zero⟩
    have on : c.curve.Nonsingular (c.B * t) 0 := by
      rw [c.nonsingular_iff]
      linear_combination -order
    exact ⟨c, .some _ _ on, c.coordinate_scaled on⟩
  · let c : Twist m := ⟨t ^ 3 + m.A * t ^ 2 + t, order⟩
    have on : c.curve.Nonsingular (c.B * t) (c.B ^ 2) := by
      rw [c.nonsingular_iff]
      simp only [c]
      ring
    exact ⟨c, .some _ _ on, c.coordinate_scaled on⟩

end GRoute.MontgomeryCurve
