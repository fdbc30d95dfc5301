import GRoute.Curve25519.Field

/-!
# Inversion and the Montgomery ladder

`inv25519` is an addition chain for the exponent `2^255 - 21`, and the loop of
`scalarmult` is the ladder of the specification with one difference: the code
exchanges the two points before and after the formulas of each step, where the
specification swaps once, by the exclusive or of two successive bits. The relation
`Simulates` accounts for that difference. It says that the specification's state,
after the swap it still owes, is the state the code holds.
-/

namespace GRoute.Curve25519

open Radix Word
open Rfc7748 (modulus Felt)

theorem sqr_spec {a : Limbs} (bounded : Bounded a (2 ^ 26)) :
    Reduced (sqr a) ∧ residue (sqr a) = residue a ^ 2 := by
  have spec := mul_spec bounded bounded
  refine ⟨spec.1, ?_⟩
  rw [sqr, spec.2, sq]

theorem Reduced.small {v : Limbs} (reduced : Reduced v) : Bounded v (2 ^ 26) :=
  reduced.bounded.mono (by norm_num)

/-- The exponent reached after `k` iterations of `inv25519`. -/
def invExponent : ℕ → ℕ
  | 0 => 1
  | k + 1 => 2 * invExponent k + (if 253 - k ≠ 2 ∧ 253 - k ≠ 4 then 1 else 0)

theorem invExponent_254 : invExponent 254 = 2 ^ 255 - 21 := by
  decide +kernel

theorem invStep_spec {i c : Limbs} (iBounded : Bounded i (2 ^ 26)) (cBounded : Bounded c (2 ^ 26))
    (a : ℕ) :
    Bounded (invStep i c a) (2 ^ 26) ∧
      residue (invStep i c a) =
        residue c ^ 2 * residue i ^ (if a ≠ 2 ∧ a ≠ 4 then 1 else 0) := by
  have square := sqr_spec cBounded
  unfold invStep
  split
  · have product := mul_spec square.1.small iBounded
    exact ⟨product.1.small, by rw [product.2, square.2, pow_one]⟩
  · exact ⟨square.1.small, by rw [square.2, pow_zero, mul_one]⟩

/-- `inv25519` raises to the power `2^255 - 21`. -/
theorem inv25519_spec {i : Limbs} (bounded : Bounded i (2 ^ 26)) :
    Bounded (inv25519 i) (2 ^ 26) ∧ residue (inv25519 i) = residue i ^ (2 ^ 255 - 21) := by
  have run := Loop.foldl_invariant
    (fun k c => Bounded c (2 ^ 26) ∧ residue c = residue i ^ invExponent k)
    (fun c (k : Fin 254) => invStep i c (253 - k.val)) i
    (by exact ⟨bounded, by rw [invExponent, pow_one]⟩)
    (by
      intro k c holds
      have step := invStep_spec bounded holds.1 (253 - k)
      refine ⟨step.1, ?_⟩
      rw [step.2, holds.2, ← pow_mul, ← pow_add, invExponent, mul_comm])
  rw [invExponent_254] at run
  exact run

/-- A scalar bit as the code computes with it. -/
def bitWord (bit : Bool) : Int32 := if bit then 1 else 0

theorem mask_bitWord (bit : Bool) :
    ~~~((bitWord bit).signExtend 64 - 1) = if bit then BitVec.allOnes 64 else 0 := by
  cases bit <;> decide

theorem xor_mask (p q : Long) (bit : Bool) :
    p ^^^ ((if bit then BitVec.allOnes 64 else 0) &&& (p ^^^ q)) = if bit then q else p := by
  cases bit with
  | false => simp
  | true =>
      rw [if_pos rfl, if_pos rfl, BitVec.allOnes_and, ← BitVec.xor_assoc, BitVec.xor_self,
        BitVec.zero_xor]

/-- `sel25519` exchanges its arguments when the bit is set and keeps them otherwise. -/
theorem sel25519_bitWord (p q : Limbs) (bit : Bool) :
    sel25519 p q (bitWord bit) = if bit then (q, p) else (p, q) := by
  have run := Loop.foldl_invariant
    (fun done (state : Limbs × Limbs) => ∀ (j : ℕ) (lt : j < 16),
      state.1[j] = (if j < done ∧ bit then q[j] else p[j]) ∧
        state.2[j] = (if j < done ∧ bit then p[j] else q[j]))
    (selStep (if bit then BitVec.allOnes 64 else 0)) (p, q)
    (by simp)
    (by
      intro i state holds j lt
      have here := holds i i.isLt
      have mirrored (x y : Long) :
          y ^^^ ((if bit then BitVec.allOnes 64 else 0) &&& (x ^^^ y)) = if bit then x else y := by
        rw [BitVec.xor_comm x y]
        exact xor_mask y x bit
      simp only [selStep, Fin.getElem_fin, Vector.getElem_set, xor_mask, mirrored, here.1, here.2]
      by_cases same : i.val = j
      · subst same
        cases bit <;> simp
      · have next : j < i.val + 1 ↔ j < i.val := by omega
        simp only [same, if_false, next]
        exact holds j lt)
  rw [sel25519, mask_bitWord]
  cases bit with
  | false =>
      refine Prod.ext (Vector.ext fun j lt => ?_) (Vector.ext fun j lt => ?_)
      · simpa using (run j lt).1
      · simpa using (run j lt).2
  | true =>
      refine Prod.ext (Vector.ext fun j lt => ?_) (Vector.ext fun j lt => ?_)
      · simpa [lt] using (run j lt).1
      · simpa [lt] using (run j lt).2

theorem limb_121665 (i : ℕ) :
    limb _121665 i = if i = 0 then 0xDB41 else if i = 1 then 1 else 0 := by
  have low : (0xDB41 : Long).toInt = 0xDB41 := by decide
  have high : (1 : Long).toInt = 1 := by decide
  rw [_121665, limb_set, limb_set, limb_longArray, low, high]
  by_cases zero : i = 0
  · simp [zero]
  · by_cases one : i = 1
    · simp [one]
    · simp [zero, one, Ne.symm zero, Ne.symm one]

theorem tight_121665 : Bounded _121665 (2 ^ 17) := by
  intro i
  rw [limb_121665]
  split
  · norm_num
  · split <;> norm_num

theorem bounded_121665 : Bounded _121665 (2 ^ 26) := tight_121665.mono (by norm_num)

theorem residue_121665 : residue _121665 = Rfc7748.a24 := by
  have number : num _121665 = 121665 := by
    rw [num, value_congr fun i _ => limb_121665 i]
    decide
  rw [residue, number]
  rfl

/-- The invariant of the limbs held between two iterations. -/
structure Ladder.Small (s : Ladder) : Prop where
  a : Bounded s.a (2 ^ 17)
  b : Bounded s.b (2 ^ 17)
  c : Bounded s.c (2 ^ 17)
  d : Bounded s.d (2 ^ 17)

/-- The points held by the code, as a state of the specification that owes the swap `swap`. -/
def Ladder.points (s : Ladder) (swap : Bool) : Rfc7748.State where
  x₂ := residue s.a
  z₂ := residue s.c
  x₃ := residue s.b
  z₃ := residue s.d
  swap := swap

/-- The field operations of one iteration are the formulas of the specification. -/
theorem ladderArith_spec {x : Limbs} (xBounded : Bounded x (2 ^ 26)) {s : Ladder} (small : s.Small)
    (swap : Bool) :
    (ladderArith x s).Small ∧
      (ladderArith x s).points swap = Rfc7748.ladderFormulas (residue x) (s.points swap) := by
  have tiny : (2 : ℤ) ^ 17 ≤ 2 ^ 60 := by norm_num
  have e₀ := (add_bounded tiny small.a small.c).mono (show 2 * 2 ^ 17 ≤ 2 ^ 26 by norm_num)
  have a₁ := (sub_bounded tiny small.a small.c).mono (show 2 * 2 ^ 17 ≤ 2 ^ 26 by norm_num)
  have c₁ := (add_bounded tiny small.b small.d).mono (show 2 * 2 ^ 17 ≤ 2 ^ 26 by norm_num)
  have b₁ := (sub_bounded tiny small.b small.d).mono (show 2 * 2 ^ 17 ≤ 2 ^ 26 by norm_num)
  have d₁ := sqr_spec e₀
  have f := sqr_spec a₁
  have a₂ := mul_spec c₁ a₁
  have c₂ := mul_spec b₁ e₀
  have e₁ := (add_bounded tiny a₂.1.bounded c₂.1.bounded).mono
    (show 2 * 2 ^ 17 ≤ 2 ^ 26 by norm_num)
  have a₃ := (sub_bounded tiny a₂.1.bounded c₂.1.bounded).mono
    (show 2 * 2 ^ 17 ≤ 2 ^ 26 by norm_num)
  have b₂ := sqr_spec a₃
  have c₃ := (sub_bounded tiny d₁.1.bounded f.1.bounded).mono
    (show 2 * 2 ^ 17 ≤ 2 ^ 26 by norm_num)
  have a₄ := mul_spec c₃ bounded_121665
  have a₅ := (add_bounded tiny a₄.1.bounded d₁.1.bounded).mono
    (show 2 * 2 ^ 17 ≤ 2 ^ 26 by norm_num)
  have c₄ := mul_spec c₃ a₅
  have a₆ := mul_spec d₁.1.small f.1.small
  have d₂ := mul_spec b₂.1.small xBounded
  have b₃ := sqr_spec e₁
  refine ⟨⟨a₆.1.bounded, b₃.1.bounded, c₄.1.bounded, d₂.1.bounded⟩, ?_⟩
  simp only [Ladder.points, ladderArith, Rfc7748.ladderFormulas, a₆.2, c₄.2, b₃.2, d₂.2, d₁.2, f.2,
    b₂.2, a₄.2, a₂.2, c₂.2, residue_121665, residue_add tiny small.a small.c,
    residue_sub tiny small.a small.c, residue_add tiny small.b small.d,
    residue_sub tiny small.b small.d, residue_add tiny a₂.1.bounded c₂.1.bounded,
    residue_sub tiny a₂.1.bounded c₂.1.bounded, residue_sub tiny d₁.1.bounded f.1.bounded,
    residue_add tiny a₄.1.bounded d₁.1.bounded]
  congr 1 <;> ring

theorem ladderSel_spec {s : Ladder} (small : s.Small) (bit swap : Bool) :
    (ladderSel s (bitWord bit)).Small ∧
      (ladderSel s (bitWord bit)).points swap = Rfc7748.cswap bit (s.points swap) := by
  cases bit with
  | false =>
      simp only [ladderSel, sel25519_bitWord]
      exact ⟨small, rfl⟩
  | true =>
      simp only [ladderSel, sel25519_bitWord]
      exact ⟨⟨small.b, small.a, small.d, small.c⟩, rfl⟩

/-- The specification's state, after the swap it still owes, is the state of the code. -/
structure Simulates (spec : Rfc7748.State) (code : Ladder) : Prop where
  small : code.Small
  points : Rfc7748.cswap spec.swap spec = code.points spec.swap

theorem cswap_xor (left right : Bool) (s : Rfc7748.State) :
    Rfc7748.cswap (left ^^ right) s = Rfc7748.cswap right (Rfc7748.cswap left s) := by
  cases left <;> cases right <;> rfl

/-- One iteration preserves the simulation. -/
theorem Simulates.step {spec : Rfc7748.State} {code : Ladder} (simulates : Simulates spec code)
    {x : Limbs} (xBounded : Bounded x (2 ^ 26)) (bit : Bool) :
    Simulates (Rfc7748.ladderStep (residue x) spec bit) (ladderStep x code (bitWord bit)) := by
  have before := ladderSel_spec simulates.small bit bit
  have formulas := ladderArith_spec xBounded before.1 bit
  have after := ladderSel_spec formulas.1 bit bit
  have entered : { Rfc7748.cswap (spec.swap ^^ bit) spec with swap := bit } =
      (ladderSel code (bitWord bit)).points bit := by
    rw [before.2, cswap_xor, simulates.points]
    cases bit <;> rfl
  have stepped : Rfc7748.ladderStep (residue x) spec bit =
      (ladderArith x (ladderSel code (bitWord bit))).points bit := by
    rw [Rfc7748.ladderStep, entered, formulas.2]
  refine ⟨after.1, ?_⟩
  rw [stepped]
  exact after.2.symm

end GRoute.Curve25519
