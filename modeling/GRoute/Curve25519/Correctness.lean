import GRoute.Curve25519.Ladder
import GRoute.Curve25519.Pack

/-!
# Scalar multiplication is X25519

The ladder of the code simulates the ladder of RFC 7748 from its start to its end, the
inversion raises to the power the RFC prescribes, and packing encodes the residue. So
`scalarmult` is the function of the RFC on all inputs, and a generated public key is
that function of the generated private key.
-/

namespace GRoute.Curve25519

open Radix Word Rfc7748

theorem residue_longArray : residue (longArray 16) = 0 := by
  rw [residue, num, value_congr fun i _ => limb_longArray i]
  simp [value]

theorem limb_one (i : ℕ) :
    limb ((longArray 16).set 0 1 (by decide)) i = if i = 0 then 1 else 0 := by
  rw [limb_set, limb_longArray]
  by_cases zero : i = 0
  · simp [zero]
  · simp [zero, Ne.symm zero]

theorem residue_one : residue ((longArray 16).set 0 1 (by decide)) = 1 := by
  rw [residue, num, value_congr fun i _ => limb_one i]
  simp [value]

theorem bounded_one : Bounded ((longArray 16).set 0 1 (by decide)) (2 ^ 17) := by
  intro i
  rw [limb_one]
  split <;> norm_num

theorem bounded_zero : Bounded (longArray 16) (2 ^ 17) := by
  intro i
  rw [limb_longArray]
  norm_num

theorem simulates_start {x : Limbs} (bounded : Bounded x (2 ^ 17)) :
    Simulates { x₂ := 1, z₂ := 0, x₃ := residue x, z₃ := 1, swap := false } (ladderStart x) := by
  refine ⟨⟨bounded_one, bounded, bounded_zero, bounded_one⟩, ?_⟩
  simp only [cswap, Ladder.points, ladderStart, residue_one, residue_longArray, if_false,
    Bool.false_eq_true]

theorem round_lt (k : Fin 255) : 254 - k.val < 255 := by omega

/-- The whole ladder of the code simulates the ladder of the specification. -/
theorem simulates_ladder (n p : ByteArray 32) :
    let s := Fin.foldl 255 (fun s (k : Fin 255) =>
      ladderStep (unpack25519 p) s (scalarBit (clamp n) ⟨254 - k.val, round_lt k⟩))
      (ladderStart (unpack25519 p))
    s.Small ∧ ∃ swap, ladder (decodeScalar25519 n) (decodeUCoordinate p) = s.points swap := by
  have bounded := unpack25519_bounded p
  have wide : Bounded (unpack25519 p) (2 ^ 26) := bounded.mono (by norm_num)
  have run := Loop.foldl_related (fun spec code => Simulates spec code)
    (fun s (t : Fin 255) => Rfc7748.ladderStep (residue (unpack25519 p)) s
      ((decodeScalar25519 n).testBit (254 - t.val)))
    (fun s (k : Fin 255) =>
      ladderStep (unpack25519 p) s (scalarBit (clamp n) ⟨254 - k.val, round_lt k⟩))
    _ _ (simulates_start bounded)
    (by
      intro i spec code simulates
      rw [scalarBit_clamp]
      exact simulates.step wide _)
  rw [← residue_unpack25519]
  exact ⟨run.small, _, run.points⟩

theorem scalarmult_eq (n p : ByteArray 32) : scalarmult n p = x25519 n p := by
  rcases simulates_ladder n p with ⟨small, swap, ladderEq⟩
  have inverse := inv25519_spec (small.c.mono (show (2 : ℤ) ^ 17 ≤ 2 ^ 26 by norm_num))
  have quotient := mul_spec (small.a.mono (show (2 : ℤ) ^ 17 ≤ 2 ^ 26 by norm_num)) inverse.1
  rw [scalarmult, pack25519_spec quotient.1.small, quotient.2, inverse.2, x25519, ladderEq]
  rfl

/-- `scalarmult` is X25519 on all scalars and points, and every generated public key is X25519
of the generated private key and the base point. -/
theorem scalarmult_x25519 :
    (∀ n p : ByteArray 32, scalarmult n p = x25519 n p) ∧
      ∀ random : ByteArray 32, generateKeyPair random =
        (keyText (privateKey random), keyText (x25519 (privateKey random) basePoint)) := by
  refine ⟨scalarmult_eq, ?_⟩
  intro random
  rw [generateKeyPair, scalarmultBase, scalarmult_eq]
  rfl

end GRoute.Curve25519
