import GRoute.Curve25519.Ladder
import GRoute.Foundation.Integers
import Mathlib.FieldTheory.Finite.Basic
import Mathlib.Tactic.NormNum
import Mathlib.Tactic.NormNum.PowMod
import Mathlib.Tactic.NormNum.Prime
import Mathlib.Tactic.ReduceModChar

/-!
# Inverses

`2^255 - 19` is prime, so that the power that `inv25519` computes is the inverse. The primes that
divide `p - 1` for a prime `p` below are certified first, down to those that are recognised at once.
-/

namespace GRoute.Curve25519

open Integers
open Rfc7748 (modulus Felt)

theorem prime_2773320623 : Nat.Prime 2773320623 := by
  refine prime_of_witness 5 [2, 2437, 569003] ?_ (by norm_num) ?_ ?_
  · norm_num
  · norm_num
    reduce_mod_char
  · norm_num
    reduce_mod_char
    decide

theorem prime_72106336199 : Nat.Prime 72106336199 := by
  refine prime_of_witness 7 [2, 13, 2773320623] ?_ (by norm_num) ?_ ?_
  · simp only [List.forall_mem_cons, prime_2773320623]
    norm_num
  · norm_num
    reduce_mod_char
  · norm_num
    reduce_mod_char
    decide

theorem prime_1919519569386763 : Nat.Prime 1919519569386763 := by
  refine prime_of_witness 2 [2, 3, 7, 19, 47, 47, 127, 8574133] ?_ (by norm_num) ?_ ?_
  · norm_num
  · norm_num
    reduce_mod_char
  · norm_num
    reduce_mod_char
    decide

theorem prime_31757755568855353 : Nat.Prime 31757755568855353 := by
  refine prime_of_witness 10 [2, 2, 2, 3, 31, 107, 223, 4153, 430751] ?_ (by norm_num) ?_ ?_
  · norm_num
  · norm_num
    reduce_mod_char
  · norm_num
    reduce_mod_char
    decide

theorem prime_75445702479781427272750846543864801 :
    Nat.Prime 75445702479781427272750846543864801 := by
  refine prime_of_witness 7
    [2, 2, 2, 2, 2, 3, 3, 5, 5, 75707, 72106336199, 1919519569386763] ?_ (by norm_num) ?_ ?_
  · simp only [List.forall_mem_cons, prime_72106336199, prime_1919519569386763]
    norm_num
  · norm_num
    reduce_mod_char
  · norm_num
    reduce_mod_char
    decide

/-- The large prime factor of `2^255 - 20`. -/
theorem prime_cofactor :
    Nat.Prime 74058212732561358302231226437062788676166966415465897661863160754340907 := by
  refine prime_of_witness 2
    [2, 3, 353, 57467, 132049, 1923133, 31757755568855353, 75445702479781427272750846543864801]
    ?_ (by norm_num) ?_ ?_
  · simp only [List.forall_mem_cons, prime_31757755568855353,
      prime_75445702479781427272750846543864801]
    norm_num
  · norm_num
    reduce_mod_char
  · norm_num
    reduce_mod_char
    decide

theorem prime_modulus : Nat.Prime modulus := by
  rw [modulus]
  refine prime_of_witness 2
    [2, 2, 3, 65147, 74058212732561358302231226437062788676166966415465897661863160754340907]
    ?_ (by norm_num) ?_ ?_
  · simp only [List.forall_mem_cons, prime_cofactor]
    norm_num
  · norm_num
    reduce_mod_char
  · norm_num
    reduce_mod_char
    decide

/-- Fermat's theorem for the exponent of `inv25519`. -/
theorem pow_mul_self_eq_one {x : Felt} (nonzero : x ≠ 0) : x ^ (2 ^ 255 - 21) * x = 1 := by
  have : Fact (Nat.Prime modulus) := ⟨prime_modulus⟩
  have exponent : 2 ^ 255 - 21 + 1 = modulus - 1 := by norm_num [modulus]
  rw [← pow_succ, exponent]
  exact ZMod.pow_card_sub_one_eq_one nonzero

/-- `inv25519` raises to the power `2^255 - 21`, which inverts all but zero, and keeps zero. -/
theorem inv25519_inverts {x : Limbs} (narrow : Narrow x) :
    residue (inv25519 x) = residue x ^ (2 ^ 255 - 21) ∧
      (residue x ≠ 0 → residue (inv25519 x) * residue x = 1) ∧
      (residue x = 0 → residue (inv25519 x) = 0) := by
  have power := (inv25519_spec narrow.bounded).2
  refine ⟨power, ?_, ?_⟩
  · intro nonzero
    rw [power]
    exact pow_mul_self_eq_one nonzero
  · intro zero
    rw [power, zero]
    exact zero_pow (by norm_num)

theorem inv25519_inverts_121665 :
    residue (inv25519 _121665) * residue _121665 = 1 := by
  apply (inv25519_inverts (by decide +kernel)).2.1
  rw [residue_121665]
  decide +kernel

end GRoute.Curve25519
