import Mathlib.NumberTheory.LucasPrimality

/-!
# Integers

Division that rounds towards zero, and certified primes: Lucas's test with the prime factors of
`p - 1` as a list, where each factor that is too large to be recognised as a prime is certified in
the same way.
-/

namespace GRoute.Integers

theorem tdiv_cases (a b : ℤ) :
    0 ≤ a ∧ a.tdiv b = a / b ∨ a < 0 ∧ a.tdiv b = -(-a / b) := by
  rcases le_or_gt 0 a with nonneg | negative
  · exact .inl ⟨nonneg, Int.tdiv_eq_ediv_of_nonneg nonneg⟩
  · refine .inr ⟨negative, ?_⟩
    rw [← Int.tdiv_eq_ediv_of_nonneg (Int.neg_nonneg.mpr negative.le), Int.neg_tdiv, neg_neg]

/-- A number is prime if some residue has the order `p - 1`. -/
theorem prime_of_witness {p : ℕ} (witness : ZMod p) (factors : List ℕ)
    (primes : ∀ q ∈ factors, q.Prime) (product : factors.prod = p - 1)
    (full : witness ^ (p - 1) = 1) (proper : ∀ q ∈ factors, witness ^ ((p - 1) / q) ≠ 1) :
    p.Prime := by
  apply lucas_primality p witness full
  intro q isPrime divides
  rw [← product] at divides
  have isFactor : q ∈ factors :=
    mem_list_primes_of_dvd_prod isPrime.prime (fun r mem => (primes r mem).prime) divides
  exact proper q isFactor

end GRoute.Integers
