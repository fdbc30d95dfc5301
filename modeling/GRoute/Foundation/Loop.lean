import Mathlib.Data.Fin.Tuple.Basic
import Mathlib.Data.Vector.Basic

/-!
# Loops over an index range

A `for` loop with a fixed range is `Fin.foldl`, and `Fin.foldlM` where its body can fail. An
invariant indexed by the number of completed iterations holds initially and is preserved by one
iteration; the rules below are the only inductions that the loops of the development need.
-/

namespace GRoute.Loop

universe u

variable {State : Type u}

/-- The invariant rule for a loop over `0, …, n - 1`. -/
theorem foldl_invariant {n : ℕ} (Invariant : ℕ → State → Prop)
    (body : State → Fin n → State) (start : State) (holdsAtStart : Invariant 0 start)
    (preserved : ∀ (i : Fin n) (state : State),
      Invariant i state → Invariant (i + 1) (body state i)) :
    Invariant n (Fin.foldl n body start) := by
  induction n with
  | zero => simpa using holdsAtStart
  | succ n ih =>
      rw [Fin.foldl_succ_last]
      apply preserved (Fin.last n)
      exact ih (fun state i => body state i.castSucc)
        (fun i state holds => preserved i.castSucc state holds)

/-- A loop whose body can fail does not, where the invariant excludes that. -/
theorem foldlM_eq_some {n : ℕ} (Invariant : ℕ → State → Prop) (body : State → Fin n → State)
    (checked : State → Fin n → Option State) (start : State) (holdsAtStart : Invariant 0 start)
    (preserved : ∀ (i : Fin n) (state : State),
      Invariant i state → Invariant (i + 1) (body state i))
    (succeeds : ∀ (i : Fin n) (state : State),
      Invariant i state → checked state i = some (body state i)) :
    Fin.foldlM n checked start = some (Fin.foldl n body start) := by
  induction n with
  | zero => simp
  | succ n ih =>
      have before := foldl_invariant Invariant
        (fun state (i : Fin n) => body state i.castSucc) start holdsAtStart
        (fun i state holds => preserved i.castSucc state holds)
      have earlier := ih (fun state i => body state i.castSucc)
        (fun state i => checked state i.castSucc)
        (fun i state holds => preserved i.castSucc state holds)
        (fun i state holds => succeeds i.castSucc state holds)
      simp only [Fin.foldlM_succ_last, Fin.foldl_succ_last, earlier]
      exact succeeds (Fin.last n) _ before

/-- Two loops over one range stay related when their bodies preserve the relation. -/
theorem foldl_related {Other : Type u} {n : ℕ} (Related : State → Other → Prop)
    (body : State → Fin n → State) (otherBody : Other → Fin n → Other) (start : State)
    (otherStart : Other) (relatedAtStart : Related start otherStart)
    (preserved : ∀ (i : Fin n) (state : State) (other : Other),
      Related state other → Related (body state i) (otherBody other i)) :
    Related (Fin.foldl n body start) (Fin.foldl n otherBody otherStart) := by
  induction n with
  | zero => simpa using relatedAtStart
  | succ n ih =>
      rw [Fin.foldl_succ_last, Fin.foldl_succ_last]
      apply preserved (Fin.last n)
      exact ih (fun state i => body state i.castSucc) (fun other i => otherBody other i.castSucc)
        (fun i state other related => preserved i.castSucc state other related)

/-- A loop that assigns `value i` to entry `i` fills the array with `value`. -/
theorem getElem_foldl_set {Entry : Type u} {n : ℕ} (value : Fin n → Entry)
    (start : Vector Entry n) (k : ℕ) (inRange : k < n) :
    (Fin.foldl n (fun array i => array.set i.val (value i)) start)[k] = value ⟨k, inRange⟩ := by
  have filled := foldl_invariant
    (fun done (array : Vector Entry n) =>
      ∀ (j : ℕ) (bound : j < n), j < done → array[j] = value ⟨j, bound⟩)
    (fun array i => array.set i.val (value i)) start (by intro j _ impossible; omega)
    (by
      intro i array holds j bound jLt
      rw [Vector.getElem_set]
      split
      · next same => subst same; rfl
      · exact holds j bound (by omega))
  exact filled k inRange inRange

end GRoute.Loop
