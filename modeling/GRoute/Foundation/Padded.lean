import Mathlib.Data.List.GetD
import Mathlib.Order.MinMax
import Mathlib.Order.PiLex

/-!
# Sequences of different length

A loop that compares two sequences up to the longer of their lengths, and takes a fixed value for
an entry that is missing, compares the sequences that are continued with that value for ever. The
first difference decides, so this is the lexicographic order of such sequences, which is linear.
-/

namespace GRoute.Padded

variable {α : Type*} (pad : α)

/-- The sequence, continued for ever. -/
def padded (xs : List α) : Lex (ℕ → α) := toLex fun i => xs.getD i pad

/-- More of the padding changes nothing. -/
theorem padded_append_replicate (xs : List α) (count : ℕ) :
    padded pad (xs ++ List.replicate count pad) = padded pad xs := by
  apply congrArg toLex
  funext i
  by_cases inside : i < xs.length
  · rw [List.getD_append _ _ _ _ inside]
  · rw [List.getD_append_right _ _ _ _ (not_lt.mp inside),
      List.getD_eq_default xs _ (not_lt.mp inside)]
    by_cases added : i - xs.length < count
    · rw [List.getD_replicate _ added]
    · rw [List.getD_eq_default]
      simpa using added

variable [LinearOrder α]

/-- The loop: the first difference decides, and there is none between equal sequences. -/
def exceeds (xs ys : List α) : Bool :=
  ((List.range (max xs.length ys.length)).findSome? fun i =>
    if xs.getD i pad ≠ ys.getD i pad then some (decide (xs.getD i pad > ys.getD i pad))
    else none).getD false

variable {pad} {xs ys : List α}

theorem padded_lt_iff :
    padded pad ys < padded pad xs ↔
      ∃ i, (∀ j < i, ys.getD j pad = xs.getD j pad) ∧ ys.getD i pad < xs.getD i pad := Iff.rfl

/-- The first difference below a bound. -/
theorem getD_findSome_range_iff (f g : ℕ → α) (n : ℕ) :
    ((List.range n).findSome? fun i =>
        if f i ≠ g i then some (decide (f i > g i)) else none).getD false = true ↔
      ∃ i < n, (∀ j < i, g j = f j) ∧ g i < f i := by
  induction n with
  | zero => simp
  | succ n ih =>
      rw [List.range_succ, List.findSome?_append]
      cases earlier : (List.range n).findSome? fun i =>
          if f i ≠ g i then some (decide (f i > g i)) else none with
      | some verdict =>
          -- there is a difference below, so the last entry is not looked at
          rw [earlier] at ih
          rw [Option.some_or, ih]
          constructor
          · rintro ⟨i, lt, holds⟩
            exact ⟨i, Nat.lt_succ_of_lt lt, holds⟩
          · rintro ⟨i, lt, same, less⟩
            refine ⟨i, lt_of_le_of_ne (Nat.le_of_lt_succ lt) ?_, same, less⟩
            rintro rfl
            rcases List.exists_of_findSome?_eq_some earlier with ⟨j, mem, found⟩
            rw [if_neg (not_not.mpr (same j (List.mem_range.mp mem)).symm)] at found
            cases found
      | none =>
          have same : ∀ j < n, g j = f j := by
            intro j lt
            have missed := List.findSome?_eq_none_iff.mp earlier j (List.mem_range.mpr lt)
            by_contra differ
            rw [if_pos (Ne.symm differ)] at missed
            cases missed
          rw [Option.none_or, List.findSome?_singleton]
          constructor
          · intro decided
            refine ⟨n, Nat.lt_succ_self n, same, ?_⟩
            split_ifs at decided with differ
            · exact of_decide_eq_true decided
            · cases decided
          · rintro ⟨i, lt, _, less⟩
            have last : i = n := by
              apply le_antisymm (Nat.le_of_lt_succ lt)
              by_contra below
              exact less.ne (same i (not_le.mp below))
            subst last
            rw [if_pos less.ne']
            exact decide_eq_true less

theorem exceeds_iff : exceeds pad xs ys = true ↔ padded pad ys < padded pad xs := by
  rw [exceeds, getD_findSome_range_iff (fun i => xs.getD i pad) (fun i => ys.getD i pad),
    padded_lt_iff]
  constructor
  · rintro ⟨i, _, holds⟩
    exact ⟨i, holds⟩
  · rintro ⟨i, same, less⟩
    refine ⟨i, ?_, same, less⟩
    by_contra beyond
    have bounds := max_le_iff.mp (not_lt.mp beyond)
    rw [List.getD_eq_default _ _ bounds.1, List.getD_eq_default _ _ bounds.2] at less
    exact lt_irrefl _ less

/-- After a common beginning the next entry decides. -/
theorem padded_lt_of_lt (front : List α) {x y : α} (less : x < y) (xs ys : List α) :
    padded pad (front ++ x :: xs) < padded pad (front ++ y :: ys) := by
  rw [padded_lt_iff]
  refine ⟨front.length, ?_, ?_⟩
  · intro j lt
    rw [List.getD_append _ _ _ _ lt, List.getD_append _ _ _ _ lt]
  · simpa using less

end GRoute.Padded
