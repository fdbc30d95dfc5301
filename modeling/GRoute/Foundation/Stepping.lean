import Mathlib.Data.Int.ConditionallyCompleteOrder
import Mathlib.Order.ConditionallyCompleteLattice.Basic

/-!
# Cursors

A cursor that steps through a linear order, from a first value up to a last one. Each step raises an
integer rank by one, so that the loop ends and passes over nothing between the two.
-/

namespace GRoute

/-- A linear order with a step that goes from each value to the one after it. -/
structure Ladder (α : Type*) [LinearOrder α] where
  next : α → α
  rank : α → ℤ
  rank_next (a : α) : rank (next a) = rank a + 1
  rank_strictMono : StrictMono rank

namespace Ladder

variable {α : Type*} [LinearOrder α] (ladder : Ladder α) {a b first middle last : α}

theorem lt_next (a : α) : a < ladder.next a := by
  apply ladder.rank_strictMono.lt_iff_lt.mp
  rw [ladder.rank_next]
  exact Int.lt_succ _

theorem lt_iff_next_le : a < b ↔ ladder.next a ≤ b := by
  rw [← ladder.rank_strictMono.lt_iff_lt, ← ladder.rank_strictMono.le_iff_le, ladder.rank_next]
  exact Int.lt_iff_add_one_le

/-- The loop `while (!cursor.isAfter(last))`. -/
def walk (cursor last : α) : List α :=
  if last < cursor then [] else cursor :: walk (ladder.next cursor) last
termination_by (ladder.rank last + 1 - ladder.rank cursor).toNat
decreasing_by
  rename_i notAfter
  have le := ladder.rank_strictMono.monotone (not_lt.mp notAfter)
  rw [ladder.rank_next]
  omega

theorem walk_of_lt (past : last < first) : ladder.walk first last = [] := by
  rw [walk, if_pos past]

theorem walk_of_le (le : first ≤ last) :
    ladder.walk first last = first :: ladder.walk (ladder.next first) last := by
  rw [walk, if_neg (not_lt.mpr le)]

theorem mem_walk : a ∈ ladder.walk first last ↔ first ≤ a ∧ a ≤ last := by
  fun_induction walk ladder first last with
  | case1 cursor past =>
      simp only [List.not_mem_nil, false_iff, not_and, not_le]
      exact past.trans_le
  | case2 cursor notPast ih =>
      rw [List.mem_cons, ih, ← ladder.lt_iff_next_le]
      constructor
      · rintro (rfl | ⟨after, le⟩)
        · exact ⟨le_rfl, not_lt.mp notPast⟩
        · exact ⟨after.le, le⟩
      · rintro ⟨reached, le⟩
        rcases reached.eq_or_lt with same | after
        · exact .inl same.symm
        · exact .inr ⟨after, le⟩

theorem pairwise_walk (first last : α) : (ladder.walk first last).Pairwise (· < ·) := by
  fun_induction walk ladder first last with
  | case1 cursor past => exact List.Pairwise.nil
  | case2 cursor notPast ih =>
      refine List.pairwise_cons.mpr ⟨?_, ih⟩
      intro later mem
      exact ladder.lt_iff_next_le.mpr (ladder.mem_walk.mp mem).1

/-- The walk up to a value and the walk from the one after it. -/
theorem walk_append (before : first ≤ middle) (after : middle ≤ last) :
    ladder.walk first middle ++ ladder.walk (ladder.next middle) last =
      ladder.walk first last := by
  fun_induction walk ladder first middle with
  | case1 cursor past => exact absurd before (not_le.mpr past)
  | case2 cursor notPast ih =>
      rw [ladder.walk_of_le (before.trans after), List.cons_append]
      rcases before.eq_or_lt with same | notYet
      · rw [← same, ladder.walk_of_lt (ladder.lt_next cursor), List.nil_append]
      · rw [ih (ladder.lt_iff_next_le.mp notYet)]

end Ladder

end GRoute
