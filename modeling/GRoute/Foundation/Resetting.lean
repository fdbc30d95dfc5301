import GRoute.Foundation.Replacing
import Mathlib.Data.List.Find
import Mathlib.Data.List.Infix

/-!
# A stream that can be reset

Some sequences in a text reset what came before them. They begin with one unit that they have only
there, and none of them starts another, so that two of them never overlap. What follows the last of
them can be found piece by piece: a text that ends with such a sequence, or with a separator that
none of them has, is a place where a stream can be cut.
-/

namespace GRoute.Resetting

open Replacing

variable {α : Type*}

/-- The sequences: an opening unit and one of the tails. -/
structure Resets (α : Type*) where
  opening : α
  tails : List (List α)
  opening_notMem : ∀ tail ∈ tails, opening ∉ tail
  prefix_eq : ∀ tail ∈ tails, ∀ other ∈ tails, tail <+: other → tail = other

section LastOccurrence

variable [DecidableEq α]

/-- The position of the last occurrence of the token. -/
def lastOccurrence (token : List α) : List α → Option ℕ
  | [] => if token = [] then some 0 else none
  | c :: rest =>
      ((lastOccurrence token rest).map (· + 1)).or
        (if token <+: c :: rest then some 0 else none)

theorem lastOccurrence_eq_some {token s : List α} {i : ℕ}
    (found : lastOccurrence token s = some i) :
    ∃ front rest, s = front ++ token ++ rest ∧ front.length = i := by
  induction s generalizing i with
  | nil =>
      rw [lastOccurrence, Option.ite_none_right_eq_some] at found
      rcases found with ⟨rfl, first⟩
      exact ⟨[], [], rfl, Option.some.inj first⟩
  | cons c s ih =>
      rw [lastOccurrence, Option.or_eq_some_iff, Option.map_eq_some_iff] at found
      rcases found with ⟨j, later, rfl⟩ | ⟨-, here⟩
      · rcases ih later with ⟨front, rest, rfl, rfl⟩
        exact ⟨c :: front, rest, rfl, rfl⟩
      · rw [Option.ite_none_right_eq_some] at here
        rcases here with ⟨⟨rest, whole⟩, first⟩
        exact ⟨[], rest, whole.symm, Option.some.inj first⟩

theorem le_lastOccurrence (token front rest : List α) :
    ∃ i, lastOccurrence token (front ++ token ++ rest) = some i ∧ front.length ≤ i := by
  induction front with
  | nil =>
      rw [List.nil_append]
      cases whole : token ++ rest with
      | nil =>
          have isEmpty : token = [] := (List.append_eq_nil_iff.mp whole).1
          exact ⟨0, if_pos isEmpty, le_rfl⟩
      | cons c later =>
          have starts : token <+: c :: later := ⟨rest, whole⟩
          rw [lastOccurrence, if_pos starts]
          cases lastOccurrence token later with
          | none => exact ⟨0, rfl, le_rfl⟩
          | some j => exact ⟨j + 1, rfl, Nat.zero_le _⟩
  | cons c front ih =>
      rcases ih with ⟨i, found, le⟩
      refine ⟨i + 1, ?_, Nat.succ_le_succ le⟩
      rw [List.cons_append, List.cons_append, lastOccurrence, found]
      rfl

end LastOccurrence

section Lines

variable [DecidableEq α] (c : α)

/-- The lines that the separator ends. -/
def complete (s : List α) : List (List α) := (s.splitOn c).dropLast

/-- What follows the last separator. -/
def unfinished (s : List α) : List α := (s.splitOn c).getLastD []

variable {c}

theorem complete_of_notMem {s : List α} (absent : c ∉ s) : complete c s = [] := by
  rw [complete, List.splitOn_eq_singleton absent]
  rfl

theorem unfinished_of_notMem {s : List α} (absent : c ∉ s) : unfinished c s = s := by
  rw [unfinished, List.splitOn_eq_singleton absent]
  rfl

theorem complete_append_cons (front rest : List α) :
    complete c (front ++ c :: rest) = front.splitOn c ++ complete c rest := by
  rw [complete, List.splitOn_append_cons_self,
    List.dropLast_append_of_ne_nil (List.splitOn_ne_nil c rest), complete]

theorem unfinished_append_cons (front rest : List α) :
    unfinished c (front ++ c :: rest) = unfinished c rest := by
  have nonempty := List.splitOn_ne_nil c rest
  rw [unfinished, unfinished, List.splitOn_append_cons_self, List.getLastD_eq_getLast?,
    List.getLastD_eq_getLast?, List.getLast?_append_of_ne_nil _ nonempty]

/-- The text splits before its unfinished line, at a separator if there is one. -/
theorem lines_cases (s : List α) :
    complete c s = [] ∧ unfinished c s = s ∧ c ∉ s ∨
      ∃ front, s = front ++ c :: unfinished c s ∧ complete c s = front.splitOn c := by
  by_cases mem : c ∈ s
  · right
    rcases List.eq_append_cons_of_mem (List.mem_reverse.mpr mem) with ⟨after, before, whole, absent⟩
    have shape : s = before.reverse ++ c :: after.reverse := by
      rw [← List.reverse_reverse s, whole]
      simp
    have notMem : c ∉ after.reverse := by simpa using absent
    refine ⟨before.reverse, ?_, ?_⟩
    · nth_rewrite 1 [shape]
      rw [shape, unfinished_append_cons, unfinished_of_notMem notMem]
    · rw [shape, complete_append_cons, complete_of_notMem notMem, List.append_nil]
  · exact .inl ⟨complete_of_notMem mem, unfinished_of_notMem mem, mem⟩

theorem unfinished_suffix (s : List α) : unfinished c s <:+ s := by
  rcases lines_cases (c := c) s with ⟨-, same, -⟩ | ⟨front, whole, -⟩
  · rw [same]
  · exact ⟨front ++ [c], by rw [List.append_assoc]; exact whole.symm⟩

theorem complete_append (s later : List α) :
    complete c (s ++ later) = complete c s ++ complete c (unfinished c s ++ later) := by
  rcases lines_cases (c := c) s with ⟨noLines, same, -⟩ | ⟨front, whole, lines⟩
  · rw [noLines, same, List.nil_append]
  · rw [lines]
    nth_rewrite 1 [whole]
    rw [List.append_assoc, List.cons_append, complete_append_cons]

theorem unfinished_append (s later : List α) :
    unfinished c (s ++ later) = unfinished c (unfinished c s ++ later) := by
  rcases lines_cases (c := c) s with ⟨-, same, -⟩ | ⟨front, whole, -⟩
  · rw [same]
  · nth_rewrite 1 [whole]
    rw [List.append_assoc, List.cons_append, unfinished_append_cons]

theorem length_splitOn (s : List α) : (s.splitOn c).length = s.count c + 1 := by
  induction s with
  | nil => simp
  | cons d s ih =>
      rw [List.splitOn] at ih ⊢
      rw [List.splitOnP_cons_eq_if_modifyHead, List.count_cons]
      split
      · rw [List.length_cons, ih]
      · rw [List.length_modifyHead, ih]

theorem length_complete (s : List α) : (complete c s).length = s.count c := by
  rw [complete, List.length_dropLast, length_splitOn, Nat.add_sub_cancel]

end Lines

namespace Resets

section Closed

variable (r : Resets α)

/-- A sequence that starts in the text also ends in it, whatever follows. -/
def Closed (s : List α) : Prop :=
  ∀ rest, r.opening :: rest <:+ s → ∀ tail ∈ r.tails, ∀ later, tail <+: rest ++ later →
    tail <+: rest

variable {r}

theorem Closed.of_suffix {s t : List α} (closed : r.Closed t) (suffix : s <:+ t) : r.Closed s :=
  fun rest starts => closed rest (starts.trans suffix)

theorem closed_nil : r.Closed [] := by
  intro rest starts
  simp at starts

theorem closed_separator {c : α} (other : c ≠ r.opening) (absent : ∀ tail ∈ r.tails, c ∉ tail)
    (s : List α) : r.Closed (s ++ [c]) := by
  rintro rest ⟨before, whole⟩ tail isTail later begins
  rcases List.eq_nil_or_concat rest with rfl | ⟨front, last, rfl⟩
  · have ends := (List.append_inj' whole rfl).2
    exact absurd (List.cons.inj ends).1.symm other
  · have parts : (before ++ r.opening :: front) ++ [last] = s ++ [c] := by
      rw [← whole]
      simp
    have ends := (List.cons.inj (List.append_inj' parts rfl).2).1
    subst ends
    rw [List.concat_eq_append, List.append_assoc] at begins
    rw [List.concat_eq_append]
    exact (prefix_of_prefix_append_cons front (absent tail isTail) begins).trans
      (List.prefix_append front [last])

theorem closed_reset {tail : List α} (isTail : tail ∈ r.tails) (s : List α) :
    r.Closed (s ++ r.opening :: tail) := by
  intro rest starts other isOther later begins
  have absent := r.opening_notMem tail isTail
  have whole : r.opening :: tail <:+ s ++ r.opening :: tail := List.suffix_append _ _
  have same (both : rest = tail) : other <+: rest := by
    subst both
    rcases List.prefix_or_prefix_of_prefix begins (List.prefix_append rest later) with one | two
    · exact one
    · rw [r.prefix_eq rest isTail other isOther two]
  rcases List.suffix_or_suffix_of_suffix starts whole with inside | inside
  · rcases List.suffix_cons_iff.mp inside with both | later'
    · exact same (List.cons.inj both).2
    · exact absurd (later'.subset List.mem_cons_self) absent
  · rcases List.suffix_cons_iff.mp inside with both | ⟨front, rfl⟩
    · exact same (List.cons.inj both).2.symm
    · -- the next opening unit stops the sequence before it
      rw [List.append_assoc] at begins
      exact (prefix_of_prefix_append_cons front (r.opening_notMem other isOther) begins).trans
        (List.prefix_append front _)

end Closed

variable [DecidableEq α] (r : Resets α)

/-- What follows the last sequence, if there is one. -/
def after : List α → Option (List α)
  | [] => none
  | c :: rest =>
      (after rest).or (if c = r.opening then
        (r.tails.find? (· <+: rest)).map fun tail => rest.drop tail.length
      else none)

/-- What is left of the text: all of it, if there is no reset. -/
def remaining (s : List α) : List α := (r.after s).getD s

variable {r}

/-- At a place to cut, the last reset is behind it or before it. -/
theorem after_append {s : List α} (closed : r.Closed s) (later : List α) :
    r.after (s ++ later) = (r.after later).or ((r.after s).map (· ++ later)) := by
  induction s with
  | nil => simp [after]
  | cons c rest ih =>
      rw [List.cons_append, after, after, ih (closed.of_suffix (List.suffix_cons c rest)),
        Option.or_assoc, Option.map_or]
      by_cases opens : c = r.opening
      · subst opens
        have sameFind : r.tails.find? (· <+: rest ++ later) = r.tails.find? (· <+: rest) := by
          apply List.find?_congr
          intro tail isTail
          have iff : tail <+: rest ++ later ↔ tail <+: rest :=
            ⟨closed rest (List.suffix_refl _) tail isTail later,
              fun starts => starts.trans (List.prefix_append _ _)⟩
          simp only [iff]
        rw [if_pos rfl, if_pos rfl, sameFind]
        cases found : r.tails.find? (· <+: rest) with
        | none => rfl
        | some tail =>
            have starts : tail <+: rest := by simpa using List.find?_some found
            simp only [Option.map_some, List.drop_append_of_le_length starts.length_le]
      · rw [if_neg opens, if_neg opens]
        rfl

theorem after_eq_none_of_notMem {s : List α} (absent : r.opening ∉ s) : r.after s = none := by
  induction s with
  | nil => rfl
  | cons c rest ih =>
      rw [List.mem_cons, not_or] at absent
      rw [after, ih absent.2, if_neg (Ne.symm absent.1)]
      rfl

theorem after_eq_none_of_suffix {s t : List α} (noReset : r.after t = none) (suffix : s <:+ t) :
    r.after s = none := by
  rcases suffix with ⟨front, rfl⟩
  induction front with
  | nil => exact noReset
  | cons c front ih =>
      rw [List.cons_append, after, Option.or_eq_none_iff] at noReset
      exact ih noReset.1

theorem after_reset {tail : List α} (isTail : tail ∈ r.tails) (s : List α) :
    r.after (s ++ r.opening :: tail) = some [] := by
  induction s with
  | nil =>
      have found : r.tails.find? (· <+: tail) = some tail := by
        cases found : r.tails.find? (· <+: tail) with
        | none =>
            exact absurd (decide_eq_true List.prefix_rfl) (List.find?_eq_none.mp found _ isTail)
        | some other =>
            have starts : other <+: tail := by simpa using List.find?_some found
            rw [r.prefix_eq other (List.mem_of_find?_eq_some found) tail isTail starts]
      rw [List.nil_append, after, after_eq_none_of_notMem (r.opening_notMem tail isTail),
        if_pos rfl, found]
      simp
  | cons c s ih =>
      rw [List.cons_append, after, ih]
      rfl

theorem after_eq_some {s rest : List α} (isAfter : r.after s = some rest) :
    ∃ front, ∃ tail ∈ r.tails, s = front ++ r.opening :: tail ++ rest ∧ r.after rest = none := by
  induction s with
  | nil => cases isAfter
  | cons c s ih =>
      rw [after] at isAfter
      cases later : r.after s with
      | some found =>
          rw [later, Option.some_or] at isAfter
          cases isAfter
          rcases ih later with ⟨front, tail, isTail, rfl, noReset⟩
          exact ⟨c :: front, tail, isTail, rfl, noReset⟩
      | none =>
          rw [later, Option.none_or, Option.ite_none_right_eq_some,
            Option.map_eq_some_iff] at isAfter
          rcases isAfter with ⟨rfl, tail, found, rfl⟩
          have starts : tail <+: s := by simpa using List.find?_some found
          refine ⟨[], tail, List.mem_of_find?_eq_some found, ?_,
            after_eq_none_of_suffix later (List.drop_suffix _ _)⟩
          rcases starts with ⟨rest, rfl⟩
          simp

/-- No sequence ends after the one that counts. -/
theorem length_after_le {front tail rest found : List α} (isTail : tail ∈ r.tails)
    (isAfter : r.after (front ++ r.opening :: tail ++ rest) = some found) :
    found.length ≤ rest.length := by
  rw [after_append (closed_reset isTail front), after_reset isTail, Option.map_some,
    List.nil_append] at isAfter
  cases later : r.after rest with
  | none =>
      rw [later, Option.none_or] at isAfter
      cases isAfter
      exact le_rfl
  | some shorter =>
      rw [later, Option.some_or] at isAfter
      cases isAfter
      rcases after_eq_some later with ⟨_, _, _, rfl, _⟩
      simp only [List.length_append, List.length_cons]
      omega

theorem after_remaining (s : List α) : r.after (r.remaining s) = none := by
  rw [remaining]
  cases found : r.after s with
  | none => exact found
  | some rest =>
      rcases after_eq_some found with ⟨_, _, _, _, noReset⟩
      exact noReset

/-- What is left begins at a place to cut. -/
theorem exists_closed_remaining (s : List α) :
    ∃ front, r.Closed front ∧ s = front ++ r.remaining s := by
  rw [remaining]
  cases found : r.after s with
  | none => exact ⟨[], closed_nil, rfl⟩
  | some rest =>
      rcases after_eq_some found with ⟨front, tail, isTail, whole, _⟩
      exact ⟨front ++ r.opening :: tail, closed_reset isTail front, whole⟩

section Lines

variable {c : α} (other : c ≠ r.opening) (absent : ∀ tail ∈ r.tails, c ∉ tail)

include other absent

/-- What stands before the unfinished line of what is left is a place to cut. -/
theorem exists_closed_front (s : List α) :
    ∃ front, r.Closed front ∧ s = front ++ unfinished c (r.remaining s) := by
  rcases exists_closed_remaining s with ⟨before, closed, shape⟩
  rcases lines_cases (c := c) (r.remaining s) with ⟨-, same, -⟩ | ⟨front, whole, -⟩
  · rw [same]
    exact ⟨before, closed, shape⟩
  · refine ⟨before ++ front ++ [c], closed_separator other absent _, ?_⟩
    nth_rewrite 1 [shape, whole]
    simp

/-- A stream goes on from the unfinished line. -/
theorem after_continue (s later : List α) :
    r.after (s ++ later) =
      (r.after (unfinished c (r.remaining s) ++ later)).or ((r.after s).map (· ++ later)) := by
  rcases exists_closed_front other absent s with ⟨front, closed, whole⟩
  have noReset : r.after (unfinished c (r.remaining s)) = none :=
    after_eq_none_of_suffix (after_remaining s) (unfinished_suffix _)
  generalize unfinished c (r.remaining s) = rest at whole noReset
  have before : r.after s = (r.after front).map (· ++ rest) := by
    rw [whole, after_append closed, noReset, Option.none_or]
  rw [before, whole, List.append_assoc, after_append closed, Option.map_map]
  congr 2
  funext found
  exact (List.append_assoc _ _ _).symm

end Lines

end Resets

end GRoute.Resetting
