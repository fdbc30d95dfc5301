import Mathlib.Data.List.Nodup
import Mathlib.Data.List.Sublists

/-!
# Repeated keys

An element of a list that stands after another one with the same key is a repeat, the element
that a search for its key finds is the first of its class. In a list without equal elements every
element is one or the other.
-/

namespace GRoute

variable {α κ : Type*}

/-- The element stands after one with the same key. -/
def RepeatedIn (key : α → κ) (l : List α) (a : α) : Prop := ∃ b, key b = key a ∧ [b, a].Sublist l

section

variable {key : α → κ} {l : List α} {a b x : α}

theorem RepeatedIn.mem (repeated : RepeatedIn key l a) : a ∈ l := by
  rcases repeated with ⟨b, -, sublist⟩
  exact sublist.subset (by simp)

@[simp]
theorem not_repeatedIn_nil : ¬RepeatedIn key [] a := by
  rintro ⟨b, -, sublist⟩
  cases sublist

@[simp]
theorem repeatedIn_cons :
    RepeatedIn key (x :: l) a ↔ RepeatedIn key l a ∨ key x = key a ∧ a ∈ l := by
  simp only [RepeatedIn, List.cons_sublist_cons', List.singleton_sublist]
  constructor
  · rintro ⟨b, same, inRest | ⟨rfl, inRest⟩⟩
    · exact .inl ⟨b, same, inRest⟩
    · exact .inr ⟨same, inRest⟩
  · rintro (⟨b, same, inRest⟩ | ⟨same, inRest⟩)
    · exact ⟨b, same, .inl inRest⟩
    · exact ⟨x, same, .inr ⟨rfl, inRest⟩⟩

end

variable [DecidableEq κ]

/-- The element is the first with its key. -/
def FirstIn (key : α → κ) (l : List α) (a : α) : Prop := l.find? (fun b => key b = key a) = some a

instance [DecidableEq α] (key : α → κ) (l : List α) (a : α) : Decidable (FirstIn key l a) :=
  inferInstanceAs (Decidable (_ = _))

variable {key : α → κ} {l : List α} {a b x : α}

theorem FirstIn.mem (first : FirstIn key l a) : a ∈ l := List.mem_of_find?_eq_some first

theorem FirstIn.eq (first : FirstIn key l a) (other : FirstIn key l b) (same : key a = key b) :
    a = b := by
  rw [FirstIn, same, other, Option.some.injEq] at first
  exact first.symm

/-- Every class has a first element. -/
theorem exists_firstIn (mem : a ∈ l) : ∃ b, FirstIn key l b ∧ key b = key a := by
  have found : (l.find? fun b => key b = key a).isSome :=
    List.find?_isSome.mpr ⟨a, mem, decide_eq_true rfl⟩
  rcases Option.isSome_iff_exists.mp found with ⟨b, isFirst⟩
  have same : key b = key a := by simpa using List.find?_some isFirst
  refine ⟨b, ?_, same⟩
  rw [FirstIn, same]
  exact isFirst

theorem firstIn_of_not_repeatedIn (mem : a ∈ l) (fresh : ¬RepeatedIn key l a) :
    FirstIn key l a := by
  induction l with
  | nil => cases mem
  | cons x rest ih =>
      rw [repeatedIn_cons, not_or] at fresh
      rcases List.mem_cons.mp mem with rfl | inRest
      · exact List.find?_cons_of_pos (decide_eq_true rfl)
      · have other : key x ≠ key a := fun same => fresh.2 ⟨same, inRest⟩
        rw [FirstIn, List.find?_cons_of_neg (by simpa using other)]
        exact ih inRest fresh.1

theorem FirstIn.not_repeatedIn (distinct : l.Nodup) (first : FirstIn key l a) :
    ¬RepeatedIn key l a := by
  induction l with
  | nil => exact not_repeatedIn_nil
  | cons x rest ih =>
      rw [List.nodup_cons] at distinct
      rw [repeatedIn_cons, not_or]
      by_cases same : key x = key a
      · rw [FirstIn, List.find?_cons_of_pos (by simpa using same), Option.some.injEq] at first
        rw [← first]
        exact ⟨fun again => distinct.1 again.mem, fun again => distinct.1 again.2⟩
      · rw [FirstIn, List.find?_cons_of_neg (by simpa using same)] at first
        exact ⟨ih distinct.2 first, fun again => same again.1⟩

theorem not_repeatedIn_iff (distinct : l.Nodup) (mem : a ∈ l) :
    ¬RepeatedIn key l a ↔ FirstIn key l a :=
  ⟨firstIn_of_not_repeatedIn mem, FirstIn.not_repeatedIn distinct⟩

/-- The first elements of the classes alone do not repeat a key. -/
theorem not_repeatedIn_of_sublist {firsts : List α} (distinct : l.Nodup)
    (sublist : firsts.Sublist l) (each : ∀ b ∈ firsts, FirstIn key l b) :
    ¬RepeatedIn key firsts a := by
  rintro ⟨b, same, pair⟩
  have first : FirstIn key l a := each a (pair.subset (by simp))
  exact first.not_repeatedIn distinct ⟨b, same, pair.trans sublist⟩

end GRoute
