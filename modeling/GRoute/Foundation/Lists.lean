import Mathlib.Data.List.Chain
import Mathlib.Data.List.Forall2

/-!
# Lists

A map that changes no element, related lists, a search that one element can end, and chains of
several relations.
-/

namespace GRoute.Lists

universe u v

variable {α : Type u} {β : Type v} {l : List α} {a : α}

theorem map_eq_self_iff {f : α → α} : l.map f = l ↔ ∀ a ∈ l, f a = a := by
  induction l with
  | nil => simp
  | cons a rest ih => rw [List.map_cons, List.cons.injEq, ih, List.forall_mem_cons]

theorem exists_of_forall₂ {R : α → β → Prop} {m : List β} (related : List.Forall₂ R l m)
    (mem : a ∈ l) : ∃ b ∈ m, R a b := by
  induction related with
  | nil => cases mem
  | cons heads _ ih =>
      rcases List.mem_cons.mp mem with rfl | later
      · exact ⟨_, List.mem_cons_self, heads⟩
      · rcases ih later with ⟨b, isIn, holds⟩
        exact ⟨b, List.mem_cons_of_mem _ isIn, holds⟩

/-- The search finds what it finds at the only element that can end it. -/
theorem findSome?_of_only {f : α → Option β} (mem : a ∈ l)
    (only : ∀ b ∈ l, b ≠ a → f b = none) : l.findSome? f = f a := by
  classical
  induction l with
  | nil => cases mem
  | cons b l ih =>
      rw [List.forall_mem_cons] at only
      rw [List.findSome?_cons]
      by_cases same : b = a
      · subst same
        cases value : f b with
        | some v => rfl
        | none =>
            simp only [List.findSome?_eq_none_iff]
            intro c inRest
            by_cases again : c = b
            · rw [again, value]
            · exact only.2 c inRest again
      · rw [only.1 same]
        exact ih ((List.mem_cons.mp mem).resolve_left (Ne.symm same)) only.2

theorem forall_isChain {ι : Type v} {R : ι → α → α → Prop} :
    (∀ i, l.IsChain (R i)) ↔ l.IsChain fun a b => ∀ i, R i a b := by
  simp only [List.isChain_iff_getElem]
  constructor
  · intro each n inRange i
    exact each i n inRange
  · intro each i n inRange
    exact each n inRange i

end GRoute.Lists
