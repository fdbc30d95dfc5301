import GRoute.Foundation.Numeral
import GRoute.Foundation.Padded
import Mathlib.Data.Int.ConditionallyCompleteOrder

/-!
# Comparing versions

`UpdateChecker.kt` offers a release whose version is newer than that of the app. The components
between the dots are read as numbers, from their digits alone, and a component that is missing
counts as zero.
-/

namespace GRoute.UpdateChecker

open Text Padded

/-- `Char.isDigit`. -/
def isDigit (c : UInt16) : Bool := (decimalDigit c).isSome

/-- The number of a component: zero if it has no digit, or if it does not fit. -/
def component (seg : Text) : ℤ := (toIntOrNull (seg.filter isDigit)).getD 0

def parts (v : Text) : List ℤ := (split v (unit '.')).map component

def isNewer (remote installed : Text) : Bool :=
  let r := parts remote
  let l := parts installed
  ((List.range (max r.length l.length)).findSome? fun i =>
    let rv := r.getD i 0
    let lv := l.getD i 0
    if rv ≠ lv then some (decide (rv > lv)) else none).getD false

/-- A version is newer if its numbers come later in the lexicographic order. -/
theorem isNewer_iff {remote installed : Text} :
    isNewer remote installed = true ↔
      Padded.padded 0 (parts installed) < Padded.padded 0 (parts remote) :=
  exceeds_iff

/-- The version with components of zero after it. -/
def withZeros (v : Text) (count : ℕ) : Text := v ++ (List.replicate count (txt ".0")).flatten

theorem parts_withZeros (v : Text) (count : ℕ) :
    parts (withZeros v count) = parts v ++ List.replicate count 0 := by
  induction count generalizing v with
  | zero => simp [withZeros]
  | succ count ih =>
      have zero : parts (v ++ txt ".0") = parts v ++ [0] := by
        have split : split (v ++ txt ".0") (unit '.') = split v (unit '.') ++ [txt "0"] :=
          List.splitOn_append_cons_self v (txt "0")
        have value : component (txt "0") = 0 := by decide
        rw [parts, split, List.map_append, List.map_singleton, value]
        rfl
      have moved : withZeros v (count + 1) = withZeros (v ++ txt ".0") count := by
        simp [withZeros, List.replicate_succ]
      rw [moved, ih, zero, List.append_assoc]
      rfl

/-- The digits of the component have this value. -/
def HasNumber (seg : Text) (n : ℕ) : Prop := magnitude 10 (seg.filter isDigit) = some n

theorem component_of_hasNumber {seg : Text} {n : ℕ} (number : HasNumber seg n)
    (fits : n < 2 ^ 31) : component seg = n := by
  rw [component, toIntOrNull_of_magnitude number fits, Option.getD_some]

/-- A number in decimal notation. -/
theorem hasNumber_decimal (n : ℕ) : HasNumber (decimal n) n := by
  have digits : (decimal n).filter isDigit = decimal n := by
    rw [List.filter_eq_self]
    intro c mem
    rcases mem_decimal mem with ⟨d, lt, rfl⟩
    interval_cases d <;> decide
  rw [HasNumber, digits, magnitude_decimal]

theorem parts_joinWith {components : List Text} (nonempty : components ≠ [])
    (dotless : ∀ seg ∈ components, unit '.' ∉ seg) :
    parts (joinWith (unit '.') components) = components.map component := by
  rw [parts, split_joinWith dotless nonempty]

theorem isNewer_eq_false_iff {remote installed : Text} :
    isNewer remote installed = false ↔
      Padded.padded 0 (parts remote) ≤ Padded.padded 0 (parts installed) := by
  rw [← Bool.not_eq_true, isNewer_iff]
  exact not_lt

/-- Versions of which none is newer have the same numbers. -/
theorem incomparable_iff {first second : Text} :
    isNewer first second = false ∧ isNewer second first = false ↔
      Padded.padded 0 (parts first) = Padded.padded 0 (parts second) := by
  rw [isNewer_eq_false_iff, isNewer_eq_false_iff, ← le_antisymm_iff]

theorem isNewer_withZeros (a b : Text) (m n : ℕ) :
    isNewer (withZeros a m) (withZeros b n) = isNewer a b := by
  rw [Bool.eq_iff_iff, isNewer_iff, isNewer_iff, parts_withZeros, parts_withZeros,
    padded_append_replicate, padded_append_replicate]

/-- After the same components a larger number makes a version newer, whatever follows. -/
theorem isNewer_of_larger {front older newer : List Text} {old new : Text} {m n : ℕ}
    (dotless : ∀ seg ∈ front ++ old :: older ++ new :: newer, unit '.' ∉ seg)
    (oldNumber : HasNumber old m) (newNumber : HasNumber new n) (larger : m < n)
    (fits : n < 2 ^ 31) :
    isNewer (joinWith (unit '.') (front ++ new :: newer))
      (joinWith (unit '.') (front ++ old :: older)) = true := by
  have oldDotless : ∀ seg ∈ front ++ old :: older, unit '.' ∉ seg := fun seg mem =>
    dotless seg (List.mem_append_left _ mem)
  have newDotless : ∀ seg ∈ front ++ new :: newer, unit '.' ∉ seg := by
    intro seg mem
    apply dotless seg
    rcases List.mem_append.mp mem with inFront | later
    · exact List.mem_append_left _ (List.mem_append_left _ inFront)
    · exact List.mem_append_right _ later
  rw [isNewer_iff, parts_joinWith (by simp) oldDotless, parts_joinWith (by simp) newDotless,
    List.map_append, List.map_append, List.map_cons, List.map_cons,
    component_of_hasNumber oldNumber (larger.trans fits), component_of_hasNumber newNumber fits]
  exact padded_lt_of_lt _ (by exact_mod_cast larger) _ _

/-- `isNewer` is a strict weak order on all texts. Zeros at the end do not matter, and a larger
number after the same components is newer. -/
theorem isNewer_order :
    (∀ a, isNewer a a = false) ∧
      (∀ a b, isNewer a b = true → isNewer b a = false) ∧
      (∀ a b c, isNewer a b = true → isNewer b c = true → isNewer a c = true) ∧
      (Equivalence fun a b => isNewer a b = false ∧ isNewer b a = false) ∧
      (∀ a b m n, isNewer (withZeros a m) (withZeros b n) = isNewer a b) ∧
      ∀ (front older newer : List Text) (old new : Text) (m n : ℕ),
        (∀ seg ∈ front ++ old :: older ++ new :: newer, unit '.' ∉ seg) →
        HasNumber old m → HasNumber new n → m < n → n < 2 ^ 31 →
        isNewer (joinWith (unit '.') (front ++ new :: newer))
          (joinWith (unit '.') (front ++ old :: older)) = true := by
  refine ⟨?_, ?_, ?_, ?_, isNewer_withZeros, ?_⟩
  · intro a
    exact isNewer_eq_false_iff.mpr le_rfl
  · intro a b newer
    exact isNewer_eq_false_iff.mpr (isNewer_iff.mp newer).le
  · intro a b c first second
    exact isNewer_iff.mpr ((isNewer_iff.mp second).trans (isNewer_iff.mp first))
  · simp only [incomparable_iff]
    exact ⟨fun _ => rfl, Eq.symm, Eq.trans⟩
  · intro front older newer old new m n dotless oldNumber newNumber larger fits
    exact isNewer_of_larger dotless oldNumber newNumber larger fits

theorem isNewer_order_nine_ten : isNewer (txt "1.10") (txt "1.9.5") = true := by
  apply isNewer_order.2.2.2.2.2 [txt "1"] [txt "5"] [] (txt "9") (txt "10") 9 10
  · decide
  · exact hasNumber_decimal 9
  · exact hasNumber_decimal 10
  · norm_num
  · norm_num

end GRoute.UpdateChecker
