import GRoute.Foundation.CaseMapping

/-!
# Flags in a text

`flags.kt` writes a country code as two regional indicator symbols and splits a text at such pairs.
The loop of `splitFlags` moves an index over the units of the text. It is a recursion on the units
from that index on, with the parts that are complete and the plain text since the last of them.
-/

namespace GRoute.Flags

open Text

/-- `Char.lowercaseChar` of the platform. -/
structure CharCase where
  lowercaseChar : UInt16 → UInt16
  lowercaseChar_ascii {c : UInt16} (isAscii : c.toNat < 0x80) : lowercaseChar c = asciiLower c

/-- The mapping that changes the case of ASCII letters only. -/
def CharCase.ascii : CharCase where
  lowercaseChar := asciiLower
  lowercaseChar_ascii _ := rfl

def riFirst : ℕ := 0x1F1E6

def riLast : ℕ := 0x1F1FF

/-- `cp in RI_FIRST..RI_LAST`. -/
def IsIndicator (cp : ℕ) : Prop := riFirst ≤ cp ∧ cp ≤ riLast

instance (cp : ℕ) : Decidable (IsIndicator cp) := inferInstanceAs (Decidable (_ ∧ _))

/-- The two symbols of a code. Every unit gives a code point above the first plane. -/
def flagEmoji (casing : CharCase) : Text → Text
  | [first, second] =>
      units (riFirst + (casing.lowercaseChar first).toNat - (unit 'a').toNat) ++
        units (riFirst + (casing.lowercaseChar second).toNat - (unit 'a').toNat)
  | _ => []

/-- `codePointAt` for the index of the first unit. -/
def codePointAt (c : UInt16) : Text → ℕ
  | [] => c.toNat
  | d :: _ => if isHighSurrogate c && isLowSurrogate d then pairCodePoint c d else c.toNat

/-- `Character.charCount`. -/
def charCount (cp : ℕ) : ℕ := if cp < 0x10000 then 1 else 2

theorem charCount_pos (cp : ℕ) : 0 < charCount cp := by
  rw [charCount]
  split <;> norm_num

/-- `if (plain.isNotEmpty()) out.add(false to plain.toString())`. -/
def flush (out : List (Bool × Text)) (plain : Text) : List (Bool × Text) :=
  if plain = [] then out else out ++ [(false, plain)]

/-- The letter of an indicator. -/
def letter (cp : ℕ) : UInt16 := unit 'a' + UInt16.ofNat (cp - riFirst)

/-- The second code point, if there is one and both are indicators. -/
def pairedIndicator (cp : ℕ) : Text → Option ℕ
  | [] => none
  | c :: rest =>
      if IsIndicator cp ∧ IsIndicator (codePointAt c rest) then some (codePointAt c rest) else none

/-- The loop of `splitFlags`, for the units from the index on. -/
def splitFrom (out : List (Bool × Text)) (plain : Text) (rest : Text) : List (Bool × Text) :=
  match rest with
  | [] => flush out plain
  | c :: tail =>
      let cp := codePointAt c tail
      let n := charCount cp
      match pairedIndicator cp ((c :: tail).drop n) with
      | some cp2 =>
          splitFrom (flush out plain ++ [(true, [letter cp, letter cp2])]) []
            ((c :: tail).drop (n + charCount cp2))
      | none => splitFrom out (plain ++ (c :: tail).take n) ((c :: tail).drop n)
termination_by rest.length
decreasing_by
  all_goals
    have positive := charCount_pos (codePointAt c tail)
    simp only [List.length_drop, List.length_cons]
    omega

def splitFlags (text : Text) : List (Bool × Text) := splitFrom [] [] text

/-- The units of the first code point, and those after it. -/
theorem units_codePointAt (c : UInt16) (tail : Text) :
    (c :: tail).take (charCount (codePointAt c tail)) = units (codePointAt c tail) := by
  have unpaired : (c :: tail).take (charCount c.toNat) = units c.toNat := by
    rw [charCount, if_pos c.toNat_lt, units_toNat]
    rfl
  cases tail with
  | nil => exact unpaired
  | cons d tail =>
      rw [codePointAt]
      split
      · next paired =>
          rw [Bool.and_eq_true] at paired
          have large : ¬ pairCodePoint c d < 0x10000 := by
            unfold pairCodePoint
            omega
          rw [charCount, if_neg large, units_pairCodePoint paired.1 paired.2]
          rfl
      · exact unpaired

theorem units_append_drop (c : UInt16) (tail : Text) :
    units (codePointAt c tail) ++ (c :: tail).drop (charCount (codePointAt c tail)) =
      c :: tail := by
  rw [← units_codePointAt]
  exact List.take_append_drop _ _

theorem pairedIndicator_eq_some {cp cp2 : ℕ} {after : Text}
    (paired : pairedIndicator cp after = some cp2) :
    IsIndicator cp ∧ IsIndicator cp2 ∧ units cp2 ++ after.drop (charCount cp2) = after := by
  cases after with
  | nil => cases paired
  | cons c rest =>
      rw [pairedIndicator, Option.ite_none_right_eq_some, Option.some.injEq] at paired
      rcases paired with ⟨⟨first, second⟩, rfl⟩
      exact ⟨first, second, units_append_drop c rest⟩

theorem toNat_letter {cp : ℕ} (indicator : IsIndicator cp) :
    (letter cp).toNat = 97 + (cp - riFirst) := by
  have range : 0x1F1E6 ≤ cp ∧ cp ≤ 0x1F1FF := indicator
  rw [letter, riFirst, UInt16.toNat_add,
    UInt16.toNat_ofNat_of_lt' (by simp only [UInt16.size]; omega)]
  change (97 + (cp - 0x1F1E6)) % 65536 = _
  omega

theorem lowercaseChar_letter (casing : CharCase) {cp : ℕ} (indicator : IsIndicator cp) :
    casing.lowercaseChar (letter cp) = letter cp := by
  have range : 0x1F1E6 ≤ cp ∧ cp ≤ 0x1F1FF := indicator
  have value : (letter cp).toNat = 97 + (cp - 0x1F1E6) := toNat_letter indicator
  rw [casing.lowercaseChar_ascii (by omega), asciiLower, if_neg]
  rintro ⟨_, upper⟩
  have bound : (letter cp).toNat ≤ 90 := upper
  omega

/-- A code is written as the indicators that it was read from. -/
theorem flagEmoji_letters (casing : CharCase) {cp cp2 : ℕ} (first : IsIndicator cp)
    (second : IsIndicator cp2) :
    flagEmoji casing [letter cp, letter cp2] = units cp ++ units cp2 := by
  have back {cp : ℕ} (indicator : IsIndicator cp) :
      riFirst + (casing.lowercaseChar (letter cp)).toNat - (unit 'a').toNat = cp := by
    have range : riFirst ≤ cp := indicator.1
    have letterA : (unit 'a').toNat = 97 := by decide
    rw [lowercaseChar_letter casing indicator, toNat_letter indicator, letterA]
    omega
  rw [flagEmoji, back first, back second]

/-- A part as it stands in the text. -/
def partText (casing : CharCase) (part : Bool × Text) : Text :=
  if part.1 then flagEmoji casing part.2 else part.2

theorem flatMap_flush (casing : CharCase) (out : List (Bool × Text)) (plain : Text) :
    (flush out plain).flatMap (partText casing) = out.flatMap (partText casing) ++ plain := by
  rw [flush]
  split
  · next empty => rw [empty, List.append_nil]
  · simp [partText]

/-- At every index: the complete parts, the plain text and the units that are left. -/
theorem flatMap_splitFrom (casing : CharCase) (out : List (Bool × Text)) (plain rest : Text) :
    (splitFrom out plain rest).flatMap (partText casing) =
      out.flatMap (partText casing) ++ plain ++ rest := by
  fun_induction splitFrom out plain rest with
  | case1 out plain => rw [flatMap_flush, List.append_nil]
  | case2 out plain c tail cp n cp2 paired ih =>
      rcases pairedIndicator_eq_some paired with ⟨first, second, whole⟩
      have text : units cp ++ units cp2 ++ (c :: tail).drop (n + charCount cp2) = c :: tail := by
        rw [List.append_assoc, ← List.drop_drop, whole]
        exact units_append_drop c tail
      rw [ih, List.flatMap_append, flatMap_flush, List.flatMap_singleton, partText, if_pos rfl,
        flagEmoji_letters casing first second, List.append_nil,
        List.append_assoc _ _ (List.drop _ _), text]
  | case3 out plain c tail cp n unpaired ih =>
      rw [ih, List.append_assoc, List.append_assoc plain, List.take_append_drop,
        List.append_assoc]

/-- The parts of a text, with each flag written out again, are the text. -/
theorem flatMap_splitFlags (casing : CharCase) (text : Text) :
    (splitFlags text).flatMap (partText casing) = text := by
  rw [splitFlags, flatMap_splitFrom]
  rfl

end GRoute.Flags
