import GRoute.Foundation.Text
import Mathlib.Data.Nat.Digits.Defs
import Mathlib.Tactic.IntervalCases

/-!
# Integers as text

`Integer.parseInt` and `Int.toString` for 32-bit integers. The digits are those of
`Character.digit`: every decimal digit of the basic multilingual plane, and for a
radix above ten also the ASCII and the full-width letters.
-/

namespace GRoute.Text

/-- The digit zero of each decimal script of the basic multilingual plane. -/
def zeros : List UInt16 :=
  [0x0030, 0x0660, 0x06F0, 0x07C0, 0x0966, 0x09E6, 0x0A66, 0x0AE6, 0x0B66, 0x0BE6, 0x0C66, 0x0CE6,
    0x0D66, 0x0DE6, 0x0E50, 0x0ED0, 0x0F20, 0x1040, 0x1090, 0x17E0, 0x1810, 0x1946, 0x19D0, 0x1A80,
    0x1A90, 0x1B50, 0x1BB0, 0x1C40, 0x1C50, 0xA620, 0xA8D0, 0xA900, 0xA9D0, 0xA9F0, 0xAA50, 0xABF0,
    0xFF10]

def decimalDigit (c : UInt16) : Option ℕ :=
  (zeros.find? fun zero => zero ≤ c && c ≤ zero + 9).map fun zero => c.toNat - zero.toNat

/-- The four runs of letters that `Character.digit` reads as digits above nine. -/
def letterDigit (c : UInt16) : Option ℕ :=
  ([0x41, 0x61, 0xFF21, 0xFF41].find? fun (first : UInt16) => first ≤ c && c ≤ first + 25).map
    fun first => c.toNat - first.toNat + 10

def digit (radix : ℕ) (c : UInt16) : Option ℕ :=
  ((decimalDigit c).or (letterDigit c)).filter (· < radix)

def magnitude (radix : ℕ) (s : Text) : Option ℕ :=
  if s = [] then none
  else s.foldlM (fun total c => (digit radix c).map (total * radix + ·)) 0

/-- The value of an optional sign and digits, however large. -/
def signed (radix : ℕ) (s : Text) : Option ℤ :=
  match s with
  | [] => none
  | sign :: rest =>
      if sign = unit '-' then (magnitude radix rest).map fun m => -Int.ofNat m
      else if sign = unit '+' then (magnitude radix rest).map Int.ofNat
      else (magnitude radix s).map Int.ofNat

/-- `Integer.parseInt` with a radix. -/
def parseInt (radix : ℕ) (s : Text) : Option ℤ :=
  (signed radix s).filter fun value => -2 ^ 31 ≤ value ∧ value < 2 ^ 31

def toIntOrNull (s : Text) : Option ℤ := parseInt 10 s

def decimal (n : ℕ) : Text :=
  ((if n = 0 then [0] else (Nat.digits 10 n).reverse).map fun d => UInt16.ofNat (48 + d))

/-- `Int.toString`. -/
def ofInt (z : ℤ) : Text := if z < 0 then unit '-' :: decimal z.natAbs else decimal z.natAbs

/-- The 32-bit integers. -/
def IsInt (z : ℤ) : Prop := -2 ^ 31 ≤ z ∧ z < 2 ^ 31

theorem isInt_of_toIntOrNull {s : Text} {z : ℤ} (reads : toIntOrNull s = some z) : IsInt z := by
  rw [toIntOrNull, parseInt, Option.filter_eq_some_iff] at reads
  simpa [IsInt] using reads.2

theorem isInt_getD_toIntOrNull (s : Text) : IsInt ((toIntOrNull s).getD 0) := by
  cases reads : toIntOrNull s with
  | none => exact ⟨by decide, by decide⟩
  | some z => exact isInt_of_toIntOrNull reads

theorem digits_lt (n : ℕ) :
    ∀ d ∈ (if n = 0 then [0] else (Nat.digits 10 n).reverse), d < 10 := by
  intro d mem
  split at mem
  · simp_all
  · exact Nat.digits_lt_base (by norm_num) (List.mem_reverse.mp mem)

theorem decimal_ne_nil (n : ℕ) : decimal n ≠ [] := by
  by_cases zero : n = 0
  · simp [decimal, zero]
  · simp [decimal, zero, Nat.digits_ne_nil_iff_ne_zero]

theorem mem_decimal {n : ℕ} {c : UInt16} (mem : c ∈ decimal n) :
    ∃ d < 10, c = UInt16.ofNat (48 + d) := by
  rcases List.mem_map.mp mem with ⟨d, dMem, rfl⟩
  exact ⟨d, digits_lt n d dMem, rfl⟩

theorem digit_ofNat {d : ℕ} (lt : d < 10) : digit 10 (UInt16.ofNat (48 + d)) = some d := by
  interval_cases d <;> decide

theorem foldlM_digits (ds : List ℕ) (total : ℕ) (lt : ∀ d ∈ ds, d < 10) :
    (ds.map fun d => UInt16.ofNat (48 + d)).foldlM
        (fun total c => (digit 10 c).map (total * 10 + ·)) total =
      some (ds.foldl (fun total d => total * 10 + d) total) := by
  induction ds generalizing total with
  | nil => rfl
  | cons d ds ih =>
      rw [List.map_cons, List.foldlM_cons, digit_ofNat (lt d (by simp))]
      exact ih _ fun e mem => lt e (by simp [mem])

theorem magnitude_decimal (n : ℕ) : magnitude 10 (decimal n) = some n := by
  rw [magnitude, if_neg (decimal_ne_nil n), decimal, foldlM_digits _ _ (digits_lt n)]
  congr 1
  by_cases zero : n = 0
  · simp [zero]
  · have horner := Nat.ofDigits_digits 10 n
    rw [Nat.ofDigits_eq_foldr] at horner
    rw [if_neg zero, List.foldl_reverse]
    conv_rhs => rw [← horner]
    congr 1
    funext d total
    push_cast
    ring

/-- The code units a printed integer consists of. -/
theorem mem_ofInt {z : ℤ} {c : UInt16} (mem : c ∈ ofInt z) :
    c = unit '-' ∨ ∃ d < 10, c = UInt16.ofNat (48 + d) := by
  rw [ofInt] at mem
  split at mem
  · rcases List.mem_cons.mp mem with sign | inDigits
    · exact Or.inl sign
    · exact Or.inr (mem_decimal inDigits)
  · exact Or.inr (mem_decimal mem)

theorem ofInt_ne_nil (z : ℤ) : ofInt z ≠ [] := by
  rw [ofInt]
  split
  · simp
  · exact decimal_ne_nil _

theorem not_isWhitespace_of_mem_ofInt {z : ℤ} {c : UInt16} (mem : c ∈ ofInt z) :
    isWhitespace c = false := by
  rcases mem_ofInt mem with rfl | ⟨d, lt, rfl⟩
  · decide
  · interval_cases d <;> decide

theorem trim_ofInt (z : ℤ) : trim (ofInt z) = ofInt z :=
  (trimmed_of_forall fun _ mem => not_isWhitespace_of_mem_ofInt mem).trim_eq

theorem signed_ofInt (z : ℤ) : signed 10 (ofInt z) = some z := by
  rw [ofInt]
  by_cases negative : z < 0
  · rw [if_pos negative, signed, if_pos rfl, magnitude_decimal, Option.map_some, Option.some.injEq,
      Int.ofNat_eq_natCast]
    omega
  · rw [if_neg negative]
    cases shape : decimal z.natAbs with
    | nil => exact absurd shape (decimal_ne_nil _)
    | cons first rest =>
        have isDigit : ∃ d < 10, first = UInt16.ofNat (48 + d) :=
          mem_decimal (n := z.natAbs) (by simp [shape])
        have signless : first ≠ unit '-' ∧ first ≠ unit '+' := by
          rcases isDigit with ⟨d, lt, rfl⟩
          interval_cases d <;> decide
        rw [signed, if_neg signless.1, if_neg signless.2, ← shape, magnitude_decimal,
          Option.map_some, Option.some.injEq, Int.ofNat_eq_natCast]
        omega

/-- Digits without a sign are read as their value. -/
theorem toIntOrNull_of_magnitude {s : Text} {n : ℕ} (reads : magnitude 10 s = some n)
    (fits : n < 2 ^ 31) : toIntOrNull s = some (n : ℤ) := by
  cases s with
  | nil => cases reads
  | cons first rest =>
      have unread {sign : UInt16} (notDigit : digit 10 sign = none) : first ≠ sign := by
        rintro rfl
        rw [magnitude, if_neg (List.cons_ne_nil _ _), List.foldlM_cons, notDigit] at reads
        cases reads
      have bounds : IsInt n := ⟨by omega, by exact_mod_cast fits⟩
      rw [toIntOrNull, parseInt, signed, if_neg (unread (by decide)), if_neg (unread (by decide)),
        reads, Option.map_some, Option.filter_some, if_pos]
      · rfl
      · simpa [IsInt] using bounds

/-- An integer is read back from its text. -/
theorem toIntOrNull_ofInt {z : ℤ} (isInt : IsInt z) : toIntOrNull (ofInt z) = some z := by
  rw [toIntOrNull, parseInt, signed_ofInt, Option.filter_some, if_pos]
  simpa [IsInt] using isInt

end GRoute.Text
