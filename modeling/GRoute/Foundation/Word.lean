import Mathlib.Algebra.Order.Ring.Int
import Mathlib.Tactic.Linarith
import Mathlib.Tactic.NormNum
import Mathlib.Tactic.Positivity
import Mathlib.Tactic.Ring

/-!
# Signed machine words without overflow

Wrapping arithmetic on a `w`-bit word agrees with integer arithmetic as long as
the exact result fits the word. `Fits` states that side condition; each operation
has one lemma that reads its signed value as the exact integer operation. Right
shifts and low-bit masks need no side condition: they are the floor division and
the remainder by a power of two, for negative words too. A checked operation has the
result of the wrapping one, and none where that is not the exact one.
-/

namespace GRoute.Word

variable {w : ℕ}

/-- The integer `z` is the signed value of some `w`-bit word. -/
def Fits (w : ℕ) (z : ℤ) : Prop := -(2 : ℤ) ^ w ≤ 2 * z ∧ 2 * z < 2 ^ w

theorem bmod_of_fits {z : ℤ} (fits : Fits w z) : z.bmod (2 ^ w) = z := by
  apply Int.bmod_eq_of_le_mul_two
  · push_cast
    linarith [fits.1]
  · push_cast
    linarith [fits.2]

theorem toInt_add {x y : BitVec w} (fits : Fits w (x.toInt + y.toInt)) :
    (x + y).toInt = x.toInt + y.toInt := by
  rw [BitVec.toInt_add, bmod_of_fits fits]

theorem toInt_sub {x y : BitVec w} (fits : Fits w (x.toInt - y.toInt)) :
    (x - y).toInt = x.toInt - y.toInt := by
  rw [BitVec.toInt_sub, bmod_of_fits fits]

theorem toInt_mul {x y : BitVec w} (fits : Fits w (x.toInt * y.toInt)) :
    (x * y).toInt = x.toInt * y.toInt := by
  rw [BitVec.toInt_mul, bmod_of_fits fits]

/-- The arithmetic right shift is the floor division. -/
theorem toInt_shiftRight (x : BitVec w) (n : ℕ) :
    (x.sshiftRight n).toInt = x.toInt / 2 ^ n := by
  rw [BitVec.toInt_sshiftRight, Int.shiftRight_eq_div_pow]
  norm_cast

/-- The signed and the unsigned reading agree modulo every power of two the word holds. -/
theorem toInt_emod_two_pow (x : BitVec w) {n : ℕ} (small : n ≤ w) :
    x.toInt % 2 ^ n = x.toNat % 2 ^ n := by
  have divides : (2 : ℤ) ^ n ∣ ((2 ^ w : ℕ) : ℤ) := by
    push_cast
    exact pow_dvd_pow 2 small
  rw [BitVec.toInt_eq_toNat_bmod]
  have congruent := Int.emod_emod_of_dvd (Int.bmod x.toNat (2 ^ w)) divides
  rw [← congruent, Int.bmod_emod, Int.emod_emod_of_dvd _ divides]

/-- Masking the low `n` bits is the remainder by `2^n`. -/
theorem toInt_and_mask (x : BitVec w) {n : ℕ} (small : n < w) :
    (x &&& BitVec.ofNat w (2 ^ n - 1)).toInt = x.toInt % 2 ^ n := by
  have powLt : 2 ^ n < 2 ^ w := Nat.pow_lt_pow_right (by omega) small
  have powLe : 2 * 2 ^ n ≤ 2 ^ w := by
    calc 2 * 2 ^ n = 2 ^ (n + 1) := by ring
      _ ≤ 2 ^ w := Nat.pow_le_pow_right (by omega) small
  have masked : (x &&& BitVec.ofNat w (2 ^ n - 1)).toNat = x.toNat % 2 ^ n := by
    rw [BitVec.toNat_and, BitVec.toNat_ofNat, Nat.mod_eq_of_lt (by omega),
      Nat.and_two_pow_sub_one_eq_mod]
  have remainderLt : x.toNat % 2 ^ n < 2 ^ n := Nat.mod_lt _ (by positivity)
  rw [toInt_emod_two_pow x small.le, BitVec.toInt_eq_toNat_of_lt (by omega), masked]
  push_cast
  rfl

theorem toInt_shiftLeft {x : BitVec w} {n : ℕ} (fits : Fits w (x.toInt * 2 ^ n)) :
    (x <<< n).toInt = x.toInt * 2 ^ n := by
  rw [← bmod_of_fits fits, BitVec.toInt_shiftLeft, Nat.shiftLeft_eq, BitVec.toInt_eq_toNat_bmod]
  push_cast
  rw [Int.bmod_mul_bmod]

/-- Masking a sign-extended byte with `0xff` recovers its unsigned value. -/
theorem toInt_signExtend_and_255 (x : BitVec 8) (wide : 8 < w) :
    (x.signExtend w &&& 0xff).toInt = x.toNat := by
  have masked := toInt_and_mask (x.signExtend w) (n := 8) wide
  rw [BitVec.toInt_signExtend_of_le wide.le, toInt_emod_two_pow x le_rfl] at masked
  have byteLt : x.toNat < 2 ^ 8 := x.isLt
  rw [show (0xff : BitVec w) = BitVec.ofNat w (2 ^ 8 - 1) from rfl, masked]
  omega

/-- The word, if its signed value is the given one. -/
def exactly (word : BitVec w) (value : ℤ) : Option (BitVec w) :=
  if word.toInt = value then some word else none

def addExact (x y : BitVec w) : Option (BitVec w) := exactly (x + y) (x.toInt + y.toInt)

def subtractExact (x y : BitVec w) : Option (BitVec w) := exactly (x - y) (x.toInt - y.toInt)

def multiplyExact (x y : BitVec w) : Option (BitVec w) := exactly (x * y) (x.toInt * y.toInt)

def shlExact (x : BitVec w) (n : ℕ) : Option (BitVec w) := exactly (x <<< n) (x.toInt * 2 ^ n)

variable {x y : BitVec w} {a b : ℤ}

theorem addExact_eq_some (left : x.toInt = a) (right : y.toInt = b) (fits : Fits w (a + b)) :
    addExact x y = some (x + y) := by
  subst left right
  exact if_pos (toInt_add fits)

theorem subtractExact_eq_some (left : x.toInt = a) (right : y.toInt = b)
    (fits : Fits w (a - b)) : subtractExact x y = some (x - y) := by
  subst left right
  exact if_pos (toInt_sub fits)

theorem multiplyExact_eq_some (left : x.toInt = a) (right : y.toInt = b)
    (fits : Fits w (a * b)) : multiplyExact x y = some (x * y) := by
  subst left right
  exact if_pos (toInt_mul fits)

theorem shlExact_eq_some {n : ℕ} (left : x.toInt = a) (fits : Fits w (a * 2 ^ n)) :
    shlExact x n = some (x <<< n) := by
  subst left
  exact if_pos (toInt_shiftLeft fits)

/-- A sequence of checked operations, after the first of them. -/
theorem bind_eq {Value Result : Type} {first : Option Value} {value : Value}
    {rest : Value → Option Result} {result : Option Result} (succeeds : first = some value)
    (continues : rest value = result) : (first >>= rest) = result := by
  subst succeeds
  exact continues

end GRoute.Word
