import GRoute.Curve25519.Correctness

/-!
# No overflow

The functions of `Curve25519.kt` once more, with each addition, subtraction, multiplication and left
shift of a machine word checked: where the wrapping operation differs from the one on integers there
is no result. A multiplication of field elements also checks that its limbs have less than 26 bits.
The bounds of the earlier files make every check of a scalar multiplication succeed.
-/

namespace GRoute.Curve25519

open Radix Word

namespace Exact

theorem next_lt (i : Fin 16) : (i.val + 1) * (if i.val < 15 then 1 else 0) < 16 := by
  split <;> omega

theorem above_lt (k : Fin 14) : k.val + 1 < 16 := by omega

theorem below_lt (k : Fin 14) : k.val < 16 := by omega

theorem even_lt (i : Fin 16) : 2 * i.val < 32 := by omega

theorem odd_lt (i : Fin 16) : 2 * i.val + 1 < 32 := by omega

theorem bottom_lt : 0 < 16 := by decide

theorem fourteen_lt : 14 < 16 := by decide

theorem top_lt : 15 < 16 := by decide

def carStep (o : Limbs) (i : Fin 16) : Option Limbs := do
  let o := o.set i (← addExact (getElem o i (index_lt i)) (← shlExact 1 16)) (index_lt i)
  let c := (getElem o i (index_lt i)).sshiftRight 16
  let next : Fin 16 := ⟨(i + 1) * (if i.val < 15 then 1 else 0), next_lt i⟩
  let multiple ← multiplyExact (← multiplyExact 37 (← subtractExact c 1))
    (if i.val = 15 then 1 else 0)
  let o := o.set next (← addExact (getElem o next (index_lt next))
    (← addExact (← subtractExact c 1) multiple)) (index_lt next)
  return o.set i (← subtractExact (getElem o i (index_lt i)) (← shlExact c 16)) (index_lt i)

def car25519 (o : Limbs) : Option Limbs :=
  Fin.foldlM 16 carStep o

/-- The exclusive or and the mask of an exchange cannot overflow. -/
def sel25519 (p q : Limbs) (b : Int32) : Option (Limbs × Limbs) := do
  let c := ~~~(← subtractExact (b.signExtend 64) 1)
  return Fin.foldl 16 (selStep c) (p, q)

def subtractStep (t m : Limbs) (k : Fin 14) : Option Limbs := do
  let i : Fin 16 := ⟨k + 1, above_lt k⟩
  let below : Fin 16 := ⟨k, below_lt k⟩
  let m := m.set i (← subtractExact (← subtractExact (getElem t i (index_lt i)) 0xffff)
    (borrow m below)) (index_lt i)
  return m.set below (getElem m below (index_lt below) &&& 0xffff) (index_lt below)

def subtractModulus (t : Limbs) : Option Limbs := do
  let m := longArray 16
  let m := m.set 0 (← subtractExact (getElem t 0 bottom_lt) 0xffed) bottom_lt
  let m ← Fin.foldlM 14 (subtractStep t) m
  return m.set 15 (← subtractExact (← subtractExact (getElem t 15 top_lt) 0x7fff)
    (borrow m ⟨14, fourteen_lt⟩)) top_lt

def packStep (t : Limbs) : Option Limbs := do
  let m ← subtractModulus t
  let b : Int32 := (borrow m ⟨15, top_lt⟩).setWidth 32
  let m := m.set 14 (getElem m 14 fourteen_lt &&& 0xffff) fourteen_lt
  return (← sel25519 t m (← subtractExact 1 b)).1

def pack25519 (n : Limbs) : Option (ByteArray 32) := do
  let t ← car25519 (← car25519 (← car25519 n))
  let t ← Fin.foldlM 2 (fun t _ => packStep t) t
  return Fin.foldl 16 (fun o i =>
    let o := o.set (2 * i.val) ((getElem t i (index_lt i) &&& 0xff).setWidth 8) (even_lt i)
    o.set (2 * i.val + 1) ((((getElem t i (index_lt i)).sshiftRight 8) &&& 0xff).setWidth 8)
      (odd_lt i))
    (Vector.replicate 32 0)

def unpackLimb (low high : Byte) : Option Long := do
  addExact (low.signExtend 64 &&& 0xff) (← shlExact (high.signExtend 64 &&& 0xff) 8)

def unpack25519 (n : ByteArray 32) : Option Limbs := do
  let o ← Fin.foldlM 16 (fun o i => do
      let limb ← unpackLimb (getElem n (2 * i.val) (even_lt i))
        (getElem n (2 * i.val + 1) (odd_lt i))
      return o.set i limb (index_lt i))
    (longArray 16)
  return o.set 15 (getElem o 15 top_lt &&& 0x7fff) top_lt

def add (a b : Limbs) : Option Limbs :=
  Fin.foldlM 16 (fun o i => do
      return o.set i (← addExact (getElem a i (index_lt i)) (getElem b i (index_lt i)))
        (index_lt i))
    (longArray 16)

def sub (a b : Limbs) : Option Limbs :=
  Fin.foldlM 16 (fun o i => do
      return o.set i (← subtractExact (getElem a i (index_lt i)) (getElem b i (index_lt i)))
        (index_lt i))
    (longArray 16)

def product (a b : Limbs) : Option (LongArray 31) :=
  Fin.foldlM 16 (fun t i =>
    Fin.foldlM 16 (fun t j => do
      return t.set (i.val + j.val) (← addExact (getElem t (i.val + j.val) (position_lt i j))
        (← multiplyExact (getElem a i (index_lt i)) (getElem b j (index_lt j))))
        (position_lt i j)) t)
    (longArray 31)

def foldUpper (t : LongArray 31) : Option (LongArray 31) :=
  Fin.foldlM 15 (fun t i => do
    return t.set i.val (← addExact (getElem t i.val (lower_lt i))
      (← multiplyExact 38 (getElem t (i.val + 16) (upper_lt i)))) (lower_lt i)) t

def mul (a b : Limbs) : Option Limbs :=
  if Narrow a ∧ Narrow b then do
    let t ← foldUpper (← product a b)
    car25519 (← car25519 (lowLimbs t))
  else none

def sqr (a : Limbs) : Option Limbs := mul a a

def invStep (i c : Limbs) (a : ℕ) : Option Limbs := do
  let c ← sqr c
  if a ≠ 2 ∧ a ≠ 4 then mul c i else return c

def inv25519 (i : Limbs) : Option Limbs :=
  Fin.foldlM 254 (fun c k => invStep i c (253 - k.val)) i

def ladderArith (x : Limbs) (s : Ladder) : Option Ladder := do
  let ⟨a, b, c, d⟩ := s
  let e ← add a c
  let a ← sub a c
  let c ← add b d
  let b ← sub b d
  let d ← sqr e
  let f ← sqr a
  let a ← mul c a
  let c ← mul b e
  let e ← add a c
  let a ← sub a c
  let b ← sqr a
  let c ← sub d f
  let a ← mul c _121665
  let a ← add a d
  let c ← mul c a
  let a ← mul d f
  let d ← mul b x
  let b ← sqr e
  return ⟨a, b, c, d⟩

def ladderSel (s : Ladder) (r : Int32) : Option Ladder := do
  let ab ← sel25519 s.a s.b r
  let cd ← sel25519 s.c s.d r
  return ⟨ab.1, ab.2, cd.1, cd.2⟩

def ladderStep (x : Limbs) (s : Ladder) (r : Int32) : Option Ladder := do
  ladderSel (← ladderArith x (← ladderSel s r)) r

def scalarmult (n p : ByteArray 32) : Option (ByteArray 32) := do
  let z := clamp n
  let x ← unpack25519 p
  let s ← Fin.foldlM 255 (fun s k => ladderStep x s (scalarBit z ⟨254 - k.val, round_lt k⟩))
    (ladderStart x)
  pack25519 (← mul s.a (← inv25519 s.c))

section Carry

variable {x y : Long} (bounded : |x.toInt| ≤ 3 * 2 ^ 61)

include bounded

theorem addExact_radix : addExact x ((1 : Long) <<< 16) = some (x + ((1 : Long) <<< 16)) := by
  have range := abs_le.mp bounded
  have radix : ((1 : Long) <<< 16).toInt = 2 ^ 16 := by decide
  apply addExact_eq_some rfl radix
  rw [Fits]
  omega

theorem subtractExact_one : subtractExact (carryWord x) 1 = some (carryWord x - 1) := by
  have range := abs_le.mp bounded
  have one : (1 : Long).toInt = 1 := by decide
  apply subtractExact_eq_some (toInt_carryWord bounded) one
  rw [Fits]
  omega

theorem multiplyExact_37 :
    multiplyExact 37 (carryWord x - 1) = some (37 * (carryWord x - 1)) := by
  have range := abs_le.mp bounded
  have constant : (37 : Long).toInt = 37 := by decide
  apply multiplyExact_eq_some constant (toInt_carryWord_sub_one bounded)
  rw [Fits]
  omega

/-- The factor that drops the multiple except at the top limb. -/
theorem multiplyExact_flag (i : ℕ) :
    multiplyExact (37 * (carryWord x - 1)) (if i = 15 then 1 else 0) =
      some (37 * (carryWord x - 1) * (if i = 15 then 1 else 0)) := by
  have range := abs_le.mp bounded
  have flag : (if i = 15 then 1 else 0 : Long).toInt = if i = 15 then 1 else 0 := by
    split <;> decide
  apply multiplyExact_eq_some (toInt_37_mul bounded) flag
  rw [Fits]
  split <;> omega

theorem addExact_carried (i : ℕ) :
    addExact (carryWord x - 1) (37 * (carryWord x - 1) * (if i = 15 then 1 else 0)) =
      some (carryWord x - 1 + 37 * (carryWord x - 1) * (if i = 15 then 1 else 0)) := by
  have range := abs_le.mp bounded
  have multiple : (37 * (carryWord x - 1) * (if i = 15 then 1 else 0)).toInt =
      if i = 15 then 37 * (x.toInt / 2 ^ 16) else 0 := by
    split
    · rw [mul_one, toInt_37_mul bounded]
    · rw [mul_zero]
      rfl
  apply addExact_eq_some (toInt_carryWord_sub_one bounded) multiple
  rw [Fits]
  split <;> omega

theorem addExact_target (targetBounded : |y.toInt| ≤ 3 * 2 ^ 61) (i : ℕ) :
    addExact y (carryWord x - 1 + 37 * (carryWord x - 1) * (if i = 15 then 1 else 0)) =
      some (y + (carryWord x - 1 + 37 * (carryWord x - 1) * (if i = 15 then 1 else 0))) := by
  have targetRange := abs_le.mp targetBounded
  have carriedRange := abs_le.mp (abs_carried_le i bounded)
  apply addExact_eq_some rfl (toInt_carried i bounded)
  rw [Fits]
  omega

theorem shlExact_carryWord : shlExact (carryWord x) 16 = some (carryWord x <<< 16) := by
  have range := abs_le.mp bounded
  apply shlExact_eq_some (toInt_carryWord bounded)
  rw [Fits]
  omega

theorem subtractExact_carryWord :
    subtractExact (x + ((1 : Long) <<< 16)) (carryWord x <<< 16) =
      some (x + ((1 : Long) <<< 16) - carryWord x <<< 16) := by
  have range := abs_le.mp bounded
  apply subtractExact_eq_some (toInt_add_radix bounded) (toInt_carryWord_shiftLeft bounded)
  rw [Fits]
  omega

end Carry

theorem carStep_eq {o : Limbs} (bounded : Bounded o (3 * 2 ^ 61)) (i : Fin 16) :
    carStep o i = some (Curve25519.carStep o i) := by
  have here : |(o[i.val]).toInt| ≤ 3 * 2 ^ 61 := limb_eq i.isLt ▸ bounded i
  have there : |(getElem o (carryTarget i) (carryTarget_lt i)).toInt| ≤ 3 * 2 ^ 61 :=
    limb_eq (carryTarget_lt i) ▸ bounded _
  have one : (1 : Long).toInt = 1 := by decide
  rw [carStep_eq_set]
  apply bind_eq (shlExact_eq_some one (by norm_num [Fits]))
  apply bind_eq (addExact_radix here)
  simp only [next_eq_carryTarget, Fin.getElem_fin, Vector.getElem_set_self,
    Vector.getElem_set_ne _ _ (carryTarget_ne i), Vector.getElem_set_ne _ _ (carryTarget_ne i).symm]
  apply bind_eq (subtractExact_one here)
  apply bind_eq (multiplyExact_37 here)
  apply bind_eq (multiplyExact_flag here i)
  apply bind_eq (subtractExact_one here)
  apply bind_eq (addExact_carried here i)
  apply bind_eq (addExact_target here there i)
  apply bind_eq (shlExact_carryWord here)
  apply bind_eq (subtractExact_carryWord here)
  rfl

theorem car25519_eq {o : Limbs} (bounded : Bounded o (3 * 2 ^ 60)) :
    car25519 o = some (Curve25519.car25519 o) :=
  Loop.foldlM_eq_some (PartlyCarried o) Curve25519.carStep carStep o (PartlyCarried.start o)
    (fun i _ holds => holds.step i bounded)
    (fun i _ holds => carStep_eq (holds.bounded bounded i.isLt) i)

theorem add_eq {a b : Limbs} {bound : ℤ} (small : bound ≤ 2 ^ 60) (aBounded : Bounded a bound)
    (bBounded : Bounded b bound) : add a b = some (Curve25519.add a b) := by
  apply Loop.foldlM_eq_some (fun _ _ => True) _ _ _ trivial (fun _ _ _ => trivial)
  intro i state _
  have aRange := abs_le.mp (aBounded i)
  have bRange := abs_le.mp (bBounded i)
  have sum : addExact a[i] b[i] = some (a[i] + b[i]) := by
    apply addExact_eq_some (limb_eq i.isLt).symm (limb_eq i.isLt).symm
    rw [Fits]
    omega
  rw [sum]
  rfl

theorem sub_eq {a b : Limbs} {bound : ℤ} (small : bound ≤ 2 ^ 60) (aBounded : Bounded a bound)
    (bBounded : Bounded b bound) : sub a b = some (Curve25519.sub a b) := by
  apply Loop.foldlM_eq_some (fun _ _ => True) _ _ _ trivial (fun _ _ _ => trivial)
  intro i state _
  have aRange := abs_le.mp (aBounded i)
  have bRange := abs_le.mp (bBounded i)
  have difference : subtractExact a[i] b[i] = some (a[i] - b[i]) := by
    apply subtractExact_eq_some (limb_eq i.isLt).symm (limb_eq i.isLt).symm
    rw [Fits]
    omega
  rw [difference]
  rfl

section Products

variable {a b : Limbs} (aBounded : Bounded a (2 ^ 26)) (bBounded : Bounded b (2 ^ 26))

include aBounded bBounded

theorem multiplyExact_limbs (i j : Fin 16) :
    multiplyExact (getElem a i (index_lt i)) (getElem b j (index_lt j)) =
      some (getElem a i (index_lt i) * getElem b j (index_lt j)) := by
  have aHere := aBounded i
  have bHere := bBounded j
  have range := abs_le.mp (abs_product_le aHere bHere)
  apply multiplyExact_eq_some (limb_eq i.isLt).symm (limb_eq j.isLt).symm
  rw [Fits]
  omega

theorem addExact_entry {t acc : LongArray 31} {i : Fin 16} (j : Fin 16)
    (row : PartRow a b t i j acc) :
    addExact (getElem acc (i.val + j.val) (position_lt i j))
        (getElem a i (index_lt i) * getElem b j (index_lt j)) =
      some (getElem acc (i.val + j.val) (position_lt i j) +
        getElem a i (index_lt i) * getElem b j (index_lt j)) := by
  have aHere := aBounded i
  have bHere := bBounded j
  have range := abs_le.mp (abs_product_le aHere bHere)
  have entry := abs_le.mp (row.entry_le j)
  rw [limb_eq i.isLt] at aHere range
  rw [limb_eq j.isLt] at bHere range
  apply addExact_eq_some rfl (toInt_product aHere bHere)
  rw [Fits]
  omega

theorem product_eq : product a b = some (Curve25519.product a b) := by
  apply Loop.foldlM_eq_some (PartProduct a b) (productRow a b) _ _ (PartProduct.start a b)
    (fun i _ part => part.step aBounded bBounded i)
  intro i t part
  apply Loop.foldlM_eq_some (PartRow a b t i) _ _ _ (PartRow.start part.entries)
    (fun j _ row => row.step aBounded bBounded j)
  intro j acc row
  rw [multiplyExact_limbs aBounded bBounded, Option.bind_eq_bind, Option.bind_some,
    addExact_entry aBounded bBounded j row]
  rfl

end Products

theorem foldUpper_eq {t : LongArray 31} (tBounded : ∀ k, |limb t k| ≤ 2 ^ 56) :
    foldUpper t = some (Curve25519.foldUpper t) := by
  apply Loop.foldlM_eq_some (PartlyFolded t) _ _ _ (by intro k; simp)
    (fun _ _ folded => folded.step tBounded)
  intro i acc folded
  have lower := abs_le.mp (tBounded i)
  have upper := abs_le.mp (tBounded (i + 16))
  have constant : (38 : Long).toInt = 38 := by decide
  have weighted : multiplyExact 38 (getElem acc (i.val + 16) (upper_lt i)) =
      some (38 * getElem acc (i.val + 16) (upper_lt i)) := by
    apply multiplyExact_eq_some constant folded.entries.2
    rw [Fits]
    omega
  have sum : addExact (getElem acc i.val (lower_lt i))
      (38 * getElem acc (i.val + 16) (upper_lt i)) =
        some (getElem acc i.val (lower_lt i) + 38 * getElem acc (i.val + 16) (upper_lt i)) := by
    apply addExact_eq_some folded.entries.1 (folded.weighted tBounded)
    rw [Fits]
    omega
  rw [weighted, Option.bind_eq_bind, Option.bind_some, sum]
  rfl

/-- A multiplication of limbs that are a little narrower than it demands. -/
theorem mul_eq {a b : Limbs} (aBounded : Bounded a (2 ^ 25)) (bBounded : Bounded b (2 ^ 25)) :
    mul a b = some (Curve25519.mul a b) := by
  have narrow {v : Limbs} (bounded : Bounded v (2 ^ 25)) : Narrow v :=
    fun i _ => (bounded i).trans_lt (by norm_num)
  have product := product_spec (narrow aBounded).bounded (narrow bBounded).bounded
  have low := lowLimbs_bounded product.2
  rw [mul, if_pos ⟨narrow aBounded, narrow bBounded⟩, mul_eq_car25519]
  apply bind_eq (product_eq (narrow aBounded).bounded (narrow bBounded).bounded)
  apply bind_eq (foldUpper_eq product.2)
  apply bind_eq (car25519_eq low)
  exact car25519_eq (car25519_bounded low)

theorem mul_bounded {a b : Limbs} (aBounded : Bounded a (2 ^ 25)) (bBounded : Bounded b (2 ^ 25)) :
    Bounded (Curve25519.mul a b) (2 ^ 17) :=
  (mul_spec (aBounded.mono (by norm_num)) (bBounded.mono (by norm_num))).1.bounded

theorem sqr_eq {a : Limbs} (bounded : Bounded a (2 ^ 25)) : sqr a = some (Curve25519.sqr a) :=
  mul_eq bounded bounded

theorem invStep_eq {i c : Limbs} (iBounded : Bounded i (2 ^ 25)) (cBounded : Bounded c (2 ^ 25))
    (a : ℕ) : invStep i c a = some (Curve25519.invStep i c a) := by
  have square : Bounded (Curve25519.sqr c) (2 ^ 17) := mul_bounded cBounded cBounded
  rw [invStep, Curve25519.invStep, sqr_eq cBounded, Option.bind_eq_bind, Option.bind_some]
  by_cases skipped : a ≠ 2 ∧ a ≠ 4
  · rw [if_pos skipped, if_pos skipped]
    exact mul_eq (square.mono (by norm_num)) iBounded
  · rw [if_neg skipped, if_neg skipped]
    rfl

theorem invStep_bounded {i c : Limbs} (iBounded : Bounded i (2 ^ 25))
    (cBounded : Bounded c (2 ^ 25)) (a : ℕ) : Bounded (Curve25519.invStep i c a) (2 ^ 25) := by
  have square : Bounded (Curve25519.sqr c) (2 ^ 25) :=
    (mul_bounded cBounded cBounded).mono (by norm_num)
  unfold Curve25519.invStep
  split
  · exact (mul_bounded square iBounded).mono (by norm_num)
  · exact square

theorem inv25519_eq {i : Limbs} (bounded : Bounded i (2 ^ 25)) :
    inv25519 i = some (Curve25519.inv25519 i) ∧ Bounded (Curve25519.inv25519 i) (2 ^ 25) := by
  constructor
  · exact Loop.foldlM_eq_some (fun _ c => Bounded c (2 ^ 25)) _ _ i bounded
      (fun k c cBounded => invStep_bounded bounded cBounded (253 - k))
      (fun k c cBounded => invStep_eq bounded cBounded (253 - k))
  · exact Loop.foldl_invariant (fun _ c => Bounded c (2 ^ 25)) _ i bounded
      (fun k c cBounded => invStep_bounded bounded cBounded (253 - k))

theorem sel25519_eq (p q : Limbs) (bit : Bool) :
    sel25519 p q (bitWord bit) = some (Curve25519.sel25519 p q (bitWord bit)) := by
  have word : ((bitWord bit).signExtend 64).toInt = if bit then 1 else 0 := by
    cases bit <;> decide
  have one : (1 : Long).toInt = 1 := by decide
  have mask : subtractExact ((bitWord bit).signExtend 64) 1 =
      some ((bitWord bit).signExtend 64 - 1) := by
    apply subtractExact_eq_some word one
    cases bit <;> norm_num [Fits]
  rw [sel25519, mask]
  rfl

theorem ladderSel_eq (s : Ladder) (bit : Bool) :
    ladderSel s (bitWord bit) = some (Curve25519.ladderSel s (bitWord bit)) := by
  rw [ladderSel, sel25519_eq, sel25519_eq]
  rfl

theorem ladderArith_eq {x : Limbs} (xBounded : Bounded x (2 ^ 25)) {s : Ladder} (small : s.Small) :
    ladderArith x s = some (Curve25519.ladderArith x s) := by
  have tiny : (2 : ℤ) ^ 17 ≤ 2 ^ 60 := by norm_num
  have wide {v : Limbs} (bounded : Bounded v (2 ^ 17)) : Bounded v (2 ^ 25) :=
    bounded.mono (by norm_num)
  have sum {a b : Limbs} (aBounded : Bounded a (2 ^ 17)) (bBounded : Bounded b (2 ^ 17)) :
      Bounded (Curve25519.add a b) (2 ^ 25) :=
    (add_bounded tiny aBounded bBounded).mono (by norm_num)
  have difference {a b : Limbs} (aBounded : Bounded a (2 ^ 17)) (bBounded : Bounded b (2 ^ 17)) :
      Bounded (Curve25519.sub a b) (2 ^ 25) :=
    (sub_bounded tiny aBounded bBounded).mono (by norm_num)
  -- the bound of each variable, in the order of the assignments
  have e₀ := sum small.a small.c
  have a₁ := difference small.a small.c
  have c₁ := sum small.b small.d
  have b₁ := difference small.b small.d
  have d₁ : Bounded (Curve25519.sqr _) (2 ^ 17) := mul_bounded e₀ e₀
  have f : Bounded (Curve25519.sqr _) (2 ^ 17) := mul_bounded a₁ a₁
  have a₂ := mul_bounded c₁ a₁
  have c₂ := mul_bounded b₁ e₀
  have e₁ := sum a₂ c₂
  have a₃ := difference a₂ c₂
  have b₂ : Bounded (Curve25519.sqr _) (2 ^ 17) := mul_bounded a₃ a₃
  have c₃ := difference d₁ f
  have a₄ := mul_bounded c₃ (wide tight_121665)
  have a₅ := sum a₄ d₁
  apply bind_eq (add_eq tiny small.a small.c)
  apply bind_eq (sub_eq tiny small.a small.c)
  apply bind_eq (add_eq tiny small.b small.d)
  apply bind_eq (sub_eq tiny small.b small.d)
  apply bind_eq (sqr_eq e₀)
  apply bind_eq (sqr_eq a₁)
  apply bind_eq (mul_eq c₁ a₁)
  apply bind_eq (mul_eq b₁ e₀)
  apply bind_eq (add_eq tiny a₂ c₂)
  apply bind_eq (sub_eq tiny a₂ c₂)
  apply bind_eq (sqr_eq a₃)
  apply bind_eq (sub_eq tiny d₁ f)
  apply bind_eq (mul_eq c₃ (wide tight_121665))
  apply bind_eq (add_eq tiny a₄ d₁)
  apply bind_eq (mul_eq c₃ a₅)
  apply bind_eq (mul_eq (wide d₁) (wide f))
  apply bind_eq (mul_eq (wide b₂) xBounded)
  apply bind_eq (sqr_eq e₁)
  rfl

theorem ladderStep_eq {x : Limbs} (xBounded : Bounded x (2 ^ 25)) {s : Ladder} (small : s.Small)
    (bit : Bool) : ladderStep x s (bitWord bit) =
      some (Curve25519.ladderStep x s (bitWord bit)) := by
  have before := ladderSel_spec small bit bit
  apply bind_eq (ladderSel_eq s bit)
  apply bind_eq (ladderArith_eq xBounded before.1)
  exact ladderSel_eq _ bit

theorem ladderStep_small {x : Limbs} (xBounded : Bounded x (2 ^ 25)) {s : Ladder} (small : s.Small)
    (bit : Bool) : (Curve25519.ladderStep x s (bitWord bit)).Small := by
  have before := ladderSel_spec small bit bit
  have formulas := ladderArith_spec (xBounded.mono (by norm_num)) before.1 bit
  exact (ladderSel_spec formulas.1 bit bit).1

theorem unpackLimb_eq (low high : Byte) :
    unpackLimb low high = some (Curve25519.unpackLimb low high) := by
  have lowLt : low.toNat < 2 ^ 8 := low.isLt
  have highLt : high.toNat < 2 ^ 8 := high.isLt
  have lowInt : (low.signExtend 64 &&& 0xff).toInt = low.toNat :=
    toInt_signExtend_and_255 low (by norm_num)
  have highInt : (high.signExtend 64 &&& 0xff).toInt = high.toNat :=
    toInt_signExtend_and_255 high (by norm_num)
  have fits : Fits 64 ((high.toNat : ℤ) * 2 ^ 8) := by
    rw [Fits]
    omega
  have shifted : ((high.signExtend 64 &&& 0xff) <<< 8).toInt = high.toNat * 2 ^ 8 := by
    rw [toInt_shiftLeft, highInt]
    rw [highInt]
    exact fits
  have sum := addExact_eq_some lowInt shifted (by rw [Fits]; omega)
  rw [unpackLimb, shlExact_eq_some highInt fits, Option.bind_eq_bind, Option.bind_some, sum]
  rfl

theorem unpack25519_eq (p : ByteArray 32) :
    unpack25519 p = some (Curve25519.unpack25519 p) := by
  have loop := Loop.foldlM_eq_some (fun _ _ => True)
    (fun (o : Limbs) (i : Fin 16) => o.set i (Curve25519.unpackLimb
      (getElem p (2 * i.val) (even_lt i)) (getElem p (2 * i.val + 1) (odd_lt i))))
    (fun o i => do
      let limb ← unpackLimb (getElem p (2 * i.val) (even_lt i))
        (getElem p (2 * i.val + 1) (odd_lt i))
      return o.set i limb)
    (longArray 16) trivial (fun _ _ _ => trivial)
    (by
      intro i o _
      rw [unpackLimb_eq]
      rfl)
  rw [unpack25519, loop]
  rfl

section Packing

variable {t m : Limbs} (canonical : Canonical t)

include canonical

/-- Both subtractions of a round are exact: the limb of the modulus, then the borrow. -/
theorem subtractExact_borrow {k : Long} {i : ℕ} (lt : i + 1 < 16)
    (here : limb m i = borrowed t i) (constant : k.toInt = modulusLimb (i + 1)) :
    subtractExact (getElem t (i + 1) lt) k = some (getElem t (i + 1) lt - k) ∧
      subtractExact (getElem t (i + 1) lt - k) (borrow m ⟨i, Nat.lt_of_succ_lt lt⟩) =
        some (getElem t (i + 1) lt - k - borrow m ⟨i, Nat.lt_of_succ_lt lt⟩) := by
  have word : t[i + 1].toInt = limb t (i + 1) := (limb_eq lt).symm
  have range := canonical (i + 1)
  have modulusRange := modulusLimb_range (i + 1)
  have borrowRange := borrow_range canonical (i + 1)
  have borrowInt : (borrow m ⟨i, Nat.lt_of_succ_lt lt⟩).toInt =
      -carryIn (2 ^ 16) (difference t) (i + 1) := toInt_borrow canonical _ here
  have first : (t[i + 1] - k).toInt = limb t (i + 1) - modulusLimb (i + 1) := by
    rw [Word.toInt_sub, word, constant]
    rw [word, constant, Fits]
    omega
  constructor
  · apply subtractExact_eq_some word constant
    rw [Fits]
    omega
  · apply subtractExact_eq_some first borrowInt
    rw [Fits]
    omega

theorem subtractStep_eq (k : Fin 14) (holds : PartlySubtracted t k m) :
    subtractStep t m k = some (Curve25519.subtractStep t m k) := by
  have here := holds k (by omega)
  rw [if_neg (by omega), if_pos rfl] at here
  have constant : (0xffff : Long).toInt = modulusLimb (k + 1) := by
    rw [modulusLimb, if_neg (by omega), if_neg (by omega)]
    decide
  have round := subtractExact_borrow canonical (above_lt k) here constant
  simp only [subtractStep, Fin.getElem_fin, round.1, round.2, Option.bind_eq_bind,
    Option.bind_some, Option.pure_def]
  rfl

theorem subtractModulus_eq : subtractModulus t = some (Curve25519.subtractModulus t) := by
  have range := canonical 0
  have constant : (0xffed : Long).toInt = 0xffed := by decide
  have first : subtractExact (getElem t 0 (by decide)) 0xffed =
      some (getElem t 0 (by decide) - 0xffed) := by
    apply subtractExact_eq_some (limb_eq (by decide)).symm constant
    rw [Fits]
    omega
  have loop := Loop.foldlM_eq_some (PartlySubtracted t) (Curve25519.subtractStep t) (subtractStep t)
    _ (PartlySubtracted.start canonical) (fun k _ holds => holds.step canonical k)
    (fun k _ holds => subtractStep_eq canonical k holds)
  have last := partlySubtracted_loop canonical 14 (by norm_num)
  rw [if_neg (by norm_num), if_pos rfl] at last
  have top := subtractExact_borrow canonical (k := 0x7fff) (by norm_num) last (by decide)
  apply bind_eq first
  apply bind_eq loop
  apply bind_eq top.1
  apply bind_eq top.2
  rfl

theorem packStep_eq : packStep t = some (Curve25519.packStep t) := by
  have one : (1 : Int32).toInt = 1 := by decide
  have borrowInt : ((borrow (Curve25519.subtractModulus t) 15).setWidth 32 : Int32).toInt =
      if num t < Rfc7748.modulus then 1 else 0 := by
    rw [borrow_subtractModulus canonical]
    split <;> decide
  have choice : subtractExact (1 : Int32)
      ((borrow (Curve25519.subtractModulus t) 15).setWidth 32) =
        some (bitWord (decide (¬ num t < Rfc7748.modulus))) := by
    rw [← packStep_choice canonical]
    apply subtractExact_eq_some one borrowInt
    split <;> norm_num [Fits]
  apply bind_eq (subtractModulus_eq canonical)
  apply bind_eq choice
  apply bind_eq (sel25519_eq _ _ _)
  rw [Curve25519.packStep, packStep_choice canonical]
  rfl

end Packing

theorem pack25519_eq {n : Limbs} (bounded : Bounded n (2 ^ 26)) :
    pack25519 n = some (Curve25519.pack25519 n) := by
  have first : Bounded n (3 * 2 ^ 60) := bounded.mono (by norm_num)
  have second := car25519_bounded first
  have rounds := Loop.foldlM_eq_some (fun _ t => Canonical t) (fun t (_ : Fin 2) =>
    Curve25519.packStep t) (fun t _ => packStep t) _ (car25519_thrice bounded).1
    (fun _ _ canonical => (packStep_spec canonical).1) (fun _ _ canonical => packStep_eq canonical)
  apply bind_eq (car25519_eq first)
  apply bind_eq (car25519_eq second)
  apply bind_eq (car25519_eq (car25519_bounded second))
  apply bind_eq rounds
  rfl

/-- No operation of a scalar multiplication overflows, and the limbs of every multiplication of
field elements have less than 26 bits. -/
theorem scalarmult_exact (n p : ByteArray 32) :
    scalarmult n p = some (Curve25519.scalarmult n p) := by
  have point := unpack25519_bounded p
  have wide {v : Limbs} (bounded : Bounded v (2 ^ 17)) : Bounded v (2 ^ 25) :=
    bounded.mono (by norm_num)
  have ladder := Loop.foldlM_eq_some (fun _ (s : Ladder) => s.Small)
    (fun s (k : Fin 255) => Curve25519.ladderStep (Curve25519.unpack25519 p) s
      (scalarBit (clamp n) ⟨254 - k.val, round_lt k⟩))
    (fun s k => ladderStep (Curve25519.unpack25519 p) s
      (scalarBit (clamp n) ⟨254 - k.val, round_lt k⟩))
    _ (simulates_start point).small
    (by
      intro k s small
      rw [scalarBit_clamp]
      exact ladderStep_small (wide point) small _)
    (by
      intro k s small
      rw [scalarBit_clamp]
      exact ladderStep_eq (wide point) small _)
  rcases simulates_ladder n p with ⟨small, _⟩
  have inverse := inv25519_eq (wide small.c)
  apply bind_eq (unpack25519_eq p)
  apply bind_eq ladder
  apply bind_eq inverse.1
  apply bind_eq (mul_eq (wide small.a) inverse.2)
  exact pack25519_eq ((mul_bounded (wide small.a) inverse.2).mono (by norm_num))

end Exact

end GRoute.Curve25519
