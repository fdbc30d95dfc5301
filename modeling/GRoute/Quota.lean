import GRoute.ConfigStore
import GRoute.Foundation.Integers

/-!
# Quota verdicts

`quotaCheck` of the probe and `quotaChips` of the list of subscriptions judge the same numbers.
The probe compares seconds and multiplies by nine before it divides by ten, in 64 bits; the chip
counts days from milliseconds and rounds toward zero. The verdicts are right as long as the
product does not overflow to the wrong side, and they agree but for the day after the end.
-/

namespace GRoute

open Text

inductive DebugLevel
  | ok
  | warn
  | bad
  deriving DecidableEq, Repr

structure DebugCheck where
  partKey : Text
  level : DebugLevel
  noteKey : Text := []
  value : Text := []
  deriving DecidableEq, Repr

namespace Quota

/-- `quotaCheck`, at an instant in milliseconds. -/
def quotaCheck (c : ProxyConfig) (store : Option ConfigStore) (millis : Int64) :
    Option DebugCheck := do
  let sub ← store.bind fun store => store.subscriptions.find? fun sub => sub.id = c.subId
  let used := Int64.ofInt sub.used
  let total := Int64.ofInt sub.total
  let expire := Int64.ofInt sub.expire
  if ¬ (0 < total ∨ 0 < expire) then none
  else
    let now := millis / 1000
    if 1 ≤ expire ∧ expire < now then
      some ⟨txt "dbg_part_quota", .bad, txt "dbg_sub_expired", sub.name⟩
    else if 0 < total ∧ total ≤ used then
      some ⟨txt "dbg_part_quota", .bad, txt "dbg_sub_exhausted", sub.name⟩
    else if 0 < total ∧ total * 9 / 10 < used then
      some ⟨txt "dbg_part_quota", .warn, txt "dbg_sub_low", sub.name⟩
    else if 0 < expire ∧ expire - now < 3 * 86400 then
      some ⟨txt "dbg_part_quota", .warn, txt "dbg_sub_ending", sub.name⟩
    else none

/-- What a chip says; its label is made from these numbers. -/
inductive Chip
  | left (remaining total : Int64)
  | expiresIn (daysLeft : Int64)
  deriving DecidableEq, Repr

/-- The chips with their levels. -/
def quotaChips (sub : Subscription) (millis : Int64) : List (Chip × ℕ) :=
  let used := Int64.ofInt sub.used
  let total := Int64.ofInt sub.total
  let expire := Int64.ofInt sub.expire
  if total ≤ 0 ∧ expire ≤ 0 then []
  else
    let left :=
      if 0 < total then
        let remaining := max (total - used) 0
        let frac := remaining.toFloat32 / total.toFloat32
        [(Chip.left remaining total, if frac ≤ 0.10 then 2 else if frac ≤ 0.30 then 1 else 0)]
      else []
    let daysLeft := (expire * 1000 - millis) / 86400000
    left ++
      if 0 < expire ∧ 0 ≤ daysLeft then
        [(.expiresIn daysLeft, if daysLeft ≤ 1 then 2 else if daysLeft ≤ 3 then 1 else 0)]
      else []

/-- The numbers are 64-bit and not negative. -/
structure Amounts (sub : Subscription) : Prop where
  used : 0 ≤ sub.used ∧ sub.used < 2 ^ 63
  total : 0 ≤ sub.total ∧ sub.total < 2 ^ 63
  expire : 0 ≤ sub.expire ∧ sub.expire < 2 ^ 63

/-- The second of the end is over. -/
def Expired (sub : Subscription) (millis : Int64) : Prop :=
  0 < sub.expire ∧ sub.expire < millis.toInt / 1000

def Exhausted (sub : Subscription) : Prop := 0 < sub.total ∧ sub.total ≤ sub.used

def Reports (c : ProxyConfig) (store : Option ConfigStore) (millis : Int64) (note : String) :
    Prop :=
  ∃ check, quotaCheck c store millis = some check ∧ check.noteKey = txt note

def ShowsExpiry (sub : Subscription) (millis : Int64) : Prop :=
  ∃ daysLeft level, (Chip.expiresIn daysLeft, level) ∈ quotaChips sub millis

/-- The low quota is reported exactly when more than nine tenths are used, and no chip counts the
days of a subscription that the probe reports expired. -/
structure VerdictsRight (c : ProxyConfig) (store : ConfigStore) (sub : Subscription)
    (millis : Int64) : Prop where
  low : Reports c store millis "dbg_sub_low" ↔
    (¬ Expired sub millis ∧ ¬ Exhausted sub) ∧ 0 < sub.total ∧ 9 * sub.total < 10 * sub.used
  chip : ShowsExpiry sub millis → ¬ Reports c store millis "dbg_sub_expired"

/-- A `Long` that wraps around from above only gets smaller. -/
theorem bmod_le_self {z : ℤ} (nonneg : 0 ≤ z) : z.bmod (2 ^ 64) ≤ z := by
  rw [Int.bmod_def]
  split_ifs <;> omega

variable {sub : Subscription} {millis : Int64}

theorem toInt_nineTenths {sub : Subscription} (amounts : Amounts sub) :
    (Int64.ofInt sub.total * 9 / 10).toInt = ((9 * sub.total).bmod (2 ^ 64)).tdiv 10 := by
  have total := amounts.total
  rw [Int64.toInt_div_of_ne_right _ _ (by decide), Int64.toInt_mul,
    Int64.toInt_ofInt_of_le (by omega) total.2, mul_comm]
  rfl

theorem expired_iff (amounts : Amounts sub) :
    1 ≤ Int64.ofInt sub.expire ∧ Int64.ofInt sub.expire < millis / 1000 ↔ Expired sub millis := by
  have expire := amounts.expire
  rw [Int64.le_iff_toInt_le, Int64.lt_iff_toInt_lt, Int64.toInt_ofInt_of_le (by omega) expire.2,
    Int64.toInt_div_of_ne_right _ _ (by decide)]
  change 1 ≤ sub.expire ∧ sub.expire < millis.toInt.tdiv 1000 ↔
    0 < sub.expire ∧ sub.expire < millis.toInt / 1000
  rcases Integers.tdiv_cases millis.toInt 1000 with ⟨nonneg, quotient⟩ | ⟨negative, quotient⟩ <;>
    rw [quotient] <;> omega

/-- More than nine tenths is more than the product wrapped around and divided. -/
theorem tdiv_lt_of_nineTenths (amounts : Amounts sub) (low : 9 * sub.total < 10 * sub.used) :
    ((9 * sub.total).bmod (2 ^ 64)).tdiv 10 < sub.used := by
  have total := amounts.total
  have wrapped : (9 * sub.total).bmod (2 ^ 64) ≤ 9 * sub.total := bmod_le_self (by omega)
  rcases Integers.tdiv_cases ((9 * sub.total).bmod (2 ^ 64)) 10 with
    ⟨nonneg, quotient⟩ | ⟨negative, quotient⟩ <;> rw [quotient] <;> omega

theorem pos_ofInt_iff {z : ℤ} (long : 0 ≤ z ∧ z < 2 ^ 63) : 0 < Int64.ofInt z ↔ 0 < z := by
  rw [Int64.lt_iff_toInt_lt, Int64.toInt_ofInt_of_le (by omega) long.2]
  rfl

theorem exhausted_iff (amounts : Amounts sub) :
    0 < Int64.ofInt sub.total ∧ Int64.ofInt sub.total ≤ Int64.ofInt sub.used ↔ Exhausted sub := by
  have total := amounts.total
  have used := amounts.used
  rw [pos_ofInt_iff total, Int64.le_iff_toInt_le, Int64.toInt_ofInt_of_le (by omega) total.2,
    Int64.toInt_ofInt_of_le (by omega) used.2, Exhausted]

theorem low_iff (amounts : Amounts sub) :
    0 < Int64.ofInt sub.total ∧ Int64.ofInt sub.total * 9 / 10 < Int64.ofInt sub.used ↔
      0 < sub.total ∧ ((9 * sub.total).bmod (2 ^ 64)).tdiv 10 < sub.used := by
  have used := amounts.used
  rw [pos_ofInt_iff amounts.total, Int64.lt_iff_toInt_lt, toInt_nineTenths amounts,
    Int64.toInt_ofInt_of_le (by omega) used.2]

/-- The test of the probe for a low quota. -/
def Low (sub : Subscription) : Prop :=
  0 < sub.total ∧ ((9 * sub.total).bmod (2 ^ 64)).tdiv 10 < sub.used

section Verdicts

variable {c : ProxyConfig} {store : ConfigStore}
  (found : (store.subscriptions.find? fun sub => sub.id = c.subId) = some sub)

include found

/-- What the probe reports, by its tests in their order. -/
theorem quotaCheck_cases (amounts : Amounts sub) (millis : Int64) :
    Expired sub millis ∧ quotaCheck c store millis =
        some ⟨txt "dbg_part_quota", .bad, txt "dbg_sub_expired", sub.name⟩ ∨
      (¬ Expired sub millis ∧ Exhausted sub) ∧ quotaCheck c store millis =
        some ⟨txt "dbg_part_quota", .bad, txt "dbg_sub_exhausted", sub.name⟩ ∨
      ((¬ Expired sub millis ∧ ¬ Exhausted sub) ∧ Low sub) ∧ quotaCheck c store millis =
        some ⟨txt "dbg_part_quota", .warn, txt "dbg_sub_low", sub.name⟩ ∨
      ¬ Expired sub millis ∧ ¬ Low sub ∧
        ∀ check ∈ quotaCheck c store millis, check.noteKey = txt "dbg_sub_ending" := by
  simp only [quotaCheck, Option.bind_some, Option.bind_eq_bind, found]
  split_ifs with active expired exhausted low ending
  · exact .inl ⟨(expired_iff amounts).mp expired, rfl⟩
  · exact .inr (.inl ⟨⟨mt (expired_iff amounts).mpr expired, (exhausted_iff amounts).mp exhausted⟩,
      rfl⟩)
  · exact .inr (.inr (.inl ⟨⟨⟨mt (expired_iff amounts).mpr expired,
      mt (exhausted_iff amounts).mpr exhausted⟩, (low_iff amounts).mp low⟩, rfl⟩))
  · refine .inr (.inr (.inr ⟨mt (expired_iff amounts).mpr expired,
      mt (low_iff amounts).mpr low, ?_⟩))
    rintro check ⟨⟩
    rfl
  · refine .inr (.inr (.inr ⟨mt (expired_iff amounts).mpr expired,
      mt (low_iff amounts).mpr low, ?_⟩))
    rintro check ⟨⟩
  · rw [pos_ofInt_iff amounts.total, pos_ofInt_iff amounts.expire, not_or] at active
    refine .inr (.inr (.inr ⟨fun expired => active.2 expired.1, fun low => active.1 low.1, ?_⟩))
    rintro check ⟨⟩

theorem reports_expired_iff (amounts : Amounts sub) :
    Reports c store millis "dbg_sub_expired" ↔ Expired sub millis := by
  rcases quotaCheck_cases found amounts millis with
    ⟨expired, verdict⟩ | ⟨⟨notExpired, -⟩, verdict⟩ | ⟨⟨⟨notExpired, -⟩, -⟩, verdict⟩ |
    ⟨notExpired, -, ending⟩
  · exact iff_of_true ⟨_, verdict, rfl⟩ expired
  · simp +decide [Reports, verdict, notExpired]
  · simp +decide [Reports, verdict, notExpired]
  · apply iff_of_false _ notExpired
    rintro ⟨check, reported, isExpired⟩
    exact absurd ((ending check reported).symm.trans isExpired) (by decide)

theorem reports_low_iff (amounts : Amounts sub) :
    Reports c store millis "dbg_sub_low" ↔ (¬ Expired sub millis ∧ ¬ Exhausted sub) ∧ Low sub := by
  rcases quotaCheck_cases found amounts millis with
    ⟨expired, verdict⟩ | ⟨⟨-, exhausted⟩, verdict⟩ | ⟨low, verdict⟩ | ⟨-, notLow, ending⟩
  · simp +decide [Reports, verdict, expired]
  · simp +decide [Reports, verdict, exhausted]
  · exact iff_of_true ⟨_, verdict, rfl⟩ low
  · apply iff_of_false _ fun low => notLow low.2
    rintro ⟨check, reported, isLow⟩
    exact absurd ((ending check reported).symm.trans isLow) (by decide)

end Verdicts

theorem showsExpiry_iff :
    ShowsExpiry sub millis ↔ 0 < Int64.ofInt sub.expire ∧
      0 ≤ (Int64.ofInt sub.expire * 1000 - millis) / 86400000 := by
  simp only [ShowsExpiry, quotaChips]
  split_ifs <;> simp_all

/-- Once the end is over, the chip is there for one more day. -/
theorem showsExpiry_iff_of_expired (amounts : Amounts sub) (expired : Expired sub millis) :
    ShowsExpiry sub millis ↔ millis.toInt - 1000 * sub.expire < 86400000 := by
  have expire := amounts.expire
  have instant := millis.toInt_lt
  rcases expired with ⟨positive, past⟩
  have product : (Int64.ofInt sub.expire * 1000).toInt = sub.expire * 1000 := by
    rw [Int64.toInt_mul, Int64.toInt_ofInt_of_le (by omega) expire.2]
    change (sub.expire * 1000).bmod (2 ^ 64) = sub.expire * 1000
    apply Int.bmod_eq_of_le_mul_two <;> omega
  have difference : (Int64.ofInt sub.expire * 1000 - millis).toInt =
      sub.expire * 1000 - millis.toInt := by
    rw [Int64.toInt_sub, product]
    apply Int.bmod_eq_of_le_mul_two <;> omega
  rw [showsExpiry_iff, pos_ofInt_iff expire, and_iff_right positive, Int64.le_iff_toInt_le,
    Int64.toInt_div_of_ne_right _ _ (by decide), difference]
  change 0 ≤ (sub.expire * 1000 - millis.toInt).tdiv 86400000 ↔ _
  rcases Integers.tdiv_cases (sub.expire * 1000 - millis.toInt) 86400000 with
    ⟨nonneg, quotient⟩ | ⟨negative, quotient⟩ <;> rw [quotient] <;> omega

theorem verdictsRight_iff_and {c : ProxyConfig} {store : ConfigStore} :
    VerdictsRight c store sub millis ↔
      (Reports c store millis "dbg_sub_low" ↔ (¬ Expired sub millis ∧ ¬ Exhausted sub) ∧
        0 < sub.total ∧ 9 * sub.total < 10 * sub.used) ∧
      (ShowsExpiry sub millis → ¬ Reports c store millis "dbg_sub_expired") :=
  ⟨fun right => ⟨right.low, right.chip⟩, fun right => ⟨right.1, right.2⟩⟩

/-- The verdicts are right if and only if the product does not wrap around to a value below what is
used, unless more than nine tenths are used anyway, and the end is not over or over for a day. -/
theorem verdictsRight_iff {c : ProxyConfig} {store : ConfigStore} (amounts : Amounts sub)
    (found : (store.subscriptions.find? fun sub => sub.id = c.subId) = some sub) :
    VerdictsRight c store sub millis ↔
      (Expired sub millis ∨ Exhausted sub ∨ sub.total = 0 ∨
        sub.used ≤ ((9 * sub.total).bmod (2 ^ 64)).tdiv 10 ∨ 9 * sub.total < 10 * sub.used) ∧
      (¬ Expired sub millis ∨ 86400000 ≤ millis.toInt - 1000 * sub.expire) := by
  have nonneg := amounts.total.1
  rw [verdictsRight_iff_and]
  apply and_congr
  · rw [reports_low_iff found amounts, Low]
    by_cases expired : Expired sub millis
    · simp only [expired, not_true_eq_false, false_and, true_or]
    by_cases exhausted : Exhausted sub
    · simp only [exhausted, not_true_eq_false, false_and, and_false, true_or, or_true]
    simp only [expired, exhausted, not_false_eq_true, and_self, true_and, false_or]
    by_cases low : 9 * sub.total < 10 * sub.used
    · simp only [low, tdiv_lt_of_nineTenths amounts low, or_true]
    · simp only [low, and_false, iff_false, not_and, not_lt, or_false]
      have noTotal : sub.total = 0 ↔ ¬ 0 < sub.total := by omega
      rw [noTotal, imp_iff_not_or]
  · rw [reports_expired_iff found amounts, ← imp_iff_not_or]
    constructor
    · intro hidden expired
      by_contra recent
      exact hidden ((showsExpiry_iff_of_expired amounts expired).mpr (not_le.mp recent)) expired
    · intro long shows expired
      exact not_lt.mpr (long expired) ((showsExpiry_iff_of_expired amounts expired).mp shows)

def sampleConfig : ProxyConfig :=
  { name := txt "a", protocol := txt "vless", address := txt "h", port := 443, subId := txt "s",
    id := txt "1" }

/-- A hundred gigabytes, of which 95 are used, until the second 1700000000. -/
def sampleSub : Subscription :=
  { name := txt "plan", url := [], used := 95 * 2 ^ 30, total := 100 * 2 ^ 30,
    expire := 1700000000, id := txt "s" }

theorem verdictsRight_sample :
    VerdictsRight sampleConfig { subscriptions := [sampleSub] } sampleSub 1690000000000 := by
  apply (verdictsRight_iff ?_ (by decide +kernel)).mpr
  · refine ⟨.inr (.inr (.inr (.inr (by decide)))), .inl ?_⟩
    intro expired
    exact absurd expired.2 (by decide)
  · constructor <;> decide

/-- An hour after its end a subscription is reported expired while the chip counts its days, and a
quarter of 2^62 bytes is reported as a low rest. -/
theorem not_verdictsRight_hourAfter :
    ¬ VerdictsRight sampleConfig { subscriptions := [{ sampleSub with total := 0 }] }
        { sampleSub with total := 0 } 1700003600000 ∧
      ¬ VerdictsRight sampleConfig
        { subscriptions := [{ sampleSub with used := 2 ^ 60, total := 2 ^ 62 }] }
        { sampleSub with used := 2 ^ 60, total := 2 ^ 62 } 1690000000000 := by
  constructor
  · intro right
    apply right.chip
    · exact ⟨0, 2, by decide +kernel⟩
    · exact ⟨_, rfl, by decide +kernel⟩
  · intro right
    have low := right.low.mp ⟨_, rfl, by decide +kernel⟩
    exact absurd low.2.2 (by decide)

end Quota

end GRoute
