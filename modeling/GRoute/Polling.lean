import GRoute.Foundation.Lists
import Mathlib.Algebra.Order.Field.Rat
import Mathlib.Data.Rat.Floor
import Mathlib.Tactic.Linarith

/-!
# Polling the byte counters

The loops that report the traffic of the two engines to `VpnBridge`: `startPolling` of the Xray
service and `startStats` of the IKE controller. The receiver passes what a loop calls the speeds to
`UsageStore.add` as amounts. The first loop sends differences. The second divides them by the
seconds since the last round, which are exact rationals here.
-/

namespace GRoute.Polling

/-- What a round reads: the bytes up and down, and the clock in milliseconds. -/
structure Reading where
  up : ℤ
  down : ℤ
  now : ℤ
  deriving DecidableEq, Repr

/-- What `sendCounters` sends. The receiver passes the last two to `UsageStore.add`. -/
structure Counters where
  totalUp : ℤ
  totalDown : ℤ
  upSpeed : ℤ
  downSpeed : ℤ
  deriving DecidableEq, Repr

/-- What a loop sends, round by round. -/
def sent {σ ρ μ : Type*} (round : σ → ρ → μ × σ) : σ → List ρ → List μ
  | _, [] => []
  | state, reading :: readings =>
      (round state reading).1 :: sent round (round state reading).2 readings

structure Polled where
  lastUp : ℤ
  lastDown : ℤ

def Polled.round (last : Polled) (reading : Reading) : Counters × Polled :=
  (⟨reading.up, reading.down, max (reading.up - last.lastUp) 0,
      max (reading.down - last.lastDown) 0⟩,
    ⟨reading.up, reading.down⟩)

def startPolling (readings : List Reading) : List Counters := sent Polled.round ⟨0, 0⟩ readings

/-- The number that stands for no statistics. -/
def unsupported : ℤ := -1

/-- `tx` and `rx`. -/
def uidBytes (v : ℤ) : ℤ := if v = unsupported ∨ v < 0 then 0 else v

/-- The conversion to `Long` drops the fraction and stays in the range. -/
def toLong (x : ℚ) : ℤ := max (-2 ^ 63) (min (2 ^ 63 - 1) (if 0 ≤ x then ⌊x⌋ else ⌈x⌉))

def seconds (elapsed : ℤ) : ℚ := max (elapsed / 1000) (1 / 1000)

def speed (amount : ℤ) (secs : ℚ) : ℤ := max (toLong (amount / secs)) 0

structure Stats where
  baseUp : ℤ
  baseDown : ℤ
  lastUp : ℤ
  lastDown : ℤ
  lastAt : ℤ

def Stats.round (last : Stats) (reading : Reading) : Counters × Stats :=
  let up := max (uidBytes reading.up - last.baseUp) 0
  let down := max (uidBytes reading.down - last.baseDown) 0
  let secs := seconds (reading.now - last.lastAt)
  (⟨up, down, speed (up - last.lastUp) secs, speed (down - last.lastDown) secs⟩,
    { last with lastUp := up, lastDown := down, lastAt := reading.now })

/-- The first reading is made before the loop. -/
def startStats (first : Reading) (readings : List Reading) : List Counters :=
  sent Stats.round ⟨uidBytes first.up, uidBytes first.down, 0, 0, first.now⟩ readings

inductive Engine
  | xray
  | ike
  deriving DecidableEq, Repr

inductive Direction
  | up
  | down
  deriving DecidableEq, Repr

def Reading.bytes (reading : Reading) : Direction → ℤ
  | .up => reading.up
  | .down => reading.down

/-- The amount that is passed to `UsageStore.add`. -/
def Counters.amount (direction : Direction) (counters : Counters) : ℤ :=
  match direction with
  | .up => counters.upSpeed
  | .down => counters.downSpeed

/-- A run of a loop, with the reading at its start. -/
structure Session where
  first : Reading
  readings : List Reading

namespace Engine

def counters (session : Session) : Engine → List Counters
  | xray => startPolling session.readings
  | ike => startStats session.first session.readings

/-- The counter of the engine, as the loop reads it. -/
def counter (engine : Engine) (direction : Direction) (reading : Reading) : ℤ :=
  match engine with
  | xray => reading.bytes direction
  | ike => uidBytes (reading.bytes direction)

/-- What the loop counts from: the Xray service counts from zero. -/
def baseline (session : Session) : Engine → Reading
  | xray => { session.first with up := 0, down := 0 }
  | ike => session.first

/-- After every round, the amounts so far are the increase of the counter so far. -/
def Accounts (engine : Engine) (session : Session) : Prop :=
  ∀ direction rounds,
    (((engine.counters session).map (Counters.amount direction)).take rounds).sum =
      engine.counter direction ((session.readings.take rounds).getLastD (engine.baseline session)) -
        engine.counter direction (engine.baseline session)

/-- The counter never decreases, from the baseline on, and is a `Long`. -/
structure Counts (engine : Engine) (session : Session) : Prop where
  nondecreasing : (engine.baseline session :: session.readings).IsChain fun last reading =>
    ∀ direction, engine.counter direction last ≤ engine.counter direction reading
  isLong : ∀ reading ∈ session.readings, ∀ direction,
    engine.counter direction reading ≤ 2 ^ 63 - 1

end Engine

/-- The difference over the seconds is the difference. -/
def KeepsAmount (elapsed amount : ℤ) : Prop :=
  amount = 0 ∨ max elapsed 1 ≤ 1000 ∧
    (amount * 1000 < (amount + 1) * max elapsed 1 ∨ amount = 2 ^ 63 - 1)

/-- Every interval of the IKE controller keeps its amounts. -/
def Engine.KeepsAmounts (engine : Engine) (session : Session) : Prop :=
  engine = .xray ∨
    (engine.baseline session :: session.readings).IsChain fun last reading =>
      ∀ direction, KeepsAmount (reading.now - last.now)
        (engine.counter direction reading - engine.counter direction last)

section Sums

variable {ρ : Type*}

/-- An amount for each reading and the one before. -/
def amounts (amount : ρ → ρ → ℤ) : ρ → List ρ → List ℤ
  | _, [] => []
  | last, reading :: readings => amount last reading :: amounts amount reading readings

theorem sum_amounts_iff {amount : ρ → ρ → ℤ} {value : ρ → ℤ} {last : ρ} {readings : List ρ} :
    (∀ rounds, ((amounts amount last readings).take rounds).sum =
      value ((readings.take rounds).getLastD last) - value last) ↔
      (last :: readings).IsChain fun a b => amount a b = value b - value a := by
  induction readings generalizing last with
  | nil => simp [amounts]
  | cons reading readings ih =>
      rw [List.isChain_cons_cons, ← ih]
      constructor
      · intro sums
        have one := sums 1
        simp only [amounts, List.take_succ_cons, List.take_zero, List.sum_cons, List.sum_nil,
          add_zero, List.getLastD_cons, List.getLastD_nil] at one
        refine ⟨one, ?_⟩
        intro rounds
        have more := sums (rounds + 1)
        simp only [amounts, List.take_succ_cons, List.sum_cons, List.getLastD_cons] at more
        linarith
      · rintro ⟨one, sums⟩ rounds
        cases rounds with
        | zero => simp
        | succ rounds =>
            have rest := sums rounds
            simp only [amounts, List.take_succ_cons, List.sum_cons, List.getLastD_cons]
            linarith

end Sums

/-- The amount that a loop passes on for two readings in a row. -/
def Engine.amount (engine : Engine) (direction : Direction) (last reading : Reading) : ℤ :=
  let difference := engine.counter direction reading - engine.counter direction last
  match engine with
  | .xray => max difference 0
  | .ike => speed difference (seconds (reading.now - last.now))

theorem amounts_startPolling (direction : Direction) (last : Reading) (readings : List Reading) :
    (sent Polled.round ⟨last.up, last.down⟩ readings).map (Counters.amount direction) =
      amounts (Engine.amount .xray direction) last readings := by
  induction readings generalizing last with
  | nil => rfl
  | cons reading readings ih =>
      rw [sent, List.map_cons, amounts]
      congr 1
      · cases direction <;> rfl
      · exact ih reading

theorem amounts_startStats {baseUp baseDown : ℤ} {last : Reading} {readings : List Reading}
    (direction : Direction)
    (nondecreasing : (last :: readings).IsChain fun last reading =>
      ∀ direction, Engine.ike.counter direction last ≤ Engine.ike.counter direction reading)
    (aboveUp : baseUp ≤ uidBytes last.up) (aboveDown : baseDown ≤ uidBytes last.down) :
    (sent Stats.round ⟨baseUp, baseDown, uidBytes last.up - baseUp, uidBytes last.down - baseDown,
        last.now⟩ readings).map (Counters.amount direction) =
      amounts (Engine.amount .ike direction) last readings := by
  induction readings generalizing last with
  | nil => rfl
  | cons reading readings ih =>
      rw [List.isChain_cons_cons] at nondecreasing
      have stillUp : baseUp ≤ uidBytes reading.up := aboveUp.trans (nondecreasing.1 .up)
      have stillDown : baseDown ≤ uidBytes reading.down := aboveDown.trans (nondecreasing.1 .down)
      have up : max (uidBytes reading.up - baseUp) 0 = uidBytes reading.up - baseUp :=
        max_eq_left (sub_nonneg.mpr stillUp)
      have down : max (uidBytes reading.down - baseDown) 0 = uidBytes reading.down - baseDown :=
        max_eq_left (sub_nonneg.mpr stillDown)
      rw [sent, List.map_cons, amounts, ← ih nondecreasing.2 stillUp stillDown]
      simp only [Stats.round, up, down]
      congr 1
      cases direction with
      | up => simp [Counters.amount, Engine.amount, Engine.counter, Reading.bytes]
      | down => simp [Counters.amount, Engine.amount, Engine.counter, Reading.bytes]

theorem Engine.amounts_counters {engine : Engine} {session : Session}
    (counts : engine.Counts session) (direction : Direction) :
    (engine.counters session).map (Counters.amount direction) =
      amounts (engine.amount direction) (engine.baseline session) session.readings := by
  cases engine with
  | xray => exact amounts_startPolling direction (baseline session .xray) session.readings
  | ike =>
      have run := amounts_startStats direction counts.nondecreasing le_rfl le_rfl
      rw [sub_self, sub_self] at run
      exact run

theorem seconds_eq (elapsed : ℤ) : seconds elapsed = ((max elapsed 1 : ℤ) : ℚ) / 1000 := by
  rw [seconds, Int.cast_max, Int.cast_one, max_div_div_right (by norm_num)]

theorem speed_seconds {amount : ℤ} (nonneg : 0 ≤ amount) (elapsed : ℤ) :
    speed amount (seconds elapsed) = min (2 ^ 63 - 1) (amount * 1000 / max elapsed 1) := by
  have positive : 0 < max elapsed 1 := lt_max_of_lt_right one_pos
  have quotient : (amount : ℚ) / seconds elapsed =
      ((amount * 1000 : ℤ) : ℚ) / ((max elapsed 1).toNat : ℚ) := by
    rw [seconds_eq, div_div_eq_mul_div]
    congr 1
    · push_cast
      rfl
    · exact_mod_cast (Int.toNat_of_nonneg positive.le).symm
  have nonnegQuotient : 0 ≤ amount * 1000 / max elapsed 1 :=
    Int.ediv_nonneg (by positivity) positive.le
  have nonnegRat : (0 : ℚ) ≤ ((amount * 1000 : ℤ) : ℚ) / ((max elapsed 1).toNat : ℚ) := by
    positivity
  rw [speed, quotient, toLong, if_pos nonnegRat, Rat.floor_intCast_div_natCast,
    Int.toNat_of_nonneg positive.le]
  omega

theorem speed_eq_iff {elapsed amount : ℤ} (nonneg : 0 ≤ amount) (isLong : amount ≤ 2 ^ 63 - 1) :
    speed amount (seconds elapsed) = amount ↔ KeepsAmount elapsed amount := by
  have positive : 0 < max elapsed 1 := lt_max_of_lt_right one_pos
  rw [speed_seconds nonneg, KeepsAmount]
  generalize max elapsed 1 = millis at positive ⊢
  have atLeast : amount ≤ amount * 1000 / millis ↔ amount = 0 ∨ millis ≤ 1000 := by
    rw [Int.le_ediv_iff_mul_le positive]
    rcases nonneg.eq_or_lt with zero | pos
    · simp [← zero]
    · rw [mul_le_mul_iff_right₀ pos]
      exact (or_iff_right pos.ne').symm
  have atMost : amount * 1000 / millis < amount + 1 ↔ amount * 1000 < (amount + 1) * millis :=
    Int.ediv_lt_iff_lt_mul positive
  -- The quotient is the amount, or it is cut to the amount, which is then the greatest `Long`.
  have cut : min (2 ^ 63 - 1) (amount * 1000 / millis) = amount ↔
      amount ≤ amount * 1000 / millis ∧
        (amount * 1000 / millis < amount + 1 ∨ amount = 2 ^ 63 - 1) := by
    generalize amount * 1000 / millis = quotient
    omega
  rw [cut, atLeast, atMost]
  constructor
  · rintro ⟨zero | short, rest⟩
    · exact .inl zero
    · exact .inr ⟨short, rest⟩
  · rintro (rfl | ⟨short, rest⟩)
    · exact ⟨.inl rfl, .inl (by simpa using positive)⟩
    · exact ⟨.inr short, rest⟩

theorem uidBytes_nonneg (v : ℤ) : 0 ≤ uidBytes v := by
  rw [uidBytes]
  split_ifs with negative
  · exact le_rfl
  · rw [not_or] at negative
    exact not_lt.mp negative.2

namespace Engine

variable {engine : Engine} {session : Session}

theorem accounts_iff_isChain (counts : engine.Counts session) :
    engine.Accounts session ↔
      (engine.baseline session :: session.readings).IsChain fun last reading =>
        ∀ direction, engine.amount direction last reading =
          engine.counter direction reading - engine.counter direction last := by
  simp only [Accounts, amounts_counters counts, sum_amounts_iff]
  exact Lists.forall_isChain

theorem accounts_xray (counts : xray.Counts session) : xray.Accounts session := by
  rw [accounts_iff_isChain counts]
  apply counts.nondecreasing.imp
  intro last reading increases direction
  exact max_eq_left (sub_nonneg.mpr (increases direction))

/-- Every interval counts on its own. -/
theorem accounts_ike_iff (counts : ike.Counts session) :
    ike.Accounts session ↔ ike.KeepsAmounts session := by
  rw [accounts_iff_isChain counts, KeepsAmounts, or_iff_right (by decide)]
  have increases := counts.nondecreasing
  rw [List.isChain_iff_getElem] at increases ⊢
  rw [List.isChain_iff_getElem]
  apply forall_congr'
  intro i
  apply forall_congr'
  intro inRange
  apply forall_congr'
  intro direction
  have isReading : (ike.baseline session :: session.readings)[i + 1] ∈ session.readings := by
    rw [List.getElem_cons_succ]
    exact List.getElem_mem _
  have fits := counts.isLong _ isReading direction
  have counted := uidBytes_nonneg
    ((ike.baseline session :: session.readings)[i].bytes direction)
  apply speed_eq_iff (sub_nonneg.mpr (increases i inRange direction))
  exact (sub_le_self _ counted).trans fits

/-- The amounts account for the counters if and only if the engine is the Xray service or every
interval keeps its amounts. -/
theorem accounts_iff_keepsAmounts (counts : engine.Counts session) :
    engine.Accounts session ↔ engine.KeepsAmounts session := by
  cases engine with
  | xray => exact iff_of_true (accounts_xray counts) (.inl rfl)
  | ike => exact accounts_ike_iff counts

end Engine

/-- Two rounds, each of the given length. -/
def twoRounds (millis : ℤ) : Session where
  first := ⟨500, 700, 0⟩
  readings := [⟨1500, 900, millis⟩, ⟨1500, 2900, 2 * millis⟩]

theorem counts_twoRounds (engine : Engine) (millis : ℤ) : engine.Counts (twoRounds millis) := by
  constructor
  · refine .cons_cons ?_ (.cons_cons ?_ (.singleton _)) <;> intro direction <;>
      cases engine <;> cases direction <;>
      norm_num [twoRounds, Engine.baseline, Engine.counter, Reading.bytes, uidBytes, unsupported]
  · simp only [twoRounds, List.forall_mem_cons]
    refine ⟨?_, ?_, by simp⟩ <;> intro direction <;> cases engine <;> cases direction <;>
      norm_num [Engine.counter, Reading.bytes, uidBytes, unsupported]

/-- Rounds of exactly a second. -/
theorem accounts_twoRounds : Engine.ike.Accounts (twoRounds 1000) := by
  refine (Engine.accounts_iff_keepsAmounts (counts_twoRounds .ike 1000)).mpr (.inr ?_)
  refine .cons_cons ?_ (.cons_cons ?_ (.singleton _)) <;> intro direction <;>
    cases direction <;> unfold KeepsAmount <;> decide

/-- Rounds that take a quarter of a second longer. -/
theorem not_accounts_twoRounds :
    Engine.ike.Counts (twoRounds 1250) ∧ ¬ Engine.ike.Accounts (twoRounds 1250) := by
  refine ⟨counts_twoRounds .ike 1250, ?_⟩
  intro accounts
  have up := accounts .up 2
  exact absurd up (by decide +kernel)

end GRoute.Polling
