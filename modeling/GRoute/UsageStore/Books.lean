import GRoute.Polling
import GRoute.UsageStore

/-!
# The books of the usage store

The all-time total of a config, its totals by day and the totals of the days are kept in three maps
that `add` and the merge of the stored maps update one by one. As long as no sum overflows, the
total of a config is the sum of its days, and what the configs have on a day is at most the total
of the day.
-/

namespace GRoute

open Text Transition Polling

namespace Counts

def bytes (counts : Counts) : Direction → ℤ
  | .up => counts.up.toInt
  | .down => counts.down.toInt

@[simp]
theorem bytes_zero (direction : Direction) : (0 : Counts).bytes direction = 0 := by
  cases direction <;> rfl

/-- The sum does not overflow. -/
def Exact (a b : Counts) : Prop :=
  ∀ direction, (a + b).bytes direction = a.bytes direction + b.bytes direction

theorem exact_zero_left (a : Counts) : (0 : Counts).Exact a := by
  intro direction
  rw [zero_add, bytes_zero, zero_add]

theorem toInt_add_le {a b : Int64} (nonneg : 0 ≤ b.toInt) :
    (a + b).toInt ≤ a.toInt + b.toInt := by
  have least := a.le_toInt
  rw [Int64.toInt_add, Int.bmod_def]
  split_ifs <;> omega

/-- A sum that overflows only loses. -/
theorem bytes_add_le {a b : Counts} {direction : Direction} (nonneg : 0 ≤ b.bytes direction) :
    (a + b).bytes direction ≤ a.bytes direction + b.bytes direction := by
  cases direction with
  | up => exact toInt_add_le nonneg
  | down => exact toInt_add_le nonneg

end Counts

namespace Tables

/-- The three maps agree with each other, up and down. -/
structure Balances (tables : Tables) : Prop where
  config (direction : Direction) (key : Text) :
    (tables.total (.config key)).bytes direction =
      Tally.weighKey (Counts.bytes · direction) tables.dailyCfg key
  day (direction : Direction) (day : Text) :
    Tally.weigh (Counts.bytes · direction) (Tally.inner tables.dailyCfg day) ≤
      (tables.total (.day day)).bytes direction

theorem balances_empty : Balances {} where
  config direction _ := Counts.bytes_zero direction
  day direction _ := (Counts.bytes_zero direction).ge

theorem at_dayConfig_eq_ite_day (added : Added) (day key : Text) :
    added.at (.dayConfig day key) = if added.dayKey = day then added.at (.config key) else 0 := by
  simp only [Added.at, ite_and]

/-- A call counts for one config at most. -/
theorem at_dayConfig_eq_ite_key (added : Added) (day key : Text) :
    added.at (.dayConfig day key) =
      if added.configKey.getD [] = key then
        if added.dayKey = day ∧ added.configKey.getD [] ≠ [] then added.amount else 0
      else 0 := by
  rcases added with ⟨dayKey, _ | given, amount⟩
  · simp [Added.at]
  · simp only [Added.at, Option.some.injEq, Option.getD_some]
    by_cases same : given = key
    · subst same
      simp
    · simp [same]

section Adding

variable {tables : Tables} {now : Moment} {amount : Counts} {configKey : Option Text}
  (exact : ∀ cell, (tables.total cell).Exact (Added.at ⟨now.dayKey, configKey, amount⟩ cell))

include exact

theorem bytes_total_add (cell : Cell) (direction : Direction) :
    ((tables.add now amount configKey).total cell).bytes direction =
      (tables.total cell).bytes direction +
        (Added.at ⟨now.dayKey, configKey, amount⟩ cell).bytes direction := by
  rw [total_add]
  exact exact cell direction

theorem weigh_day_add (direction : Direction) (day : Text) :
    Tally.weigh (Counts.bytes · direction)
        (Tally.inner (tables.add now amount configKey).dailyCfg day) =
      Tally.weigh (Counts.bytes · direction) (Tally.inner tables.dailyCfg day) +
        if now.dayKey = day ∧ configKey.getD [] ≠ [] then amount.bytes direction else 0 := by
  have byKey (key : Text) := bytes_total_add exact (.dayConfig day key) direction
  simp only [at_dayConfig_eq_ite_key, apply_ite (Counts.bytes · direction),
    Counts.bytes_zero] at byKey
  exact Tally.weigh_eq_add_single (Counts.bytes_zero direction) byKey

theorem weigh_day_add_le (nonnegative : ∀ direction, 0 ≤ amount.bytes direction)
    {direction : Direction} {day : Text}
    (before : Tally.weigh (Counts.bytes · direction) (Tally.inner tables.dailyCfg day) ≤
      (tables.total (.day day)).bytes direction) :
    Tally.weigh (Counts.bytes · direction)
        (Tally.inner (tables.add now amount configKey).dailyCfg day) ≤
      ((tables.add now amount configKey).total (.day day)).bytes direction := by
  rw [weigh_day_add exact, bytes_total_add exact]
  apply add_le_add before
  simp only [Added.at, apply_ite (Counts.bytes · direction), Counts.bytes_zero, ite_and]
  -- an amount without a config counts for the day alone
  split_ifs
  · exact le_rfl
  · exact nonnegative direction
  · exact le_rfl

theorem balances_add (balances : tables.Balances)
    (nonnegative : ∀ direction, 0 ≤ amount.bytes direction) :
    (tables.add now amount configKey).Balances := by
  constructor
  · intro direction key
    have byDay (day : Text) := bytes_total_add exact (.dayConfig day key) direction
    simp only [at_dayConfig_eq_ite_day, apply_ite (Counts.bytes · direction),
      Counts.bytes_zero] at byDay
    rw [bytes_total_add exact, balances.config]
    exact (Tally.weighKey_eq_add_single (Counts.bytes_zero direction) byDay).symm
  · intro direction day
    exact weigh_day_add_le exact nonnegative (balances.day direction day)

end Adding

theorem balances_merge {stored memory : Tables} (storedBalances : stored.Balances)
    (balances : memory.Balances) (now : Moment)
    (exact : ∀ cell, (stored.total cell).Exact (memory.total cell)) :
    (stored.merge now memory).Balances := by
  have sum (cell : Cell) (direction : Direction) :
      ((stored.merge now memory).total cell).bytes direction =
        (stored.total cell).bytes direction + (memory.total cell).bytes direction := by
    rw [total_merge]
    exact exact cell direction
  constructor
  · intro direction key
    rw [sum, storedBalances.config, balances.config]
    have byDay (day : Text) := sum (.dayConfig day key) direction
    exact (Tally.weighKey_eq_add (Counts.bytes_zero direction) byDay).symm
  · intro direction day
    have byKey (key : Text) := sum (.dayConfig day key) direction
    rw [sum, Tally.weigh_eq_add (Counts.bytes_zero direction) byKey]
    exact add_le_add (storedBalances.day direction day) (balances.day direction day)

end Tables

namespace UsageStore

/-- What changes the maps in memory: a call of `add`, and the merge of stored maps. -/
inductive Booking
  | add (now : Moment) (amount : Counts) (configKey : Option Text)
  | merge (now : Moment) (stored : Tables)

def book (s : UsageStore) : Booking → UsageStore
  | .add now amount configKey => s.add now amount configKey
  | .merge now stored => { s with memory := stored.merge now s.memory }

/-- The amounts are not negative, stored maps balance, and no total overflows. -/
def Sound (s : UsageStore) : Booking → Prop
  | .add now amount configKey => (∀ direction, 0 ≤ amount.bytes direction) ∧
      ∀ cell, (s.memory.total cell).Exact (Added.at ⟨now.dayKey, configKey, amount⟩ cell)
  | .merge _ stored => stored.Balances ∧ ∀ cell, (stored.total cell).Exact (s.memory.total cell)

variable {s : UsageStore}

theorem balances_book (balances : s.memory.Balances) {booking : Booking} (sound : s.Sound booking) :
    (s.book booking).memory.Balances := by
  cases booking with
  | add now amount configKey =>
      rcases sound with ⟨nonnegative, exact⟩
      rcases s.add_cases now amount configKey with same | ⟨memory, -⟩
      · rw [book, same]
        exact balances
      · rw [book, memory]
        exact Tables.balances_add exact balances nonnegative
  | merge now stored => exact Tables.balances_merge sound.1 balances now sound.2

/-- In every run the total of each config is the sum of its days, and the configs of a day have
together at most the total of the day. -/
theorem books_balance {initial : UsageStore} (balances : initial.memory.Balances)
    (reached : Reaches (fun s booking => some (book s booking)) Sound initial s) :
    s.memory.Balances := by
  induction reached with
  | refl => exact balances
  | tail booking _ sound taken ih =>
      cases taken
      exact balances_book ih sound

theorem at_eq_amount_or_zero (added : Added) (cell : Cell) :
    added.at cell = added.amount ∨ added.at cell = 0 := by
  cases cell <;> exact ite_eq_or_eq _ _ _

/-- A hundred bytes up with one config. -/
def earlierTables : Tables := Tables.add {} sampleMoment ⟨100, 0⟩ (some (txt "c"))

theorem earlierTables_balances : earlierTables.Balances := by
  apply Tables.balances_add
  · intro cell
    rw [Tables.total_empty]
    exact Counts.exact_zero_left _
  · exact Tables.balances_empty
  · intro direction
    cases direction <;> decide

/-- Five bytes up and seven down are added before the earlier maps are merged. -/
theorem books_balance_mergedLate :
    (((start {}).book (.add sampleMoment ⟨5, 7⟩ (some (txt "c")))).book
      (.merge sampleMoment earlierTables)).memory.Balances := by
  have added : Sound (start {}) (.add sampleMoment ⟨5, 7⟩ (some (txt "c"))) := by
    constructor
    · intro direction
      cases direction <;> decide
    · intro cell
      rw [show (start {}).memory = {} from rfl, Tables.total_empty]
      exact Counts.exact_zero_left _
  have merged : Sound ((start {}).book (.add sampleMoment ⟨5, 7⟩ (some (txt "c"))))
      (.merge sampleMoment earlierTables) := by
    refine ⟨earlierTables_balances, ?_⟩
    intro cell direction
    have memory : ((start {}).book (.add sampleMoment ⟨5, 7⟩ (some (txt "c")))).memory =
        Tables.add {} sampleMoment ⟨5, 7⟩ (some (txt "c")) := rfl
    rw [memory, earlierTables, Tables.total_add, Tables.total_add, Tables.total_empty, zero_add,
      zero_add]
    rcases at_eq_amount_or_zero ⟨sampleMoment.dayKey, some (txt "c"), ⟨100, 0⟩⟩ cell with
      earlier | earlier <;>
      rcases at_eq_amount_or_zero ⟨sampleMoment.dayKey, some (txt "c"), ⟨5, 7⟩⟩ cell with
        later | later <;>
      rw [earlier, later] <;> cases direction <;> decide
  exact books_balance Tables.balances_empty ((Reaches.refl.tail _ added rfl).tail _ merged rfl)

end UsageStore

end GRoute
