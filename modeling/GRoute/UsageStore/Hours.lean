import GRoute.Foundation.Calendar
import GRoute.UsageStore.Books

/-!
# The hours of the usage store

The totals of the hours and what each config has in an hour are trimmed by different rules. Each
call of `add` drops the totals of the hours before the last 744, while the amounts of the configs
are dropped only by a call with a config, only once there are more than 744 hours, and only before
the text of the first hour kept. An hour that loses its total and not the amounts of the configs
breaks the agreement of the two maps.
-/

namespace GRoute

open Text Transition Polling

/-- A `LocalDateTime`: the hour, and the nanoseconds that have passed of it. -/
structure DateTime where
  hour : Hour
  elapsed : Fin (3600 * 10 ^ 9)

namespace DateTime

/-- The hour of `minusHours(HOURLY_RETENTION_HOURS)`, which is 31 days. -/
def retained (now : DateTime) : Hour := ⟨Date.previous^[31] now.hour.date, now.hour.hour⟩

/-- What a call draws from the clock, if it does not move during the call. -/
def moment (now : DateTime) : Moment where
  dayKey := now.hour.date.toText
  hourKey := now.hour.toText
  isOld key :=
    match Hour.parse key with
    | none => false
    | some hour => hour < now.retained ∨ hour = now.retained ∧ 0 < now.elapsed.val
  cutoff := now.retained.toText

end DateTime

namespace Tables

/-- The configs have together at most the total of the hour, up and down. -/
def HoursAgree (tables : Tables) : Prop :=
  ∀ (direction : Direction) (hour : Text),
    Tally.weigh (Counts.bytes · direction) (Tally.inner tables.hourlyCfg hour) ≤
      (Tally.total tables.hourly hour).bytes direction

/-- The maps of the hours in the place of the maps of the days. -/
def hours (tables : Tables) : Tables := { usage := tables.hourly, dailyCfg := tables.hourlyCfg }

end Tables

/-- The key of the hour in the place of the key of the day. -/
def Moment.byHour (now : Moment) : Moment := { now with dayKey := now.hourKey }

namespace UsageStore

/-- A call of `add`. -/
structure Call where
  now : Moment
  amount : Counts
  configKey : Option Text

namespace Call

/-- The call is not skipped. -/
def Counted (call : Call) : Prop := ¬ (call.amount.up ≤ 0 ∧ call.amount.down ≤ 0)

/-- The amounts are not negative, and the total of no hour overflows. -/
def Fits (call : Call) (tables : Tables) : Prop :=
  (∀ direction, 0 ≤ call.amount.bytes direction) ∧
    ∀ cell, (tables.hours.total cell).Exact
      (Added.at ⟨call.now.hourKey, call.configKey, call.amount⟩ cell)

/-- The call drops the amounts that the configs have in the hour. -/
def Drops (call : Call) (tables : Tables) (hour : Text) : Prop :=
  call.configKey.getD [] ≠ [] ∧
    hourlyRetentionHours < (insert call.now.hourKey tables.hourlyCfg.support).card ∧
    hour < call.now.cutoff

/-- In each hour that loses its total, the configs lose their amounts, or they have none and the
call adds none. -/
def KeepsHours (call : Call) (tables : Tables) : Prop :=
  ∀ hour, call.now.isOld hour →
    call.Drops tables hour ∨
      (∀ direction,
        Tally.weigh (Counts.bytes · direction) (Tally.inner tables.hourlyCfg hour) = 0) ∧
      ¬ (call.now.hourKey = hour ∧ call.configKey.getD [] ≠ [])

end Call

end UsageStore

namespace Tables

open UsageStore

/-- No config has a negative amount. -/
def HoursNonneg (tables : Tables) : Prop :=
  ∀ (direction : Direction) (hour key : Text),
    0 ≤ (Tally.total (Tally.inner tables.hourlyCfg hour) key).bytes direction

theorem HoursNonneg.weigh {tables : Tables} (nonneg : tables.HoursNonneg) (direction : Direction)
    (hour : Text) :
    0 ≤ Tally.weigh (Counts.bytes · direction) (Tally.inner tables.hourlyCfg hour) :=
  Finset.sum_nonneg fun key _ => nonneg direction hour key

variable {tables : Tables} {call : Call}

/-- The maps of the hours before they are trimmed. -/
def untrimmed (tables : Tables) (call : Call) : Tables :=
  tables.hours.add call.now.byHour call.amount call.configKey

theorem exact_of_fits (fits : call.Fits tables) (cell : Cell) :
    (tables.hours.total cell).Exact
      (Added.at ⟨call.now.byHour.dayKey, call.configKey, call.amount⟩ cell) :=
  fits.2 cell

theorem total_hourly_add (tables : Tables) (call : Call) (hour : Text) :
    Tally.total (tables.add call.now call.amount call.configKey).hourly hour =
      if call.now.isOld hour then 0 else (tables.untrimmed call).total (.day hour) := by
  have trimmed : (tables.add call.now call.amount call.configKey).hourly =
      trimHourly call.now (tables.untrimmed call).usage := by
    simp only [add, untrimmed, hours, Moment.byHour]
    split <;> rfl
  rw [trimmed, trimHourly, Tally.total_filterKeys]
  cases call.now.isOld hour <;> rfl

theorem inner_hourlyCfg_add (tables : Tables) (call : Call) (hour : Text)
    [Decidable (call.Drops tables hour)] :
    Tally.inner (tables.add call.now call.amount call.configKey).hourlyCfg hour =
      if call.Drops tables hour then ∅ else Tally.inner (tables.untrimmed call).dailyCfg hour := by
  by_cases noConfig : call.configKey.getD [] = []
  · rw [if_neg fun drops => drops.1 noConfig]
    simp only [add, untrimmed, hours, Moment.byHour, if_pos noConfig]
  · have size : (bump tables.hourlyCfg call.now.hourKey (call.configKey.getD [])
        call.amount).entries.length = (insert call.now.hourKey tables.hourlyCfg.support).card :=
      Dict.length_entries_insert ..
    simp only [add, untrimmed, hours, Moment.byHour, if_neg noConfig, trimHourlyCfg, size,
      Call.Drops]
    split_ifs with few drops drops
    · exact absurd drops.2.1 (not_lt.mpr few)
    · rfl
    · rw [Tally.inner_filterKeys, if_neg (by simpa using drops.2.2)]
    · have late : ¬ hour < call.now.cutoff := fun early =>
        drops ⟨noConfig, not_le.mp few, early⟩
      rw [Tally.inner_filterKeys, if_pos (by simpa using late)]

theorem weigh_untrimmed (fits : call.Fits tables) (direction : Direction) (hour : Text) :
    Tally.weigh (Counts.bytes · direction) (Tally.inner (tables.untrimmed call).dailyCfg hour) =
      Tally.weigh (Counts.bytes · direction) (Tally.inner tables.hourlyCfg hour) +
        if call.now.hourKey = hour ∧ call.configKey.getD [] ≠ [] then
          call.amount.bytes direction else 0 :=
  weigh_day_add (exact_of_fits fits) direction hour

theorem hoursNonneg_add (nonneg : tables.HoursNonneg) (fits : call.Fits tables) :
    (tables.add call.now call.amount call.configKey).HoursNonneg := by
  classical
  intro direction hour key
  rw [inner_hourlyCfg_add]
  split_ifs
  · rw [Tally.total_empty, Counts.bytes_zero]
  · have more : (Tally.total (Tally.inner (tables.untrimmed call).dailyCfg hour) key).bytes
        direction = (Tally.total (Tally.inner tables.hourlyCfg hour) key).bytes direction +
          (Added.at ⟨call.now.hourKey, call.configKey, call.amount⟩
            (.dayConfig hour key)).bytes direction :=
      bytes_total_add (exact_of_fits fits) (.dayConfig hour key) direction
    rw [more]
    apply add_nonneg (nonneg direction hour key)
    rw [Added.at]
    split_ifs
    · exact fits.1 direction
    · rw [Counts.bytes_zero]

/-- Nothing is left of the configs in the hour, although nothing was dropped. -/
theorem untrimmed_nonpos_iff (nonneg : tables.HoursNonneg) (fits : call.Fits tables)
    (counted : call.Counted) (hour : Text) :
    (∀ direction, Tally.weigh (Counts.bytes · direction)
        (Tally.inner (tables.untrimmed call).dailyCfg hour) ≤ 0) ↔
      (∀ direction,
        Tally.weigh (Counts.bytes · direction) (Tally.inner tables.hourlyCfg hour) = 0) ∧
      ¬ (call.now.hourKey = hour ∧ call.configKey.getD [] ≠ []) := by
  have before (direction : Direction) := nonneg.weigh direction hour
  constructor
  · intro nonpos
    by_cases adds : call.now.hourKey = hour ∧ call.configKey.getD [] ≠ []
    · exfalso
      apply counted
      have small (direction : Direction) : call.amount.bytes direction ≤ 0 := by
        have sum := nonpos direction
        rw [weigh_untrimmed fits, if_pos adds] at sum
        linarith [before direction]
      exact ⟨Int64.le_iff_toInt_le.mpr (small .up), Int64.le_iff_toInt_le.mpr (small .down)⟩
    · refine ⟨?_, adds⟩
      intro direction
      have sum := nonpos direction
      rw [weigh_untrimmed fits, if_neg adds, add_zero] at sum
      exact le_antisymm sum (before direction)
  · rintro ⟨idle, adds⟩ direction
    rw [weigh_untrimmed fits, if_neg adds, idle direction, add_zero]

theorem hoursAgree_add_iff (agree : tables.HoursAgree) (nonneg : tables.HoursNonneg)
    (fits : call.Fits tables) (counted : call.Counted) :
    (tables.add call.now call.amount call.configKey).HoursAgree ↔ call.KeepsHours tables := by
  classical
  have bounded (direction : Direction) (hour : Text) :
      Tally.weigh (Counts.bytes · direction) (Tally.inner (tables.untrimmed call).dailyCfg hour) ≤
        ((tables.untrimmed call).total (.day hour)).bytes direction :=
    weigh_day_add_le (exact_of_fits fits) fits.1 (agree direction hour)
  have untrimmedNonneg (direction : Direction) (hour : Text) : 0 ≤ Tally.weigh
      (Counts.bytes · direction) (Tally.inner (tables.untrimmed call).dailyCfg hour) := by
    rw [weigh_untrimmed fits]
    apply add_nonneg (nonneg.weigh direction hour)
    split_ifs
    · exact fits.1 direction
    · exact le_rfl
  rw [HoursAgree, forall_comm]
  apply forall_congr'
  intro hour
  rw [← untrimmed_nonpos_iff nonneg fits counted hour, total_hourly_add, inner_hourlyCfg_add]
  by_cases drops : call.Drops tables hour
  · rw [if_pos drops]
    apply iff_of_true
    · intro direction
      split_ifs
      · exact (Counts.bytes_zero direction).ge
      · exact (untrimmedNonneg direction hour).trans (bounded direction hour)
    · intro _
      exact .inl drops
  · rw [if_neg drops, or_iff_right drops]
    by_cases old : call.now.isOld hour
    · rw [if_pos old, forall_prop_of_true old]
      simp only [Counts.bytes_zero]
    · rw [if_neg old]
      apply iff_of_true
      · intro direction
        exact bounded direction hour
      · intro isOld
        exact absurd isOld old

end Tables

namespace UsageStore

/-- The maps agree before, between and after the calls. -/
def AgreesThroughout : UsageStore → List Call → Prop
  | s, [] => s.memory.HoursAgree
  | s, call :: calls =>
      s.memory.HoursAgree ∧ (s.add call.now call.amount call.configKey).AgreesThroughout calls

def FitsThroughout : UsageStore → List Call → Prop
  | _, [] => True
  | s, call :: calls =>
      call.Fits s.memory ∧ (s.add call.now call.amount call.configKey).FitsThroughout calls

def KeepsThroughout : UsageStore → List Call → Prop
  | _, [] => True
  | s, call :: calls =>
      (call.Counted → call.KeepsHours s.memory) ∧
        (s.add call.now call.amount call.configKey).KeepsThroughout calls

theorem add_of_not_counted {call : Call} (skipped : ¬ call.Counted) (s : UsageStore) :
    s.add call.now call.amount call.configKey = s := by
  rw [add, StoreIn.add, if_pos (not_not.mp skipped)]

theorem memory_add_of_counted {call : Call} (counted : call.Counted) (s : UsageStore) :
    (s.add call.now call.amount call.configKey).memory =
      s.memory.add call.now call.amount call.configKey := by
  simp only [add, StoreIn.add, if_neg counted]
  split <;> rfl

theorem agreesThroughout_iff_of_agree {s : UsageStore} {calls : List Call}
    (agree : s.memory.HoursAgree) (nonneg : s.memory.HoursNonneg) (fits : s.FitsThroughout calls) :
    s.AgreesThroughout calls ↔ s.KeepsThroughout calls := by
  induction calls generalizing s with
  | nil => exact iff_of_true agree trivial
  | cons call calls ih =>
      rcases fits with ⟨fitsNow, fitsLater⟩
      rw [AgreesThroughout, KeepsThroughout, and_iff_right agree]
      by_cases counted : call.Counted
      · have memory := memory_add_of_counted counted s
        have keeps := Tables.hoursAgree_add_iff agree nonneg fitsNow counted
        have nonnegAfter := Tables.hoursNonneg_add nonneg fitsNow
        rw [← memory] at keeps nonnegAfter
        simp only [counted, forall_const, ← keeps]
        constructor
        · intro agrees
          have agreeAfter :
              (s.add call.now call.amount call.configKey).memory.HoursAgree := by
            cases calls with
            | nil => exact agrees
            | cons => exact agrees.1
          exact ⟨agreeAfter, (ih agreeAfter nonnegAfter fitsLater).mp agrees⟩
        · rintro ⟨agreeAfter, keepsLater⟩
          exact (ih agreeAfter nonnegAfter fitsLater).mpr keepsLater
      · rw [add_of_not_counted counted] at fitsLater ⊢
        rw [ih agree nonneg fitsLater]
        simp only [counted, false_imp_iff, true_and]

/-- From empty maps, the maps of the hours agree at every moment of a run if and only if every call
keeps them in agreement. -/
theorem agreesThroughout_iff {calls : List Call} (fits : (start {}).FitsThroughout calls) :
    (start {}).AgreesThroughout calls ↔ (start {}).KeepsThroughout calls := by
  apply agreesThroughout_iff_of_agree
  · intro direction hour
    exact (Counts.bytes_zero direction).ge
  · intro direction hour key
    exact (Counts.bytes_zero direction).ge
  · exact fits

/-- Half past midnight on the first of January 2026. -/
def newYear : DateTime where
  hour := .first (.newYear 2026)
  elapsed := ⟨1800 * 10 ^ 9, by decide⟩

/-- Two months later. -/
def spring : DateTime where
  hour := .first ⟨2026, 3, 1, by decide, by decide⟩
  elapsed := ⟨1800 * 10 ^ 9, by decide⟩

def newYearCall : Call := ⟨newYear.moment, ⟨5, 7⟩, some (txt "c")⟩

theorem agreesThroughout_newYear : (start {}).AgreesThroughout [newYearCall] := by
  have fits : (start {}).FitsThroughout [newYearCall] := by
    refine ⟨⟨?_, ?_⟩, trivial⟩
    · intro direction
      cases direction <;> decide
    · intro cell
      rw [show (start {}).memory.hours = {} from rfl, Tables.total_empty]
      exact Counts.exact_zero_left _
  apply (agreesThroughout_iff fits).mpr
  refine ⟨?_, trivial⟩
  intro _ hour old
  refine .inr ⟨fun _ => rfl, ?_⟩
  rintro ⟨rfl, -⟩
  exact absurd old (by decide +kernel)

/-- The second call drops the total of the first hour, and its config keeps the amounts. -/
theorem not_agreesThroughout_spring :
    newYear.hour < spring.hour ∧
      ¬ (start {}).AgreesThroughout [newYearCall, ⟨spring.moment, ⟨1, 1⟩, some (txt "c")⟩] := by
  refine ⟨by decide, ?_⟩
  rintro ⟨-, -, agree⟩
  exact absurd (agree .up (txt "2026-01-01-00")) (by decide +kernel)

end UsageStore

end GRoute
