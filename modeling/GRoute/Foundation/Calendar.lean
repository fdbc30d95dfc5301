import GRoute.Foundation.Numeral
import GRoute.Foundation.Stepping
import Mathlib.Data.Prod.Lex
import Mathlib.Order.Fin.Basic

/-!
# Days and hours

`LocalDate`, and `LocalDateTime` at the full hour, in the ISO calendar: the order of the fields,
the step to the next day and to the next hour, and their texts. Days and hours are numbered
without gaps, and for the years 1 to 9999 different ones have different texts.
-/

namespace GRoute

open Text

def isLeap (year : ℤ) : Bool := decide (year % 4 = 0 ∧ (year % 100 ≠ 0 ∨ year % 400 = 0))

def monthLength (year : ℤ) : ℕ → ℕ
  | 2 => if isLeap year then 29 else 28
  | 4 | 6 | 9 | 11 => 30
  | _ => 31

theorem monthLength_pos (year : ℤ) (month : ℕ) : 1 ≤ monthLength year month := by
  rw [monthLength.eq_def]
  split
  · split <;> decide
  all_goals decide

/-- A `LocalDate`. -/
@[ext]
structure Date where
  year : ℤ
  month : ℕ
  day : ℕ
  month_mem : 1 ≤ month ∧ month ≤ 12
  day_mem : 1 ≤ day ∧ day ≤ monthLength year month
  deriving DecidableEq

namespace Date

/-- `isAfter` and `isBefore` compare year, month and day in this order. -/
instance : LinearOrder Date :=
  LinearOrder.lift' (fun date => toLex (date.year, toLex (date.month, date.day))) fun _ _ same =>
    have fields := Prod.mk.inj (toLex.injective same)
    have rest := Prod.mk.inj (toLex.injective fields.2)
    Date.ext fields.1 rest.1 rest.2

theorem lt_iff {a b : Date} :
    a < b ↔ a.year < b.year ∨
      a.year = b.year ∧ (a.month < b.month ∨ a.month = b.month ∧ a.day < b.day) := by
  change toLex (a.year, toLex (a.month, a.day)) < toLex (b.year, toLex (b.month, b.day)) ↔ _
  simp only [Prod.Lex.toLex_lt_toLex]

theorem year_le_of_le {a b : Date} (le : a ≤ b) : a.year ≤ b.year := by
  by_contra after
  exact not_lt.mpr le (lt_iff.mpr (.inl (not_le.mp after)))

/-- The first day of the year. -/
def newYear (year : ℤ) : Date where
  year := year
  month := 1
  day := 1
  month_mem := ⟨le_rfl, Nat.le_add_left 1 11⟩
  day_mem := ⟨le_rfl, monthLength_pos _ _⟩

/-- `plusDays(1)`. -/
def next (date : Date) : Date :=
  if inMonth : date.day < monthLength date.year date.month then
    { date with day := date.day + 1, day_mem := ⟨Nat.le_add_left 1 _, inMonth⟩ }
  else if inYear : date.month < 12 then
    { year := date.year
      month := date.month + 1
      day := 1
      month_mem := ⟨Nat.le_add_left 1 _, inYear⟩
      day_mem := ⟨le_rfl, monthLength_pos _ _⟩ }
  else
    { year := date.year + 1
      month := 1
      day := 1
      month_mem := ⟨le_rfl, Nat.le_add_left 1 11⟩
      day_mem := ⟨le_rfl, monthLength_pos _ _⟩ }

/-- `minusDays(1)`. -/
def previous (date : Date) : Date :=
  if inMonth : 1 < date.day then
    { date with
      day := date.day - 1
      day_mem := ⟨Nat.le_sub_one_of_lt inMonth, (Nat.sub_le _ 1).trans date.day_mem.2⟩ }
  else if inYear : 1 < date.month then
    { year := date.year
      month := date.month - 1
      day := monthLength date.year (date.month - 1)
      month_mem := ⟨Nat.le_sub_one_of_lt inYear, (Nat.sub_le _ 1).trans date.month_mem.2⟩
      day_mem := ⟨monthLength_pos _ _, le_rfl⟩ }
  else
    { year := date.year - 1
      month := 12
      day := monthLength (date.year - 1) 12
      month_mem := ⟨Nat.le_add_left 1 11, le_rfl⟩
      day_mem := ⟨monthLength_pos _ _, le_rfl⟩ }

/-- The days of the years from the first one up to the year. -/
def daysBeforeYear (year : ℤ) : ℤ :=
  365 * (year - 1) + (year - 1) / 4 - (year - 1) / 100 + (year - 1) / 400

/-- The days of the first months. -/
def daysOfMonths (year : ℤ) : ℕ → ℕ
  | 0 => 0
  | months + 1 => daysOfMonths year months + monthLength year (months + 1)

def ordinal (date : Date) : ℤ :=
  daysBeforeYear date.year + daysOfMonths date.year (date.month - 1) + date.day

theorem daysBeforeYear_mono {a b : ℤ} (le : a ≤ b) : daysBeforeYear a ≤ daysBeforeYear b := by
  rw [daysBeforeYear, daysBeforeYear]
  omega

theorem daysBeforeYear_succ (year : ℤ) :
    daysBeforeYear (year + 1) = daysBeforeYear year + daysOfMonths year 12 := by
  have months : daysOfMonths year 12 = if isLeap year then 366 else 365 := by
    cases leap : isLeap year <;> simp [daysOfMonths, monthLength, leap]
  rw [months, daysBeforeYear, daysBeforeYear]
  split_ifs with leap
  · simp only [isLeap, decide_eq_true_eq] at leap
    omega
  · simp only [isLeap, decide_eq_true_eq] at leap
    omega

theorem daysOfMonths_mono (year : ℤ) : Monotone (daysOfMonths year) :=
  monotone_nat_of_le_succ fun _ => Nat.le_add_right _ _

/-- The days up to the end of the month. -/
theorem daysOfMonths_month (date : Date) :
    daysOfMonths date.year date.month =
      daysOfMonths date.year (date.month - 1) + monthLength date.year date.month := by
  rcases Nat.exists_eq_add_of_le' date.month_mem.1 with ⟨months, isSucc⟩
  rw [isSucc, Nat.add_sub_cancel, daysOfMonths]

theorem ordinal_next (date : Date) : date.next.ordinal = date.ordinal + 1 := by
  have monthEnds := daysOfMonths_month date
  have dayBound := date.day_mem.2
  have monthBound := date.month_mem.2
  rw [next]
  split_ifs with inMonth inYear
  · simp only [ordinal]
    push_cast
    ring
  · simp only [ordinal, Nat.add_sub_cancel]
    omega
  · have isLast : date.month = 12 := by omega
    have noMonths : daysOfMonths (date.year + 1) (1 - 1) = 0 := rfl
    rw [isLast] at monthEnds dayBound inMonth
    simp only [ordinal, daysBeforeYear_succ, noMonths, isLast]
    omega

theorem ordinal_strictMono : StrictMono ordinal := by
  intro a b lt
  have first := a.day_mem
  have second := b.day_mem
  have monthEnds := daysOfMonths_month a
  rcases lt_iff.mp lt with earlierYear | ⟨sameYear, earlierMonth | ⟨sameMonth, earlierDay⟩⟩
  · have yearEnds := daysBeforeYear_succ a.year
    have years := daysBeforeYear_mono (Int.add_one_le_iff.mpr earlierYear)
    have months := daysOfMonths_mono a.year a.month_mem.2
    simp only [ordinal]
    omega
  · have months := daysOfMonths_mono a.year (Nat.le_sub_one_of_lt earlierMonth)
    simp only [ordinal, ← sameYear]
    omega
  · simp only [ordinal, ← sameYear, ← sameMonth]
    omega

def ladder : Ladder Date := ⟨next, ordinal, ordinal_next, ordinal_strictMono⟩

end Date

/-- A `LocalDateTime` at the full hour. -/
@[ext]
structure Hour where
  date : Date
  hour : Fin 24
  deriving DecidableEq

namespace Hour

instance : LinearOrder Hour :=
  LinearOrder.lift' (fun hour => toLex (hour.date, hour.hour)) fun _ _ same =>
    have fields := Prod.mk.inj (toLex.injective same)
    Hour.ext fields.1 fields.2

theorem lt_iff {a b : Hour} : a < b ↔ a.date < b.date ∨ a.date = b.date ∧ a.hour < b.hour := by
  change toLex (a.date, a.hour) < toLex (b.date, b.hour) ↔ _
  exact Prod.Lex.toLex_lt_toLex

theorem le_iff {a b : Hour} : a ≤ b ↔ a.date < b.date ∨ a.date = b.date ∧ a.hour ≤ b.hour := by
  change toLex (a.date, a.hour) ≤ toLex (b.date, b.hour) ↔ _
  exact Prod.Lex.toLex_le_toLex

/-- The first hour of a day. -/
def first (date : Date) : Hour := ⟨date, 0⟩

/-- The last hour of a day. -/
def last (date : Date) : Hour := ⟨date, 23⟩

theorem first_le_iff {date : Date} {hour : Hour} : first date ≤ hour ↔ date ≤ hour.date := by
  have inDay : 0 ≤ hour.hour := Fin.zero_le hour.hour
  rw [le_iff, @le_iff_lt_or_eq Date]
  exact or_congr_right (and_iff_left inDay)

theorem le_last_iff {date : Date} {hour : Hour} : hour ≤ last date ↔ hour.date ≤ date := by
  have inDay : hour.hour ≤ 23 := Fin.le_last hour.hour
  rw [le_iff, @le_iff_lt_or_eq Date]
  exact or_congr_right (and_iff_left inDay)

/-- `plusHours(1)`. -/
def next (hour : Hour) : Hour :=
  if inDay : hour.hour.val + 1 < 24 then { hour with hour := ⟨hour.hour.val + 1, inDay⟩ }
  else ⟨hour.date.next, 0⟩

def number (hour : Hour) : ℤ := 24 * hour.date.ordinal + hour.hour.val

theorem number_next (hour : Hour) : hour.next.number = hour.number + 1 := by
  rw [next]
  split_ifs with inDay
  · simp only [number]
    push_cast
    ring
  · have isLast := hour.hour.isLt
    simp only [number, Date.ordinal_next, Fin.val_zero]
    omega

theorem number_strictMono : StrictMono number := by
  intro a b lt
  have first := a.hour.isLt
  rw [number, number]
  rcases lt_iff.mp lt with earlierDate | ⟨sameDate, earlierHour⟩
  · have dates := Date.ordinal_strictMono earlierDate
    omega
  · rw [sameDate]
    have hours := Fin.lt_def.mp earlierHour
    omega

def ladder : Ladder Hour := ⟨next, number, number_next, number_strictMono⟩

end Hour

/-- The digits, with zeros before them up to the width. -/
def padded (width n : ℕ) : Text :=
  List.replicate (width - (decimal n).length) (unit '0') ++ decimal n

theorem mem_padded {width n : ℕ} {c : UInt16} (mem : c ∈ padded width n) :
    ∃ d < 10, c = UInt16.ofNat (48 + d) := by
  rcases List.mem_append.mp mem with isZero | inDigits
  · exact ⟨0, by decide, List.eq_of_mem_replicate isZero⟩
  · exact mem_decimal inDigits

theorem dash_notMem_padded (width n : ℕ) : unit '-' ∉ padded width n := by
  intro mem
  rcases mem_padded mem with ⟨d, lt, same⟩
  revert same
  interval_cases d <;> decide

/-- The zeros do not change the number. -/
theorem magnitude_padded (width n : ℕ) : magnitude 10 (padded width n) = some n := by
  have unpadded := magnitude_decimal n
  rw [magnitude, if_neg (decimal_ne_nil n)] at unpadded
  have nonempty : padded width n ≠ [] := fun empty =>
    decimal_ne_nil n (List.append_eq_nil_iff.mp empty).2
  rw [magnitude, if_neg nonempty, ← unpadded, padded]
  induction width - (decimal n).length with
  | zero => rfl
  | succ count ih => exact ih

theorem padded_injective (width : ℕ) : Function.Injective (padded width) := by
  intro a b same
  apply Option.some.inj
  rw [← magnitude_padded width a, same, magnitude_padded]

namespace Date

/-- The year in `LocalDate.toString`. -/
def yearText (year : ℤ) : Text :=
  (if year < 0 then [unit '-'] else if 9999 < year then [unit '+'] else []) ++
    padded 4 year.natAbs

/-- `LocalDate.toString`. -/
def toText (date : Date) : Text :=
  joinWith (unit '-') [yearText date.year, padded 2 date.month, padded 2 date.day]

/-- The year with the pattern `yyyy`: the year of the era. -/
def eraYearText (year : ℤ) : Text :=
  let yearOfEra := if 1 ≤ year then year else 1 - year
  (if 9999 < yearOfEra then [unit '+'] else []) ++ padded 4 yearOfEra.natAbs

/-- The years that both texts write with four digits. -/
def FourDigits (date : Date) : Prop := 1 ≤ date.year ∧ date.year ≤ 9999

variable {a b : Date}

theorem yearText_of_fourDigits (plain : a.FourDigits) :
    yearText a.year = padded 4 a.year.natAbs := by
  rw [yearText, if_neg (by linarith [plain.1]), if_neg (by linarith [plain.2]), List.nil_append]

theorem eraYearText_of_fourDigits (plain : a.FourDigits) :
    eraYearText a.year = padded 4 a.year.natAbs := by
  simp only [eraYearText, if_pos plain.1, if_neg (not_lt.mpr plain.2), List.nil_append]

theorem eq_of_padded (first : a.FourDigits) (second : b.FourDigits)
    (year : padded 4 a.year.natAbs = padded 4 b.year.natAbs)
    (month : padded 2 a.month = padded 2 b.month) (day : padded 2 a.day = padded 2 b.day) :
    a = b := by
  refine Date.ext ?_ (padded_injective 2 month) (padded_injective 2 day)
  have sameYear := padded_injective 4 year
  have positive := first.1
  have otherPositive := second.1
  omega

end Date

/-- Texts of numbers can be told apart after they are joined. -/
theorem joinWith_dash_injective {first second : List Text}
    (plain : ∀ part ∈ first, unit '-' ∉ part) (otherPlain : ∀ part ∈ second, unit '-' ∉ part)
    (nonempty : first ≠ []) (otherNonempty : second ≠ [])
    (same : joinWith (unit '-') first = joinWith (unit '-') second) : first = second := by
  rw [← split_joinWith plain nonempty, same, split_joinWith otherPlain otherNonempty]

theorem Date.toText_injOn : Set.InjOn Date.toText {date | date.FourDigits} := by
  intro a first b second same
  rw [Date.toText, Date.toText, Date.yearText_of_fourDigits first,
    Date.yearText_of_fourDigits second] at same
  have parts := joinWith_dash_injective (by simp [dash_notMem_padded])
    (by simp [dash_notMem_padded]) (by simp) (by simp) same
  simp only [List.cons.injEq, and_true] at parts
  exact Date.eq_of_padded first second parts.1 parts.2.1 parts.2.2

namespace Hour

/-- The text with the pattern `yyyy-MM-dd-HH`. -/
def toText (hour : Hour) : Text :=
  joinWith (unit '-')
    [Date.eraYearText hour.date.year, padded 2 hour.date.month, padded 2 hour.date.day,
      padded 2 hour.hour.val]

theorem toText_injOn : Set.InjOn toText {hour | hour.date.FourDigits} := by
  intro a first b second same
  rw [toText, toText, Date.eraYearText_of_fourDigits first,
    Date.eraYearText_of_fourDigits second] at same
  have parts := joinWith_dash_injective (by simp [dash_notMem_padded])
    (by simp [dash_notMem_padded]) (by simp) (by simp) same
  simp only [List.cons.injEq, and_true] at parts
  exact Hour.ext (Date.eq_of_padded first second parts.1 parts.2.1 parts.2.2.1)
    (Fin.ext (padded_injective 2 parts.2.2.2))

end Hour

/-- ASCII digits, as many as given. -/
def readDigits (isWidth : ℕ → Bool) (s : Text) : Option ℕ :=
  if isWidth s.length ∧ s.all fun c => decide (48 ≤ c ∧ c ≤ 57) then magnitude 10 s else none

/-- A year of four digits, or of more with a sign. -/
def readYear (s : Text) : Option ℤ :=
  let year :=
    match s with
    | [] => none
    | sign :: rest =>
        if sign = unit '+' then readDigits (fun width => 5 ≤ width ∧ width ≤ 19) rest
        else readDigits (· = 4) s
  (year.filter fun year => 1 ≤ year ∧ year ≤ 999999999).map Int.ofNat

/-- A day of the month up to 31 is cut to the length of the month. -/
def Date.resolve (year : ℤ) (month day : ℕ) : Option Date :=
  if valid : (1 ≤ month ∧ month ≤ 12) ∧ 1 ≤ day ∧ day ≤ 31 then
    some
      { year := year
        month := month
        day := min day (monthLength year month)
        month_mem := valid.1
        day_mem := ⟨le_min valid.2.1 (monthLength_pos _ _), min_le_right _ _⟩ }
  else none

/-- `LocalDateTime.parse` with the pattern `yyyy-MM-dd-HH`. -/
def Hour.parse (s : Text) : Option Hour :=
  match split s (unit '-') with
  | [year, month, day, hour] => do
      let date ← Date.resolve (← readYear year) (← readDigits (· = 2) month)
        (← readDigits (· = 2) day)
      let hour ← readDigits (· = 2) hour
      -- the end of the day is the start of the next one
      if inDay : hour < 24 then some ⟨date, ⟨hour, inDay⟩⟩
      else if hour = 24 then some ⟨date.next, 0⟩ else none
  | _ => none

example : Hour.parse (txt "2026-02-31-24") = Hour.parse (txt "2026-03-01-00") := by decide +kernel

end GRoute
