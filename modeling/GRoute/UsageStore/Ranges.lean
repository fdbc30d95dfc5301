import GRoute.UsageStore.Hours

/-!
# Ranges of the usage store

The bars of a range of days or hours are made by a cursor that goes through the range, one bar for
each key. The bars have each day or hour of the range once, they add up to what the map has for the
range, and the totals of the configs over the bars add up to no more than the bars.
-/

namespace GRoute

open Text Polling

namespace UsageStore

/-- A `Bar`. -/
structure Bar where
  label : Text
  short : Text
  up : Int64
  down : Int64
  key : Text
  deriving DecidableEq, Repr

def Bar.counts (bar : Bar) : Counts := ⟨bar.up, bar.down⟩

/-- The bar of a day. -/
def dailyBar (map : Dict Text Counts) (day : Date) : Bar :=
  let v := Tally.total map day.toText
  let lbl := decimal day.month ++ unit '/' :: decimal day.day
  { label := lbl, short := lbl, up := v.up, down := v.down, key := day.toText }

/-- The bar of an hour. The digits of `"%02d".format` are those of the locale. -/
def hourlyBar (twoDigits : ℕ → Text) (map : Dict Text Counts) (hour : Hour) : Bar :=
  let v := Tally.total map hour.toText
  let next := (hour.hour.val + 1) % 24
  { label := twoDigits hour.hour.val ++ txt ":00-" ++ twoDigits next ++ txt ":00"
    short := twoDigits hour.hour.val
    up := v.up
    down := v.down
    key := hour.toText }

def dailyBarsRange (map : Dict Text Counts) (fromDate toDate : Date) : List Bar :=
  let lo := if toDate < fromDate then toDate else fromDate
  let hi := if toDate < fromDate then fromDate else toDate
  (Date.ladder.walk lo hi).map (dailyBar map)

def hourlyBarsRange (twoDigits : ℕ → Text) (map : Dict Text Counts) (fromDate toDate : Date) :
    List Bar :=
  let lo := if toDate < fromDate then toDate else fromDate
  let hi := if toDate < fromDate then fromDate else toDate
  (Hour.ladder.walk (.first lo) (.last hi)).map (hourlyBar twoDigits map)

def sum (bars : List Bar) : Counts :=
  bars.foldl (fun total bar => ⟨total.up + bar.up, total.down + bar.down⟩) 0

/-- The loop over the bars in `configTotalsRange`. -/
def accumulate (src : Dict Text (Dict Text Counts)) (bars : List Bar) : Dict Text Counts :=
  bars.foldl (fun acc bar => (Tally.inner src bar.key).foldl Tally.addAt acc) ∅

def configTotalsRange (dailyCfg hourlyCfg : Dict Text (Dict Text Counts)) (bars : List Bar)
    (hourlyMode : Bool) : List (Text × Counts) :=
  let src := if hourlyMode then hourlyCfg else dailyCfg
  ((accumulate src bars).entries.map fun entry => (entry.1, entry.2)).mergeSort fun a b =>
    decide (b.2.up + b.2.down ≤ a.2.up + a.2.down)

section Bars

variable {map : Dict Text Counts} {twoDigits : ℕ → Text} {fromDate toDate : Date}

theorem ite_lt_eq_min (a b : Date) : (if b < a then b else a) = min a b := by
  rw [min_def_lt]
  split_ifs with after before before
  · exact absurd before after.not_gt
  · rfl
  · rfl
  · exact le_antisymm (not_lt.mp after) (not_lt.mp before)

theorem ite_lt_eq_max (a b : Date) : (if b < a then a else b) = max a b := by
  rw [max_def_lt]
  split_ifs with after before before
  · exact absurd before after.not_gt
  · rfl
  · rfl
  · exact le_antisymm (not_lt.mp before) (not_lt.mp after)

theorem dailyBarsRange_eq (map : Dict Text Counts) (fromDate toDate : Date) :
    dailyBarsRange map fromDate toDate =
      (Date.ladder.walk (min fromDate toDate) (max fromDate toDate)).map (dailyBar map) := by
  rw [dailyBarsRange, ite_lt_eq_min, ite_lt_eq_max]

theorem hourlyBarsRange_eq (twoDigits : ℕ → Text) (map : Dict Text Counts)
    (fromDate toDate : Date) :
    hourlyBarsRange twoDigits map fromDate toDate =
      (Hour.ladder.walk (.first (min fromDate toDate)) (.last (max fromDate toDate))).map
        (hourlyBar twoDigits map) := by
  rw [hourlyBarsRange, ite_lt_eq_min, ite_lt_eq_max]

/-- The bars are those of the values in the range, each once and in order. -/
def ListsOnce {α : Type} [LT α] (bars : List Bar) (text : α → Text) (InRange : α → Prop) : Prop :=
  ∃ values : List α, values.Pairwise (· < ·) ∧ (∀ value, value ∈ values ↔ InRange value) ∧
    bars.map Bar.key = values.map text ∧ (bars.map Bar.key).Nodup

/-- The day is in the closed range of the two dates, in either order. -/
def Between (fromDate toDate day : Date) : Prop :=
  min fromDate toDate ≤ day ∧ day ≤ max fromDate toDate

theorem fourDigits_of_between {day : Date} (fromYear : fromDate.FourDigits)
    (toYear : toDate.FourDigits) (between : Between fromDate toDate day) : day.FourDigits := by
  rcases between with ⟨after, before⟩
  constructor
  · rcases min_choice fromDate toDate with first | first <;> rw [first] at after
    · exact fromYear.1.trans (Date.year_le_of_le after)
    · exact toYear.1.trans (Date.year_le_of_le after)
  · rcases max_choice fromDate toDate with last | last <;> rw [last] at before
    · exact (Date.year_le_of_le before).trans fromYear.2
    · exact (Date.year_le_of_le before).trans toYear.2

theorem listsOnce_map {α : Type} [LinearOrder α] {ladder : Ladder α} {first last : α}
    {bar : α → Bar} {text : α → Text} {InRange : α → Prop}
    (keys : ∀ value, (bar value).key = text value)
    (inRange : ∀ value, first ≤ value ∧ value ≤ last ↔ InRange value)
    (injective : Set.InjOn text {value | InRange value}) :
    ListsOnce ((ladder.walk first last).map bar) text InRange := by
  have ordered := ladder.pairwise_walk first last
  have members (value : α) : value ∈ ladder.walk first last ↔ InRange value :=
    ladder.mem_walk.trans (inRange value)
  have keysEq : ((ladder.walk first last).map bar).map Bar.key =
      (ladder.walk first last).map text := by
    rw [List.map_map]
    exact List.map_congr_left fun value _ => keys value
  refine ⟨_, ordered, members, keysEq, ?_⟩
  rw [keysEq]
  apply List.Nodup.map_on
  · intro a aMem b bMem same
    exact injective ((members a).mp aMem) ((members b).mp bMem) same
  · exact ordered.imp ne_of_lt

theorem listsOnce_dailyBarsRange (fromYear : fromDate.FourDigits) (toYear : toDate.FourDigits) :
    ListsOnce (dailyBarsRange map fromDate toDate) Date.toText (Between fromDate toDate) := by
  rw [dailyBarsRange_eq]
  apply listsOnce_map
  · intro day
    rfl
  · intro day
    exact Iff.rfl
  · exact Date.toText_injOn.mono fun day between => fourDigits_of_between fromYear toYear between

theorem listsOnce_hourlyBarsRange (fromYear : fromDate.FourDigits) (toYear : toDate.FourDigits) :
    ListsOnce (hourlyBarsRange twoDigits map fromDate toDate) Hour.toText
      fun hour => Between fromDate toDate hour.date := by
  rw [hourlyBarsRange_eq]
  apply listsOnce_map
  · intro hour
    rfl
  · intro hour
    exact and_congr Hour.first_le_iff Hour.le_last_iff
  · exact Hour.toText_injOn.mono fun hour between => fourDigits_of_between fromYear toYear between

/-- The range is split after a day. -/
theorem dailyBarsRange_split (map : Dict Text Counts) {middle : Date}
    (after : min fromDate toDate ≤ middle) (before : middle < max fromDate toDate) :
    dailyBarsRange map fromDate toDate =
      dailyBarsRange map (min fromDate toDate) middle ++
        dailyBarsRange map middle.next (max fromDate toDate) := by
  have nextLe : middle.next ≤ max fromDate toDate := Date.ladder.lt_iff_next_le.mp before
  rw [dailyBarsRange_eq, dailyBarsRange_eq, dailyBarsRange_eq, min_eq_left after,
    max_eq_right after, min_eq_left nextLe, max_eq_right nextLe, ← List.map_append]
  congr 1
  exact (Date.ladder.walk_append after before.le).symm

end Bars

theorem sum_eq (bars : List Bar) : sum bars = (bars.map Bar.counts).sum := by
  rw [List.sum_eq_foldl, List.foldl_map]
  rfl

theorem sum_append (first second : List Bar) : sum (first ++ second) = sum first + sum second := by
  rw [sum_eq, sum_eq, sum_eq, List.map_append, List.sum_append]

section Totals

variable {M : Type*} [AddCommMonoid M] {map : Dict Text Counts} {fromDate toDate : Date}

open scoped Classical in
/-- What the bars weigh is what the entries of the map weigh whose key is a day of the range. -/
theorem sum_weight_dailyBarsRange (weight : Counts → M) (zero : weight 0 = 0)
    (fromYear : fromDate.FourDigits) (toYear : toDate.FourDigits) :
    ((dailyBarsRange map fromDate toDate).map fun bar => weight bar.counts).sum =
      ∑ key ∈ map.support with ∃ day, Between fromDate toDate day ∧ day.toText = key,
        weight (Tally.total map key) := by
  have days := Date.ladder.pairwise_walk (min fromDate toDate) (max fromDate toDate)
  have injective : Set.InjOn Date.toText
      (Date.ladder.walk (min fromDate toDate) (max fromDate toDate)).toFinset := by
    apply Date.toText_injOn.mono
    intro day mem
    exact fourDigits_of_between fromYear toYear
      (Date.ladder.mem_walk.mp (List.mem_toFinset.mp mem))
  calc ((dailyBarsRange map fromDate toDate).map fun bar => weight bar.counts).sum
      = ∑ day ∈ (Date.ladder.walk (min fromDate toDate) (max fromDate toDate)).toFinset,
          weight (Tally.total map day.toText) := by
        rw [dailyBarsRange_eq, List.map_map, List.sum_toFinset _ (days.imp ne_of_lt)]
        rfl
    _ = ∑ key ∈ (Date.ladder.walk (min fromDate toDate) (max fromDate toDate)).toFinset.image
          Date.toText, weight (Tally.total map key) := by
        rw [Finset.sum_image injective]
    _ = ∑ key ∈ map.support with ∃ day, Between fromDate toDate day ∧ day.toText = key,
          weight (Tally.total map key) := by
        symm
        apply Finset.sum_subset
        · intro key mem
          rcases (Finset.mem_filter.mp mem).2 with ⟨day, between, rfl⟩
          apply Finset.mem_image_of_mem
          exact List.mem_toFinset.mpr (Date.ladder.mem_walk.mpr between)
        · intro key inRange absent
          apply Tally.weight_total_of_notMem zero
          intro present
          rcases Finset.mem_image.mp inRange with ⟨day, mem, rfl⟩
          apply absent
          exact Finset.mem_filter.mpr
            ⟨present, day, Date.ladder.mem_walk.mp (List.mem_toFinset.mp mem), rfl⟩

end Totals

/-- The amounts of the configs are not negative, and in each bucket they have together at most the
total of the bucket. -/
structure Breakdown (map : Dict Text Counts) (src : Dict Text (Dict Text Counts)) : Prop where
  nonneg (direction : Direction) (bucket key : Text) :
    0 ≤ (Tally.total (Tally.inner src bucket) key).bytes direction
  le_total (direction : Direction) (bucket : Text) :
    Tally.weigh (Counts.bytes · direction) (Tally.inner src bucket) ≤
      (Tally.total map bucket).bytes direction

theorem weigh_accumulate_le {map : Dict Text Counts} {src : Dict Text (Dict Text Counts)}
    (breakdown : Breakdown map src) (bars : List Bar) (direction : Direction) :
    Tally.weigh (Counts.bytes · direction) (accumulate src bars) ≤
      (bars.map fun bar =>
        Tally.weigh (Counts.bytes · direction) (Tally.inner src bar.key)).sum := by
  induction bars using List.reverseRecOn with
  | nil => exact le_rfl
  | append_singleton bars bar ih =>
      have merged : accumulate src (bars ++ [bar]) =
          Tally.merge (accumulate src bars) (Tally.inner src bar.key) := by
        rw [accumulate, List.foldl_append, ← accumulate]
        exact Tally.foldl_addAt_eq_merge ..
      have step : Tally.weigh (Counts.bytes · direction) (accumulate src (bars ++ [bar])) ≤
          Tally.weigh (Counts.bytes · direction) (accumulate src bars) +
            Tally.weigh (Counts.bytes · direction) (Tally.inner src bar.key) := by
        apply Tally.weigh_le_add (Counts.bytes_zero direction)
        intro key
        rw [merged, Tally.total_merge]
        exact Counts.bytes_add_le (breakdown.nonneg direction bar.key key)
      rw [List.map_append, List.sum_append, List.map_singleton, List.sum_singleton]
      exact step.trans (add_le_add_left ih _)

/-- The totals of the configs over bars of the map add up to at most the bars. -/
theorem sum_configTotals_le {map : Dict Text Counts}
    {dailyCfg hourlyCfg : Dict Text (Dict Text Counts)} (hourlyMode : Bool)
    (breakdown : Breakdown map (if hourlyMode then hourlyCfg else dailyCfg))
    {bars : List Bar} (ofMap : ∀ bar ∈ bars, bar.counts = Tally.total map bar.key)
    (direction : Direction) :
    ((configTotalsRange dailyCfg hourlyCfg bars hourlyMode).map fun entry =>
        entry.2.bytes direction).sum ≤ (bars.map fun bar => bar.counts.bytes direction).sum := by
  have unsorted := (List.mergeSort_perm ((accumulate (if hourlyMode then hourlyCfg else dailyCfg)
    bars).entries.map fun entry => (entry.1, entry.2)) fun a b =>
      decide (b.2.up + b.2.down ≤ a.2.up + a.2.down)).map fun entry => entry.2.bytes direction
  rw [configTotalsRange, unsorted.sum_eq, List.map_map]
  calc _ = Tally.weigh (Counts.bytes · direction)
        (accumulate (if hourlyMode then hourlyCfg else dailyCfg) bars) :=
        Tally.sum_entries_eq_weigh (Counts.bytes · direction) _
    _ ≤ _ := weigh_accumulate_le breakdown bars direction
    _ ≤ _ := by
        apply List.sum_le_sum
        intro bar mem
        rw [ofMap bar mem]
        exact breakdown.le_total direction bar.key

theorem counts_of_mem_dailyBarsRange {map : Dict Text Counts} {fromDate toDate : Date} {bar : Bar}
    (mem : bar ∈ dailyBarsRange map fromDate toDate) : bar.counts = Tally.total map bar.key := by
  rw [dailyBarsRange_eq] at mem
  rcases List.mem_map.mp mem with ⟨day, -, rfl⟩
  rfl

open scoped Classical in
/-- The bars of a range of days have each day once and in order and sum to what the map has for
these days, also in two parts; the bars of the hours have the 24 hours of each day once; and if the
map and the amounts of the configs agree by day, the totals of the configs add up to at most the
bars. -/
theorem rangeTotals_exact (map : Dict Text Counts) (twoDigits : ℕ → Text) {fromDate toDate : Date}
    (fromYear : fromDate.FourDigits) (toYear : toDate.FourDigits) :
    ListsOnce (dailyBarsRange map fromDate toDate) Date.toText (Between fromDate toDate) ∧
      (sum (dailyBarsRange map fromDate toDate) =
          ∑ key ∈ map.support with ∃ day, Between fromDate toDate day ∧ day.toText = key,
            Tally.total map key ∧
        ∀ direction,
          ((dailyBarsRange map fromDate toDate).map fun bar => bar.counts.bytes direction).sum =
            ∑ key ∈ map.support with ∃ day, Between fromDate toDate day ∧ day.toText = key,
              (Tally.total map key).bytes direction) ∧
      (∀ middle, min fromDate toDate ≤ middle → middle < max fromDate toDate →
        dailyBarsRange map fromDate toDate =
            dailyBarsRange map (min fromDate toDate) middle ++
              dailyBarsRange map middle.next (max fromDate toDate) ∧
          sum (dailyBarsRange map fromDate toDate) =
            sum (dailyBarsRange map (min fromDate toDate) middle) +
              sum (dailyBarsRange map middle.next (max fromDate toDate))) ∧
      ListsOnce (hourlyBarsRange twoDigits map fromDate toDate) Hour.toText
        (fun hour => Between fromDate toDate hour.date) ∧
      ∀ dailyCfg hourlyCfg, Breakdown map dailyCfg → ∀ direction,
        ((configTotalsRange dailyCfg hourlyCfg (dailyBarsRange map fromDate toDate) false).map
            fun entry => entry.2.bytes direction).sum ≤
          ((dailyBarsRange map fromDate toDate).map fun bar => bar.counts.bytes direction).sum := by
  refine ⟨listsOnce_dailyBarsRange fromYear toYear, ⟨?_, ?_⟩, ?_,
    listsOnce_hourlyBarsRange fromYear toYear, ?_⟩
  · rw [sum_eq]
    exact sum_weight_dailyBarsRange id rfl fromYear toYear
  · intro direction
    exact sum_weight_dailyBarsRange (Counts.bytes · direction) (Counts.bytes_zero direction)
      fromYear toYear
  · intro middle after before
    have split := dailyBarsRange_split map after before
    refine ⟨split, ?_⟩
    rw [split, sum_append]
  · intro dailyCfg hourlyCfg breakdown direction
    exact sum_configTotals_le false breakdown
      (fun bar mem => counts_of_mem_dailyBarsRange mem) direction

/-- Two months, the later date first. -/
theorem rangeTotals_spring :
    ListsOnce (dailyBarsRange sampleTables.usage spring.hour.date newYear.hour.date) Date.toText
      (Between spring.hour.date newYear.hour.date) :=
  (rangeTotals_exact sampleTables.usage (padded 2) (by constructor <;> decide)
    (by constructor <;> decide)).1

end UsageStore

end GRoute
