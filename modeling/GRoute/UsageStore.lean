import GRoute.Foundation.Tally
import GRoute.Foundation.Text
import GRoute.Foundation.Transition

/-!
# The usage store

`UsageStore.kt` counts bytes by day, hour and config. A thread reads the five stored maps one after
the other and then merges them into the memory, while `add` and `flush` may already write the maps
of the memory over the stored ones. A blob stands for the map that it holds, and a `Long` wraps
around.
-/

namespace GRoute

open Text Transition

/-- A `LongArray` of the bytes up and down. -/
@[ext]
structure Counts where
  up : Int64
  down : Int64
  deriving DecidableEq, Repr

namespace Counts

instance : Zero Counts := ⟨⟨0, 0⟩⟩

instance : Add Counts := ⟨fun a b => ⟨a.up + b.up, a.down + b.down⟩⟩

instance : Neg Counts := ⟨fun a => ⟨-a.up, -a.down⟩⟩

instance : AddCommGroup Counts where
  add_assoc a b c := Counts.ext (Int64.add_assoc ..) (Int64.add_assoc ..)
  zero_add a := Counts.ext (Int64.zero_add _) (Int64.zero_add _)
  add_zero a := Counts.ext (Int64.add_zero _) (Int64.add_zero _)
  add_comm a b := Counts.ext (Int64.add_comm ..) (Int64.add_comm ..)
  neg_add_cancel a := Counts.ext (Int64.add_left_neg _) (Int64.add_left_neg _)
  nsmul := nsmulRec
  zsmul := zsmulRec

end Counts

/-- What a call draws from the clock. -/
structure Moment where
  dayKey : Text
  hourKey : Text
  /-- The hour is before those that `trimHourly` keeps. -/
  isOld : Text → Bool
  /-- The first hour that `trimHourlyCfg` keeps. -/
  cutoff : Text

/-- The five maps. -/
structure Tables where
  usage : Dict Text Counts := ∅
  hourly : Dict Text Counts := ∅
  byConfig : Dict Text Counts := ∅
  dailyCfg : Dict Text (Dict Text Counts) := ∅
  hourlyCfg : Dict Text (Dict Text Counts) := ∅

namespace UsageStore

def hourlyRetentionHours : ℕ := 24 * 31

def mergeCounts (disk mem : Dict Text Counts) : Dict Text Counts :=
  if mem.entries.isEmpty then disk else Tally.merge disk mem

def mergeNested (disk mem : Dict Text (Dict Text Counts)) : Dict Text (Dict Text Counts) :=
  if mem.entries.isEmpty then disk else Tally.mergeInner disk mem

def bump (src : Dict Text (Dict Text Counts)) (bucket cfg : Text) (amount : Counts) :
    Dict Text (Dict Text Counts) :=
  Tally.addIn src bucket cfg amount

def trimHourly (now : Moment) (map : Dict Text Counts) : Dict Text Counts :=
  map.filterKeys fun key => !now.isOld key

def trimHourlyCfg (now : Moment) (map : Dict Text (Dict Text Counts)) :
    Dict Text (Dict Text Counts) :=
  if map.entries.length ≤ hourlyRetentionHours then map
  else map.filterKeys fun key => decide (¬ key < now.cutoff)

end UsageStore

namespace Tables

open UsageStore

/-- The tables after an amount is added. -/
def add (tables : Tables) (now : Moment) (amount : Counts) (configKey : Option Text) : Tables :=
  let daily := Tally.addAt tables.usage now.dayKey amount
  let hourly := trimHourly now (Tally.addAt tables.hourly now.hourKey amount)
  -- A key that is null or empty stands for no config.
  let key := configKey.getD []
  if key = [] then { tables with usage := daily, hourly := hourly }
  else
    { usage := daily
      hourly := hourly
      byConfig := Tally.addAt tables.byConfig key amount
      dailyCfg := bump tables.dailyCfg now.dayKey key amount
      hourlyCfg := trimHourlyCfg now (bump tables.hourlyCfg now.hourKey key amount) }

/-- What was read, with what was added since the start. -/
def merge (now : Moment) (loaded memory : Tables) : Tables where
  usage := mergeCounts loaded.usage memory.usage
  hourly := trimHourly now (mergeCounts loaded.hourly memory.hourly)
  byConfig := mergeCounts loaded.byConfig memory.byConfig
  dailyCfg := mergeNested loaded.dailyCfg memory.dailyCfg
  hourlyCfg := trimHourlyCfg now (mergeNested loaded.hourlyCfg memory.hourlyCfg)

end Tables

/-- What the thread that loads does next. -/
inductive Phase
  | daily
  | hourly
  | byConfig
  | dailyCfg
  | hourlyCfg
  | merge
  | done
  deriving DecidableEq, Repr

/-- A call of `add` that counts. -/
structure Added where
  dayKey : Text
  configKey : Option Text
  amount : Counts
  deriving DecidableEq, Repr

/-- How the five maps are stored, and what is read of it. -/
structure StoredForm (Stored : Type) where
  write : Tables → Stored
  read : Stored → Tables

/-- A blob as the map that it holds. -/
def StoredForm.maps : StoredForm Tables where
  write := id
  read := id

/-- The store after the start. `added` is the history of the calls of `add`. -/
structure StoreIn (Stored : Type) where
  memory : Tables
  stored : Stored
  loaded : Tables
  next : Phase
  ticksSincePersist : ℕ
  added : List Added

/-- What is done to the store. -/
inductive UsageStore.Event
  | load (now : Moment)
  | add (now : Moment) (amount : Counts) (configKey : Option Text)
  | flush

namespace StoreIn

variable {Stored : Type}

def start (initial : Stored) : StoreIn Stored where
  memory := {}
  stored := initial
  loaded := {}
  next := .daily
  ticksSincePersist := 0
  added := []

section Operations

variable (form : StoredForm Stored) (s : StoreIn Stored)

def persist : StoreIn Stored := { s with stored := form.write s.memory, ticksSincePersist := 0 }

def add (now : Moment) (amount : Counts) (configKey : Option Text) : StoreIn Stored :=
  if amount.up ≤ 0 ∧ amount.down ≤ 0 then s
  else
    let counted := { s with
      memory := s.memory.add now amount configKey
      added := s.added ++ [⟨now.dayKey, configKey, amount⟩]
      ticksSincePersist := s.ticksSincePersist + 1 }
    if 5 ≤ counted.ticksSincePersist then counted.persist form else counted

def flush : StoreIn Stored := s.persist form

/-- One step of the thread that loads. -/
def load (now : Moment) : Option (StoreIn Stored) :=
  let stored := form.read s.stored
  match s.next with
  | .daily => some { s with loaded := { s.loaded with usage := stored.usage }, next := .hourly }
  | .hourly =>
      some { s with loaded := { s.loaded with hourly := stored.hourly }, next := .byConfig }
  | .byConfig =>
      some { s with loaded := { s.loaded with byConfig := stored.byConfig }, next := .dailyCfg }
  | .dailyCfg =>
      some { s with loaded := { s.loaded with dailyCfg := stored.dailyCfg }, next := .hourlyCfg }
  | .hourlyCfg =>
      some { s with loaded := { s.loaded with hourlyCfg := stored.hourlyCfg }, next := .merge }
  | .merge => some { s with memory := s.loaded.merge now s.memory, next := .done }
  | .done => none

def step : UsageStore.Event → Option (StoreIn Stored)
  | .load now => s.load form now
  | .add now amount configKey => some (s.add form now amount configKey)
  | .flush => some (s.flush form)

end Operations

end StoreIn

/-- The store of the maps. -/
abbrev UsageStore := StoreIn Tables

namespace StoreIn

variable {Stored : Type} (form : StoredForm Stored)

/-- The store of the maps that are read of what is stored. -/
def view (s : StoreIn Stored) : UsageStore where
  memory := s.memory
  stored := form.read s.stored
  loaded := s.loaded
  next := s.next
  ticksSincePersist := s.ticksSincePersist
  added := s.added

section View

variable {form} (roundTrip : ∀ tables, form.read (form.write tables) = tables) (s : StoreIn Stored)
include roundTrip

theorem view_persist : (s.persist form).view form = (s.view form).persist .maps := by
  simp only [view, persist, roundTrip]
  rfl

theorem view_add (now : Moment) (amount : Counts) (configKey : Option Text) :
    (s.add form now amount configKey).view form =
      (s.view form).add .maps now amount configKey := by
  simp only [add, apply_ite (view form), view_persist roundTrip]
  rfl

theorem map_view_step (event : UsageStore.Event) :
    (s.step form event).map (view form) = (s.view form).step .maps event := by
  cases event with
  | load now =>
      have sameNext : (s.view form).next = s.next := rfl
      rw [step, step, load, load, sameNext]
      cases s.next <;> rfl
  | add now amount configKey => exact congrArg some (view_add roundTrip s now amount configKey)
  | flush => exact congrArg some (view_persist roundTrip s)

end View

end StoreIn

namespace UsageStore

abbrev start (initial : Tables) : UsageStore := StoreIn.start initial

abbrev add (s : UsageStore) (now : Moment) (amount : Counts) (configKey : Option Text) :
    UsageStore :=
  StoreIn.add .maps s now amount configKey

abbrev flush (s : UsageStore) : UsageStore := StoreIn.flush .maps s

abbrev load (s : UsageStore) (now : Moment) : Option UsageStore := StoreIn.load .maps s now

abbrev step (s : UsageStore) (event : Event) : Option UsageStore := StoreIn.step .maps s event

end UsageStore

/-- A day, a config, or a config on a day. -/
inductive Cell
  | day (day : Text)
  | config (key : Text)
  | dayConfig (day key : Text)
  deriving DecidableEq, Repr

def Tables.total (tables : Tables) : Cell → Counts
  | .day day => Tally.total tables.usage day
  | .config key => Tally.total tables.byConfig key
  | .dayConfig day key => Tally.total (Tally.inner tables.dailyCfg day) key

/-- What a call of `add` counts for the cell. -/
def Added.at (added : Added) : Cell → Counts
  | .day day => if added.dayKey = day then added.amount else 0
  | .config key => if added.configKey = some key ∧ key ≠ [] then added.amount else 0
  | .dayConfig day key =>
      if added.dayKey = day ∧ added.configKey = some key ∧ key ≠ [] then added.amount else 0

namespace Tables

theorem total_empty (cell : Cell) : total {} cell = 0 := by
  cases cell <;> rfl

theorem total_add (tables : Tables) (now : Moment) (amount : Counts) (configKey : Option Text)
    (cell : Cell) :
    (tables.add now amount configKey).total cell =
      tables.total cell + Added.at ⟨now.dayKey, configKey, amount⟩ cell := by
  by_cases noConfig : configKey.getD [] = []
  · have skips (key : Text) : ¬ (configKey = some key ∧ key ≠ []) := by
      rintro ⟨rfl, nonempty⟩
      exact nonempty noConfig
    simp only [add, if_pos noConfig]
    cases cell with
    | day day => exact Tally.total_addAt tables.usage now.dayKey amount day
    | config key => simp [total, Added.at, skips key]
    | dayConfig day key => simp [total, Added.at, skips key]
  · have counts (key : Text) : configKey.getD [] = key ↔ configKey = some key ∧ key ≠ [] := by
      cases configKey with
      | none => exact absurd rfl noConfig
      | some given =>
          simp only [Option.getD_some, Option.some.injEq] at noConfig ⊢
          constructor
          · rintro rfl
            exact ⟨rfl, noConfig⟩
          · exact And.left
    simp only [add, if_neg noConfig]
    cases cell with
    | day day => exact Tally.total_addAt tables.usage now.dayKey amount day
    | config key =>
        simp only [total, Added.at, ← counts]
        exact Tally.total_addAt tables.byConfig _ amount key
    | dayConfig day key =>
        simp only [total, Added.at, ← counts]
        exact Tally.total_addIn tables.dailyCfg now.dayKey _ amount day key

theorem total_mergeCounts (disk mem : Dict Text Counts) (key : Text) :
    Tally.total (UsageStore.mergeCounts disk mem) key =
      Tally.total disk key + Tally.total mem key := by
  rw [UsageStore.mergeCounts]
  split_ifs with empty
  · rw [AList.ext (t := ∅) (List.isEmpty_iff.mp empty), Tally.total_empty, add_zero]
  · exact Tally.total_merge disk mem key

theorem total_mergeNested (disk mem : Dict Text (Dict Text Counts)) (bucket key : Text) :
    Tally.total (Tally.inner (UsageStore.mergeNested disk mem) bucket) key =
      Tally.total (Tally.inner disk bucket) key + Tally.total (Tally.inner mem bucket) key := by
  rw [UsageStore.mergeNested]
  split_ifs with empty
  · have isEmpty : mem = ∅ := AList.ext (List.isEmpty_iff.mp empty)
    rw [isEmpty]
    exact (add_zero _).symm
  · exact Tally.total_mergeInner disk mem bucket key

theorem total_merge (now : Moment) (loaded memory : Tables) (cell : Cell) :
    (loaded.merge now memory).total cell = loaded.total cell + memory.total cell := by
  cases cell with
  | day day => exact total_mergeCounts loaded.usage memory.usage day
  | config key => exact total_mergeCounts loaded.byConfig memory.byConfig key
  | dayConfig day key => exact total_mergeNested loaded.dailyCfg memory.dailyCfg day key

end Tables

namespace Phase

/-- The next step reads the map with the cell. -/
def reads : Phase → Cell → Bool
  | daily, .day _ | byConfig, .config _ | dailyCfg, .dayConfig _ _ => true
  | _, _ => false

/-- The map with the cell has been read. -/
def hasRead : Phase → Cell → Bool
  | hourly, .day _ | byConfig, .day _ => true
  | dailyCfg, .day _ | dailyCfg, .config _ => true
  | hourlyCfg, _ | merge, _ | done, _ => true
  | _, _ => false

end Phase

namespace UsageStore

variable {initial : Tables} {s next : UsageStore} {event : Event}

/-- What was added for the cell. -/
def addedTo (s : UsageStore) (cell : Cell) : Counts := (s.added.map fun added => added.at cell).sum

/-- After a `flush`, what is stored and what is in memory is what was stored before the start
and what was added. -/
def Accounts (s : UsageStore) (initial : Tables) : Prop :=
  ∀ cell, s.flush.stored.total cell = initial.total cell + s.addedTo cell ∧
    s.flush.memory.total cell = initial.total cell + s.addedTo cell

/-- The map that the next step reads, if any, has the totals of before the start. -/
def FindsInitial (s : UsageStore) (initial : Tables) : Event → Prop
  | .load _ => ∀ cell, s.next.reads cell → s.stored.total cell = initial.total cell
  | .add _ _ _ | .flush => True

/-- So has each of the maps when it is read. -/
def ReadsInitial (initial : Tables) : UsageStore → List Event → Prop
  | _, [] => True
  | s, event :: events =>
      s.FindsInitial initial event ∧
        ∀ next, s.step event = some next → ReadsInitial initial next events

/-- What has been read has the totals of before the start. -/
def Matches (s : UsageStore) (initial : Tables) : Prop :=
  ∀ cell, s.next.hasRead cell → s.loaded.total cell = initial.total cell

/-- The memory has what was added, and what was read once it is merged. -/
def Balanced (s : UsageStore) : Prop :=
  ∀ cell, s.memory.total cell =
    (if s.next = .done then s.loaded.total cell else 0) + s.addedTo cell

theorem balanced_start (initial : Tables) : (start initial).Balanced := by
  intro cell
  simp [StoreIn.start, Tables.total_empty, addedTo]

/-- A call of `add` counts or changes nothing, and what it writes it also keeps. -/
theorem add_cases (s : UsageStore) (now : Moment) (amount : Counts) (configKey : Option Text) :
    s.add now amount configKey = s ∨
      ((s.add now amount configKey).memory = s.memory.add now amount configKey ∧
        (s.add now amount configKey).added = s.added ++ [⟨now.dayKey, configKey, amount⟩] ∧
        (s.add now amount configKey).loaded = s.loaded ∧
        (s.add now amount configKey).next = s.next) := by
  simp only [add, StoreIn.add]
  split_ifs
  · exact .inl rfl
  · exact .inr ⟨rfl, rfl, rfl, rfl⟩
  · exact .inr ⟨rfl, rfl, rfl, rfl⟩

theorem balanced_add (balanced : s.Balanced) (now : Moment) (amount : Counts)
    (configKey : Option Text) : (s.add now amount configKey).Balanced := by
  rcases s.add_cases now amount configKey with same | ⟨memory, added, loaded, phase⟩
  · rw [same]
    exact balanced
  · intro cell
    have more : (s.add now amount configKey).addedTo cell =
        s.addedTo cell + Added.at ⟨now.dayKey, configKey, amount⟩ cell := by
      simp [addedTo, added]
    rw [memory, loaded, phase, more, Tables.total_add, balanced cell, add_assoc]

theorem balanced_load {now : Moment} (balanced : s.Balanced) (taken : s.load now = some next) :
    next.Balanced := by
  intro cell
  have before := balanced cell
  rw [load, StoreIn.load] at taken
  cases phase : s.next <;> simp only [phase] at taken before <;> cases taken
  case merge =>
    rw [if_neg (by decide), zero_add] at before
    rw [if_pos rfl, Tables.total_merge, before]
    rfl
  all_goals exact before

theorem balanced_step (balanced : s.Balanced) (taken : s.step event = some next) :
    next.Balanced := by
  cases event with
  | load now => exact balanced_load balanced taken
  | add now amount configKey =>
      cases taken
      exact balanced_add balanced now amount configKey
  | flush =>
      cases taken
      exact balanced

theorem matches_load_iff {now : Moment} (taken : s.load now = some next) :
    next.Matches initial ↔ s.Matches initial ∧ s.FindsInitial initial (.load now) := by
  rw [load, StoreIn.load] at taken
  cases phase : s.next <;> simp only [phase] at taken <;> cases taken
  all_goals
    simp only [Matches, FindsInitial, phase, ← forall_and]
    apply forall_congr'
    intro cell
    cases cell <;> simp [Phase.hasRead, Phase.reads, Tables.total, StoredForm.maps]

theorem matches_step_iff (taken : s.step event = some next) :
    next.Matches initial ↔ s.Matches initial ∧ s.FindsInitial initial event := by
  cases event with
  | load now => exact matches_load_iff taken
  | add now amount configKey =>
      obtain rfl : s.add now amount configKey = next := Option.some.inj taken
      rw [FindsInitial, and_true]
      rcases s.add_cases now amount configKey with same | ⟨-, -, loaded, phase⟩
      · rw [same]
      · rw [Matches, loaded, phase, Matches]
  | flush =>
      cases taken
      rw [FindsInitial, and_true]
      rfl

theorem matches_run_iff {events : List Event} (ends : run step s events = some next) :
    next.Matches initial ↔ s.Matches initial ∧ ReadsInitial initial s events := by
  induction events generalizing s with
  | nil =>
      cases ends
      rw [ReadsInitial, and_true]
  | cons event events ih =>
      rcases run_cons_eq_some.mp ends with ⟨middle, taken, rest⟩
      rw [ih rest, matches_step_iff taken, and_assoc, ReadsInitial, taken]
      simp

theorem accounts_iff_matches (balanced : s.Balanced) (merged : s.next = .done) :
    s.Accounts initial ↔ s.Matches initial := by
  apply forall_congr'
  intro cell
  have total : s.memory.total cell = s.loaded.total cell + s.addedTo cell := by
    rw [balanced cell, if_pos merged]
  rw [show s.flush.stored = s.memory from rfl, show s.flush.memory = s.memory from rfl, and_self,
    total, add_left_inj, merged]
  simp [Phase.hasRead]

/-- Once the maps are merged, a `flush` accounts for everything if and only if each of the maps
is read before anything else is stored in its place. -/
theorem accounts_iff {events : List Event} (ends : run step (start initial) events = some s)
    (merged : s.next = .done) :
    s.Accounts initial ↔ ReadsInitial initial (start initial) events := by
  have balanced : s.Balanced :=
    run_invariant (balanced_start initial) (fun _ => balanced_step) ends
  have startMatches : (start initial).Matches initial := by
    intro cell isRead
    cases isRead
  rw [accounts_iff_matches balanced merged, matches_run_iff ends]
  exact and_iff_right startMatches

def sampleMoment : Moment where
  dayKey := txt "2026-01-02"
  hourKey := txt "2026-01-02-10"
  isOld _ := false
  cutoff := txt "2025-12-02-10"

/-- A hundred bytes up on the day, all with one config. -/
def sampleTables : Tables where
  usage := AList.singleton (txt "2026-01-02") ⟨100, 0⟩
  byConfig := AList.singleton (txt "c") ⟨100, 0⟩
  dailyCfg := AList.singleton (txt "2026-01-02") (AList.singleton (txt "c") ⟨100, 0⟩)

/-- An amount that is added while the maps are read. -/
def addedWhileLoading : List Event :=
  [.load sampleMoment, .add sampleMoment ⟨5, 7⟩ (some (txt "c")), .load sampleMoment,
    .load sampleMoment, .load sampleMoment, .load sampleMoment, .load sampleMoment]

theorem accounts_addedWhileLoading :
    ∃ s, run step (start sampleTables) addedWhileLoading = some s ∧ s.next = .done ∧
      s.Accounts sampleTables := by
  have ends : ∃ s, run step (start sampleTables) addedWhileLoading = some s ∧ s.next = .done :=
    ⟨_, rfl, rfl⟩
  rcases ends with ⟨s, ends, merged⟩
  refine ⟨s, ends, merged, (accounts_iff ends merged).mpr ?_⟩
  simp [addedWhileLoading, ReadsInitial, FindsInitial, StoreIn.step, StoreIn.load, StoreIn.add,
    StoreIn.start, StoredForm.maps, Phase.reads]

/-- The empty memory is written over the maps before they are read. -/
def flushedFirst : List Event := .flush :: List.replicate 6 (.load sampleMoment)

theorem not_accounts_flushedFirst :
    ∃ s, run step (start sampleTables) flushedFirst = some s ∧ s.next = .done ∧
      ¬ s.Accounts sampleTables := by
  refine ⟨_, rfl, rfl, ?_⟩
  intro accounts
  have day := (accounts (.day (txt "2026-01-02"))).1
  exact absurd day (by decide +kernel)

end UsageStore

end GRoute
