import GRoute.AutoSelector.Measuring

/-!
# Rounds of the selector

The loop of the service repeats `runOnce`: it reads the configs, measures the selectable ones side
by side on several threads, and then may change the selection. The store can be edited meanwhile,
and a result can be lost to the publication of another job. In every interleaving the selection
moves only to a config that has answered in this very round, and away from one that has answered
only for a gain of the margin. Where the delays waver by less than half of the margin, the loop
never returns to a config that it has left.
-/

namespace GRoute.AutoSelector

open Text ConfigBuilder Publishing Transition

def switchMarginMs : ℤ := 40

/-- A call of `runOnce` that is measuring the configs it has read. -/
structure Round where
  configs : List ProxyConfig
  jobs : List (Text × Publishing.Phase Text PingResult)

/-- The selector and what it reads and writes. -/
structure Selector where
  store : ConfigStore
  results : Results
  round : Option Round
  /-- The configs that the tunnel was told to switch to. -/
  switches : List ProxyConfig

/-- A step of a round, or of another part of the app. -/
inductive SelectorEvent
  | begin
  | job (event : Publishing.Event PingResult)
  | finish
  /-- The user or another part of the app changes the store. -/
  | edit (store : ConfigStore)

namespace Selector

/-- The jobs and the map that they share. -/
def measuring (s : Selector) (round : Round) : State Text PingResult := ⟨s.results, round.jobs⟩

def shouldSwitch (currentPing : Option ℤ) (bestMs : ℤ) : Bool :=
  match currentPing with
  | none => true
  | some current => switchMarginMs ≤ current - bestMs

/-- The rest of `runOnce`, after `measureAll`. -/
def settle (s : Selector) (configs : List ProxyConfig) : Selector :=
  match fastest configs s.results with
  | none => s
  | some (best, bestMs) =>
      match s.store.selectedId with
      | none => { s with store := s.store.setSelectedId (some best.id) }
      | some selectedId =>
          if best.id = selectedId then s
          else if shouldSwitch (okMs s.results selectedId) bestMs then
            { s with
              store := s.store.setSelectedId (some best.id)
              switches := s.switches ++ [best] }
          else s

def idle (s : Selector) : Selector := { s with round := none }

def isDone : Publishing.Phase Text PingResult → Bool
  | .done _ => true
  | _ => false

def step (platform : Platform) (s : Selector) : SelectorEvent → Option Selector
  | .begin =>
      match s.round with
      | some _ => none
      | none =>
          let configs := selectable platform s.store.configs
          if configs.isEmpty then some s
          else
            let started := measureAll s.results configs
            some { s with results := started.entries, round := some ⟨configs, started.jobs⟩ }
  | .job event =>
      match s.round with
      | none => none
      | some round =>
          (Publishing.step maxConcurrency (s.measuring round) event).map fun measured =>
            { s with
              results := measured.entries
              round := some { round with jobs := measured.jobs } }
  | .finish =>
      match s.round with
      | none => none
      | some round =>
          if round.jobs.all fun job => isDone job.2 then
            some (s.settle round.configs).idle
          else none
  | .edit store => some { s with store := store }

end Selector

namespace Selector

variable {platform : Platform} {s after : Selector}

theorem step_begin (taken : step platform s .begin = some after) : s.round = none ∧
    (after = s ∨ after = { s with
      results := marking s.results (selectable platform s.store.configs)
      round := some ⟨selectable platform s.store.configs,
        (measureAll s.results (selectable platform s.store.configs)).jobs⟩ }) := by
  simp only [step] at taken
  split at taken
  · cases taken
  · next idle =>
      refine ⟨idle, ?_⟩
      split at taken
      · exact Or.inl (Option.some_inj.mp taken).symm
      · exact Or.inr (Option.some_inj.mp taken).symm

theorem step_job {event : Publishing.Event PingResult}
    (taken : step platform s (.job event) = some after) :
    ∃ round measured, s.round = some round ∧
      Publishing.step maxConcurrency (s.measuring round) event = some measured ∧
      after = { s with
        results := measured.entries
        round := some { round with jobs := measured.jobs } } := by
  simp only [step] at taken
  split at taken
  · cases taken
  · next round isRound =>
      rcases Option.map_eq_some_iff.mp taken with ⟨measured, stepped, rfl⟩
      exact ⟨round, measured, isRound, stepped, rfl⟩

theorem step_finish (taken : step platform s .finish = some after) :
    ∃ round, s.round = some round ∧ (∀ job ∈ round.jobs, isDone job.2 = true) ∧
      after = (s.settle round.configs).idle := by
  simp only [step] at taken
  split at taken
  · cases taken
  · next round isRound =>
      rw [Option.ite_none_right_eq_some, Option.some_inj, List.all_eq_true] at taken
      exact ⟨round, isRound, taken.1, taken.2.symm⟩

/-- What `settle` can do to the store and to the tunnel. -/
theorem settle_cases (s : Selector) (configs : List ProxyConfig) :
    s.settle configs = s ∨ ∃ best bestMs, fastest configs s.results = some (best, bestMs) ∧
      ((s.store.selectedId = none ∧
          s.settle configs = { s with store := s.store.setSelectedId (some best.id) }) ∨
        ∃ selectedId, s.store.selectedId = some selectedId ∧ best.id ≠ selectedId ∧
          shouldSwitch (okMs s.results selectedId) bestMs = true ∧
          s.settle configs = { s with
            store := s.store.setSelectedId (some best.id)
            switches := s.switches ++ [best] }) := by
  simp only [settle]
  split
  · exact Or.inl rfl
  · next best bestMs found =>
      split
      · next unselected => exact Or.inr ⟨best, bestMs, found, Or.inl ⟨unselected, rfl⟩⟩
      · next selectedId selected =>
          split
          · exact Or.inl rfl
          · next different =>
              split
              · next switches =>
                  exact Or.inr ⟨best, bestMs, found,
                    Or.inr ⟨selectedId, selected, different, switches, rfl⟩⟩
              · exact Or.inl rfl

/-- The configs of a round are selectable, and what the map has of them was found in this round. -/
def Measured (platform : Platform) (s : Selector) : Prop :=
  ∀ round, s.round = some round →
    (∀ config ∈ round.configs, config ∈ selectable platform round.configs) ∧
    ∃ before, Fresh (marking before round.configs) (s.measuring round)

theorem selectable_selectable (platform : Platform) (all : List ProxyConfig) :
    selectable platform (selectable platform all) = selectable platform all := by
  rw [selectable, selectable, List.filter_filter]
  simp only [Bool.and_self]

theorem Measured.step {event : SelectorEvent} (measured : Measured platform s)
    (taken : step platform s event = some after) : Measured platform after := by
  cases event with
  | begin =>
      rcases step_begin taken with ⟨-, rfl | rfl⟩
      · exact measured
      · rintro round ⟨⟩
        refine ⟨?_, s.results, fresh_start _ _⟩
        intro config mem
        rw [selectable_selectable]
        exact mem
  | job event =>
      rcases step_job taken with ⟨round, stepped, isRound, moved, rfl⟩
      rcases measured round isRound with ⟨allSelectable, before, fresh⟩
      rintro _ ⟨⟩
      exact ⟨allSelectable, before, fresh.step moved⟩
  | finish =>
      rcases step_finish taken with ⟨round, isRound, -, rfl⟩
      rintro _ ⟨⟩
  | edit store =>
      cases taken
      exact measured

theorem measured_of_reaches {start : Selector} {Allowed : Selector → SelectorEvent → Prop}
    (idle : start.round = none) (reached : Reaches (step platform) Allowed start s) :
    Measured platform s := by
  apply reached.invariant
  · intro round isRound
    rw [idle] at isRound
    cases isRound
  · intro state next event measured _ taken
    exact measured.step taken

/-- The delay of a candidate in the map, when all jobs are done, is one that its job published. -/
theorem Measured.published {round : Round} {config : ProxyConfig} {ms : ℤ}
    (measured : Measured platform s) (isRound : s.round = some round)
    (done : ∀ job ∈ round.jobs, isDone job.2 = true) (mem : config ∈ round.configs)
    (isOk : s.results config.id = some (.ok ms)) : Published (s.measuring round) config ms := by
  rcases measured round isRound with ⟨-, before, fresh⟩
  rcases fresh.entries config.id (.ok ms) isOk with marked | ⟨i, phase, job, found⟩
  · rw [marking_of_mem mem] at marked
    cases marked
  · have finished := done (config.id, phase) (List.mem_of_getElem? job)
    cases phase <;> cases finished
    cases found
    exact ⟨i, job⟩

theorem margin_of_shouldSwitch {current : Option ℤ} {bestMs ms : ℤ}
    (switches : shouldSwitch current bestMs = true) (isCurrent : current = some ms) :
    bestMs + switchMarginMs ≤ ms := by
  subst isCurrent
  have gain : switchMarginMs ≤ ms - bestMs := of_decide_eq_true switches
  omega

/-- The end of a round, whatever the threads and the user did before: the store stays, or the
selection moves to a candidate whose own job published its delay in this round, which is the least
of those that the map has. A selection that there was is left, and the tunnel switched, only if the
map has no delay of it or one that is larger by the margin. -/
theorem finish_selects_answered (platform : Platform) {start s after : Selector}
    (idle : start.round = none)
    (reached : Reaches (step platform) (fun _ _ => True) start s)
    (taken : step platform s .finish = some after) :
    (after.store = s.store ∧ after.switches = s.switches) ∨
    ∃ round best bestMs, s.round = some round ∧ best ∈ round.configs ∧
      best ∈ selectable platform round.configs ∧ Published (s.measuring round) best bestMs ∧
      (∀ other ∈ round.configs, ∀ ms, s.results other.id = some (.ok ms) → bestMs ≤ ms) ∧
      after.store = s.store.setSelectedId (some best.id) ∧
      ((s.store.selectedId = none ∧ after.switches = s.switches) ∨
        ∃ selectedId, s.store.selectedId = some selectedId ∧ best.id ≠ selectedId ∧
          after.switches = s.switches ++ [best] ∧
          ∀ ms, s.results selectedId = some (.ok ms) → bestMs + switchMarginMs ≤ ms) := by
  have measured := measured_of_reaches idle reached
  rcases step_finish taken with ⟨round, isRound, done, rfl⟩
  rcases settle_cases s round.configs with same | ⟨best, bestMs, found, moved⟩
  · rw [same]
    exact Or.inl ⟨rfl, rfl⟩
  · rcases fastest_eq_some found with ⟨mem, isOk, least⟩
    refine Or.inr ⟨round, best, bestMs, isRound, mem, (measured round isRound).1 best mem,
      measured.published isRound done mem isOk, least, ?_⟩
    rcases moved with ⟨unselected, settled⟩ | ⟨selectedId, selected, different, switched, settled⟩
    · rw [settled]
      exact ⟨rfl, Or.inl ⟨unselected, rfl⟩⟩
    · rw [settled]
      refine ⟨rfl, Or.inr ⟨selectedId, selected, different, rfl, ?_⟩⟩
      intro ms current
      exact margin_of_shouldSwitch switched (okMs_eq_some_iff.mpr current)

/-- Two servers, the first of which is selected. -/
def twoServers : Selector where
  store := { configs := [entryServer, exitServer], selectedId := some entryServer.id }
  results := fun _ => none
  round := none
  switches := []

/-- A round in which the other server is faster by far, up to its end. -/
def exitAnswersFirst : List SelectorEvent :=
  [.begin, .job (.acquire 0), .job (.acquire 1), .job (.answer 1 (.ok 30)), .job (.copy 1),
    .job (.answer 0 (.ok 100)), .job (.publish 1), .job (.copy 0), .job (.publish 0)]

def measuredServers : Selector :=
  (run (step .ascii) twoServers exitAnswersFirst).getD twoServers

theorem run_exitAnswersFirst :
    run (step .ascii) twoServers exitAnswersFirst = some measuredServers := by
  have ends : (run (step .ascii) twoServers exitAnswersFirst).isSome = true := by decide +kernel
  rcases Option.isSome_iff_exists.mp ends with ⟨s, isEnd⟩
  rw [measuredServers, isEnd]
  rfl

theorem finish_selects_answered_exit :
    ∃ after, step .ascii measuredServers .finish = some after ∧
      after.store.selectedId = some exitServer.id ∧
      ((after.store = measuredServers.store ∧ after.switches = measuredServers.switches) ∨
        ∃ round best bestMs, measuredServers.round = some round ∧ best ∈ round.configs ∧
          Published (measuredServers.measuring round) best bestMs ∧
          after.store = measuredServers.store.setSelectedId (some best.id)) := by
  have ends : ((step .ascii measuredServers .finish).bind fun after =>
      after.store.selectedId) = some exitServer.id := by decide +kernel
  rcases Option.bind_eq_some_iff.mp ends with ⟨after, taken, selected⟩
  refine ⟨after, taken, selected, ?_⟩
  rcases finish_selects_answered .ascii rfl (reaches_of_run_of_forall (fun _ _ _ => trivial)
    run_exitAnswersFirst) taken with same | ⟨round, best, bestMs, isRound, mem, -, published, -,
    moved, -⟩
  · exact Or.inl same
  · exact Or.inr ⟨round, best, bestMs, isRound, mem, published, moved⟩

/-- The result is a failure or a delay near the usual one of its config. -/
def Steady (usual : Text → ℤ) (spread : ℤ) (id : Text) : PingResult → Prop
  | .ok ms => |ms - usual id| ≤ spread
  | _ => True

instance (usual : Text → ℤ) (spread : ℤ) (id : Text) (result : PingResult) :
    Decidable (Steady usual spread id result) :=
  match result with
  | .ok ms => inferInstanceAs (Decidable (|ms - usual id| ≤ spread))
  | .testing => inferInstanceAs (Decidable True)
  | .failed => inferInstanceAs (Decidable True)

/-- The answers are steady, the user leaves the selection alone, and at the end of each round the
map has a delay of the selected config. -/
def Calm (usual : Text → ℤ) (spread : ℤ) (s : Selector) : SelectorEvent → Prop
  | .job (.answer i result) =>
      ((s.round.bind fun round => round.jobs[i]?).all fun job =>
        decide (Steady usual spread job.1 result)) = true
  | .finish => (s.store.selectedId.bind (okMs s.results)).isSome = true
  | .edit store => store.selectedId = s.store.selectedId
  | _ => True

instance (usual : Text → ℤ) (spread : ℤ) (s : Selector) (event : SelectorEvent) :
    Decidable (Calm usual spread s event) :=
  match event with
  | .begin => inferInstanceAs (Decidable True)
  | .job (.acquire _) => inferInstanceAs (Decidable True)
  | .job (.answer _ _) => inferInstanceAs (Decidable (_ = true))
  | .job (.copy _) => inferInstanceAs (Decidable True)
  | .job (.publish _) => inferInstanceAs (Decidable True)
  | .finish => inferInstanceAs (Decidable (_ = true))
  | .edit store => inferInstanceAs (Decidable (store.selectedId = s.store.selectedId))

variable {usual : Text → ℤ} {spread : ℤ}

/-- All results that there are, also those that jobs hold, are steady. -/
structure AllSteady (usual : Text → ℤ) (spread : ℤ) (s : Selector) : Prop where
  results : ∀ id result, s.results id = some result → Steady usual spread id result
  round : ∀ round, s.round = some round → Satisfies (Steady usual spread) (s.measuring round)

theorem steady_marking {results : Results} (configs : List ProxyConfig)
    (steady : ∀ id result, results id = some result → Steady usual spread id result) :
    ∀ id result, marking results configs id = some result → Steady usual spread id result := by
  intro id result marked
  unfold marking at marked
  split at marked
  · cases marked
    trivial
  · exact steady id result marked

theorem results_settle (s : Selector) (configs : List ProxyConfig) :
    (s.settle configs).results = s.results := by
  rcases settle_cases s configs with same | ⟨best, bestMs, -, ⟨-, same⟩ | ⟨_, -, -, -, same⟩⟩ <;>
    rw [same]

theorem AllSteady.step {event : SelectorEvent} (steady : AllSteady usual spread s)
    (calm : Calm usual spread s event) (taken : step platform s event = some after) :
    AllSteady usual spread after := by
  cases event with
  | begin =>
      rcases step_begin taken with ⟨-, rfl | rfl⟩
      · exact steady
      · have marked := steady_marking (selectable platform s.store.configs) steady.results
        refine ⟨marked, ?_⟩
        rintro round ⟨⟩
        exact Satisfies.start _ marked
  | job event =>
      rcases step_job taken with ⟨round, measured, isRound, moved, rfl⟩
      have stepped : Satisfies (Steady usual spread) measured := by
        apply (steady.round round isRound).step moved
        rintro i key result rfl working
        have found : (s.round.bind fun round => round.jobs[i]?) = some (key, .working) := by
          rw [isRound]
          exact working
        rw [Calm, found] at calm
        exact of_decide_eq_true calm
      refine ⟨stepped.entries, ?_⟩
      rintro _ ⟨⟩
      exact stepped
  | finish =>
      rcases step_finish taken with ⟨round, -, -, rfl⟩
      refine ⟨?_, by rintro _ ⟨⟩⟩
      intro id result has
      rw [idle, results_settle] at has
      exact steady.results id result has
  | edit store =>
      cases taken
      exact ⟨steady.results, steady.round⟩

/-- The selection after a number of switches: each has brought the margin, but for the spread of the
two delays that it compares. -/
structure Descended (usual : Text → ℤ) (spread : ℤ) (first : Text) (switches : ℕ) (last : Text) :
    Prop where
  gain : usual last + switches * (switchMarginMs - 2 * spread) ≤ usual first
  unmoved : switches = 0 → last = first

theorem Descended.switch {first last best : Text} {switches : ℕ} {current bestMs : ℤ}
    (descended : Descended usual spread first switches last)
    (currentSteady : Steady usual spread last (.ok current))
    (bestSteady : Steady usual spread best (.ok bestMs))
    (margin : bestMs + switchMarginMs ≤ current) :
    Descended usual spread first (switches + 1) best where
  gain := by
    have gain := descended.gain
    rw [Steady, abs_le] at currentSteady bestSteady
    have step : usual best + (switchMarginMs - 2 * spread) ≤ usual last := by linarith
    push_cast
    linarith
  unmoved impossible := absurd impossible (Nat.succ_ne_zero switches)

/-- What is kept of a run from a state with a selection. -/
structure Run (usual : Text → ℤ) (spread : ℤ) (first : Text) (before : ℕ) (s : Selector) :
    Prop where
  steady : AllSteady usual spread s
  descended : ∃ last switches, s.store.selectedId = some last ∧
    s.switches.length = before + switches ∧ Descended usual spread first switches last

theorem Run.step {first : Text} {before : ℕ} {event : SelectorEvent}
    (run : Run usual spread first before s) (calm : Calm usual spread s event)
    (taken : step platform s event = some after) : Run usual spread first before after := by
  refine ⟨run.steady.step calm taken, ?_⟩
  rcases run.descended with ⟨last, switches, selected, counted, descended⟩
  cases event with
  | begin =>
      rcases step_begin taken with ⟨-, rfl | rfl⟩ <;>
        exact ⟨last, switches, selected, counted, descended⟩
  | job event =>
      rcases step_job taken with ⟨round, measured, -, -, rfl⟩
      exact ⟨last, switches, selected, counted, descended⟩
  | edit store =>
      cases taken
      exact ⟨last, switches, Eq.trans calm selected, counted, descended⟩
  | finish =>
      rcases step_finish taken with ⟨round, -, -, rfl⟩
      rcases settle_cases s round.configs with same | ⟨best, bestMs, found, moved⟩
      · rw [same]
        exact ⟨last, switches, selected, counted, descended⟩
      · rcases moved with ⟨unselected, -⟩ | ⟨selectedId, isSelected, -, switched, settled⟩
        · rw [unselected] at selected
          cases selected
        · cases selected.symm.trans isSelected
          rw [Calm, selected, Option.bind_some, Option.isSome_iff_exists] at calm
          rcases calm with ⟨current, isCurrent⟩
          rcases fastest_eq_some found with ⟨-, isOk, -⟩
          rw [settled]
          refine ⟨best.id, switches + 1, rfl, ?_, ?_⟩
          · simp [idle, counted, Nat.add_assoc]
          · exact descended.switch
              (run.steady.results last _ (okMs_eq_some_iff.mp isCurrent))
              (run.steady.results best.id _ isOk) (margin_of_shouldSwitch switched isCurrent)

theorem run_self {first : Text} (steady : AllSteady usual spread s)
    (selected : s.store.selectedId = some first) : Run usual spread first s.switches.length s :=
  ⟨steady, first, 0, selected, rfl, by simp, fun _ => rfl⟩

theorem Run.reaches {first : Text} {before : ℕ} (run : Run usual spread first before s)
    (reached : Reaches (Selector.step platform) (Calm usual spread) s after) :
    Run usual spread first before after := by
  apply reached.invariant run
  intro state next event run calm taken
  exact run.step calm taken

/-- With delays that waver by less than half of the margin, in every interleaving of the rounds and
between any two points of a run: each switch lowers the usual delay of the selected config, by the
margin less twice the spread. So the selector returns to no config that it has left, and switches a
bounded number of times. -/
theorem switches_descend (platform : Platform) {usual : Text → ℤ} {spread : ℤ}
    (narrow : 2 * spread < switchMarginMs) {start middle s : Selector} {first : Text}
    (idle : start.round = none) (fresh : ∀ id, start.results id = none)
    (selected : start.store.selectedId = some first)
    (reached : Reaches (step platform) (Calm usual spread) start middle)
    (later : Reaches (step platform) (Calm usual spread) middle s) :
    ∃ earlier last, middle.store.selectedId = some earlier ∧ s.store.selectedId = some last ∧
      usual last + (s.switches.length - middle.switches.length : ℤ) *
        (switchMarginMs - 2 * spread) ≤ usual earlier ∧
      (last = earlier ↔ s.switches.length = middle.switches.length) := by
  have steady : AllSteady usual spread start := by
    constructor
    · intro id result has
      rw [fresh id] at has
      cases has
    · intro round isRound
      rw [idle] at isRound
      cases isRound
  have atMiddle := (run_self steady selected).reaches reached
  rcases atMiddle.descended with ⟨earlier, -, isEarlier, -, -⟩
  have run := (run_self atMiddle.steady isEarlier).reaches later
  rcases run.descended with ⟨last, switches, isLast, counted, descended⟩
  have gain := descended.gain
  have difference : (s.switches.length - middle.switches.length : ℤ) = switches := by
    rw [counted]
    push_cast
    ring
  refine ⟨earlier, last, isEarlier, isLast, by rw [difference]; exact gain, ?_⟩
  constructor
  · rintro rfl
    by_contra moved
    have positive : (1 : ℤ) ≤ switches := by omega
    nlinarith
  · intro same
    apply descended.unmoved
    omega

/-- The usual delays of the two servers. -/
def usualDelay (id : Text) : ℤ := if id = entryServer.id then 95 else 35

def switchedServers : Selector :=
  (run (guarded (step .ascii) (Calm usualDelay 5)) twoServers (exitAnswersFirst ++ [.finish])).getD
    twoServers

theorem switches_descend_exit :
    switchedServers.switches.length = 1 ∧ ∃ earlier last,
      twoServers.store.selectedId = some earlier ∧
      switchedServers.store.selectedId = some last ∧
      usualDelay last + (switchedServers.switches.length - twoServers.switches.length : ℤ) *
        (switchMarginMs - 2 * 5) ≤ usualDelay earlier := by
  have ends : (run (guarded (step .ascii) (Calm usualDelay 5)) twoServers
      (exitAnswersFirst ++ [.finish])).isSome = true := by decide +kernel
  rcases Option.isSome_iff_exists.mp ends with ⟨s, isEnd⟩
  have reached : Reaches (step .ascii) (Calm usualDelay 5) twoServers switchedServers := by
    rw [switchedServers, isEnd]
    exact reaches_of_run isEnd
  rcases switches_descend .ascii (by decide) rfl (fun _ => rfl) rfl .refl reached with
    ⟨earlier, last, isEarlier, isLast, gain, -⟩
  exact ⟨by decide +kernel, earlier, last, isEarlier, isLast, gain⟩

end Selector

end GRoute.AutoSelector
