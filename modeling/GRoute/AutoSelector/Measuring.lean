import GRoute.AutoSelector
import GRoute.Foundation.Publishing
import GRoute.Foundation.Transition

/-!
# Measuring

`measureAll` marks every candidate as being tested and starts one job for each, four of which may
run at a time. A job publishes its result by replacing the map of results with a copy that has its
entry. `pickFastest` runs on the main thread, where nothing comes between the copy and the
replacement, and may be cut off by its timeout at any moment: it returns a config whose delay is the
least of all that have been published until then.
-/

namespace GRoute.AutoSelector

open Text ConfigBuilder Publishing Transition

/-- A result as the map of results holds it. -/
inductive PingResult
  | testing
  | ok (ms : ℤ)
  | failed
  deriving DecidableEq, Repr

abbrev Results : Type := Text → Option PingResult

def maxConcurrency : ℕ := 4

/-- `(results[id] as? PingResult.Ok)?.ms`. -/
def okMs (results : Results) (id : Text) : Option ℤ :=
  match results id with
  | some (.ok ms) => some ms
  | _ => none

theorem okMs_eq_some_iff {results : Results} {id : Text} {ms : ℤ} :
    okMs results id = some ms ↔ results id = some (.ok ms) := by
  unfold okMs
  split
  · next shown => rw [shown, Option.some_inj, Option.some_inj, PingResult.ok.injEq]
  · next other =>
      constructor
      · rintro ⟨⟩
      · intro isOk
        exact absurd isOk (other ms)

def ids (configs : List ProxyConfig) : List Text := configs.map ProxyConfig.id

def marking (results : Results) (configs : List ProxyConfig) : Results :=
  fun id => if id ∈ ids configs then some .testing else results id

theorem marking_of_mem {results : Results} {configs : List ProxyConfig} {config : ProxyConfig}
    (mem : config ∈ configs) : marking results configs config.id = some .testing :=
  if_pos (List.mem_map_of_mem mem)

/-- The jobs of `measureAll`, as they are launched. -/
def measureAll (results : Results) (configs : List ProxyConfig) : State Text PingResult :=
  start (marking results configs) (ids configs)

/-- The configs with a delay, and it. -/
def timed (configs : List ProxyConfig) (results : Results) : List (ProxyConfig × ℤ) :=
  configs.filterMap fun config => (okMs results config.id).map fun ms => (config, ms)

/-- The first entry with the least delay of the rest and of the best so far. -/
def least (best : ProxyConfig × ℤ) (rest : List (ProxyConfig × ℤ)) : ProxyConfig × ℤ :=
  rest.foldl (fun best entry => if entry.2 < best.2 then entry else best) best

/-- The first with the least delay, as `minByOrNull` finds it. -/
def fastest (configs : List ProxyConfig) (results : Results) : Option (ProxyConfig × ℤ) :=
  match timed configs results with
  | [] => none
  | first :: rest => some (least first rest)

/-- What `pickFastest` returns, for the results that there are when the measuring ends. -/
def pickFastest (platform : Platform) (all : List ProxyConfig) (results : Results) :
    Option ProxyConfig :=
  let configs := selectable platform all
  if configs.isEmpty then none
  else if configs.length = 1 then configs.head?
  else (fastest configs results).map Prod.fst

section Fastest

variable {configs : List ProxyConfig} {results : Results} {config : ProxyConfig} {ms : ℤ}

theorem mem_timed : (config, ms) ∈ timed configs results ↔
    config ∈ configs ∧ results config.id = some (.ok ms) := by
  simp only [timed, List.mem_filterMap, Option.map_eq_some_iff, Prod.mk.injEq]
  constructor
  · rintro ⟨other, mem, found, isOk, rfl, rfl⟩
    exact ⟨mem, okMs_eq_some_iff.mp isOk⟩
  · rintro ⟨mem, isOk⟩
    exact ⟨config, mem, ms, okMs_eq_some_iff.mpr isOk, rfl, rfl⟩

theorem least_spec (best : ProxyConfig × ℤ) (rest : List (ProxyConfig × ℤ)) :
    least best rest ∈ best :: rest ∧ ∀ entry ∈ best :: rest, (least best rest).2 ≤ entry.2 := by
  induction rest generalizing best with
  | nil => simp [least]
  | cons entry rest ih =>
      rw [least, List.foldl_cons]
      by_cases faster : entry.2 < best.2
      · rw [if_pos faster]
        rcases ih entry with ⟨mem, le⟩
        refine ⟨List.mem_cons_of_mem _ mem, ?_⟩
        rw [List.forall_mem_cons]
        exact ⟨(le entry List.mem_cons_self).trans faster.le, le⟩
      · rw [if_neg faster]
        rcases ih best with ⟨mem, le⟩
        rw [List.forall_mem_cons] at le
        refine ⟨List.cons_subset_cons best (List.subset_cons_self entry rest) mem, ?_⟩
        rw [List.forall_mem_cons, List.forall_mem_cons]
        exact ⟨le.1, le.1.trans (not_lt.mp faster), le.2⟩

theorem fastest_eq_some (found : fastest configs results = some (config, ms)) :
    config ∈ configs ∧ results config.id = some (.ok ms) ∧
      ∀ other ∈ configs, ∀ otherMs, results other.id = some (.ok otherMs) → ms ≤ otherMs := by
  unfold fastest at found
  split at found
  · cases found
  · next first rest shown =>
      rcases least_spec first rest with ⟨mem, le⟩
      rw [Option.some_inj.mp found, ← shown] at mem le
      rcases mem_timed.mp mem with ⟨isConfig, isOk⟩
      refine ⟨isConfig, isOk, ?_⟩
      intro other otherMem otherMs otherOk
      exact le (other, otherMs) (mem_timed.mpr ⟨otherMem, otherOk⟩)

theorem fastest_eq_none_iff : fastest configs results = none ↔
    ∀ config ∈ configs, ∀ ms, results config.id ≠ some (.ok ms) := by
  have isNil : fastest configs results = none ↔ timed configs results = [] := by
    unfold fastest
    split <;> simp [*]
  rw [isNil, List.eq_nil_iff_forall_not_mem]
  constructor
  · intro none config mem ms isOk
    exact none (config, ms) (mem_timed.mpr ⟨mem, isOk⟩)
  · rintro none ⟨config, ms⟩ mem
    rcases mem_timed.mp mem with ⟨isConfig, isOk⟩
    exact none config isConfig ms isOk

end Fastest

/-- The job for the config has published the delay. -/
def Published (s : State Text PingResult) (config : ProxyConfig) (ms : ℤ) : Prop :=
  ∃ i, s.At i config.id (.done (.ok ms))

variable {results : Results} {configs : List ProxyConfig} {s : State Text PingResult}

theorem lossless_measureAll (distinct : (ids configs).Nodup)
    (reached : Reaches (step maxConcurrency) Confined (measureAll results configs) s) :
    Lossless (marking results configs) (ids configs) s :=
  reached.invariant (Lossless.start _ _) fun _ lossless confined taken =>
    lossless.step distinct confined taken

/-- On the main thread the map has the delay of a candidate exactly if its job has published it. -/
theorem entries_eq_ok_iff (distinct : (ids configs).Nodup)
    (reached : Reaches (step maxConcurrency) Confined (measureAll results configs) s)
    {config : ProxyConfig} (mem : config ∈ configs) {ms : ℤ} :
    s.entries config.id = some (.ok ms) ↔ Published s config ms := by
  have lossless := lossless_measureAll distinct reached
  constructor
  · intro isOk
    have isKey : config.id ∈ s.jobs.map Prod.fst := by
      rw [lossless.sameKeys]
      exact List.mem_map_of_mem mem
    rcases List.mem_map.mp isKey with ⟨⟨key, phase⟩, isJob, sameKey⟩
    cases sameKey
    rcases List.getElem?_of_mem isJob with ⟨i, job⟩
    have entry := lossless.entries i _ phase job
    rw [isOk, marking_of_mem mem] at entry
    cases phase <;> cases entry
    exact ⟨i, job⟩
  · rintro ⟨i, job⟩
    exact lossless.entries i _ _ job

/-- On the main thread, whenever the timeout strikes: there is a pick unless there is no candidate
or several of which none has published a delay; and the pick is the only candidate, or one whose
delay has been published and is the least that has. -/
theorem pickFastest_spec (platform : Platform) (all : List ProxyConfig) {results : Results}
    {s : State Text PingResult} (distinct : (ids (selectable platform all)).Nodup)
    (reached : Reaches (step maxConcurrency) Confined
      (measureAll results (selectable platform all)) s) :
    (pickFastest platform all s.entries = none ↔ (selectable platform all).length ≠ 1 ∧
      ∀ config ∈ selectable platform all, ∀ ms, ¬Published s config ms) ∧
    ∀ config, pickFastest platform all s.entries = some config →
      config ∈ selectable platform all ∧ ((selectable platform all).length = 1 ∨
        ∃ ms, Published s config ms ∧ ∀ other ∈ selectable platform all, ∀ otherMs,
          Published s other otherMs → ms ≤ otherMs) := by
  have shown {config : ProxyConfig} (mem : config ∈ selectable platform all) {ms : ℤ} :
      s.entries config.id = some (.ok ms) ↔ Published s config ms :=
    entries_eq_ok_iff distinct reached mem
  simp only [pickFastest]
  generalize selectable platform all = configs at shown ⊢
  rcases configs with _ | ⟨first, _ | ⟨second, rest⟩⟩
  · simp
  · constructor
    · simp
    · rintro config ⟨⟩
      exact ⟨List.mem_singleton_self first, Or.inl rfl⟩
  · have several : (first :: second :: rest).length ≠ 1 := by simp
    rw [if_neg (by simp), if_neg several]
    constructor
    · rw [Option.map_eq_none_iff, fastest_eq_none_iff]
      constructor
      · intro unanswered
        refine ⟨several, ?_⟩
        intro config mem ms published
        exact unanswered config mem ms ((shown mem).mpr published)
      · rintro ⟨-, unpublished⟩ config mem ms isOk
        exact unpublished config mem ms ((shown mem).mp isOk)
    · intro config picked
      rcases Option.map_eq_some_iff.mp picked with ⟨⟨best, ms⟩, found, rfl⟩
      rcases fastest_eq_some found with ⟨mem, isOk, le⟩
      refine ⟨mem, Or.inr ⟨ms, (shown mem).mp isOk, ?_⟩⟩
      intro other otherMem otherMs published
      exact le other otherMem otherMs ((shown otherMem).mpr published)

/-- One of two servers has answered when the timeout strikes. -/
def oneAnswer : State Text PingResult where
  entries := Function.update (marking (fun _ => none) [entryServer, exitServer]) exitServer.id
    (some (.ok 30))
  jobs := [(entryServer.id, .working), (exitServer.id, .done (.ok 30))]

theorem reaches_oneAnswer : Reaches (step maxConcurrency) Confined
    (measureAll (fun _ => none) (selectable .ascii [entryServer, exitServer])) oneAnswer := by
  have all : selectable .ascii [entryServer, exitServer] = [entryServer, exitServer] := by
    decide +kernel
  rw [all]
  have ends : run (guarded (step maxConcurrency) Confined)
      (measureAll (fun _ => none) [entryServer, exitServer])
      [.acquire 0, .acquire 1, .answer 1 (.ok 30), .copy 1, .publish 1] = some oneAnswer := rfl
  exact reaches_of_run ends

theorem pickFastest_oneAnswer :
    pickFastest .ascii [entryServer, exitServer] oneAnswer.entries = some exitServer ∧
      ((selectable .ascii [entryServer, exitServer]).length = 1 ∨
        ∃ ms, Published oneAnswer exitServer ms) := by
  have picked :
      pickFastest .ascii [entryServer, exitServer] oneAnswer.entries = some exitServer := by
    decide +kernel
  rcases (pickFastest_spec .ascii [entryServer, exitServer] (by decide +kernel)
    reaches_oneAnswer).2 exitServer picked with ⟨-, only | ⟨ms, published, -⟩⟩
  · exact ⟨picked, Or.inl only⟩
  · exact ⟨picked, Or.inr ⟨ms, published⟩⟩

end GRoute.AutoSelector
