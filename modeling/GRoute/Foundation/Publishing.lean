import Mathlib.Data.List.Nodup
import Mathlib.Logic.Function.Basic

/-!
# Publishing into a shared map

Jobs that run side by side, each under one of a number of permits, find one value each and publish
it in a map that they share. A job publishes in two steps: it copies the map, and it puts the copy
with its own entry in the map's place. What another job published between the two steps is lost,
but no entry is ever made up: each is one the map had at the start or one that a job found. Where
no other job comes between the two steps, nothing is lost.
-/

namespace GRoute.Publishing

universe u v

inductive Phase (Key : Type u) (Value : Type v)
  | waiting
  | working
  | answered (value : Value)
  | copied (value : Value) (seen : Key → Option Value)
  | done (value : Value)

structure State (Key : Type u) (Value : Type v) where
  entries : Key → Option Value
  jobs : List (Key × Phase Key Value)

/-- What the job at a position does next. -/
inductive Event (Value : Type v)
  | acquire (i : ℕ)
  | answer (i : ℕ) (value : Value)
  | copy (i : ℕ)
  | publish (i : ℕ)
  deriving DecidableEq

variable {Key : Type u} {Value : Type v}

namespace Phase

def holdsPermit : Phase Key Value → Bool
  | .working | .answered _ | .copied _ _ => true
  | .waiting | .done _ => false

/-- What the job has found. -/
def value? : Phase Key Value → Option Value
  | .answered value | .copied value _ | .done value => some value
  | .waiting | .working => none

def isCopied : Phase Key Value → Bool
  | .copied _ _ => true
  | _ => false

/-- What the job has published. -/
def published : Phase Key Value → Option Value
  | .done value => some value
  | _ => none

end Phase

namespace State

/-- The job at the position enters the phase. -/
def advance (s : State Key Value) (i : ℕ) (key : Key) (phase : Phase Key Value) :
    State Key Value :=
  { s with jobs := s.jobs.set i (key, phase) }

def replace (s : State Key Value) (entries : Key → Option Value) : State Key Value :=
  { s with entries := entries }

/-- The job at the position is one for the key, in the phase. -/
def At (s : State Key Value) (i : ℕ) (key : Key) (phase : Phase Key Value) : Prop :=
  s.jobs[i]? = some (key, phase)

/-- Some job for the key has found the value. -/
def Found (s : State Key Value) (key : Key) (value : Value) : Prop :=
  ∃ i phase, s.At i key phase ∧ phase.value? = some value

end State

/-- The jobs for the keys, none of which has begun. -/
def start (entries : Key → Option Value) (keys : List Key) : State Key Value where
  entries := entries
  jobs := keys.map fun key => (key, .waiting)

section Step

variable [DecidableEq Key]

/-- One step of one job, with a number of permits for all jobs. -/
def step (permits : ℕ) (s : State Key Value) : Event Value → Option (State Key Value)
  | .acquire i =>
      match s.jobs[i]? with
      | some (key, .waiting) =>
          if s.jobs.countP (fun job => job.2.holdsPermit) < permits then
            some (s.advance i key .working)
          else none
      | _ => none
  | .answer i value =>
      match s.jobs[i]? with
      | some (key, .working) => some (s.advance i key (.answered value))
      | _ => none
  | .copy i =>
      match s.jobs[i]? with
      | some (key, .answered value) => some (s.advance i key (.copied value s.entries))
      | _ => none
  | .publish i =>
      match s.jobs[i]? with
      | some (key, .copied value seen) =>
          some ((s.replace (Function.update seen key (some value))).advance i key (.done value))
      | _ => none

/-- What a step can do: it moves one job to its next phase, and only a publication changes the
shared map. -/
theorem step_cases {permits : ℕ} {s after : State Key Value} {event : Event Value}
    (taken : step permits s event = some after) :
    (∃ i key, event = .acquire i ∧ s.At i key .waiting ∧ after = s.advance i key .working) ∨
    (∃ i key value, event = .answer i value ∧ s.At i key .working ∧
      after = s.advance i key (.answered value)) ∨
    (∃ i key value, event = .copy i ∧ s.At i key (.answered value) ∧
      after = s.advance i key (.copied value s.entries)) ∨
    (∃ i key value seen, event = .publish i ∧ s.At i key (.copied value seen) ∧
      after = (s.replace (Function.update seen key (some value))).advance i key (.done value)) := by
  cases event with
  | acquire i =>
      simp only [step] at taken
      split at taken
      · next key job =>
          rw [Option.ite_none_right_eq_some, Option.some_inj] at taken
          exact .inl ⟨i, key, rfl, job, taken.2.symm⟩
      · cases taken
  | answer i value =>
      simp only [step] at taken
      split at taken
      · next key job => exact .inr (.inl ⟨i, key, value, rfl, job, (Option.some_inj.mp taken).symm⟩)
      · cases taken
  | copy i =>
      simp only [step] at taken
      split at taken
      · next key value job =>
          exact .inr (.inr (.inl ⟨i, key, value, rfl, job, (Option.some_inj.mp taken).symm⟩))
      · cases taken
  | publish i =>
      simp only [step] at taken
      split at taken
      · next key value seen job =>
          exact .inr (.inr (.inr ⟨i, key, value, seen, rfl, job, (Option.some_inj.mp taken).symm⟩))
      · cases taken

end Step

section Positions

variable {s : State Key Value} {i j : ℕ} {key other : Key} {phase later old : Phase Key Value}

theorem State.at_advance (job : (s.advance i key phase).At j other later) :
    (j = i ∧ other = key ∧ later = phase) ∨ (j ≠ i ∧ s.At j other later) := by
  rw [At, advance, List.getElem?_set] at job
  by_cases same : i = j
  · rw [if_pos same] at job
    split at job
    · cases job
      exact Or.inl ⟨same.symm, rfl, rfl⟩
    · cases job
  · rw [if_neg same] at job
    exact Or.inr ⟨Ne.symm same, job⟩

theorem State.At.advance_self (job : s.At i key phase) (later : Phase Key Value) :
    (s.advance i key later).At i key later := by
  rcases List.getElem?_eq_some_iff.mp job with ⟨bound, -⟩
  exact List.getElem?_set_self bound

theorem State.At.advance_ne (job : s.At j other phase) (different : j ≠ i) :
    (s.advance i key later).At j other phase := by
  rw [At, advance, List.getElem?_set_ne (Ne.symm different)]
  exact job

theorem State.At.eq (job : s.At i key phase) (again : s.At i other later) :
    other = key ∧ later = phase := by
  cases Option.some_inj.mp (again.symm.trans job)
  exact ⟨rfl, rfl⟩

theorem at_start {entries : Key → Option Value} {keys : List Key}
    (job : (start entries keys).At i key phase) : key ∈ keys ∧ phase = .waiting := by
  rcases List.mem_map.mp (List.mem_of_getElem? job) with ⟨other, isKey, same⟩
  cases same
  exact ⟨isKey, rfl⟩

theorem map_fst_advance (job : s.At i key old) :
    (s.advance i key phase).jobs.map Prod.fst = s.jobs.map Prod.fst := by
  have present : (s.jobs.map Prod.fst)[i]? = some key := by
    rw [List.getElem?_map, job]
    rfl
  rcases List.getElem?_eq_some_iff.mp present with ⟨bound, isKey⟩
  rw [State.advance, List.map_set, ← isKey]
  exact List.set_getElem_self bound

/-- A job keeps the value that it has found. -/
theorem State.Found.advance {value : Value} (found : s.Found other value) (job : s.At i key old)
    (keeps : ∀ value, old.value? = some value → phase.value? = some value) :
    (s.advance i key phase).Found other value := by
  rcases found with ⟨j, before, at', isFound⟩
  by_cases same : j = i
  · subst same
    rcases job.eq at' with ⟨rfl, rfl⟩
    exact ⟨j, phase, job.advance_self phase, keeps value isFound⟩
  · exact ⟨j, before, at'.advance_ne same, isFound⟩

end Positions

/-- Each entry of the map and of a copy of it is good, and so is each value found. -/
structure Satisfies (Good : Key → Value → Prop) (s : State Key Value) : Prop where
  entries : ∀ key value, s.entries key = some value → Good key value
  found : ∀ i key phase value, s.At i key phase → phase.value? = some value → Good key value
  copies : ∀ i key value seen, s.At i key (.copied value seen) →
    ∀ other entry, seen other = some entry → Good other entry

namespace Satisfies

variable {Good : Key → Value → Prop} {s : State Key Value}

theorem start {entries : Key → Option Value} (keys : List Key)
    (good : ∀ key value, entries key = some value → Good key value) :
    Satisfies Good (start entries keys) where
  entries := good
  found i key phase value job isFound := by
    rw [(at_start job).2] at isFound
    cases isFound
  copies i key value seen job := by cases (at_start job).2

theorem mono {Better : Key → Value → Prop} (satisfies : Satisfies Better s)
    (weaker : ∀ key value, Better key value → Good key value) : Satisfies Good s where
  entries key value entry := weaker key value (satisfies.entries key value entry)
  found i key phase value job isFound :=
    weaker key value (satisfies.found i key phase value job isFound)
  copies i key value seen job other entry has :=
    weaker other entry (satisfies.copies i key value seen job other entry has)

theorem replace {entries : Key → Option Value} (satisfies : Satisfies Good s)
    (good : ∀ key value, entries key = some value → Good key value) :
    Satisfies Good (s.replace entries) where
  entries := good
  found := satisfies.found
  copies := satisfies.copies

/-- To move a job on keeps the entries good, if what the job newly brings is good. -/
theorem advance {i : ℕ} {key : Key} {phase : Phase Key Value} (satisfies : Satisfies Good s)
    (found : ∀ value, phase.value? = some value → Good key value)
    (copies : ∀ value seen, phase = .copied value seen →
      ∀ other entry, seen other = some entry → Good other entry) :
    Satisfies Good (s.advance i key phase) where
  entries := satisfies.entries
  found j other later value job isFound := by
    rcases State.at_advance job with ⟨rfl, rfl, rfl⟩ | ⟨-, before⟩
    · exact found value isFound
    · exact satisfies.found j other later value before isFound
  copies j other value seen job := by
    rcases State.at_advance job with ⟨rfl, rfl, isPhase⟩ | ⟨-, before⟩
    · exact copies value seen isPhase.symm
    · exact satisfies.copies j other value seen before

end Satisfies

/-- Each entry is one of the start or one that a job has found. -/
def Fresh (base : Key → Option Value) (s : State Key Value) : Prop :=
  Satisfies (fun key value => base key = some value ∨ s.Found key value) s

theorem fresh_start (base : Key → Option Value) (keys : List Key) :
    Fresh base (start base keys) :=
  Satisfies.start keys fun _ _ entry => Or.inl entry

section Steps

variable [DecidableEq Key] {permits : ℕ} {s after : State Key Value} {event : Event Value}

/-- A step keeps the map good, if the answers are good. -/
theorem Satisfies.step {Good : Key → Value → Prop} (satisfies : Satisfies Good s)
    (taken : step permits s event = some after)
    (answers : ∀ i key value, event = .answer i value → s.At i key .working → Good key value) :
    Satisfies Good after := by
  rcases step_cases taken with ⟨i, key, -, job, rfl⟩ | ⟨i, key, value, isAnswer, job, rfl⟩ |
    ⟨i, key, value, -, job, rfl⟩ | ⟨i, key, value, seen, -, job, rfl⟩
  · apply satisfies.advance
    · rintro value ⟨⟩
    · rintro value seen ⟨⟩
  · apply satisfies.advance
    · rintro found ⟨⟩
      exact answers i key value isAnswer job
    · rintro value seen ⟨⟩
  · apply satisfies.advance
    · rintro found ⟨⟩
      exact satisfies.found i key _ value job rfl
    · rintro found seen ⟨⟩
      exact satisfies.entries
  · have good : Good key value := satisfies.found i key _ value job rfl
    have published : Satisfies Good (s.replace (Function.update seen key (some value))) := by
      apply satisfies.replace
      intro other entry has
      by_cases same : other = key
      · subst same
        rw [Function.update_self] at has
        cases has
        exact good
      · rw [Function.update_of_ne same] at has
        exact satisfies.copies i key value seen job other entry has
    apply published.advance
    · rintro found ⟨⟩
      exact good
    · rintro found other ⟨⟩

theorem State.Found.step {key : Key} {value : Value} (found : s.Found key value)
    (taken : step permits s event = some after) : after.Found key value := by
  rcases step_cases taken with ⟨i, key, -, job, rfl⟩ | ⟨i, key, value, -, job, rfl⟩ |
    ⟨i, key, value, -, job, rfl⟩ | ⟨i, key, value, seen, -, job, rfl⟩
  · exact found.advance job (by rintro value ⟨⟩)
  · exact found.advance job (by rintro value ⟨⟩)
  · exact found.advance job (fun _ isFound => isFound)
  · exact State.Found.advance (s := s.replace _) found job (fun _ isFound => isFound)

theorem Fresh.step {base : Key → Option Value} (fresh : Fresh base s)
    (taken : step permits s event = some after) : Fresh base after := by
  have weaker : Satisfies (fun key value => base key = some value ∨ after.Found key value) s := by
    apply Satisfies.mono fresh
    rintro key value (atStart | found)
    · exact Or.inl atStart
    · exact Or.inr (found.step taken)
  apply weaker.step taken
  rintro i key value rfl job
  rcases step_cases taken with ⟨_, _, ⟨⟩, _⟩ | ⟨_, other, _, ⟨⟩, same, rfl⟩ |
    ⟨_, _, _, ⟨⟩, _⟩ | ⟨_, _, _, _, ⟨⟩, _⟩
  rcases same.eq job with ⟨rfl, -⟩
  exact Or.inr ⟨i, .answered value, job.advance_self _, rfl⟩

end Steps

/-- No other job comes between a copy of the map and its publication. -/
def Confined (s : State Key Value) (event : Event Value) : Prop :=
  ∀ i < s.jobs.length, (s.jobs[i]?.any fun job => job.2.isCopied) = true → event = .publish i

instance [DecidableEq Value] (s : State Key Value) (event : Event Value) :
    Decidable (Confined s event) :=
  inferInstanceAs (Decidable (∀ i < s.jobs.length, _ → event = .publish i))

theorem Confined.eq_publish {s : State Key Value} {event : Event Value}
    (confined : Confined s event) {i : ℕ} {key : Key} {value : Value} {seen : Key → Option Value}
    (job : s.At i key (.copied value seen)) : event = .publish i := by
  apply confined i (List.getElem?_eq_some_iff.mp job).1
  rw [job]
  rfl

/-- The map has what was published, and the entries of the start besides. -/
structure Lossless (base : Key → Option Value) (keys : List Key) (s : State Key Value) : Prop where
  sameKeys : s.jobs.map Prod.fst = keys
  entries : ∀ i key phase, s.At i key phase → s.entries key = phase.published.or (base key)
  others : ∀ key, key ∉ keys → s.entries key = base key
  copies : ∀ i key value seen, s.At i key (.copied value seen) → seen = s.entries

namespace Lossless

variable {base : Key → Option Value} {keys : List Key} {s : State Key Value}

theorem start (base : Key → Option Value) (keys : List Key) :
    Lossless base keys (start base keys) where
  sameKeys := (List.map_map ..).trans (List.map_id keys)
  entries i key phase job := by
    rw [(at_start job).2]
    rfl
  others key _ := rfl
  copies i key value seen job := by cases (at_start job).2

theorem getElem?_keys (lossless : Lossless base keys s) {i : ℕ} {key : Key}
    {phase : Phase Key Value} (job : s.At i key phase) : keys[i]? = some key := by
  rw [← lossless.sameKeys, List.getElem?_map, job]
  rfl

/-- Distinct keys tell the jobs apart. -/
theorem position_eq (lossless : Lossless base keys s) (distinct : keys.Nodup) {i j : ℕ} {key : Key}
    {phase other : Phase Key Value} (job : s.At i key phase) (otherJob : s.At j key other) :
    i = j := by
  have first := lossless.getElem?_keys job
  have second := lossless.getElem?_keys otherJob
  exact (List.getElem?_inj (List.getElem?_eq_some_iff.mp first).1 distinct).mp
    (first.trans second.symm)

/-- To move a job on, with no copy outstanding, changes nothing that is published. -/
theorem advance (lossless : Lossless base keys s) {i : ℕ} {key : Key} {old phase : Phase Key Value}
    (job : s.At i key old) (unpublished : phase.published = old.published)
    (noCopy : ∀ j other value seen, ¬s.At j other (.copied value seen))
    (copies : ∀ value seen, phase = .copied value seen → seen = s.entries) :
    Lossless base keys (s.advance i key phase) where
  sameKeys := (map_fst_advance job).trans lossless.sameKeys
  entries j other later at' := by
    rcases State.at_advance at' with ⟨rfl, rfl, rfl⟩ | ⟨-, before⟩
    · rw [unpublished]
      exact lossless.entries j other old job
    · exact lossless.entries j other later before
  others := lossless.others
  copies j other value seen at' := by
    rcases State.at_advance at' with ⟨-, -, isPhase⟩ | ⟨-, before⟩
    · exact copies value seen isPhase.symm
    · exact absurd before (noCopy j other value seen)

variable [DecidableEq Key]

theorem publish (lossless : Lossless base keys s) (distinct : keys.Nodup) {i : ℕ} {key : Key}
    {value : Value} {seen : Key → Option Value} (job : s.At i key (.copied value seen))
    (onlyCopy : ∀ j other value seen, s.At j other (.copied value seen) → j = i) :
    Lossless base keys
      ((s.replace (Function.update seen key (some value))).advance i key (.done value)) where
  sameKeys := (map_fst_advance (s := s.replace _) job).trans lossless.sameKeys
  entries j other later at' := by
    rw [lossless.copies i key value seen job]
    rcases State.at_advance at' with ⟨rfl, rfl, rfl⟩ | ⟨different, before⟩
    · exact Function.update_self ..
    · have otherKey : other ≠ key := by
        rintro rfl
        exact different (lossless.position_eq distinct before job)
      exact (Function.update_of_ne otherKey ..).trans (lossless.entries j other later before)
  others other absent := by
    rw [lossless.copies i key value seen job]
    have otherKey : other ≠ key := by
      rintro rfl
      exact absent (List.mem_of_getElem? (lossless.getElem?_keys job))
    exact (Function.update_of_ne otherKey ..).trans (lossless.others other absent)
  copies j other found copy at' := by
    rcases State.at_advance at' with ⟨-, -, ⟨⟩⟩ | ⟨different, before⟩
    exact absurd (onlyCopy j other found copy before) different

theorem step {permits : ℕ} {after : State Key Value} {event : Event Value} (distinct : keys.Nodup)
    (lossless : Lossless base keys s) (confined : Confined s event)
    (taken : step permits s event = some after) : Lossless base keys after := by
  rcases step_cases taken with ⟨i, key, rfl, job, rfl⟩ | ⟨i, key, value, rfl, job, rfl⟩ |
    ⟨i, key, value, rfl, job, rfl⟩ | ⟨i, key, value, seen, rfl, job, rfl⟩
  · refine lossless.advance job rfl ?_ (by rintro _ _ ⟨⟩)
    intro j other value seen copied
    cases confined.eq_publish copied
  · refine lossless.advance job rfl ?_ (by rintro _ _ ⟨⟩)
    intro j other found seen copied
    cases confined.eq_publish copied
  · refine lossless.advance job rfl ?_ (by rintro _ _ ⟨⟩; rfl)
    intro j other found seen copied
    cases confined.eq_publish copied
  · apply lossless.publish distinct job
    intro j other found copy copied
    cases confined.eq_publish copied
    rfl

end Lossless

end GRoute.Publishing
