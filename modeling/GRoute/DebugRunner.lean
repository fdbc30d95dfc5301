import GRoute.Foundation.Text
import GRoute.Foundation.Transition
import Mathlib.Data.Finset.Erase
import Mathlib.Data.Finset.Insert

/-!
# The runner of config tests

`DebugRunner.start` cancels the run before and launches a new one, which puts the id of its config
into the set of running ids, probes the config and takes the id out again. A run that is cancelled
ends at a suspension point of the probe and leaves its id in the set. The set is read and written
in two steps, on several threads.
-/

namespace GRoute

open Text Transition

namespace DebugRunner

/-- Where a run is. The set that it has read is written back with its id put in or taken out. -/
inductive Phase
  | scheduled
  | entered
  | adding (seen : Finset Text)
  | probing
  | reporting
  | removing (seen : Finset Text)
  | done
  /-- It was cancelled before it began, or while the probe was suspended. -/
  | ended
  deriving DecidableEq

/-- A launched coroutine. -/
structure Run where
  id : Text
  /-- `inspect` finds the config bad, and there is no probe. -/
  broken : Bool
  cancelled : Bool := false
  phase : Phase := .scheduled
  deriving DecidableEq

inductive Move
  | dispatch
  | read
  | write
  /-- `ConfigProbe.run` returns. -/
  | probed
  /-- A suspension point throws the cancellation. -/
  | cancel
  deriving DecidableEq

/-- A move of the run and the set after it. -/
def Run.move (run : Run) (running : Finset Text) : Move → Option (Run × Finset Text)
  | .dispatch =>
      match run.phase with
      | .scheduled =>
          some ({ run with phase := if run.cancelled then .ended else .entered }, running)
      | _ => none
  | .read =>
      match run.phase with
      | .entered => some ({ run with phase := .adding running }, running)
      | .reporting => some ({ run with phase := .removing running }, running)
      | _ => none
  | .write =>
      match run.phase with
      | .adding seen =>
          some ({ run with phase := if run.broken then .reporting else .probing },
            insert run.id seen)
      | .removing seen => some ({ run with phase := .done }, seen.erase run.id)
      | _ => none
  | .probed =>
      match run.phase with
      | .probing => some ({ run with phase := .reporting }, running)
      | _ => none
  | .cancel =>
      match run.phase, run.cancelled with
      | .probing, true => some ({ run with phase := .ended }, running)
      | _, _ => none

def Run.cancel (run : Run) : Run := { run with cancelled := true }

end DebugRunner

/-- The current run is the one that was started last. -/
structure DebugRunner where
  current : Option DebugRunner.Run := none
  earlier : List DebugRunner.Run := []
  running : Finset Text := ∅

namespace DebugRunner

inductive Event
  | start (id : Text) (broken : Bool)
  | move (move : Move)
  | moveEarlier (index : ℕ) (move : Move)

def start (s : DebugRunner) (id : Text) (broken : Bool) : DebugRunner where
  current := some { id := id, broken := broken }
  earlier := s.earlier ++ (s.current.map Run.cancel).toList
  running := s.running

def step (s : DebugRunner) : Event → Option DebugRunner
  | .start id broken => some (s.start id broken)
  | .move move => do
      let run ← s.current
      let moved ← run.move s.running move
      some { s with current := some moved.1, running := moved.2 }
  | .moveEarlier index move => do
      let run ← s.earlier[index]?
      let moved ← run.move s.running move
      some { s with earlier := s.earlier.set index moved.1, running := moved.2 }

/-- No indicator is stuck: the set has at most the id of the current run, and nothing once it is
done. -/
def Clear (s : DebugRunner) : Prop :=
  (∀ id ∈ s.running, ∃ run, s.current = some run ∧ run.id = id) ∧
    ((∀ run, s.current = some run → run.phase = .done) → s.running = ∅)

namespace Run

variable {id : Text} {run moved : Run} {running after : Finset Text} {move : Move}

/-- The run in another phase. -/
def inPhase (run : Run) (phase : Phase) : Run := { run with phase := phase }

/-- What a move can do. -/
theorem move_cases (taken : run.move running move = some (moved, after)) :
    (run.phase = .scheduled ∧ moved = run.inPhase (if run.cancelled then .ended else .entered) ∧
        after = running) ∨
      (run.phase = .entered ∧ moved = run.inPhase (.adding running) ∧ after = running) ∨
      (∃ seen, run.phase = .adding seen ∧
        moved = run.inPhase (if run.broken then .reporting else .probing) ∧
        after = insert run.id seen) ∨
      (run.phase = .probing ∧ (moved = run.inPhase .reporting ∨ moved = run.inPhase .ended) ∧
        after = running) ∨
      (run.phase = .reporting ∧ moved = run.inPhase (.removing running) ∧ after = running) ∨
      ∃ seen, run.phase = .removing seen ∧ moved = run.inPhase .done ∧
        after = seen.erase run.id := by
  rcases run with ⟨id, broken, cancelled, phase⟩
  cases move with
  | dispatch =>
      cases phase <;> cases taken
      exact .inl ⟨rfl, rfl, rfl⟩
  | read =>
      cases phase <;> cases taken
      · exact .inr (.inl ⟨rfl, rfl, rfl⟩)
      · exact .inr (.inr (.inr (.inr (.inl ⟨rfl, rfl, rfl⟩))))
  | write =>
      cases phase <;> cases taken
      · exact .inr (.inr (.inl ⟨_, rfl, rfl, rfl⟩))
      · exact .inr (.inr (.inr (.inr (.inr ⟨_, rfl, rfl, rfl⟩))))
  | probed =>
      cases phase <;> cases taken
      exact .inr (.inr (.inr (.inl ⟨rfl, .inl rfl, rfl⟩)))
  | cancel =>
      cases phase <;> cases cancelled <;> cases taken
      exact .inr (.inr (.inr (.inl ⟨rfl, .inr rfl, rfl⟩)))

theorem moved_eq (taken : run.move running move = some (moved, after)) :
    ∃ phase, moved = run.inPhase phase := by
  rcases move_cases taken with ⟨-, rfl, -⟩ | ⟨-, rfl, -⟩ | ⟨_, -, rfl, -⟩ | ⟨-, rfl | rfl, -⟩ |
    ⟨-, rfl, -⟩ | ⟨_, -, rfl, -⟩ <;> exact ⟨_, rfl⟩

/-- The run can only put in or take out the id, and knows of no other. -/
def Fits (id : Text) (run : Run) : Prop :=
  match run.phase with
  | .scheduled => run.id = id ∨ run.cancelled
  | .entered | .probing | .reporting => run.id = id
  | .adding seen | .removing seen => run.id = id ∧ seen ⊆ {id}
  | .done | .ended => True

/-- The run will not put in its id any more. -/
def Past (run : Run) : Prop :=
  match run.phase with
  | .scheduled => run.cancelled
  | .entered | .adding _ => False
  | _ => True

theorem erase_eq_empty {seen : Finset Text} (subset : seen ⊆ {id}) : seen.erase id = ∅ := by
  apply Finset.eq_empty_of_forall_notMem
  intro other mem
  rw [Finset.mem_erase] at mem
  exact mem.1 (Finset.mem_singleton.mp (subset mem.2))

theorem fits_move (fits : run.Fits id) (subset : running ⊆ {id})
    (taken : run.move running move = some (moved, after)) : moved.Fits id ∧ after ⊆ {id} := by
  rcases move_cases taken with ⟨phase, rfl, rfl⟩ | ⟨phase, rfl, rfl⟩ | ⟨seen, phase, rfl, rfl⟩ |
    ⟨phase, rfl | rfl, rfl⟩ | ⟨phase, rfl, rfl⟩ | ⟨seen, phase, rfl, rfl⟩ <;>
    simp only [Fits, phase] at fits
  · refine ⟨?_, subset⟩
    cases cancelled : run.cancelled with
    | true => trivial
    | false => exact fits.resolve_right (by simp [cancelled])
  · exact ⟨⟨fits, subset⟩, subset⟩
  · refine ⟨?_, ?_⟩
    · cases run.broken <;> exact fits.1
    · rw [fits.1]
      exact Finset.insert_subset (Finset.mem_singleton_self id) fits.2
  · exact ⟨fits, subset⟩
  · exact ⟨trivial, subset⟩
  · exact ⟨⟨fits, subset⟩, subset⟩
  · rw [fits.1, erase_eq_empty fits.2]
    exact ⟨trivial, Finset.empty_subset _⟩

/-- A run that is past changes nothing or empties the set. -/
theorem past_move (fits : run.Fits id) (past : run.Past)
    (taken : run.move running move = some (moved, after)) :
    moved.Past ∧ (after = running ∨ after = ∅) := by
  rcases move_cases taken with ⟨phase, rfl, rfl⟩ | ⟨phase, rfl, rfl⟩ | ⟨seen, phase, rfl, rfl⟩ |
    ⟨phase, rfl | rfl, rfl⟩ | ⟨phase, rfl, rfl⟩ | ⟨seen, phase, rfl, rfl⟩ <;>
    simp only [Fits, Past, phase] at fits past
  · rw [if_pos past]
    exact ⟨trivial, .inl rfl⟩
  · exact ⟨trivial, .inl rfl⟩
  · exact ⟨trivial, .inl rfl⟩
  · exact ⟨trivial, .inl rfl⟩
  · rw [fits.1, erase_eq_empty fits.2]
    exact ⟨trivial, .inr rfl⟩

/-- A run that is done has emptied the set. -/
theorem empty_of_done (fits : run.Fits id)
    (taken : run.move running move = some (moved, after)) (isDone : moved.phase = .done) :
    after = ∅ := by
  rcases move_cases taken with ⟨phase, rfl, rfl⟩ | ⟨phase, rfl, rfl⟩ | ⟨seen, phase, rfl, rfl⟩ |
    ⟨phase, rfl | rfl, rfl⟩ | ⟨phase, rfl, rfl⟩ | ⟨seen, phase, rfl, rfl⟩
  · cases cancelled : run.cancelled <;> simp [Run.inPhase, cancelled] at isDone
  · cases isDone
  · cases broken : run.broken <;> simp [Run.inPhase, broken] at isDone
  · cases isDone
  · cases isDone
  · cases isDone
  · simp only [Fits, phase] at fits
    rw [fits.1, erase_eq_empty fits.2]

end Run

/-- The run is not executing, or it has put in the id, which is its own. -/
def Run.Quiet (id : Text) (run : Run) : Bool :=
  match run.phase with
  | .scheduled | .done | .ended => true
  | .entered | .adding _ => false
  | .probing | .reporting | .removing _ => run.id = id

/-- There is no other id in the set, and no run of another id executes. -/
def Ready (s : DebugRunner) (id : Text) : Prop :=
  s.running ⊆ {id} ∧ ∀ run ∈ s.current.toList ++ s.earlier, run.Quiet id

def Allowed (s : DebugRunner) : Event → Prop
  | .start id _ => s.Ready id
  | .move _ | .moveEarlier _ _ => True

instance (s : DebugRunner) (event : Event) : Decidable (s.Allowed event) :=
  match event with
  | .start id _ => inferInstanceAs (Decidable (s.running ⊆ {id} ∧ _))
  | .move _ | .moveEarlier _ _ => inferInstanceAs (Decidable True)

/-- What the runs may still do, beside the current one. -/
structure Tidy (s : DebugRunner) (current : Run) : Prop where
  isCurrent : s.current = some current
  subset : s.running ⊆ {current.id}
  fits : current.Fits current.id
  earlier : ∀ run ∈ s.earlier, run.cancelled ∧ run.Fits current.id ∧ run.Past
  done : current.phase = .done → s.running = ∅

section Runs

variable {s next : DebugRunner} {current run moved : Run} {after : Finset Text} {kind : Move}
  {id : Text}

/-- A quiet run fits the new id once it is cancelled. -/
theorem Run.fits_of_quiet {other : Text} (cancelled : run.cancelled) (fits : run.Fits other)
    (quiet : run.Quiet id) : run.Fits id ∧ run.Past := by
  rcases run with ⟨runId, broken, _, phase⟩
  simp only [Run.Quiet] at quiet
  cases phase with
  | scheduled => exact ⟨.inr cancelled, cancelled⟩
  | entered => cases quiet
  | adding seen => cases quiet
  | probing =>
      have isRun : runId = id := of_decide_eq_true quiet
      exact ⟨isRun, trivial⟩
  | reporting =>
      have isRun : runId = id := of_decide_eq_true quiet
      exact ⟨isRun, trivial⟩
  | removing seen =>
      have isRun : runId = id := of_decide_eq_true quiet
      have isOther : runId = other := fits.1
      have same : other = id := isOther.symm.trans isRun
      exact ⟨⟨isRun, same ▸ fits.2⟩, trivial⟩
  | done => exact ⟨trivial, trivial⟩
  | ended => exact ⟨trivial, trivial⟩

theorem Run.fits_cancel (fits : run.Fits id) : run.cancel.Fits id := by
  rcases run with ⟨runId, broken, cancelled, phase⟩
  cases phase with
  | scheduled => exact .inr rfl
  | _ => exact fits

theorem Tidy.start (tidy : s.Tidy current) (ready : s.Ready id) (broken : Bool) :
    (s.start id broken).Tidy { id := id, broken := broken } where
  isCurrent := rfl
  subset := ready.1
  fits := .inl rfl
  earlier := by
    intro run mem
    have quiet := ready.2
    simp only [DebugRunner.start, tidy.isCurrent, Option.map_some, Option.toList_some,
      List.mem_append, List.mem_singleton] at mem quiet
    rcases mem with old | rfl
    · rcases tidy.earlier run old with ⟨cancelled, fits, -⟩
      exact ⟨cancelled, Run.fits_of_quiet cancelled fits (quiet run (.inr old))⟩
    · exact ⟨rfl, Run.fits_of_quiet rfl (Run.fits_cancel tidy.fits) (quiet current (.inl rfl))⟩
  done := fun isDone => by cases isDone

theorem Tidy.move (tidy : s.Tidy current)
    (taken : current.move s.running kind = some (moved, after)) :
    Tidy { s with current := some moved, running := after } moved := by
  rcases Run.fits_move tidy.fits tidy.subset taken with ⟨fits, subset⟩
  rcases Run.moved_eq taken with ⟨phase, isMoved⟩
  have sameId : moved.id = current.id := by rw [isMoved]; rfl
  constructor
  · rfl
  · rw [sameId]
    exact subset
  · rw [sameId]
    exact fits
  · rw [sameId]
    exact tidy.earlier
  · exact Run.empty_of_done tidy.fits taken

theorem Tidy.moveEarlier (tidy : s.Tidy current) {index : ℕ}
    (found : s.earlier[index]? = some run)
    (taken : run.move s.running kind = some (moved, after)) :
    Tidy { s with earlier := s.earlier.set index moved, running := after } current := by
  rcases tidy.earlier run (List.mem_of_getElem? found) with ⟨cancelled, fits, past⟩
  rcases Run.fits_move fits tidy.subset taken with ⟨movedFits, subset⟩
  rcases Run.past_move fits past taken with ⟨movedPast, changes⟩
  rcases Run.moved_eq taken with ⟨phase, isMoved⟩
  refine ⟨tidy.isCurrent, subset, tidy.fits, ?_, ?_⟩
  · intro other mem
    rcases List.mem_or_eq_of_mem_set mem with old | rfl
    · exact tidy.earlier other old
    · refine ⟨?_, movedFits, movedPast⟩
      rw [isMoved]
      exact cancelled
  · intro isDone
    rcases changes with unchanged | emptied
    · rw [unchanged]
      exact tidy.done isDone
    · exact emptied

/-- Before the first start there is nothing, and then the runner is tidy. -/
def Sound (s : DebugRunner) : Prop := s = {} ∨ ∃ current, s.Tidy current

theorem sound_step {event : Event} (sound : s.Sound) (allowed : s.Allowed event)
    (taken : s.step event = some next) : next.Sound := by
  cases event with
  | start id broken =>
      cases taken
      rcases sound with rfl | ⟨current, tidy⟩
      · refine .inr ⟨_, rfl, allowed.1, .inl rfl, List.forall_mem_nil _, fun isDone => ?_⟩
        cases isDone
      · exact .inr ⟨_, tidy.start allowed broken⟩
  | move move =>
      rcases sound with rfl | ⟨current, tidy⟩
      · cases taken
      · simp only [step, tidy.isCurrent, Option.bind_eq_bind, Option.bind_some,
          Option.bind_eq_some_iff, Option.some.injEq] at taken
        rcases taken with ⟨⟨moved, after⟩, moves, rfl⟩
        exact .inr ⟨moved, tidy.move moves⟩
  | moveEarlier index move =>
      rcases sound with rfl | ⟨current, tidy⟩
      · cases taken
      · simp only [step, Option.bind_eq_bind, Option.bind_eq_some_iff, Option.some.injEq] at taken
        rcases taken with ⟨run, found, ⟨moved, after⟩, moves, rfl⟩
        exact .inr ⟨current, tidy.moveEarlier found moves⟩

theorem clear_of_sound (sound : s.Sound) : s.Clear := by
  rcases sound with rfl | ⟨current, tidy⟩
  · exact ⟨fun _ mem => absurd mem (Finset.notMem_empty _), fun _ => rfl⟩
  · constructor
    · intro id mem
      exact ⟨current, tidy.isCurrent, (Finset.mem_singleton.mp (tidy.subset mem)).symm⟩
    · intro isDone
      exact tidy.done (isDone current tidy.isCurrent)

/-- If each test is started when no other id is in the set and no run of another config executes, no
indicator is ever stuck. -/
theorem clear_of_reaches (reached : Reaches step Allowed {} s) : s.Clear :=
  clear_of_sound (reached.invariant (.inl rfl) fun _ => sound_step)

end Runs

/-- All moves of a run. -/
def toEnd : List Event := [.move .dispatch, .move .read, .move .write, .move .probed, .move .read,
  .move .write]

/-- A config is tested again while its probe is suspended. -/
def restarted : List Event :=
  [.start (txt "a") false, .move .dispatch, .move .read, .move .write, .start (txt "a") false,
    .moveEarlier 0 .cancel] ++ toEnd

theorem clear_restarted : ∃ s, run step {} restarted = some s ∧ s.running = ∅ ∧ s.Clear := by
  have ends : ∃ s, run (guarded step Allowed) {} restarted = some s ∧
      run step {} restarted = some s ∧ s.running = ∅ := ⟨_, rfl, rfl, rfl⟩
  rcases ends with ⟨s, guardedRun, ends, empty⟩
  exact ⟨s, ends, empty, clear_of_reaches (reaches_of_run guardedRun)⟩

/-- Another config is tested while the probe of the first is suspended: its id stays in the set. -/
def switched : List Event :=
  [.start (txt "a") false, .move .dispatch, .move .read, .move .write, .start (txt "b") false,
    .moveEarlier 0 .cancel] ++ toEnd

theorem not_clear_switched :
    ∃ s, run step {} switched = some s ∧ (∃ run, s.current = some run ∧ run.phase = .done) ∧
      s.running = {txt "a"} ∧ ¬ s.Clear := by
  have ends : ∃ s, run step {} switched = some s ∧
      (∃ run, s.current = some run ∧ run.phase = .done) ∧ s.running = {txt "a"} :=
    ⟨_, rfl, ⟨_, rfl, rfl⟩, by decide +kernel⟩
  rcases ends with ⟨s, ends, ⟨run, isCurrent, isDone⟩, stuck⟩
  refine ⟨s, ends, ⟨run, isCurrent, isDone⟩, stuck, ?_⟩
  rintro ⟨-, empties⟩
  have empty : s.running = ∅ := by
    apply empties
    intro other isOther
    rw [← Option.some.inj (isCurrent.symm.trans isOther)]
    exact isDone
  exact Finset.singleton_ne_empty _ (stuck.symm.trans empty)

end DebugRunner

end GRoute
