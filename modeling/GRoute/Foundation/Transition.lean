import Mathlib.Data.List.Basic

/-!
# Runs of a transition system

A partial step function, the states that are reached from a start by steps that a guard
allows, and the rule by which an invariant holds in all of them. Writes that are carried out
later, in their order, have a settled state: the one after all of them.
-/

namespace GRoute.Transition

variable {State Event : Type*} {step : State → Event → Option State}

/-- The states that are reached by steps that the guard allows. -/
inductive Reaches (step : State → Event → Option State) (Allowed : State → Event → Prop)
    (start : State) : State → Prop
  | refl : Reaches step Allowed start start
  | tail {state next : State} (event : Event) (reached : Reaches step Allowed start state)
      (allowed : Allowed state event) (taken : step state event = some next) :
      Reaches step Allowed start next

variable {Allowed : State → Event → Prop} {start state : State}

theorem Reaches.invariant {Inv : State → Prop} (initial : Inv start)
    (preserved : ∀ {state next : State} (event : Event), Inv state → Allowed state event →
      step state event = some next → Inv next)
    (reached : Reaches step Allowed start state) : Inv state := by
  induction reached with
  | refl => exact initial
  | tail event _ allowed taken ih => exact preserved event ih allowed taken

theorem Reaches.trans {middle : State} (first : Reaches step Allowed start middle)
    (second : Reaches step Allowed middle state) : Reaches step Allowed start state := by
  induction second with
  | refl => exact first
  | tail event _ allowed taken ih => exact ih.tail event allowed taken

/-- The state after the events, if each of them can happen. -/
def run (step : State → Event → Option State) (start : State) (events : List Event) :
    Option State :=
  events.foldlM step start

theorem run_cons_eq_some {event : Event} {events : List Event} :
    run step start (event :: events) = some state ↔
      ∃ middle, step start event = some middle ∧ run step middle events = some state := by
  rw [run, List.foldlM_cons]
  exact Option.bind_eq_some_iff

theorem run_concat_eq_some {events : List Event} {event : Event} :
    run step start (events ++ [event]) = some state ↔
      ∃ middle, run step start events = some middle ∧ step middle event = some state := by
  rw [run, List.foldlM_append, Option.bind_eq_bind, Option.bind_eq_some_iff]
  simp only [List.foldlM_cons, List.foldlM_nil, Option.bind_eq_bind, Option.pure_def,
    Option.bind_fun_some, run]

theorem run_invariant {Inv : State → Prop} {events : List Event} (initial : Inv start)
    (preserved : ∀ {state next : State} (event : Event), Inv state → step state event = some next →
      Inv next)
    (ends : run step start events = some state) : Inv state := by
  induction events generalizing start with
  | nil =>
      cases ends
      exact initial
  | cons event events ih =>
      rcases run_cons_eq_some.mp ends with ⟨middle, taken, rest⟩
      exact ih (preserved event initial taken) rest

/-- If every step is one of the abstraction, so is every run. -/
theorem map_run {Abstract : Type*} {view : State → Abstract}
    {abstractStep : Abstract → Event → Option Abstract}
    (commutes : ∀ state event, (step state event).map view = abstractStep (view state) event)
    (start : State) (events : List Event) :
    (run step start events).map view = run abstractStep (view start) events := by
  induction events generalizing start with
  | nil => rfl
  | cons event events ih =>
      have first := commutes start event
      rw [run, List.foldlM_cons, run, List.foldlM_cons, ← first]
      cases step start event with
      | none => rfl
      | some next => exact ih next

/-- Events that all lower a measure cannot go on for longer than it allows. -/
theorem run_length_le {measure : State → ℕ} {events : List Event}
    (lowers : ∀ {state next : State}, ∀ event ∈ events, step state event = some next →
      measure next < measure state)
    (ends : run step start events = some state) :
    events.length + measure state ≤ measure start := by
  induction events generalizing start with
  | nil =>
      cases ends
      simp
  | cons event events ih =>
      rcases run_cons_eq_some.mp ends with ⟨middle, taken, rest⟩
      have first := lowers event List.mem_cons_self taken
      have later := ih (fun other mem => lowers other (List.mem_cons_of_mem _ mem)) rest
      rw [List.length_cons]
      omega

/-- The condition holds of each step of the run, of the state before it, the event and the state
after it. -/
def EveryStep (step : State → Event → Option State) (Holds : State → Event → State → Prop) :
    State → List Event → Prop
  | _, [] => True
  | state, event :: events =>
      ∀ next, step state event = some next →
        Holds state event next ∧ EveryStep step Holds next events

/-- In a run whose steps all meet a guard, an invariant gives what is to hold of each step. -/
theorem EveryStep.of_invariant {Inv : State → Prop} {Guard Holds : State → Event → State → Prop}
    {events : List Event} (each : EveryStep step Guard state events) (initial : Inv state)
    (preserved : ∀ {state next : State} {event : Event}, Inv state → Guard state event next →
      step state event = some next → Holds state event next ∧ Inv next) :
    EveryStep step Holds state events := by
  induction events generalizing state with
  | nil => trivial
  | cons event events ih =>
      intro next taken
      rcases each next taken with ⟨first, later⟩
      rcases preserved initial first taken with ⟨holds, inv⟩
      exact ⟨holds, ih later inv⟩

/-- A step that the guard allows. -/
def guarded (step : State → Event → Option State) (Allowed : State → Event → Prop)
    [∀ state event, Decidable (Allowed state event)] (state : State) (event : Event) :
    Option State :=
  if Allowed state event then step state event else none

theorem reaches_of_run [∀ state event, Decidable (Allowed state event)] {events : List Event}
    (ends : run (guarded step Allowed) start events = some state) :
    Reaches step Allowed start state := by
  induction events generalizing start with
  | nil =>
      cases ends
      exact .refl
  | cons event events ih =>
      rcases run_cons_eq_some.mp ends with ⟨next, taken, rest⟩
      rw [guarded, Option.ite_none_right_eq_some] at taken
      exact (Reaches.refl.tail event taken.1 taken.2).trans (ih rest)

/-- A run of events that the guard always allows. -/
theorem reaches_of_run_of_forall {events : List Event}
    (allowed : ∀ event ∈ events, ∀ state, Allowed state event)
    (ends : run step start events = some state) : Reaches step Allowed start state := by
  induction events generalizing start with
  | nil =>
      cases ends
      exact .refl
  | cons event events ih =>
      rcases run_cons_eq_some.mp ends with ⟨next, taken, rest⟩
      rw [List.forall_mem_cons] at allowed
      exact (Reaches.refl.tail event (allowed.1 start) taken).trans (ih allowed.2 rest)

section Deferred

variable {Store Write : Type*} (write : Store → Write → Store)

/-- The store after all the writes of the queue, the oldest first. -/
def settled (stored : Store) (queue : List Write) : Store := queue.foldl write stored

theorem settled_nil (stored : Store) : settled write stored [] = stored := rfl

/-- To carry out the oldest write changes nothing in the end. -/
theorem settled_cons (stored : Store) (first : Write) (rest : List Write) :
    settled write stored (first :: rest) = settled write (write stored first) rest := rfl

theorem settled_append (stored : Store) (queue more : List Write) :
    settled write stored (queue ++ more) = settled write (settled write stored queue) more :=
  List.foldl_append

end Deferred

end GRoute.Transition
