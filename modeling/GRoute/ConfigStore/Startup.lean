import GRoute.ConfigStore.Upsert
import GRoute.Foundation.Transition

/-!
# The start of the store

The coroutine of `init` reads the two blobs and publishes the lists, one after the other, while
configs may already be added. Every change of the lists queues a write of the list as it is
then, and one thread carries the writes out in order. A blob stands for the list that it holds.
-/

namespace GRoute.ConfigStore

open Text Transition

/-- The lists on the disk. -/
structure Stored where
  configs : List ProxyConfig
  subscriptions : List Subscription
  deriving DecidableEq, Repr

inductive Write
  | configs (value : List ProxyConfig)
  | subscriptions (value : List Subscription)
  deriving DecidableEq, Repr

def Stored.write (stored : Stored) : Write → Stored
  | .configs value => { stored with configs := value }
  | .subscriptions value => { stored with subscriptions := value }

/-- How far the coroutine is, with what it has read. -/
inductive Load
  | begun
  | readConfigs (cfgs : List ProxyConfig)
  | readBoth (cfgs : List ProxyConfig) (subs : List Subscription)
  | publishedConfigs (subs : List Subscription)
  | done
  deriving DecidableEq, Repr

/-- The operations that add configs. -/
inductive AddOp
  | add (config : ProxyConfig)
  | addImported (imported : List ProxyConfig)
  | addToLocalSub (name : Text) (configs : List ProxyConfig) (fresh : Subscription)
  deriving DecidableEq, Repr

namespace AddOp

def op : AddOp → StoreOp
  | add config => .add config
  | addImported imported => .addImported imported
  | addToLocalSub name configs fresh => .addToLocalSub name configs fresh

def given : AddOp → List ProxyConfig
  | add config => [config]
  | addImported imported => imported
  | addToLocalSub _ configs _ => configs

/-- The configs that are in the list afterwards and were not before. -/
def added (op : AddOp) (memory : ConfigStore) : List ProxyConfig :=
  (memory.step op.op).configs.drop memory.configs.length

/-- The calls of `persistConfigs` and `persistSubscriptions`. -/
def writes (op : AddOp) (memory : ConfigStore) : List Write :=
  let after := memory.step op.op
  match op with
  | add _ => [.configs after.configs]
  | addImported imported => if imported = [] then [] else [.configs after.configs]
  | addToLocalSub _ configs _ =>
      if configs = [] then [] else [.configs after.configs, .subscriptions after.subscriptions]

end AddOp

/-- The store of a process that starts. `added` is the history of what was added. -/
structure Startup where
  memory : ConfigStore
  load : Load
  stored : Stored
  queue : List Write
  added : List ProxyConfig
  deriving DecidableEq, Repr

namespace Startup

def start (initial : Stored) : Startup where
  memory := {}
  load := .begun
  stored := initial
  queue := []
  added := []

inductive Event
  | load
  | write
  | op (op : AddOp)
  deriving DecidableEq, Repr

def advance (s : Startup) : Option Startup :=
  match s.load with
  | .begun => some { s with load := .readConfigs s.stored.configs }
  | .readConfigs cfgs => some { s with load := .readBoth cfgs s.stored.subscriptions }
  | .readBoth cfgs subs =>
      some { s with memory := { s.memory with configs := cfgs }, load := .publishedConfigs subs }
  | .publishedConfigs subs =>
      some { s with memory := { s.memory with subscriptions := subs }, load := .done }
  | .done => none

def step (s : Startup) : Event → Option Startup
  | .load => s.advance
  | .write =>
      match s.queue with
      | [] => none
      | first :: rest => some { s with stored := s.stored.write first, queue := rest }
  | .op op =>
      some { s with
        memory := s.memory.step op.op
        queue := s.queue ++ op.writes s.memory
        added := s.added ++ op.added s.memory }

/-- The list of configs has been published. -/
def published (s : Startup) : Bool :=
  match s.load with
  | .publishedConfigs _ | .done => true
  | _ => false

/-- Nothing is added before the list of configs has been published. -/
def AddsLater (s : Startup) : Event → Prop
  | .op op => s.published ∨ op.given = []
  | _ => True

instance (s : Startup) : (event : Event) → Decidable (s.AddsLater event)
  | .op op => inferInstanceAs (Decidable (s.published ∨ op.given = []))
  | .load | .write => inferInstanceAs (Decidable True)

/-- The configs of before and those added since are in memory and in storage. -/
def LosesNothing (initial : Stored) (s : Startup) : Prop :=
  initial.configs ++ s.added ⊆ s.memory.configs ∧ initial.configs ++ s.added ⊆ s.stored.configs

variable {op : AddOp} {memory : ConfigStore}

theorem configs_step_op : (memory.step op.op).configs = memory.configs ++ op.added memory := by
  have grows : memory.configs <+: (memory.step op.op).configs := by
    cases op with
    | add config => exact List.prefix_append _ _
    | addImported imported => exact List.prefix_append _ _
    | addToLocalSub name configs fresh =>
        simp only [AddOp.op, ConfigStore.step, addToLocalSub]
        split
        · exact List.prefix_rfl
        · exact List.prefix_append _ _
  rcases grows with ⟨more, isMore⟩
  rw [AddOp.added, ← isMore, List.drop_left]

theorem step_op_of_given_nil (nothing : op.given = []) : (memory.step op.op) = memory := by
  cases op with
  | add config => cases nothing
  | addImported imported =>
      cases nothing
      simp [AddOp.op, ConfigStore.step, addImported]
  | addToLocalSub name configs fresh =>
      cases nothing
      rfl

theorem added_of_given_nil (nothing : op.given = []) : op.added memory = [] := by
  rw [AddOp.added, step_op_of_given_nil nothing, List.drop_length]

theorem writes_of_given_nil (nothing : op.given = []) : op.writes memory = [] := by
  cases op with
  | add config => cases nothing
  | addImported imported => exact if_pos nothing
  | addToLocalSub name configs fresh => exact if_pos nothing

/-- The stored list of configs is the one in memory once the writes are carried out, if it was
before. -/
theorem settled_writes {stored : Stored} (same : stored.configs = memory.configs) :
    (settled Stored.write stored (op.writes memory)).configs = (memory.step op.op).configs := by
  by_cases nothing : op.given = []
  · rw [writes_of_given_nil nothing, step_op_of_given_nil nothing, settled_nil, same]
  · cases op with
    | add config => rfl
    | addImported imported =>
        simp only [AddOp.given] at nothing
        simp [AddOp.writes, nothing, settled, Stored.write]
    | addToLocalSub name configs fresh =>
        simp only [AddOp.given] at nothing
        simp [AddOp.writes, nothing, settled, Stored.write]

/-- Nothing has been added or written. -/
def Untouched (initial : Stored) (s : Startup) : Prop :=
  s.stored = initial ∧ s.queue = [] ∧ s.added = []

/-- The list in memory is complete and will be the stored one. -/
def Complete (initial : Stored) (s : Startup) : Prop :=
  s.memory.configs = initial.configs ++ s.added ∧
    (settled Stored.write s.stored s.queue).configs = s.memory.configs

def Invariant (initial : Stored) (s : Startup) : Prop :=
  match s.load with
  | .begun => s.Untouched initial
  | .readConfigs cfgs | .readBoth cfgs _ => s.Untouched initial ∧ cfgs = initial.configs
  | .publishedConfigs _ | .done => s.Complete initial

variable {initial : Stored} {s next : Startup}

theorem invariant_advance (invariant : s.Invariant initial) (taken : s.advance = some next) :
    next.Invariant initial := by
  simp only [advance] at taken
  simp only [Invariant] at invariant
  cases isLoad : s.load <;> simp only [isLoad] at taken invariant <;> cases taken
  case begun => exact ⟨invariant, by rw [invariant.1]⟩
  case readBoth cfgs subs =>
    rcases invariant with ⟨⟨isStored, noWrites, noneAdded⟩, rfl⟩
    exact ⟨by simp [noneAdded], by simp [noWrites, settled_nil, isStored]⟩
  all_goals exact invariant

theorem Complete.write {first : Write} {rest : List Write} (complete : s.Complete initial)
    (isQueue : s.queue = first :: rest) :
    ({ s with stored := s.stored.write first, queue := rest } : Startup).Complete initial := by
  rcases complete with ⟨inMemory, willBe⟩
  rw [isQueue, settled_cons] at willBe
  exact ⟨inMemory, willBe⟩

theorem Complete.append (complete : s.Complete initial) (op : AddOp) :
    ({ s with
        memory := s.memory.step op.op
        queue := s.queue ++ op.writes s.memory
        added := s.added ++ op.added s.memory } : Startup).Complete initial := by
  rcases complete with ⟨inMemory, willBe⟩
  constructor
  · rw [configs_step_op, inMemory, List.append_assoc]
  · rw [settled_append, settled_writes willBe]

theorem invariant_iff_of_published (isPublished : s.published) :
    s.Invariant initial ↔ s.Complete initial := by
  rw [published] at isPublished
  rw [Invariant]
  split at isPublished
  next isLoad => simp only [isLoad]
  next isLoad => simp only [isLoad]
  next => cases isPublished

theorem untouched_of_not_published (invariant : s.Invariant initial) (early : ¬ s.published) :
    s.Untouched initial := by
  rw [published] at early
  rw [Invariant] at invariant
  split at invariant
  next => exact invariant
  next => exact invariant.1
  next => exact invariant.1
  next isLoad => simp [isLoad] at early
  next isLoad => simp [isLoad] at early

theorem invariant_step (event : Event) (invariant : s.Invariant initial)
    (later : s.AddsLater event) (taken : s.step event = some next) : next.Invariant initial := by
  cases event with
  | load => exact invariant_advance invariant taken
  | write =>
      cases isQueue : s.queue with
      | nil => simp [step, isQueue] at taken
      | cons first rest =>
          simp only [step, isQueue, Option.some.injEq] at taken
          subst taken
          by_cases published : s.published
          · have complete := (invariant_iff_of_published published).mp invariant
            refine (invariant_iff_of_published ?_).mpr (complete.write isQueue)
            exact published
          · have untouched := untouched_of_not_published invariant published
            simp [untouched.2.1] at isQueue
  | op op =>
      cases taken
      rcases later with published | nothing
      · have complete := (invariant_iff_of_published published).mp invariant
        refine (invariant_iff_of_published ?_).mpr (complete.append op)
        exact published
      · simpa [step_op_of_given_nil nothing, writes_of_given_nil nothing,
          added_of_given_nil nothing] using invariant

theorem losesNothing_of_reaches (reached : Reaches step AddsLater (start initial) s)
    (loaded : s.load = .done) (written : s.queue = []) : s.LosesNothing initial := by
  have invariant : s.Invariant initial := by
    apply reached.invariant
    · exact ⟨rfl, rfl, rfl⟩
    · intro state next event invariant later taken
      exact invariant_step event invariant later taken
  have isPublished : s.published := by
    rw [published, loaded]
  rcases (invariant_iff_of_published isPublished).mp invariant with ⟨inMemory, willBe⟩
  rw [written, settled_nil] at willBe
  constructor
  · rw [inMemory]
    exact List.Subset.refl _
  · rw [willBe, inMemory]
    exact List.Subset.refl _

/-- A config was stored, and another is added and written after the load. -/
theorem losesNothing_addedLater :
    ∃ s : Startup, s.load = .done ∧ s.queue = [] ∧ s.added = [listedConfig (txt "2")] ∧
      s.LosesNothing ⟨[listedConfig (txt "1")], []⟩ := by
  have ends : Transition.run (guarded step AddsLater) (start ⟨[listedConfig (txt "1")], []⟩)
      [.load, .load, .load, .load, .op (.add (listedConfig (txt "2"))), .write] = some
        { memory := { configs := [listedConfig (txt "1"), listedConfig (txt "2")] }
          load := .done
          stored := ⟨[listedConfig (txt "1"), listedConfig (txt "2")], []⟩
          queue := []
          added := [listedConfig (txt "2")] } := by decide
  exact ⟨_, rfl, rfl, rfl, losesNothing_of_reaches (reaches_of_run ends) rfl rfl⟩

/-- An import that comes before the load has begun: the load takes it out of the memory, and
its write takes the old config out of the storage. -/
theorem loses_addedEarly :
    ∃ s, Reaches step (fun _ _ => True) (start ⟨[listedConfig (txt "1")], []⟩) s ∧
      s.load = .done ∧ s.queue = [] ∧ ¬ s.LosesNothing ⟨[listedConfig (txt "1")], []⟩ := by
  have ends : Transition.run (guarded step fun _ _ => True)
      (start ⟨[listedConfig (txt "1")], []⟩)
      [.op (.addImported [listedConfig (txt "2")]), .load, .load, .load, .load, .write] = some
        { memory := { configs := [listedConfig (txt "1")] }
          load := .done
          stored := ⟨[listedConfig (txt "2")], []⟩
          queue := []
          added := [listedConfig (txt "2")] } := by decide
  refine ⟨_, reaches_of_run ends, rfl, rfl, ?_⟩
  rintro ⟨inMemory, -⟩
  exact absurd (inMemory (List.mem_append_right _ (List.mem_singleton_self _))) (by decide)

end Startup

end GRoute.ConfigStore
