import Mathlib.Data.List.Nodup
import Mathlib.Logic.Function.Basic

/-!
# States with fields

A state seen as a family of fields that are set independently of each other, and a procedure
that reads values from elsewhere and assigns them one after another. If a reading throws, the
procedure ends there and what was assigned before stays.
-/

namespace GRoute

/-- What becomes of the attempt to read a value. -/
inductive Reading (α : Type)
  | absent
  | value (a : α)
  | throws
  deriving DecidableEq, Repr

namespace Reading

variable {α β : Type}

def map (f : α → β) : Reading α → Reading β
  | absent => absent
  | value a => value (f a)
  | throws => throws

def ofOption : Option α → Reading α
  | none => throws
  | some a => value a

end Reading

structure Fields (State : Type) {ι : Type} [DecidableEq ι] (β : ι → Type) where
  get : State → (i : ι) → β i
  set : (i : ι) → β i → State → State
  get_set (i : ι) (value : β i) (state : State) :
    get (set i value state) = Function.update (get state) i value
  set_get (i : ι) (state : State) : set i (get state i) state = state

namespace Fields

variable {State ι : Type} [DecidableEq ι] {β : ι → Type} (fields : Fields State β)
  (read : (i : ι) → Reading (β i))

/-- The state after the readings, and whether all of them ended without an exception. -/
def assign : List ι → State → State × Bool
  | [], state => (state, true)
  | i :: rest, state =>
      match read i with
      | .absent => assign rest state
      | .value value => assign rest (fields.set i value state)
      | .throws => (state, false)

/-- The values that are assigned. -/
def changes : List ι → List (Sigma β)
  | [] => []
  | i :: rest =>
      match read i with
      | .absent => changes rest
      | .value value => ⟨i, value⟩ :: changes rest
      | .throws => []

/-- Every value that is assigned is taken for the one that is already there. -/
def Agrees (same : (i : ι) → β i → β i → Prop) (state : State) (keys : List ι) : Prop :=
  ∀ change ∈ changes read keys, same change.1 change.2 (fields.get state change.1)

variable {fields} {read} {keys : List ι} {state : State} {i : ι}

theorem completes_assign_iff :
    (fields.assign read keys state).2 = true ↔ ∀ key ∈ keys, read key ≠ .throws := by
  induction keys generalizing state with
  | nil => simp [assign]
  | cons key rest ih =>
      rw [List.forall_mem_cons, assign]
      cases reads : read key with
      | absent => simp [ih]
      | value value => simp [ih]
      | throws => simp

theorem assign_eq_foldl : (fields.assign read keys state).1 =
    (changes read keys).foldl (fun state change => fields.set change.1 change.2 state) state := by
  induction keys generalizing state with
  | nil => rfl
  | cons key rest ih =>
      rw [assign, changes]
      cases reads : read key with
      | absent => exact ih
      | value value => exact ih
      | throws => rfl

omit [DecidableEq ι] in
theorem read_of_mem_changes {value : β i} (mem : ⟨i, value⟩ ∈ changes read keys) :
    read i = .value value := by
  induction keys with
  | nil => cases mem
  | cons key rest ih =>
      rw [changes] at mem
      cases reads : read key with
      | absent =>
          rw [reads] at mem
          exact ih mem
      | value other =>
          rw [reads] at mem
          rcases List.mem_cons.mp mem with same | later
          · cases same
            exact reads
          · exact ih later
      | throws =>
          rw [reads] at mem
          cases mem

theorem get_assign_of_notMem (notMem : i ∉ keys) :
    fields.get (fields.assign read keys state).1 i = fields.get state i := by
  induction keys generalizing state with
  | nil => rfl
  | cons key rest ih =>
      rw [List.mem_cons, not_or] at notMem
      rcases notMem with ⟨ne, notLater⟩
      rw [assign]
      cases reads : read key with
      | absent => exact ih notLater
      | value value =>
          dsimp only
          rw [ih notLater, fields.get_set, Function.update_of_ne ne]
      | throws => rfl

/-- A value that is read is assigned, unless there is an exception before. -/
theorem get_assign_of_mem (distinct : keys.Nodup) (readable : ∀ key ∈ keys, read key ≠ .throws)
    (mem : i ∈ keys) {value : β i} (reads : read i = .value value) :
    fields.get (fields.assign read keys state).1 i = value := by
  induction keys generalizing state with
  | nil => cases mem
  | cons key rest ih =>
      rcases List.nodup_cons.mp distinct with ⟨notLater, distinctRest⟩
      rcases List.forall_mem_cons.mp readable with ⟨readableKey, readableRest⟩
      rw [assign]
      rcases List.mem_cons.mp mem with rfl | later
      · rw [reads]
        dsimp only
        rw [get_assign_of_notMem notLater, fields.get_set, Function.update_self]
      · cases readsKey : read key with
        | absent => exact ih distinctRest readableRest later
        | value other => exact ih distinctRest readableRest later
        | throws => exact absurd readsKey readableKey

/-- A field has the value that is assigned to it, or the one that it had. -/
theorem get_assign_cases (distinct : keys.Nodup) (i : ι) :
    (∃ value, ⟨i, value⟩ ∈ changes read keys ∧
        fields.get (fields.assign read keys state).1 i = value) ∨
      (∀ value, ⟨i, value⟩ ∉ changes read keys) ∧
        fields.get (fields.assign read keys state).1 i = fields.get state i := by
  induction keys generalizing state with
  | nil => exact .inr ⟨fun _ => List.not_mem_nil, rfl⟩
  | cons key rest ih =>
      rcases List.nodup_cons.mp distinct with ⟨notLater, distinctRest⟩
      rw [assign, changes]
      cases reads : read key with
      | absent => exact ih distinctRest
      | throws => exact .inr ⟨fun _ => List.not_mem_nil, rfl⟩
      | value value =>
          dsimp only
          by_cases isKey : i = key
          · subst isKey
            refine .inl ⟨value, List.mem_cons_self, ?_⟩
            rw [get_assign_of_notMem notLater, fields.get_set, Function.update_self]
          · rcases ih distinctRest  with
              ⟨other, mem, isOther⟩ | ⟨notMem, same⟩
            · exact .inl ⟨other, List.mem_cons_of_mem _ mem, isOther⟩
            · refine .inr ⟨fun other mem => ?_, ?_⟩
              · rcases List.mem_cons.mp mem with isFirst | later
                · exact isKey (congrArg Sigma.fst isFirst)
                · exact notMem other later
              · rw [same, fields.get_set, Function.update_of_ne isKey]

/-- Nothing is changed exactly if what is assigned is there already. -/
theorem same_assign_iff {same : (i : ι) → β i → β i → Prop} (refl : ∀ i value, same i value value)
    (distinct : keys.Nodup) :
    (∀ i, same i (fields.get (fields.assign read keys state).1 i) (fields.get state i)) ↔
      fields.Agrees read same state keys := by
  constructor
  · rintro unchanged ⟨i, value⟩ mem
    rcases get_assign_cases distinct i with ⟨other, otherMem, isOther⟩ | ⟨notMem, -⟩
    · have isValue : value = other :=
        Reading.value.inj ((read_of_mem_changes mem).symm.trans (read_of_mem_changes otherMem))
      rw [isValue, ← isOther]
      exact unchanged i
    · exact absurd mem (notMem value)
  · intro agrees i
    rcases get_assign_cases distinct i with ⟨value, mem, isValue⟩ | ⟨-, kept⟩
    · rw [isValue]
      exact agrees ⟨i, value⟩ mem
    · rw [kept]
      exact refl i _

end Fields

end GRoute
