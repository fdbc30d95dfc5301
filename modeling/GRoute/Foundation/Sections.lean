import Mathlib.Data.List.Basic

/-!
# Files of sections

Lines that open a section, give a key a value or say nothing. A reader that goes through the lines
with one variable for each key of interest ends with the value that the key was given last in the
sections of its header, whatever comes between them.
-/

namespace GRoute.Sections

inductive Line (Header Key Value : Type*)
  | skip
  | header (name : Header)
  | entry (key : Key) (value : Value)

structure Section (Header Key Value : Type*) where
  header : Header
  entries : List (Key × Value)
  deriving DecidableEq, Repr

variable {Header Key Value : Type*}

/-- The entries before the first header. -/
def leading : List (Line Header Key Value) → List (Key × Value)
  | [] => []
  | .skip :: rest => leading rest
  | .header _ :: _ => []
  | .entry key value :: rest => (key, value) :: leading rest

def sections : List (Line Header Key Value) → List (Section Header Key Value)
  | [] => []
  | .header name :: rest => ⟨name, leading rest⟩ :: sections rest
  | _ :: rest => sections rest

section

variable [DecidableEq Key]

/-- The value that the key is given last. -/
def valueOf (key : Key) : List (Key × Value) → Option Value
  | [] => none
  | entry :: rest => (valueOf key rest).or (if entry.1 = key then some entry.2 else none)

end

variable [DecidableEq Header]

/-- The entries of all sections with the header, in their order. -/
def entriesIn (header : Header) (lines : List (Line Header Key Value)) : List (Key × Value) :=
  ((sections lines).filter fun part => part.header = header).flatMap Section.entries

/-- The entries under the header when the lines come in a section with the current one. -/
def entriesFrom (current header : Header) (lines : List (Line Header Key Value)) :
    List (Key × Value) :=
  (if current = header then leading lines else []) ++ entriesIn header lines

section

variable {current header : Header} {lines : List (Line Header Key Value)}

theorem entriesFrom_skip : entriesFrom current header (.skip :: lines) =
    entriesFrom current header lines := rfl

theorem entriesFrom_header (name : Header) : entriesFrom current header (.header name :: lines) =
    entriesFrom name header lines := by
  rw [entriesFrom, entriesFrom, entriesIn, entriesIn, sections, List.filter_cons]
  by_cases same : name = header
  · simp [same, leading]
  · simp [same, leading]

theorem entriesFrom_entry (key : Key) (value : Value) :
    entriesFrom current header (.entry key value :: lines) =
      (if current = header then [(key, value)] else []) ++ entriesFrom current header lines := by
  rw [entriesFrom, entriesFrom, leading]
  split <;> rfl

end

variable [DecidableEq Key] {State Field : Type*}

/-- The reader keeps track of the section that it is in. -/
structure Tracks (current : State → Header) (step : State → Line Header Key Value → State) :
    Prop where
  skip : ∀ state, step state .skip = state
  header : ∀ state name, current (step state (.header name)) = name
  entry : ∀ state key value, current (step state (.entry key value)) = current state

/-- The variable holds what the key is given under the header. -/
structure Holds (current : State → Header) (step : State → Line Header Key Value → State)
    (variableOf : State → Field) (header : Header) (key : Key) (read : Value → Field) : Prop where
  opening : ∀ state name, variableOf (step state (.header name)) = variableOf state
  entry : ∀ state other value, variableOf (step state (.entry other value)) =
    if current state = header ∧ other = key then read value else variableOf state

/-- After all lines the variable has the value that its key was given last. -/
theorem Holds.foldl {current : State → Header} {step : State → Line Header Key Value → State}
    {variableOf : State → Field} {header : Header} {key : Key} {read : Value → Field}
    (holds : Holds current step variableOf header key read) (tracks : Tracks current step)
    (lines : List (Line Header Key Value)) (state : State) :
    variableOf (lines.foldl step state) =
      ((valueOf key (entriesFrom (current state) header lines)).map read).getD
        (variableOf state) := by
  induction lines generalizing state with
  | nil =>
      rw [entriesFrom]
      split <;> rfl
  | cons line rest ih =>
      rw [List.foldl_cons, ih]
      cases line with
      | skip => rw [tracks.skip, entriesFrom_skip]
      | header name => rw [tracks.header, holds.opening, entriesFrom_header]
      | entry other value =>
          rw [tracks.entry, holds.entry, entriesFrom_entry]
          by_cases inside : current state = header
          · rw [if_pos inside, List.singleton_append, valueOf]
            by_cases isKey : other = key
            · rw [if_pos ⟨inside, isKey⟩, if_pos isKey]
              cases valueOf key (entriesFrom (current state) header rest) <;> rfl
            · rw [if_neg (fun both => isKey both.2), if_neg isKey, Option.or_none]
          · rw [if_neg (fun both => inside both.1), if_neg inside, List.nil_append]

end GRoute.Sections
