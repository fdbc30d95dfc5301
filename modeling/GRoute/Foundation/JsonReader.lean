import GRoute.Foundation.Json

/-!
# Reading JSON arrays

A reader for the values that the printer writes, and the proof that it reads every value back
from its text. `OrgArray` is what `org.json` has to do with an array for stored lists to be
read as they were written.
-/

namespace GRoute

open Text

namespace Json

/-- The 64-bit integers. -/
def IsLong (z : ℤ) : Prop := -2 ^ 63 ≤ z ∧ z < 2 ^ 63

/-- The values that a text of `org.json` determines: its numbers are integers and no object has
a key twice. -/
inductive Printable : Json → Prop
  | null : Printable null
  | bool (value : Bool) : Printable (bool value)
  | int {z : ℤ} (isLong : IsLong z) : Printable (int z)
  | str (text : Text) : Printable (str text)
  | arr {elements : List Json} (each : ∀ element ∈ elements, Printable element) :
      Printable (arr elements)
  | obj {fields : List (Text × Json)} (distinct : (fields.map Prod.fst).Nodup)
      (each : ∀ field ∈ fields, Printable field.2) : Printable (obj fields)

/-- The 32-bit integers are among them. -/
theorem Printable.ofInt {z : ℤ} (isInt : IsInt z) : Printable (Json.int z) := by
  rw [IsInt] at isInt
  apply Printable.int
  rw [IsLong]
  omega

/-- The units that end a literal or a number. -/
def isDelimiter (c : UInt16) : Bool := c = unit ',' ∨ c = unit ']' ∨ c = unit '\x7d'

def readWord (s : Text) : Option (Json × Text) :=
  let word := s.takeWhile fun c => !isDelimiter c
  let rest := s.dropWhile fun c => !isDelimiter c
  if word = txt "null" then some (null, rest)
  else if word = txt "true" then some (bool true, rest)
  else if word = txt "false" then some (bool false, rest)
  else if (signed 10 word).isSome then some (number word, rest)
  else none

mutual

def readValue : ℕ → Text → Option (Json × Text)
  | 0, _ => none
  | _ + 1, [] => none
  | fuel + 1, c :: rest =>
      if c = unit '\x22' then (readString rest).map fun (text, rest) => (str text, rest)
      else if c = unit '[' then
        if rest.head? = some (unit ']') then some (arr [], rest.tail)
        else (readElements fuel rest).map fun (elements, rest) => (arr elements, rest)
      else if c = unit '\x7b' then
        if rest.head? = some (unit '\x7d') then some (obj [], rest.tail)
        else (readFields fuel rest).map fun (fields, rest) => (obj fields, rest)
      else readWord (c :: rest)

/-- The elements up to the bracket that closes the array. -/
def readElements : ℕ → Text → Option (List Json × Text)
  | 0, _ => none
  | fuel + 1, s =>
      match readValue fuel s with
      | some (element, c :: rest) =>
          if c = unit ',' then
            (readElements fuel rest).map fun (elements, rest) => (element :: elements, rest)
          else if c = unit ']' then some ([element], rest)
          else none
      | _ => none

/-- The fields up to the brace that closes the object. -/
def readFields : ℕ → Text → Option (List (Text × Json) × Text)
  | 0, _ => none
  | _ + 1, [] => none
  | fuel + 1, opening :: s =>
      if opening = unit '\x22' then
        match readString s with
        | some (key, colon :: rest) =>
            if colon = unit ':' then
              match readValue fuel rest with
              | some (value, c :: rest) =>
                  if c = unit ',' then
                    (readFields fuel rest).map fun (fields, rest) => ((key, value) :: fields, rest)
                  else if c = unit '\x7d' then some ([(key, value)], rest)
                  else none
              | _ => none
            else none
        | _ => none
      else none

end

def readArray (s : Text) : Option (List Json) :=
  match readValue s.length s with
  | some (arr elements, []) => some elements
  | _ => none

/-- What may follow a literal or a number. -/
def Ends (rest : Text) : Prop := ∀ c ∈ rest.head?, isDelimiter c

theorem ends_cons {c : UInt16} (delimits : isDelimiter c) (rest : Text) : Ends (c :: rest) := by
  intro first isFirst
  cases isFirst
  exact delimits

/-- The value is read from its text, whatever follows. -/
def ReadsBack (j : Json) : Prop :=
  ∀ (fuel : ℕ) (rest : Text), j.print.length ≤ fuel → Ends rest →
    readValue fuel (j.print ++ rest) = some (j, rest)

/-- The unit neither ends a word nor opens something else. -/
def inWord (c : UInt16) : Bool :=
  !isDelimiter c && c ≠ unit '\x22' && c ≠ unit '[' && c ≠ unit '\x7b'

theorem not_isDelimiter {c : UInt16} (isIn : inWord c) : !isDelimiter c := by
  simp only [inWord, Bool.and_eq_true] at isIn
  exact isIn.1.1.1

theorem readWord_append {word rest : Text} (plain : word.all inWord) (ends : Ends rest) :
    readWord (word ++ rest) =
      if word = txt "null" then some (null, rest)
      else if word = txt "true" then some (bool true, rest)
      else if word = txt "false" then some (bool false, rest)
      else if (signed 10 word).isSome then some (number word, rest)
      else none := by
  have goesOn : ∀ c ∈ word, (!isDelimiter c) = true :=
    fun c mem => not_isDelimiter (List.all_eq_true.mp plain c mem)
  have taken : (word ++ rest).takeWhile (fun c => !isDelimiter c) = word := by
    rw [List.takeWhile_append_of_pos goesOn]
    cases rest with
    | nil => exact List.append_nil _
    | cons c rest => simp [ends c rfl]
  have dropped : (word ++ rest).dropWhile (fun c => !isDelimiter c) = rest := by
    rw [List.dropWhile_append_of_pos goesOn]
    cases rest with
    | nil => rfl
    | cons c rest => simp [ends c rfl]
  simp only [readWord, taken, dropped]

theorem readsBack_word {word : Text} {j : Json} (isPrint : j.print = word) (nonempty : word ≠ [])
    (plain : word.all inWord)
    (reads : ∀ {rest}, Ends rest → readWord (word ++ rest) = some (j, rest)) : ReadsBack j := by
  intro fuel rest enough ends
  rw [isPrint] at enough ⊢
  rw [← reads ends]
  cases word with
  | nil => exact absurd rfl nonempty
  | cons c word =>
      rcases fuel with _ | fuel
      · simp at enough
      have isIn := List.all_eq_true.mp plain c List.mem_cons_self
      simp only [inWord, Bool.and_eq_true, decide_eq_true_eq] at isIn
      rw [List.cons_append, readValue]
      simp only [if_neg isIn.1.1.2, if_neg isIn.1.2, if_neg isIn.2]

theorem readsBack_null : ReadsBack null := by
  refine readsBack_word (by rw [print]) (by decide : txt "null" ≠ []) (by decide) ?_
  intro rest ends
  rw [readWord_append (by decide) ends, if_pos rfl]

theorem readsBack_bool (value : Bool) : ReadsBack (bool value) := by
  cases value with
  | true =>
      refine readsBack_word (by rw [print]) (by decide : txt "true" ≠ []) (by decide) ?_
      intro rest ends
      rw [readWord_append (by decide) ends, if_neg (by decide), if_pos rfl]
  | false =>
      refine readsBack_word (by rw [print]) (by decide : txt "false" ≠ []) (by decide) ?_
      intro rest ends
      rw [readWord_append (by decide) ends, if_neg (by decide), if_neg (by decide), if_pos rfl]

theorem inWord_of_mem_ofInt {z : ℤ} {c : UInt16} (mem : c ∈ ofInt z) : inWord c := by
  rcases mem_ofInt mem with rfl | ⟨d, lt, rfl⟩
  · decide
  · interval_cases d <;> decide

theorem print_int (z : ℤ) : (int z).print = ofInt z := by
  rw [int, print]

theorem readsBack_int (z : ℤ) : ReadsBack (int z) := by
  have reads := signed_ofInt z
  have notLiteral : ofInt z ≠ txt "null" ∧ ofInt z ≠ txt "true" ∧ ofInt z ≠ txt "false" := by
    have noNumber : signed 10 (txt "null") = none ∧ signed 10 (txt "true") = none ∧
        signed 10 (txt "false") = none := by decide
    refine ⟨?_, ?_, ?_⟩ <;> intro same <;> rw [same] at reads <;> simp [noNumber] at reads
  have plain : (ofInt z).all inWord := List.all_eq_true.mpr fun _ => inWord_of_mem_ofInt
  refine readsBack_word (print_int z) (ofInt_ne_nil z) plain ?_
  intro rest ends
  rw [readWord_append plain ends, if_neg notLiteral.1,
    if_neg notLiteral.2.1, if_neg notLiteral.2.2, reads]
  rfl

theorem readsBack_str (text : Text) : ReadsBack (str text) := by
  intro fuel rest enough _
  rw [print, quote] at enough ⊢
  cases fuel with
  | zero => simp at enough
  | succ fuel =>
      rw [List.cons_append, readValue, if_pos rfl, List.append_assoc, List.singleton_append,
        readString_flatMap]
      rfl

theorem printElements_cons_cons (first second : Json) (rest : List Json) :
    printElements (first :: second :: rest) =
      first.print ++ unit ',' :: printElements (second :: rest) := by
  rw [printElements]

theorem readElements_printElements {elements : List Json}
    (each : ∀ element ∈ elements, ReadsBack element) {fuel : ℕ} {rest : Text}
    (nonempty : elements ≠ []) (enough : (printElements elements).length < fuel) :
    readElements fuel (printElements elements ++ unit ']' :: rest) = some (elements, rest) := by
  induction elements generalizing fuel with
  | nil => exact absurd rfl nonempty
  | cons element elements ih =>
      rcases List.forall_mem_cons.mp each with ⟨first, others⟩
      rcases fuel with _ | fuel
      · exact absurd enough (Nat.not_lt_zero _)
      cases elements with
      | nil =>
          rw [printElements] at enough ⊢
          rw [readElements, first _ _ (Nat.lt_succ_iff.mp enough) (ends_cons (by decide) rest)]
          simp only [if_neg (show unit ']' ≠ unit ',' by decide), if_true]
      | cons next elements =>
          rw [printElements_cons_cons, List.length_append, List.length_cons] at enough
          have later := ih others (List.cons_ne_nil _ _) (show _ < fuel by omega)
          rw [printElements_cons_cons, List.append_assoc, List.cons_append, readElements,
            first _ _ (by omega) (ends_cons (by decide) _)]
          simp only [if_true, later, Option.map_some]

theorem readFields_field {fuel : ℕ} {key rest : Text} {value : Json} {c : UInt16}
    (reads : ReadsBack value) (enough : value.print.length ≤ fuel) (delimits : isDelimiter c) :
    readFields (fuel + 1) (quote key ++ unit ':' :: (value.print ++ c :: rest)) =
      if c = unit ',' then
        (readFields fuel rest).map fun (fields, rest) => ((key, value) :: fields, rest)
      else if c = unit '\x7d' then some ([(key, value)], rest)
      else none := by
  rw [quote, List.cons_append, List.append_assoc, List.singleton_append, readFields, if_pos rfl,
    readString_flatMap]
  simp only [if_true, reads _ _ enough (ends_cons delimits rest)]

theorem printFields_cons_cons (key : Text) (value : Json) (second : Text × Json)
    (rest : List (Text × Json)) : printFields ((key, value) :: second :: rest) =
      quote key ++ unit ':' :: (value.print ++ unit ',' :: printFields (second :: rest)) := by
  rw [printFields]

theorem printFields_singleton (key : Text) (value : Json) :
    printFields [(key, value)] = quote key ++ unit ':' :: value.print := by
  rw [printFields]

theorem readFields_printFields {fields : List (Text × Json)}
    (each : ∀ field ∈ fields, ReadsBack field.2) {fuel : ℕ} {rest : Text}
    (nonempty : fields ≠ []) (enough : (printFields fields).length < fuel) :
    readFields fuel (printFields fields ++ unit '\x7d' :: rest) = some (fields, rest) := by
  induction fields generalizing fuel with
  | nil => exact absurd rfl nonempty
  | cons field fields ih =>
      rcases field with ⟨key, value⟩
      rcases List.forall_mem_cons.mp each with ⟨first, others⟩
      dsimp only at first
      rcases fuel with _ | fuel
      · exact absurd enough (Nat.not_lt_zero _)
      cases fields with
      | nil =>
          rw [printFields_singleton, List.length_append, List.length_cons] at enough
          rw [printFields_singleton, List.append_assoc, List.cons_append,
            readFields_field first (by omega) (by decide), if_neg (by decide), if_pos rfl]
      | cons next fields =>
          rw [printFields_cons_cons, List.length_append, List.length_cons, List.length_append,
            List.length_cons] at enough
          have later := ih others (List.cons_ne_nil _ _) (show _ < fuel by omega)
          rw [printFields_cons_cons, List.append_assoc, List.cons_append, List.append_assoc,
            List.cons_append, readFields_field first (by omega) (by decide), if_pos rfl, later]
          rfl

theorem readsBack_arr {elements : List Json} (each : ∀ element ∈ elements, ReadsBack element)
    (opens : (printElements elements ++ [unit ']']).head? = some (unit ']') → elements = []) :
    ReadsBack (arr elements) := by
  intro fuel rest enough _
  rw [print] at enough ⊢
  rcases fuel with _ | fuel
  · simp at enough
  rw [List.cons_append, readValue, if_neg (by decide), if_pos rfl, List.append_assoc,
    List.singleton_append]
  by_cases empty : elements = []
  · subst empty
    rw [printElements]
    rfl
  · have closesLater : (printElements elements ++ unit ']' :: rest).head? ≠ some (unit ']') := by
      intro closes
      apply empty
      apply opens
      rw [← closes]
      cases printElements elements <;> rfl
    rw [if_neg closesLater, readElements_printElements each empty]
    · rfl
    · simp only [List.length_cons, List.length_append, List.length_nil] at enough
      omega

theorem readsBack_obj {fields : List (Text × Json)} (each : ∀ field ∈ fields, ReadsBack field.2) :
    ReadsBack (obj fields) := by
  intro fuel rest enough _
  rw [print] at enough ⊢
  rcases fuel with _ | fuel
  · simp at enough
  rw [List.cons_append, readValue, if_neg (by decide), if_neg (by decide), if_pos rfl,
    List.append_assoc, List.singleton_append]
  cases fields with
  | nil =>
      rw [printFields]
      rfl
  | cons field fields =>
      have opens : (printFields (field :: fields) ++ unit '\x7d' :: rest).head? =
          some (unit '\x22') := by
        cases fields <;> rw [printFields] <;> rfl
      rw [opens, if_neg (by decide), readFields_printFields each (List.cons_ne_nil _ _)]
      · rfl
      · simp only [List.length_cons, List.length_append, List.length_nil] at enough
        omega

/-- The text of a value does not start with a closing bracket. -/
theorem head?_print {j : Json} (printable : Printable j) :
    ∃ c, j.print.head? = some c ∧ c ≠ unit ']' := by
  cases printable with
  | null => exact ⟨_, rfl, by decide⟩
  | bool value => cases value <;> exact ⟨_, rfl, by decide⟩
  | int isLong =>
      rename_i z
      rw [print_int]
      cases shape : ofInt z with
      | nil => exact absurd shape (ofInt_ne_nil z)
      | cons first tail =>
          have plain := inWord_of_mem_ofInt (shape ▸ List.mem_cons_self : first ∈ ofInt z)
          refine ⟨first, rfl, ?_⟩
          rintro rfl
          exact absurd plain (by decide)
  | str text => exact ⟨_, by rw [print]; rfl, by decide⟩
  | arr each => exact ⟨_, by rw [print]; rfl, by decide⟩
  | obj distinct each => exact ⟨_, by rw [print]; rfl, by decide⟩

theorem eq_nil_of_closes {elements : List Json} (each : ∀ element ∈ elements, Printable element)
    (closes : (printElements elements ++ [unit ']']).head? = some (unit ']')) : elements = [] := by
  cases elements with
  | nil => rfl
  | cons element rest =>
      rcases head?_print (each element List.mem_cons_self) with ⟨c, isHead, ne⟩
      have starts : (printElements (element :: rest)).head? = some c := by
        cases rest with
        | nil => rw [printElements, isHead]
        | cons next rest => rw [printElements_cons_cons, List.head?_append, isHead]; rfl
      rw [List.head?_append, starts] at closes
      exact absurd (Option.some.inj closes) ne

/-- Induction on the value; the lists of an array and of an object have lemmas of their own. -/
theorem readsBack {j : Json} (printable : Printable j) : ReadsBack j := by
  induction printable with
  | null => exact readsBack_null
  | bool value => exact readsBack_bool value
  | int isLong => exact readsBack_int _
  | str text => exact readsBack_str text
  | arr each ih => exact readsBack_arr ih (eq_nil_of_closes each)
  | obj distinct each ih => exact readsBack_obj ih

theorem readArray_print {elements : List Json} (each : ∀ element ∈ elements, Printable element) :
    readArray (arr elements).print = some elements := by
  have nothingFollows : Ends [] := by
    intro c isHead
    cases isHead
  have reads := readsBack (.arr each) _ _ (le_refl _) nothingFollows
  rw [List.append_nil] at reads
  rw [readArray, reads]

/-- No unit of the text is a control unit. -/
def NoControl (s : Text) : Prop := ∀ c ∈ s, 0x20 ≤ c.toNat

theorem noControl_append {s t : Text} (left : NoControl s) (right : NoControl t) :
    NoControl (s ++ t) := by
  intro c mem
  rcases List.mem_append.mp mem with inLeft | inRight
  · exact left c inLeft
  · exact right c inRight

theorem noControl_cons {c : UInt16} {s : Text} (first : 0x20 ≤ c.toNat) (rest : NoControl s) :
    NoControl (c :: s) := by
  intro d mem
  rcases List.mem_cons.mp mem with rfl | later
  · exact first
  · exact rest d later

theorem noControl_of_all {s : Text} (plain : s.all (fun c => decide (0x20 ≤ c.toNat)) = true) :
    NoControl s := by
  intro c mem
  simpa using List.all_eq_true.mp plain c mem

theorem noControl_escapeUnit (c : UInt16) : NoControl (escapeUnit c) := by
  rw [escapeUnit]
  split_ifs with special tab backspace newline carriageReturn formFeed control
  · rcases special with rfl | rfl | rfl <;> exact noControl_of_all (by decide)
  · exact noControl_of_all (by decide)
  · exact noControl_of_all (by decide)
  · exact noControl_of_all (by decide)
  · exact noControl_of_all (by decide)
  · exact noControl_of_all (by decide)
  · have small : c.toNat ≤ 0x1F := control
    have digit {n : ℕ} (lt : n < 16) : 0x20 ≤ (escapeUnit.hexLower n).toNat := by
      interval_cases n <;> decide
    refine noControl_append (noControl_of_all (by decide)) ?_
    refine noControl_cons (digit (by omega)) (noControl_cons (digit (by omega)) ?_)
    simp [NoControl]
  · have large : ¬ c.toNat ≤ 0x1F := control
    exact noControl_cons (by omega) (by simp [NoControl])

theorem noControl_quote (s : Text) : NoControl (quote s) := by
  refine noControl_cons (by decide) (noControl_append ?_ (noControl_of_all (by decide)))
  intro c mem
  rcases List.mem_flatMap.mp mem with ⟨d, -, isEscape⟩
  exact noControl_escapeUnit d c isEscape

theorem noControl_printElements {elements : List Json}
    (each : ∀ element ∈ elements, NoControl element.print) :
    NoControl (printElements elements) := by
  induction elements with
  | nil => simp [printElements, NoControl]
  | cons element elements ih =>
      rcases List.forall_mem_cons.mp each with ⟨first, others⟩
      cases elements with
      | nil =>
          rw [printElements]
          exact first
      | cons next elements =>
          rw [printElements_cons_cons]
          exact noControl_append first (noControl_cons (by decide) (ih others))

theorem noControl_printFields {fields : List (Text × Json)}
    (each : ∀ field ∈ fields, NoControl field.2.print) : NoControl (printFields fields) := by
  induction fields with
  | nil => simp [printFields, NoControl]
  | cons field fields ih =>
      rcases field with ⟨key, value⟩
      rcases List.forall_mem_cons.mp each with ⟨first, others⟩
      cases fields with
      | nil =>
          rw [printFields_singleton]
          exact noControl_append (noControl_quote key) (noControl_cons (by decide) first)
      | cons next fields =>
          rw [printFields_cons_cons]
          refine noControl_append (noControl_quote key) (noControl_cons (by decide) ?_)
          exact noControl_append first (noControl_cons (by decide) (ih others))

/-- A printed value stands on one line. -/
theorem noControl_print {j : Json} (printable : Printable j) : NoControl j.print := by
  induction printable with
  | null =>
      rw [print]
      exact noControl_of_all (by decide)
  | bool value =>
      cases value <;> rw [print] <;> exact noControl_of_all (by decide)
  | int isLong =>
      rw [print_int]
      intro c mem
      rcases mem_ofInt mem with rfl | ⟨d, lt, rfl⟩
      · decide
      · interval_cases d <;> decide
  | str text =>
      rw [print]
      exact noControl_quote text
  | arr each ih =>
      rw [print]
      refine noControl_cons (by decide) (noControl_append ?_ (noControl_of_all (by decide)))
      exact noControl_printElements ih
  | obj distinct each ih =>
      rw [print]
      refine noControl_cons (by decide) (noControl_append ?_ (noControl_of_all (by decide)))
      exact noControl_printFields ih

theorem trimmed_print_obj (fields : List (Text × Json)) : Trimmed (obj fields).print := by
  rw [print, ← List.cons_append]
  refine trimmed_append (List.cons_ne_nil _ _) (List.cons_ne_nil _ _) ?_ ?_
  · intro c isHead
    cases isHead
    decide
  · intro c isLast
    cases isLast
    decide

end Json

/-- The parts of `org.json` that read stored arrays. -/
structure OrgArray where
  /-- `JSONArray(text)`, with `none` for its exception. -/
  parse : Text → Option (List Json)
  /-- `JSON.toInteger`, with `none` for `null`. -/
  toInteger : Json → Option ℤ
  /-- `JSON.toBoolean`, with `none` for `null`. -/
  toBoolean : Json → Option Bool
  parse_print {elements : List Json} (each : ∀ element ∈ elements, Json.Printable element) :
    parse (Json.arr elements).print = some elements
  toInteger_int {z : ℤ} (isInt : IsInt z) : toInteger (Json.int z) = some z
  isInt_of_toInteger {value : Json} {z : ℤ} (reads : toInteger value = some z) : IsInt z
  toBoolean_bool (value : Bool) : toBoolean (Json.bool value) = some value

namespace OrgArray

/-- The library that reads only what the printer writes. -/
def strict : OrgArray where
  parse := Json.readArray
  toInteger
    | .number text => toIntOrNull text
    | _ => none
  toBoolean
    | .bool value => some value
    | _ => none
  parse_print := Json.readArray_print
  toInteger_int := toIntOrNull_ofInt
  isInt_of_toInteger {value _} reads := by
    cases value with
    | number text => exact isInt_of_toIntOrNull reads
    | _ => cases reads
  toBoolean_bool _ := rfl

variable (json : OrgArray)

def optInt (o : Json) (key : Text) (default : ℤ) : ℤ :=
  ((o.field? key).bind json.toInteger).getD default

def optBoolean (o : Json) (key : Text) (default : Bool) : Bool :=
  ((o.field? key).bind json.toBoolean).getD default

theorem isInt_optInt {o : Json} {key : Text} {default : ℤ} (isInt : IsInt default) :
    IsInt (json.optInt o key default) := by
  rw [optInt]
  cases reads : (o.field? key).bind json.toInteger with
  | none => exact isInt
  | some z =>
      rcases Option.bind_eq_some_iff.mp reads with ⟨value, -, isValue⟩
      exact json.isInt_of_toInteger isValue

end OrgArray

end GRoute
