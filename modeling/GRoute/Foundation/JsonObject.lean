import GRoute.Foundation.JsonReader

/-!
# JSON objects as bytes

What becomes of a JSON value whose text is encoded in UTF-8 and decoded again: every string in it
is sanitized, and nothing else changes. `OrgObject` is what `org.json` has to do with objects for
the ones that the printer writes to be read back.
-/

namespace GRoute

open Text

namespace Json

mutual

/-- The value with every string and every key sanitized. -/
def sanitize : Json → Json
  | null => null
  | bool value => bool value
  | number text => number text
  | str text => str (Text.sanitize text)
  | arr elements => arr (sanitizeElements elements)
  | obj fields => obj (sanitizeFields fields)

def sanitizeElements : List Json → List Json
  | [] => []
  | element :: rest => sanitize element :: sanitizeElements rest

def sanitizeFields : List (Text × Json) → List (Text × Json)
  | [] => []
  | (key, value) :: rest => (Text.sanitize key, sanitize value) :: sanitizeFields rest

end

theorem sanitize_str (text : Text) : sanitize (str text) = str (Text.sanitize text) := by
  rw [sanitize]

theorem sanitize_bool (value : Bool) : sanitize (bool value) = bool value := by
  rw [sanitize]

theorem sanitize_int (z : ℤ) : sanitize (int z) = int z := by
  rw [int, sanitize]

theorem sanitize_arr (elements : List Json) :
    sanitize (arr elements) = arr (elements.map sanitize) := by
  rw [sanitize]
  congr 1
  induction elements with
  | nil => rfl
  | cons element rest ih => rw [sanitizeElements, ih, List.map_cons]

theorem sanitize_obj (fields : List (Text × Json)) : sanitize (obj fields) =
    obj (fields.map fun field => (Text.sanitize field.1, sanitize field.2)) := by
  rw [sanitize]
  congr 1
  induction fields with
  | nil => rfl
  | cons field rest ih =>
      rcases field with ⟨key, value⟩
      rw [sanitizeFields, ih, List.map_cons]

theorem sanitize_strings (elements : List Text) :
    sanitize (strings elements) = strings (elements.map Text.sanitize) := by
  have each : sanitize ∘ str = str ∘ Text.sanitize := funext sanitize_str
  rw [strings, sanitize_arr, strings, List.map_map, List.map_map, each]

/-- The names in the source are well formed. -/
theorem sanitize_object {fields : List (String × Json)}
    (plain : ∀ name ∈ fields.map Prod.fst, WellFormed (txt name)) :
    sanitize (object fields) = object (fields.map fun field => (field.1, sanitize field.2)) := by
  rw [object, sanitize_obj, object, List.map_map, List.map_map]
  congr 1
  apply List.map_congr_left
  intro field mem
  have isPlain := plain field.1 (List.mem_map_of_mem mem)
  rw [Function.comp_apply, Function.comp_apply, sanitize_eq_self_iff.mpr isPlain]

/-- The text of the value is sanitized by itself, whatever follows. -/
def SanitizesAlone (j : Json) : Prop :=
  ∀ rest, Text.sanitize (j.print ++ rest) = j.sanitize.print ++ Text.sanitize rest

theorem sanitizesAlone_of_scalars {j : Json} {word : Text} (same : j.sanitize = j)
    (isPrint : j.print = word) (scalars : word.all fun c => !isSurrogate c.toNat) :
    SanitizesAlone j := by
  intro rest
  rw [same, isPrint]
  apply sanitize_append_scalars
  intro c mem
  simpa using List.all_eq_true.mp scalars c mem

theorem isSurrogate_of_mem_ofInt {z : ℤ} {c : UInt16} (mem : c ∈ ofInt z) :
    isSurrogate c.toNat = false := by
  rcases mem_ofInt mem with rfl | ⟨d, lt, rfl⟩
  · decide
  · interval_cases d <;> decide

theorem sanitize_printElements {elements : List Json}
    (each : ∀ element ∈ elements, SanitizesAlone element) (rest : Text) :
    Text.sanitize (printElements elements ++ rest) =
      printElements (elements.map sanitize) ++ Text.sanitize rest := by
  induction elements with
  | nil => rw [printElements, List.map_nil, printElements]; rfl
  | cons element elements ih =>
      rcases List.forall_mem_cons.mp each with ⟨first, others⟩
      cases elements with
      | nil =>
          rw [List.map_cons, List.map_nil, printElements, printElements]
          exact first rest
      | cons next elements =>
          have later := ih others
          rw [List.map_cons] at later
          rw [printElements_cons_cons, List.map_cons, List.map_cons, printElements_cons_cons,
            List.append_assoc, List.cons_append, first, sanitize_cons_scalar (by decide), later,
            List.append_assoc, List.cons_append]

theorem sanitize_printFields {fields : List (Text × Json)}
    (each : ∀ field ∈ fields, SanitizesAlone field.2) (rest : Text) :
    Text.sanitize (printFields fields ++ rest) =
      printFields (fields.map fun field => (Text.sanitize field.1, sanitize field.2)) ++
        Text.sanitize rest := by
  induction fields with
  | nil => rw [printFields, List.map_nil, printFields]; rfl
  | cons field fields ih =>
      rcases field with ⟨key, value⟩
      rcases List.forall_mem_cons.mp each with ⟨first, others⟩
      dsimp only at first
      cases fields with
      | nil =>
          rw [List.map_cons, List.map_nil, printFields_singleton, printFields_singleton,
            List.append_assoc, List.cons_append, sanitize_quote_append,
            sanitize_cons_scalar (by decide), first, List.append_assoc, List.cons_append]
      | cons next fields =>
          have later := ih others
          rw [List.map_cons] at later
          rw [printFields_cons_cons, List.map_cons, List.map_cons, printFields_cons_cons,
            List.append_assoc, List.cons_append, List.append_assoc, List.cons_append,
            sanitize_quote_append, sanitize_cons_scalar (by decide), first,
            sanitize_cons_scalar (by decide), later]
          simp only [List.append_assoc, List.cons_append]

theorem sanitizesAlone {j : Json} (printable : Printable j) : SanitizesAlone j := by
  induction printable with
  | null =>
      exact sanitizesAlone_of_scalars (by rw [sanitize]) (by rw [print])
        (by decide : (txt "null").all fun c => !isSurrogate c.toNat)
  | bool value =>
      cases value with
      | true =>
          exact sanitizesAlone_of_scalars (sanitize_bool true) (by rw [print])
            (by decide : (txt "true").all fun c => !isSurrogate c.toNat)
      | false =>
          exact sanitizesAlone_of_scalars (sanitize_bool false) (by rw [print])
            (by decide : (txt "false").all fun c => !isSurrogate c.toNat)
  | int isLong =>
      refine sanitizesAlone_of_scalars (sanitize_int _) (print_int _) ?_
      rw [List.all_eq_true]
      intro c mem
      rw [isSurrogate_of_mem_ofInt mem, Bool.not_false]
  | str text =>
      intro rest
      rw [sanitize_str, print, print, sanitize_quote_append]
  | arr each ih =>
      intro rest
      rw [sanitize_arr, print, print, List.cons_append, List.append_assoc,
        sanitize_cons_scalar (by decide), sanitize_printElements ih, List.singleton_append,
        sanitize_cons_scalar (by decide)]
      simp only [List.cons_append, List.append_assoc, List.nil_append]
  | obj distinct each ih =>
      intro rest
      rw [sanitize_obj, print, print, List.cons_append, List.append_assoc,
        sanitize_cons_scalar (by decide), sanitize_printFields ih, List.singleton_append,
        sanitize_cons_scalar (by decide)]
      simp only [List.cons_append, List.append_assoc, List.nil_append]

/-- The text of a value after it was sent as bytes is the text of the sanitized value. -/
theorem decodeUtf8_print {j : Json} (printable : Printable j) :
    decodeUtf8 (encodeUtf8 j.print) = j.sanitize.print := by
  have alone := sanitizesAlone printable []
  rw [List.append_nil, sanitize_nil, List.append_nil] at alone
  rw [decodeUtf8_encodeUtf8, alone]

def readObject (s : Text) : Option Json :=
  match readValue s.length s with
  | some (obj fields, []) => some (obj fields)
  | _ => none

theorem readObject_print {fields : List (Text × Json)} (printable : Printable (obj fields)) :
    readObject (obj fields).print = some (obj fields) := by
  have nothingFollows : Ends [] := by
    intro c isHead
    cases isHead
  have reads := readsBack printable _ _ (le_refl _) nothingFollows
  rw [List.append_nil] at reads
  rw [readObject, reads]

/-- Each of distinct names has its value. -/
theorem field?_object_of_mem {fields : List (String × Json)}
    (distinct : (fields.map fun field => txt field.1).Nodup) {name : String} {value : Json}
    (mem : (name, value) ∈ fields) : (object fields).field? (txt name) = some value := by
  induction fields with
  | nil => cases mem
  | cons field rest ih =>
      rcases field with ⟨first, other⟩
      rcases List.nodup_cons.mp distinct with ⟨notLater, distinctRest⟩
      rw [field?_object_cons]
      rcases List.mem_cons.mp mem with same | later
      · cases same
        exact if_pos rfl
      · have ne : txt first ≠ txt name := by
          intro same
          apply notLater
          exact List.mem_map.mpr ⟨(name, value), later, same.symm⟩
        rw [if_neg ne]
        exact ih distinctRest later

/-- `optJSONArray`. -/
def optArray (o : Json) (key : Text) : Option (List Json) :=
  match o.field? key with
  | some (arr elements) => some elements
  | _ => none

end Json

/-- The parts of `org.json` that read the objects of files. -/
structure OrgObject extends OrgArray where
  /-- `JSONObject(text)`, with `none` for its exception. -/
  parseObject : Text → Option Json
  /-- `JSON.toLong`, with `none` for `null`. -/
  toLong : Json → Option ℤ
  parseObject_print {fields : List (Text × Json)} (printable : Json.Printable (.obj fields)) :
    parseObject (Json.obj fields).print = some (.obj fields)
  toLong_int {z : ℤ} (isLong : Json.IsLong z) : toLong (Json.int z) = some z

namespace OrgObject

/-- The library that reads only what the printer writes. -/
def strict : OrgObject where
  toOrgArray := .strict
  parseObject := Json.readObject
  toLong
    | .number text => signed 10 text
    | _ => none
  parseObject_print := Json.readObject_print
  toLong_int _ := signed_ofInt _

variable (json : OrgObject)

def optLong (o : Json) (key : Text) (default : ℤ) : ℤ :=
  ((o.field? key).bind json.toLong).getD default

end OrgObject

end GRoute
