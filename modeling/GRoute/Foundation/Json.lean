import GRoute.Foundation.FormCoding

/-!
# JSON objects

The values of `org.json`, their text as `JSONObject.toString` writes it, and
`optString`. An object keeps its fields in the order in which they were put.

Reading is not modelled in full. `OrgJson` is a reader that is lossless on the objects
of strings that the printer writes, and `OrgJson.strict` is one that reads nothing else.
-/

namespace GRoute

open Text

/-- A value of `org.json`. -/
inductive Json
  | null
  | bool (value : Bool)
  /-- A number, as the text that `String.valueOf` gives for it. -/
  | number (text : Text)
  | str (text : Text)
  | arr (elements : List Json)
  | obj (fields : List (Text × Json))

namespace Json

/-- The escape that ends in the given unit. -/
def backslash (c : UInt16) : Text := [unit '\x5c', c]

def escapeUnit (c : UInt16) : Text :=
  if c = unit '\x22' ∨ c = unit '\x5c' ∨ c = unit '/' then backslash c
  else if c = 9 then backslash (unit 't')
  else if c = 8 then backslash (unit 'b')
  else if c = 10 then backslash (unit 'n')
  else if c = 13 then backslash (unit 'r')
  else if c = 12 then backslash (unit 'f')
  else if c ≤ 0x1F then
    txt "\\u00" ++ [hexLower (c.toNat / 16), hexLower (c.toNat % 16)]
  else [c]
where
  /-- The digits of `String.format("%04x")`. -/
  hexLower (n : ℕ) : UInt16 := UInt16.ofNat (if n < 10 then 48 + n else 87 + n)

def quote (s : Text) : Text := unit '\x22' :: (s.flatMap escapeUnit ++ [unit '\x22'])

mutual

def print : Json → Text
  | null => txt "null"
  | bool true => txt "true"
  | bool false => txt "false"
  | number text => text
  | str text => quote text
  | arr elements => unit '[' :: (printElements elements ++ [unit ']'])
  | obj fields => unit '\x7b' :: (printFields fields ++ [unit '\x7d'])

def printElements : List Json → Text
  | [] => []
  | [element] => print element
  | element :: next :: rest => print element ++ unit ',' :: printElements (next :: rest)

def printFields : List (Text × Json) → Text
  | [] => []
  | [(key, value)] => quote key ++ unit ':' :: print value
  | (key, value) :: next :: rest =>
      quote key ++ unit ':' :: (print value ++ unit ',' :: printFields (next :: rest))

end

/-- An object all of whose values are strings. -/
def ofStrings (fields : List (Text × Text)) : Json :=
  obj (fields.map fun field => (field.1, str field.2))

def field? (o : Json) (key : Text) : Option Json :=
  match o with
  | obj fields => (fields.find? fun field => field.1 = key).map Prod.snd
  | _ => none

/-- `optString` gives every value as text. -/
def toText : Json → Text
  | str text => text
  | value => value.print

def optString (o : Json) (key default : Text) : Text :=
  match o.field? key with
  | some value => value.toText
  | none => default

/-- An object with the given fields. -/
def object (fields : List (String × Json)) : Json :=
  obj (fields.map fun field => (txt field.1, field.2))

def text (s : String) : Json := str (txt s)

def int (z : ℤ) : Json := number (ofInt z)

/-- The text of every element is a string. -/
def strings (elements : List Text) : Json := arr (elements.map str)

/-- `JSONObject.put` keeps the place of a key that is already there. -/
def putField (key : Text) (value : Json) : List (Text × Json) → List (Text × Json)
  | [] => [(key, value)]
  | field :: rest =>
      if field.1 = key then (key, value) :: rest else field :: putField key value rest

def put (o : Json) (key : String) (value : Json) : Json :=
  match o with
  | obj fields => obj (putField (txt key) value fields)
  | other => other

/-- `optJSONObject`. -/
def optObject (o : Json) (key : String) : Option Json :=
  match o.field? (txt key) with
  | some (obj fields) => some (obj fields)
  | _ => none

theorem int_inj {a b : ℤ} : int a = int b ↔ a = b := by
  constructor
  · intro same
    have read : signed 10 (ofInt a) = some b := by
      rw [Json.number.inj same]
      exact signed_ofInt b
    rw [signed_ofInt] at read
    exact Option.some.inj read
  · rintro rfl
    rfl

theorem ofInt_inj {a b : ℤ} : ofInt a = ofInt b ↔ a = b := by
  rw [← int_inj, int, int, Json.number.injEq]

theorem toText_int (z : ℤ) : (int z).toText = ofInt z := by
  rw [int, toText, print]
  exact fun _ isString => nomatch isString

theorem field?_object_nil (key : Text) : (object []).field? key = none := rfl

theorem field?_object_cons (name : String) (value : Json) (rest : List (String × Json))
    (key : Text) : (object ((name, value) :: rest)).field? key =
      if txt name = key then some value else (object rest).field? key := by
  simp only [object, field?, List.map_cons, List.find?_cons]
  split
  · next same => simp [of_decide_eq_true same]
  · next other => simp [of_decide_eq_false other]

theorem field?_object_append (xs ys : List (String × Json)) (key : Text) :
    (object (xs ++ ys)).field? key = ((object xs).field? key).or ((object ys).field? key) := by
  induction xs with
  | nil => rfl
  | cons field xs ih =>
      rw [List.cons_append, field?_object_cons, field?_object_cons, ih]
      split <;> rfl

theorem field?_object_of_forall_ne {fields : List (String × Json)} {key : Text}
    (absent : ∀ field ∈ fields, txt field.1 ≠ key) : (object fields).field? key = none := by
  induction fields with
  | nil => rfl
  | cons field rest ih =>
      rw [field?_object_cons, if_neg (absent field List.mem_cons_self)]
      exact ih fun other mem => absent other (List.mem_cons_of_mem _ mem)

theorem find?_putField_self (key : Text) (value : Json) (fields : List (Text × Json)) :
    (putField key value fields).find? (fun field => field.1 = key) = some (key, value) := by
  induction fields with
  | nil => simp [putField]
  | cons field rest ih =>
      rw [putField]
      split
      · simp
      · next other => rw [List.find?_cons_of_neg (by simpa using other), ih]

theorem find?_putField_of_ne {key other : Text} (ne : other ≠ key) (value : Json)
    (fields : List (Text × Json)) :
    (putField other value fields).find? (fun field => field.1 = key) =
      fields.find? fun field => field.1 = key := by
  induction fields with
  | nil => simp [putField, ne]
  | cons field rest ih =>
      rw [putField]
      split
      · next same =>
          rw [List.find?_cons_of_neg (by simpa using ne),
            List.find?_cons_of_neg (by simpa [same] using ne)]
      · rw [List.find?_cons, List.find?_cons, ih]

theorem field?_put_self {fields : List (Text × Json)} (key : String) (value : Json) :
    ((obj fields).put key value).field? (txt key) = some value := by
  rw [put, field?, find?_putField_self, Option.map_some]

/-- A field that is put leaves the others as they are. -/
theorem field?_put_of_ne (o : Json) {key : Text} {other : String} (ne : txt other ≠ key)
    (value : Json) : (o.put other value).field? key = o.field? key := by
  cases o with
  | obj fields => rw [put, field?, find?_putField_of_ne ne, field?]
  | _ => rfl

mutual

/-- The fields of the value and of the values in it. -/
def allFields : Json → List (Text × Json)
  | arr elements => elementFields elements
  | obj fields => nestedFields fields
  | _ => []

def elementFields : List Json → List (Text × Json)
  | [] => []
  | element :: rest => allFields element ++ elementFields rest

def nestedFields : List (Text × Json) → List (Text × Json)
  | [] => []
  | (name, value) :: rest => (name, value) :: (allFields value ++ nestedFields rest)

end

theorem mem_allFields_arr {elements : List Json} {field : Text × Json} :
    field ∈ allFields (arr elements) ↔ ∃ element ∈ elements, field ∈ allFields element := by
  rw [allFields]
  induction elements with
  | nil => simp [elementFields]
  | cons element rest ih => simp [elementFields, ih]

theorem mem_allFields_obj {fields : List (Text × Json)} {field : Text × Json} :
    field ∈ allFields (obj fields) ↔
      ∃ own ∈ fields, field = own ∨ field ∈ allFields own.2 := by
  rw [allFields]
  induction fields with
  | nil => simp [nestedFields]
  | cons own rest ih => simp [nestedFields, ih, or_assoc]

theorem mem_allFields_object {fields : List (String × Json)} {field : Text × Json} :
    field ∈ allFields (object fields) ↔
      ∃ own ∈ fields, field = (txt own.1, own.2) ∨ field ∈ allFields own.2 := by
  rw [object, mem_allFields_obj]
  simp only [List.mem_map, exists_exists_and_eq_and]

theorem mem_putField {key : Text} {value : Json} {fields : List (Text × Json)} {own : Text × Json}
    (mem : own ∈ putField key value fields) : own = (key, value) ∨ own ∈ fields := by
  induction fields with
  | nil => exact .inl (List.mem_singleton.mp mem)
  | cons first rest ih =>
      rw [putField] at mem
      split at mem
      · rcases List.mem_cons.mp mem with isPut | inRest
        · exact .inl isPut
        · exact .inr (List.mem_cons_of_mem _ inRest)
      · rcases List.mem_cons.mp mem with isFirst | inRest
        · exact .inr (isFirst ▸ List.mem_cons_self)
        · rcases ih inRest with isPut | inOld
          · exact .inl isPut
          · exact .inr (List.mem_cons_of_mem _ inOld)

/-- What is put adds its own fields and no others. -/
theorem mem_allFields_put {o : Json} {key : String} {value : Json} {field : Text × Json}
    (mem : field ∈ allFields (o.put key value)) :
    field = (txt key, value) ∨ field ∈ allFields value ∨ field ∈ allFields o := by
  cases o with
  | obj fields =>
      rw [put, mem_allFields_obj] at mem
      rcases mem with ⟨own, isOwn, isField⟩
      rcases mem_putField isOwn with rfl | inOld
      · rcases isField with same | inValue
        · exact .inl same
        · exact .inr (.inl inValue)
      · exact .inr (.inr (mem_allFields_obj.mpr ⟨own, inOld, isField⟩))
  | _ => exact .inr (.inr mem)

theorem mem_allFields_of_optObject {o value : Json} {key : String} {field : Text × Json}
    (found : o.optObject key = some value) (mem : field ∈ allFields value) :
    field ∈ allFields o := by
  rw [optObject] at found
  split at found
  · next fields isObject =>
      cases found
      cases o with
      | obj own =>
          rw [field?, Option.map_eq_some_iff] at isObject
          rcases isObject with ⟨holder, first, isValue⟩
          refine mem_allFields_obj.mpr ⟨holder, List.mem_of_find?_eq_some first, .inr ?_⟩
          rw [isValue]
          exact mem
      | _ => cases isObject
  · cases found

/-- A field of an object of strings is found under its key. -/
theorem optString_ofStrings_of_mem {fields : List (Text × Text)}
    (distinct : (fields.map Prod.fst).Nodup) {key value : Text} (mem : (key, value) ∈ fields)
    (default : Text) : (ofStrings fields).optString key default = value := by
  have found : (ofStrings fields).field? key = some (str value) := by
    rw [ofStrings, field?]
    induction fields with
    | nil => cases mem
    | cons field fields ih =>
        rw [List.map_cons, List.nodup_cons] at distinct
        rcases List.mem_cons.mp mem with rfl | inRest
        · simp
        · have other : field.1 ≠ key := by
            rintro rfl
            exact distinct.1 (List.mem_map.mpr ⟨_, inRest, rfl⟩)
          rw [List.map_cons, List.find?_cons_of_neg (by simpa using other)]
          exact ih distinct.2 inRest
  rw [optString, found]
  rfl

theorem optString_ofStrings_of_notMem {fields : List (Text × Text)} {key : Text}
    (notMem : key ∉ fields.map Prod.fst) (default : Text) :
    (ofStrings fields).optString key default = default := by
  have missing : (ofStrings fields).field? key = none := by
    rw [ofStrings, field?, Option.map_eq_none_iff, List.find?_eq_none]
    intro field mem same
    rcases List.mem_map.mp mem with ⟨source, inFields, rfl⟩
    exact notMem (List.mem_map.mpr ⟨source, inFields, of_decide_eq_true same⟩)
  rw [optString, missing]

/-- A text that starts with a unit and has no surrogate. -/
def IsScalarText (s : Text) : Prop := s ≠ [] ∧ ∀ d ∈ s, isSurrogate d.toNat = false

theorem isScalarText_backslash {c : UInt16} (scalar : isSurrogate c.toNat = false) :
    IsScalarText (backslash c) := by
  refine ⟨by simp [backslash], ?_⟩
  simp only [backslash, List.mem_cons, List.not_mem_nil, or_false, forall_eq_or_imp, forall_eq]
  exact ⟨by decide, scalar⟩

/-- A unit that is escaped is no surrogate, and neither are the units of its escape. -/
theorem escapeUnit_cases (c : UInt16) :
    escapeUnit c = [c] ∨ isSurrogate c.toNat = false ∧ IsScalarText (escapeUnit c) := by
  rw [escapeUnit]
  split_ifs with special tab backspace newline carriageReturn formFeed control
  · right
    have scalar : isSurrogate c.toNat = false := by
      rcases special with rfl | rfl | rfl <;> decide
    exact ⟨scalar, isScalarText_backslash scalar⟩
  · exact Or.inr ⟨by rw [tab]; decide, isScalarText_backslash (by decide)⟩
  · exact Or.inr ⟨by rw [backspace]; decide, isScalarText_backslash (by decide)⟩
  · exact Or.inr ⟨by rw [newline]; decide, isScalarText_backslash (by decide)⟩
  · exact Or.inr ⟨by rw [carriageReturn]; decide, isScalarText_backslash (by decide)⟩
  · exact Or.inr ⟨by rw [formFeed]; decide, isScalarText_backslash (by decide)⟩
  · right
    have small : c.toNat ≤ 0x1F := control
    refine ⟨isSurrogate_of_lt (by omega), by simp, ?_⟩
    have scalarDigit {n : ℕ} (lt : n < 16) :
        isSurrogate (escapeUnit.hexLower n).toNat = false := by
      interval_cases n <;> decide
    have scalarStart : (txt "\\u00").all (fun d => !isSurrogate d.toNat) = true := by decide
    intro d mem
    rcases List.mem_append.mp mem with start | digits
    · simpa using List.all_eq_true.mp scalarStart d start
    · simp only [List.mem_cons, List.not_mem_nil, or_false] at digits
      rcases digits with rfl | rfl
      · exact scalarDigit (by omega)
      · exact scalarDigit (by omega)
  · exact Or.inl rfl

theorem escapeUnit_of_surrogate {c : UInt16} (surrogate : isSurrogate c.toNat = true) :
    escapeUnit c = [c] := by
  rcases escapeUnit_cases c with plain | ⟨scalar, _⟩
  · exact plain
  · rw [surrogate] at scalar
    cases scalar

/-- What is sanitized by itself can be escaped before or after. -/
theorem flatMap_escapeUnit_units {c : UInt16} (plain : escapeUnit c = [c]) :
    (units (replaceSurrogate c.toNat)).flatMap escapeUnit = units (replaceSurrogate c.toNat) := by
  rw [replaceSurrogate]
  split
  · decide
  · rw [units_toNat, List.flatMap_singleton, plain]

theorem head_escapeUnit {d : UInt16} {rest : Text} (notLow : isLowSurrogate d = false) :
    ∀ x ∈ (escapeUnit d ++ rest).head?, isLowSurrogate x = false := by
  intro x isHead
  rcases escapeUnit_cases d with plain | ⟨_, nonempty, scalars⟩
  · rw [plain] at isHead
    simp only [List.singleton_append, List.head?_cons, Option.mem_some_iff] at isHead
    rw [← isHead]
    exact notLow
  · rw [List.head?_append_of_ne_nil _ nonempty] at isHead
    have scalar := scalars x (List.mem_of_mem_head? isHead)
    simp only [isSurrogate, isLowSurrogate, Bool.and_eq_false_iff, decide_eq_false_iff_not]
      at scalar ⊢
    omega

/-- Escaping one unit that opens no pair commutes with sanitizing. -/
theorem sanitize_escapeUnit_append {c : UInt16} {rest : Text}
    (unpaired : isHighSurrogate c = false ∨ ∀ d ∈ rest.head?, isLowSurrogate d = false) :
    sanitize (escapeUnit c ++ rest) =
      (units (replaceSurrogate c.toNat)).flatMap escapeUnit ++ sanitize rest := by
  rcases escapeUnit_cases c with plain | ⟨scalar, _, scalars⟩
  · rw [flatMap_escapeUnit_units plain, plain, List.singleton_append, sanitize_cons unpaired]
  · rw [sanitize_append_scalars scalars, replaceSurrogate, if_neg (by simp [scalar]), units_toNat,
      List.flatMap_singleton]

/-- Escaping commutes with sanitizing. -/
theorem sanitize_flatMap_escapeUnit (s rest : Text)
    (notLow : ∀ d ∈ rest.head?, isLowSurrogate d = false) :
    sanitize (s.flatMap escapeUnit ++ rest) = (sanitize s).flatMap escapeUnit ++ sanitize rest := by
  induction s using codePoints.induct with
  | case1 => rfl
  | case2 c =>
      rw [List.flatMap_singleton, sanitize_escapeUnit_append (Or.inr notLow),
        sanitize_cons (Or.inr (by simp))]
      simp [sanitize, codePoints]
  | case3 c d s paired ih =>
      rw [Bool.and_eq_true] at paired
      have cPlain : escapeUnit c = [c] := by
        apply escapeUnit_of_surrogate
        simp only [isHighSurrogate, isSurrogate, Bool.and_eq_true, decide_eq_true_eq] at paired ⊢
        omega
      have dPlain : escapeUnit d = [d] := by
        apply escapeUnit_of_surrogate
        simp only [isLowSurrogate, isSurrogate, Bool.and_eq_true, decide_eq_true_eq] at paired ⊢
        omega
      rw [sanitize_pair paired.1 paired.2]
      simp only [List.flatMap_cons, cPlain, dPlain, List.cons_append, List.nil_append]
      rw [sanitize_pair paired.1 paired.2, ih]
  | case4 c d s unpaired ih =>
      have alone : isHighSurrogate c = false ∨ isLowSurrogate d = false := by
        rw [Bool.and_eq_true, not_and_or, Bool.not_eq_true, Bool.not_eq_true] at unpaired
        exact unpaired
      have escaped : isHighSurrogate c = false ∨
          ∀ x ∈ ((d :: s).flatMap escapeUnit ++ rest).head?, isLowSurrogate x = false := by
        rcases alone with notHigh | dNotLow
        · exact Or.inl notHigh
        · right
          rw [List.flatMap_cons, List.append_assoc]
          exact head_escapeUnit dNotLow
      have plain : isHighSurrogate c = false ∨
          ∀ x ∈ (d :: s).head?, isLowSurrogate x = false := by
        rcases alone with notHigh | dNotLow
        · exact Or.inl notHigh
        · exact Or.inr (by simpa using dNotLow)
      rw [List.flatMap_cons, List.append_assoc, sanitize_escapeUnit_append escaped, ih,
        sanitize_cons plain, List.flatMap_append, List.append_assoc]

theorem sanitize_quote_append (s rest : Text) :
    sanitize (quote s ++ rest) = quote (sanitize s) ++ sanitize rest := by
  have quoteScalar : isSurrogate (unit '\x22').toNat = false := by decide
  have notLow : ∀ d ∈ (unit '\x22' :: rest).head?, isLowSurrogate d = false := by
    simp only [List.head?_cons, Option.mem_some_iff, forall_eq']
    decide
  simp only [quote, List.cons_append, List.append_assoc, List.nil_append]
  rw [sanitize_cons_scalar quoteScalar, sanitize_flatMap_escapeUnit _ _ notLow,
    sanitize_cons_scalar quoteScalar]

theorem sanitize_printFields_append (fields : List (Text × Text)) (rest : Text) :
    sanitize (printFields (fields.map fun field => (field.1, str field.2)) ++ rest) =
      printFields (fields.map fun field => (sanitize field.1, str (sanitize field.2))) ++
        sanitize rest := by
  have colon : isSurrogate (unit ':').toNat = false := by decide
  have comma : isSurrogate (unit ',').toNat = false := by decide
  induction fields with
  | nil => rfl
  | cons field fields ih =>
      cases fields with
      | nil =>
          simp only [List.map_cons, List.map_nil, printFields, print, List.append_assoc,
            List.cons_append, sanitize_quote_append, sanitize_cons_scalar colon]
      | cons next fields =>
          simp only [List.map_cons] at ih
          simp only [List.map_cons, printFields, print, List.append_assoc, List.cons_append,
            sanitize_quote_append, sanitize_cons_scalar colon, sanitize_cons_scalar comma, ih]

/-- An object of strings is sanitized string by string. -/
theorem sanitize_print_ofStrings (fields : List (Text × Text)) :
    sanitize (ofStrings fields).print =
      (ofStrings (fields.map fun field => (sanitize field.1, sanitize field.2))).print := by
  have opening : isSurrogate (unit '\x7b').toNat = false := by decide
  have closing : isSurrogate (unit '\x7d').toNat = false := by decide
  simp only [ofStrings, print, List.map_map]
  rw [sanitize_cons_scalar opening, sanitize_printFields_append, sanitize_cons_scalar closing]
  rfl

end Json

/-- A reader of JSON objects that loses nothing of the objects of strings it is given. -/
structure OrgJson where
  /-- `JSONObject(text)`, with `none` for its exception. -/
  parse : Text → Option Json
  parse_print {fields : List (Text × Text)} (distinct : (fields.map Prod.fst).Nodup) :
    parse (Json.ofStrings fields).print = some (Json.ofStrings fields)

namespace Json

/-- The unit that an escape of one letter stands for. -/
def unescape (c : UInt16) : UInt16 :=
  if c = unit 't' then 9
  else if c = unit 'b' then 8
  else if c = unit 'n' then 10
  else if c = unit 'r' then 13
  else if c = unit 'f' then 12
  else c

/-- A string whose opening quote has been read, and the text after its closing quote. -/
def readString : Text → Option (Text × Text)
  | [] => none
  | c :: rest =>
      if c = unit '\x22' then some ([], rest)
      else if c = unit '\x5c' then
        match rest with
        | [] => none
        | escaped :: rest =>
            if escaped = unit 'u' then
              match rest with
              | a :: b :: c :: d :: rest =>
                  match magnitude 16 [a, b, c, d] with
                  | some value =>
                      (readString rest).map fun (text, rest) => (UInt16.ofNat value :: text, rest)
                  | none => none
              | _ => none
            else (readString rest).map fun (text, rest) => (unescape escaped :: text, rest)
      else (readString rest).map fun (text, rest) => (c :: text, rest)

/-- The members of an object whose opening brace has been read. -/
def readMembers : ℕ → Text → Option (List (Text × Text))
  | 0, _ => none
  | fuel + 1, s =>
      match s with
      | c :: rest =>
          if c = unit '\x7d' then if rest = [] then some [] else none
          else if c = unit ',' then readMembers fuel rest
          else if c = unit '\x22' then
            match readString rest with
            | some (key, colon :: quote :: rest) =>
                if colon = unit ':' ∧ quote = unit '\x22' then
                  match readString rest with
                  | some (value, rest) => (readMembers fuel rest).map ((key, value) :: ·)
                  | none => none
                else none
            | _ => none
          else none
      | [] => none

/-- A reader for the objects of strings that the printer writes. -/
def readStrict (s : Text) : Option Json :=
  match s with
  | c :: rest => if c = unit '\x7b' then (readMembers s.length rest).map ofStrings else none
  | [] => none

theorem readString_quote (rest : Text) : readString (unit '\x22' :: rest) = some ([], rest) := by
  rw [readString.eq_def]
  simp only [if_true]

theorem readString_plain {c : UInt16} (rest : Text) (notQuote : c ≠ unit '\x22')
    (notEscape : c ≠ unit '\x5c') :
    readString (c :: rest) = (readString rest).map fun (text, rest) => (c :: text, rest) := by
  rw [readString.eq_def]
  simp only [if_neg notQuote, if_neg notEscape]

theorem readString_backslash {c : UInt16} (rest : Text) (notUnicode : c ≠ unit 'u') :
    readString (backslash c ++ rest) =
      (readString rest).map fun (text, rest) => (unescape c :: text, rest) := by
  rw [backslash, List.cons_append, List.singleton_append, readString.eq_def]
  simp only [if_neg (show unit '\x5c' ≠ unit '\x22' by decide), if_true, if_neg notUnicode]

theorem readString_unicode {high low value : ℕ} (highLt : high < 16) (lowLt : low < 16)
    (valueEq : value = high * 16 + low) (rest : Text) :
    readString (txt "\\u00" ++ [escapeUnit.hexLower high, escapeUnit.hexLower low] ++ rest) =
      (readString rest).map fun (text, rest) => (UInt16.ofNat value :: text, rest) := by
  have digitEq {n : ℕ} (lt : n < 16) : digit 16 (escapeUnit.hexLower n) = some n := by
    interval_cases n <;> decide
  have zero : digit 16 (unit '0') = some 0 := by decide
  have read : magnitude 16 [unit '0', unit '0', escapeUnit.hexLower high, escapeUnit.hexLower low] =
      some value := by
    simp [magnitude, zero, digitEq highLt, digitEq lowLt, valueEq]
  have shape : txt "\\u00" ++ [escapeUnit.hexLower high, escapeUnit.hexLower low] ++ rest =
      unit '\x5c' :: unit 'u' :: unit '0' :: unit '0' :: escapeUnit.hexLower high ::
        escapeUnit.hexLower low :: rest := rfl
  rw [shape, readString.eq_def]
  simp only [if_neg (show unit '\x5c' ≠ unit '\x22' by decide), if_true, read]

theorem readString_escapeUnit (c : UInt16) (rest : Text) :
    readString (escapeUnit c ++ rest) =
      (readString rest).map fun (text, rest) => (c :: text, rest) := by
  rw [escapeUnit]
  split_ifs with special tab backspace newline carriageReturn formFeed control
  · have plain : c ≠ unit 'u' ∧ unescape c = c := by
      rcases special with rfl | rfl | rfl <;> decide
    rw [readString_backslash rest plain.1, plain.2]
  · rw [readString_backslash rest (by decide), tab]
    rfl
  · rw [readString_backslash rest (by decide), backspace]
    rfl
  · rw [readString_backslash rest (by decide), newline]
    rfl
  · rw [readString_backslash rest (by decide), carriageReturn]
    rfl
  · rw [readString_backslash rest (by decide), formFeed]
    rfl
  · have small : c.toNat ≤ 0x1F := control
    have value : c.toNat = c.toNat / 16 * 16 + c.toNat % 16 := by omega
    rw [readString_unicode (by omega) (by omega) value, UInt16.ofNat_toNat]
  · rw [not_or, not_or] at special
    exact readString_plain rest special.1 special.2.1

theorem readString_flatMap (s rest : Text) :
    readString (s.flatMap escapeUnit ++ unit '\x22' :: rest) = some (s, rest) := by
  induction s with
  | nil => exact readString_quote rest
  | cons c s ih =>
      rw [List.flatMap_cons, List.append_assoc, readString_escapeUnit, ih]
      rfl

/-- One member is read, together with what follows it. -/
theorem readMembers_member (fuel : ℕ) (key value rest : Text) :
    readMembers (fuel + 1) (quote key ++ unit ':' :: (quote value ++ rest)) =
      (readMembers fuel rest).map ((key, value) :: ·) := by
  simp only [quote, List.cons_append, List.append_assoc, List.nil_append, readMembers]
  rw [if_neg (by decide), if_neg (by decide), if_true, readString_flatMap]
  simp only [and_self, if_true, readString_flatMap]

theorem readMembers_comma (fuel : ℕ) (rest : Text) :
    readMembers (fuel + 1) (unit ',' :: rest) = readMembers fuel rest := by
  rw [readMembers]
  rw [if_neg (by decide), if_pos rfl]

theorem readMembers_printFields (fields : List (Text × Text)) {fuel : ℕ}
    (enough : 2 * fields.length < fuel) :
    readMembers fuel
      (printFields (fields.map fun field => (field.1, str field.2)) ++ [unit '\x7d']) =
      some fields := by
  induction fields generalizing fuel with
  | nil =>
      cases fuel with
      | zero => simp at enough
      | succ fuel =>
          rw [List.map_nil, printFields, List.nil_append, readMembers]
          simp
  | cons field fields ih =>
      rcases fuel with _ | _ | fuel
      · simp at enough
      · simp at enough
      · simp only [List.length_cons] at enough
        cases fields with
        | nil =>
            have closed := @ih (fuel + 1) (by simp)
            simp only [List.map_nil, printFields, List.nil_append] at closed
            simp only [List.map_cons, List.map_nil, printFields, print, List.append_assoc,
              List.cons_append, readMembers_member, closed, Option.map_some]
        | cons next fields =>
            have others := @ih fuel (by omega)
            simp only [List.map_cons] at others
            simp only [List.map_cons, printFields, print, List.append_assoc, List.cons_append,
              readMembers_member, readMembers_comma, others, Option.map_some]

theorem length_printFields (fields : List (Text × Text)) :
    2 * fields.length ≤ (printFields (fields.map fun field => (field.1, str field.2))).length := by
  induction fields with
  | nil => simp
  | cons field fields ih =>
      cases fields with
      | nil =>
          simp only [List.map_cons, List.map_nil, printFields, print, quote, List.length_append,
            List.length_cons, List.length_nil]
          omega
      | cons next fields =>
          simp only [List.map_cons] at ih
          simp only [List.map_cons, printFields, print, quote, List.length_append,
            List.length_cons, List.length_nil] at ih ⊢
          omega

end Json

/-- The reader that reads objects of strings only. -/
def OrgJson.strict : OrgJson where
  parse := Json.readStrict
  parse_print {fields} _ := by
    have enough := Json.length_printFields fields
    simp only [Json.ofStrings, Json.print, Json.readStrict, if_true]
    rw [Json.readMembers_printFields fields]
    · rfl
    · simp only [List.length_cons, List.length_append, List.length_nil]
      omega

end GRoute
