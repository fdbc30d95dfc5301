import GRoute.ConfigShare
import GRoute.Link.Server

/-!
# Names and query parameters

A query that `ConfigShare` prints is read back parameter by parameter. The parameters
of a link are described by a table with one row for each key: the value, and whether
the row is printed. As long as the keys are distinct without regard to case, a key
looks up its own row.
-/

namespace GRoute.ConfigParser

open Text ConfigShare

variable (platform : Platform)

theorem formDecode_enc (s : Text) : formDecode (enc s) = sanitize s := by
  rw [formDecode, enc, urlDecode_urlEncode, Option.getD_some]

theorem pctDecode_enc (s : Text) : pctDecode (enc s) = (sanitize s).map plusForSpace := by
  rw [pctDecode, enc, urlDecode_escapePlus_urlEncode, Option.getD_some]

/-- A key of letters, digits, dashes and the like. -/
def isPlainKey (key : Text) : Bool := key ≠ [] && key.all fun c => isFormSafe c.toNat

structure Row where
  key : String
  value : Text
  printed : Bool

/-- The printed parameters of a table. -/
def rowParams (table : List Row) : List Param :=
  table.flatMap fun row => if row.printed then [(txt row.key, row.value)] else []

/-- The keys are plain and distinct without regard to case. -/
def DistinctKeys (keys : List String) : Prop :=
  (∀ key ∈ keys, isPlainKey (txt key) = true) ∧ (keys.map fun key => (txt key).map asciiLower).Nodup

instance (keys : List String) : Decidable (DistinctKeys keys) :=
  inferInstanceAs (Decidable (_ ∧ _))

theorem isAscii_of_isPlainKey {key : Text} (plain : isPlainKey key = true) : IsAscii key := by
  intro c mem
  rw [isPlainKey, Bool.and_eq_true] at plain
  exact isFormSafe_lt (List.all_eq_true.mp plain.2 c mem)

theorem notMem_of_isPlainKey {key : Text} (plain : isPlainKey key = true) {c : UInt16}
    (outside : isFormSafe c.toNat = false) : c ∉ key := by
  intro mem
  rw [isPlainKey, Bool.and_eq_true] at plain
  rw [List.all_eq_true.mp plain.2 c mem] at outside
  cases outside

theorem trim_of_isPlainKey {key : Text} (plain : isPlainKey key = true) : trim key = key := by
  apply (trimmed_of_forall _).trim_eq
  intro c mem
  apply isWhitespace_of_isFormUnit
  rw [isPlainKey, Bool.and_eq_true] at plain
  rw [isFormUnit, List.all_eq_true.mp plain.2 c mem]
  rfl

/-- The text of one parameter. -/
def paramText (param : Param) : Text := param.1 ++ unit '=' :: enc param.2

/-- The map that holds the parameters, each value sanitized. -/
def paramMap (params : List Param) : KeyMap :=
  params.foldl (fun map param => KeyMap.put platform.casing map param.1 (sanitize param.2)) []

theorem queryStep_paramText (map : KeyMap) {param : Param} (plain : isPlainKey param.1 = true) :
    queryStep platform map (paramText param) =
      KeyMap.put platform.casing map param.1 (sanitize param.2) := by
  have noEquals : unit '=' ∉ param.1 := notMem_of_isPlainKey plain (by decide)
  have nonempty : param.1 ≠ [] := by
    rw [isPlainKey, Bool.and_eq_true] at plain
    simpa using plain.1
  have positive : ((param.1.length : ℕ) : ℤ) > 0 := by
    have lengthPos := List.length_pos_iff.mpr nonempty
    omega
  have value : (param.1 ++ unit '=' :: enc param.2).drop (param.1.length + 1) = enc param.2 := by
    simp
  rw [queryStep, paramText, indexOf_append noEquals]
  simp only [positive, if_true, Int.toNat_natCast, List.take_left', trim_of_isPlainKey plain,
    ne_eq, nonempty, not_false_eq_true, value, formDecode_enc]

theorem notMem_paramText {param : Param} (plain : isPlainKey param.1 = true) {c : UInt16}
    (outside : isFormUnit c = false) (notEquals : c ≠ unit '=') : c ∉ paramText param := by
  have notSafe : isFormSafe c.toNat = false := by
    rw [isFormUnit, Bool.or_eq_false_iff, Bool.or_eq_false_iff] at outside
    exact outside.1.1
  simp only [paramText, List.mem_append, List.mem_cons, not_or]
  exact ⟨notMem_of_isPlainKey plain notSafe, notEquals, notMem_urlEncode outside⟩

theorem queryText_eq (params : List Param) :
    queryText params = joinWith (unit '&') (params.map paramText) := rfl

theorem notMem_queryText {params : List Param}
    (plain : ∀ param ∈ params, isPlainKey param.1 = true) {c : UInt16}
    (outside : isFormUnit c = false) (notEquals : c ≠ unit '=') (notAmpersand : c ≠ unit '&') :
    c ∉ queryText params := by
  intro mem
  rcases mem_joinWith mem with isSeparator | ⟨part, partMem, inPart⟩
  · exact notAmpersand isSeparator
  · rcases List.mem_map.mp partMem with ⟨param, paramMem, rfl⟩
    exact notMem_paramText (plain param paramMem) outside notEquals inPart

theorem queryText_ne_nil {params : List Param} (nonempty : params ≠ []) :
    queryText params ≠ [] := by
  cases params with
  | nil => exact absurd rfl nonempty
  | cons first rest =>
      rw [queryText_eq, joinWith, List.map_cons]
      cases rest with
      | nil => simp [List.intercalate, paramText]
      | cons next rest => simp [List.intercalate, paramText]

theorem foldl_queryStep (params : List Param) (map : KeyMap)
    (plain : ∀ param ∈ params, isPlainKey param.1 = true) :
    (params.map paramText).foldl (queryStep platform) map =
      params.foldl
        (fun map param => KeyMap.put platform.casing map param.1 (sanitize param.2)) map := by
  induction params generalizing map with
  | nil => rfl
  | cons param params ih =>
      rw [List.forall_mem_cons] at plain
      rw [List.map_cons, List.foldl_cons, List.foldl_cons, queryStep_paramText platform map plain.1,
        ih _ plain.2]

/-- A printed query is read as the map of its parameters. -/
theorem parseQuery_queryText {params : List Param}
    (plain : ∀ param ∈ params, isPlainKey param.1 = true) :
    parseQuery platform (queryText params) = paramMap platform params := by
  by_cases empty : params = []
  · subst empty
    rfl
  have parts : ∀ part ∈ params.map paramText, unit '&' ∉ part := by
    intro part mem
    rcases List.mem_map.mp mem with ⟨param, paramMem, rfl⟩
    exact notMem_paramText (plain param paramMem) (by decide) (by decide)
  rw [parseQuery, if_neg (queryText_ne_nil empty), queryText_eq,
    split_joinWith parts (by simpa using empty), foldl_queryStep platform params [] plain]
  rfl

theorem plain_rowParams {table : List Row} (distinct : DistinctKeys (table.map Row.key)) :
    ∀ param ∈ rowParams table, isPlainKey param.1 = true := by
  intro param mem
  rcases List.mem_flatMap.mp mem with ⟨row, rowMem, mem⟩
  split at mem
  · rw [List.mem_singleton.mp mem]
    exact distinct.1 row.key (List.mem_map_of_mem rowMem)
  · cases mem

/-- One row of a table put into the map. -/
def putRow (map : KeyMap) (row : Row) : KeyMap :=
  if row.printed then KeyMap.put platform.casing map (txt row.key) (sanitize row.value) else map

theorem paramMap_rowParams (table : List Row) :
    paramMap platform (rowParams table) = table.foldl (putRow platform) [] := by
  rw [paramMap, rowParams, List.foldl_flatMap]
  congr 1
  funext map row
  rw [putRow]
  split <;> rfl

/-- Rows under other keys do not change what a key looks up. -/
theorem lookup_foldl_putRow_of_notMem {table : List Row} {key : String} (map : KeyMap)
    (keyPlain : isPlainKey (txt key) = true)
    (plain : ∀ row ∈ table, isPlainKey (txt row.key) = true)
    (absent : (txt key).map asciiLower ∉ table.map fun row => (txt row.key).map asciiLower) :
    lookup platform (table.foldl (putRow platform) map) key = lookup platform map key := by
  induction table generalizing map with
  | nil => rfl
  | cons row table ih =>
      rw [List.forall_mem_cons] at plain
      rw [List.map_cons, List.mem_cons, not_or] at absent
      rw [List.foldl_cons, ih _ plain.2 absent.2, putRow]
      split
      · rw [lookup, KeyMap.get_put, platform.casing.foldKey_ascii (isAscii_of_isPlainKey plain.1),
          platform.casing.foldKey_ascii (isAscii_of_isPlainKey keyPlain),
          if_neg (Ne.symm absent.1)]
        rfl
      · rfl

theorem lookup_foldl_putRow {table : List Row} {row : Row} (map : KeyMap) (mem : row ∈ table)
    (plain : ∀ row ∈ table, isPlainKey (txt row.key) = true)
    (distinct : (table.map fun row => (txt row.key).map asciiLower).Nodup) :
    lookup platform (table.foldl (putRow platform) map) row.key =
      if row.printed then some (sanitize row.value) else lookup platform map row.key := by
  induction table generalizing map with
  | nil => cases mem
  | cons first table ih =>
      rw [List.forall_mem_cons] at plain
      rw [List.map_cons, List.nodup_cons] at distinct
      rw [List.foldl_cons]
      rcases List.mem_cons.mp mem with rfl | inRest
      · rw [lookup_foldl_putRow_of_notMem platform _ plain.1 plain.2 distinct.1, putRow]
        split
        · rw [lookup, KeyMap.get_put, if_pos rfl]
        · rfl
      · rw [ih _ inRest plain.2 distinct.2]
        have other : (txt first.key).map asciiLower ≠ (txt row.key).map asciiLower := by
          intro same
          apply distinct.1
          rw [same]
          exact List.mem_map.mpr ⟨row, inRest, rfl⟩
        split
        · rfl
        · rw [putRow]
          split
          · rw [lookup, KeyMap.get_put,
              platform.casing.foldKey_ascii (isAscii_of_isPlainKey plain.1),
              platform.casing.foldKey_ascii (isAscii_of_isPlainKey (plain.2 row inRest)),
              if_neg other]
            rfl
          · rfl

variable {platform}

/-- A key looks up its own row in a printed table. -/
theorem lookup_table {table : List Row} (distinct : DistinctKeys (table.map Row.key)) {row : Row}
    (mem : row ∈ table) :
    lookup platform (parseQuery platform (queryText (rowParams table))) row.key =
      if row.printed then some (sanitize row.value) else none := by
  have plain : ∀ row ∈ table, isPlainKey (txt row.key) = true :=
    fun row rowMem => distinct.1 row.key (List.mem_map_of_mem rowMem)
  rw [parseQuery_queryText platform (plain_rowParams distinct), paramMap_rowParams,
    lookup_foldl_putRow platform [] mem plain (by simpa [Function.comp_def] using distinct.2)]
  rfl

/-- The value of an optional row, printed unless it is empty. -/
theorem lookupOrEmpty_table {table : List Row} (distinct : DistinctKeys (table.map Row.key))
    {key : String} {value : Text} (mem : ⟨key, value, value ≠ []⟩ ∈ table) :
    lookupOrEmpty platform (parseQuery platform (queryText (rowParams table))) key =
      sanitize value := by
  rw [lookupOrEmpty, lookup_table distinct mem]
  by_cases empty : value = []
  · simp [empty]
  · simp [empty]

/-- A key without a row looks up nothing. -/
theorem lookup_table_of_notMem {table : List Row} (distinct : DistinctKeys (table.map Row.key))
    {key : String} (keyPlain : isPlainKey (txt key) = true)
    (absent :
      (txt key).map asciiLower ∉ (table.map Row.key).map fun key => (txt key).map asciiLower) :
    lookup platform (parseQuery platform (queryText (rowParams table))) key = none := by
  have plain : ∀ row ∈ table, isPlainKey (txt row.key) = true :=
    fun row rowMem => distinct.1 row.key (List.mem_map_of_mem rowMem)
  rw [parseQuery_queryText platform (plain_rowParams distinct), paramMap_rowParams,
    lookup_foldl_putRow_of_notMem platform [] keyPlain plain (by simpa using absent)]
  rfl

/-- A printed query with its question mark, nothing for an empty one. -/
def queryPart (query : Text) : Text := if query = [] then [] else unit '?' :: query

theorem fragmentName_append {main : Text} (noHash : unit '#' ∉ main) (name default : Text) :
    fragmentName (main ++ unit '#' :: enc name) default =
      ifEmpty (trim (sanitize name)) default := by
  have value : (main ++ unit '#' :: enc name).drop (main.length + 1) = enc name := by simp
  rw [fragmentName, indexOf_append noHash]
  simp only [ge_iff_le, Int.natCast_nonneg, if_true, Int.toNat_natCast, value, formDecode_enc]

theorem splitUserUri_link {uhp query : Text} (name default : Text) (trimmed : Trimmed uhp)
    (noHash : unit '#' ∉ uhp) (noQuestion : unit '?' ∉ uhp) (queryNoHash : unit '#' ∉ query) :
    splitUserUri platform (uhp ++ queryPart query ++ unit '#' :: enc name) default =
      (ifEmpty (trim (sanitize name)) default, uhp, parseQuery platform query) := by
  have mainNoHash : unit '#' ∉ uhp ++ queryPart query := by
    rw [queryPart]
    split
    · simpa using noHash
    · simp only [List.mem_append, List.mem_cons, not_or]
      exact ⟨noHash, by decide, queryNoHash⟩
  rw [splitUserUri, fragmentName_append mainNoHash, upTo_append mainNoHash]
  by_cases empty : query = []
  · subst empty
    simp only [queryPart, if_true, List.append_nil]
    rw [upTo_of_notMem noQuestion, after_of_notMem noQuestion, trimmed.trim_eq]
  · simp only [queryPart, if_neg empty]
    rw [upTo_append noQuestion, after_append noQuestion, trimmed.trim_eq]

end GRoute.ConfigParser
