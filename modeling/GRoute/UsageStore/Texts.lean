import GRoute.Foundation.JsonDict
import GRoute.UsageStore

/-!
# The texts of the usage store

The preferences of `UsageStore.kt` hold a JSON text for each of the five maps. `persist` writes an
array of two numbers for each key, `load` gives up the whole map for one array that it cannot read,
and `loadNested` takes a number that is missing for zero. Whatever the texts are at the start, the
store that writes and reads them runs as the store of the maps that they stand for.
-/

namespace GRoute

open Text Transition

namespace UsageStore

/-- `JSONArray().put(v[0]).put(v[1])`. -/
def countsArray (counts : Counts) : Json := .arr [.int counts.up.toInt, .int counts.down.toInt]

def persistText (map : Dict Text Counts) : Text := (Json.ofDict countsArray map).print

def persistNestedText (map : Dict Text (Dict Text Counts)) : Text :=
  (Json.ofDict (Json.ofDict countsArray) map).print

section Reading

variable (json : OrgObject)

/-- `getLong` of an array, with `none` for its exception. -/
def getLong (elements : List Json) (index : ℕ) : Option Int64 :=
  (elements[index]?.bind json.toLong).map Int64.ofInt

/-- An array of which `getLong` reads both numbers. -/
def getCounts : Json → Option Counts
  | .arr elements => do return ⟨← getLong json elements 0, ← getLong json elements 1⟩
  | _ => none

/-- An array of which `optLong` reads both numbers. -/
def optCounts : Json → Option Counts
  | .arr elements => some ⟨(getLong json elements 0).getD 0, (getLong json elements 1).getD 0⟩
  | _ => none

def loadText (raw : Option Text) : Dict Text Counts :=
  ((raw.bind json.parseObject).bind (Json.toDict (getCounts json))).getD ∅

def loadNestedText (raw : Option Text) : Dict Text (Dict Text Counts) :=
  ((raw.bind json.parseObject).bind (Json.toDict (Json.toDict (optCounts json)))).getD ∅

theorem isLong_toInt (value : Int64) : Json.IsLong value.toInt :=
  ⟨Int64.le_toInt value, Int64.toInt_lt value⟩

theorem getLong_int {elements : List Json} {index : ℕ} (value : Int64)
    (isAt : elements[index]? = some (.int value.toInt)) :
    getLong json elements index = some value := by
  rw [getLong, isAt, Option.bind_some, json.toLong_int (isLong_toInt value), Option.map_some,
    Int64.ofInt_toInt]

theorem getCounts_countsArray (counts : Counts) :
    getCounts json (countsArray counts) = some counts := by
  simp [getCounts, countsArray, getLong_int json counts.up, getLong_int json counts.down]

theorem optCounts_countsArray (counts : Counts) :
    optCounts json (countsArray counts) = some counts := by
  simp [optCounts, countsArray, getLong_int json counts.up, getLong_int json counts.down]

theorem printable_countsArray (counts : Counts) : Json.Printable (countsArray counts) := by
  apply Json.Printable.arr
  intro element mem
  simp only [List.mem_cons, List.not_mem_nil, or_false] at mem
  rcases mem with rfl | rfl
  · exact .int (isLong_toInt counts.up)
  · exact .int (isLong_toInt counts.down)

theorem loadText_persistText (map : Dict Text Counts) :
    loadText json (some (persistText map)) = map := by
  have printable := Json.printable_ofDict printable_countsArray map
  rw [loadText, persistText, Option.bind_some, Json.ofDict, json.parseObject_print printable,
    Option.bind_some, ← Json.ofDict, Json.toDict_ofDict (getCounts_countsArray json),
    Option.getD_some]

theorem loadNestedText_persistNestedText (map : Dict Text (Dict Text Counts)) :
    loadNestedText json (some (persistNestedText map)) = map := by
  have printable := Json.printable_ofDict (Json.printable_ofDict printable_countsArray) map
  rw [loadNestedText, persistNestedText, Option.bind_some, Json.ofDict,
    json.parseObject_print printable, Option.bind_some, ← Json.ofDict,
    Json.toDict_ofDict (Json.toDict_ofDict (optCounts_countsArray json)), Option.getD_some]

end Reading

end UsageStore

/-- The strings of the preferences, if they are set. -/
structure UsageTexts where
  usage : Option Text
  hourly : Option Text
  byConfig : Option Text
  dailyCfg : Option Text
  hourlyCfg : Option Text
  deriving DecidableEq, Repr

namespace UsageTexts

open UsageStore

def persist (tables : Tables) : UsageTexts where
  usage := some (persistText tables.usage)
  hourly := some (persistText tables.hourly)
  byConfig := some (persistText tables.byConfig)
  dailyCfg := some (persistNestedText tables.dailyCfg)
  hourlyCfg := some (persistNestedText tables.hourlyCfg)

def tables (json : OrgObject) (texts : UsageTexts) : Tables where
  usage := loadText json texts.usage
  hourly := loadText json texts.hourly
  byConfig := loadText json texts.byConfig
  dailyCfg := loadNestedText json texts.dailyCfg
  hourlyCfg := loadNestedText json texts.hourlyCfg

theorem tables_persist (json : OrgObject) (tables : Tables) :
    (persist tables).tables json = tables := by
  simp only [UsageTexts.tables, persist, loadText_persistText, loadNestedText_persistNestedText]

end UsageTexts

/-- The store with the texts of its preferences. -/
abbrev TextStore := StoreIn UsageTexts

namespace TextStore

variable (json : OrgObject)

/-- The maps as texts. -/
def form : StoredForm UsageTexts where
  write := UsageTexts.persist
  read := UsageTexts.tables json

abbrev start (initial : UsageTexts) : TextStore := StoreIn.start initial

abbrev step (s : TextStore) (event : UsageStore.Event) : Option TextStore :=
  StoreIn.step (form json) s event

/-- The store of the maps that the texts stand for. -/
abbrev view (s : TextStore) : UsageStore := StoreIn.view (form json) s

/-- Whatever the texts are, every run of the store of texts is the run of the store of the maps
that they stand for. -/
theorem runs_as_maps (initial : UsageTexts) (events : List UsageStore.Event) :
    (run (step json) (start initial) events).map (view json) =
      run UsageStore.step (UsageStore.start (initial.tables json)) events :=
  map_run (StoreIn.map_view_step (UsageTexts.tables_persist json)) (start initial) events

end TextStore

end GRoute
