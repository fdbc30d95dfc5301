import GRoute.Foundation.JsonObject
import GRoute.Foundation.Tally

/-!
# Maps as JSON objects

A finite map is written as an object with one field for each key and read back field by field. If
every value is read back, so is the map. A map of maps is written as an object of objects, by the
same two functions.
-/

namespace GRoute

open Text

namespace Dict

variable {κ ν : Type*} [DecidableEq κ]

theorem dedupKeys_eq_self {entries : List (Sigma fun _ : κ => ν)} (nodup : entries.NodupKeys) :
    entries.dedupKeys = entries := by
  induction entries with
  | nil => rfl
  | cons entry rest ih =>
      rcases entry with ⟨key, value⟩
      rcases List.nodupKeys_cons.mp nodup with ⟨absent, nodupRest⟩
      rw [List.dedupKeys_cons, ih nodupRest, List.kinsert_def, List.kerase_of_notMem_keys absent]

theorem toAList_entries (map : Dict κ ν) : map.entries.toAList = map :=
  AList.ext (dedupKeys_eq_self map.nodupKeys)

end Dict

namespace Json

variable {ν : Type*}

def ofDict (encode : ν → Json) (map : Dict Text ν) : Json :=
  obj (map.entries.map fun own => (own.1, encode own.2))

def entry (key : Text) (value : ν) : Sigma fun _ : Text => ν := ⟨key, value⟩

/-- The map of an object, if each of its values can be read. -/
def toDict (decode : Json → Option ν) : Json → Option (Dict Text ν)
  | obj fields => do
      let entries ← fields.mapM fun field => (decode field.2).map (entry field.1)
      return entries.toAList
  | _ => none

variable {encode : ν → Json} {decode : Json → Option ν}

theorem printable_ofDict (printable : ∀ value, Printable (encode value)) (map : Dict Text ν) :
    Printable (ofDict encode map) := by
  apply Printable.obj
  · rw [List.map_map]
    exact map.keys_nodup
  · intro field mem
    rcases List.mem_map.mp mem with ⟨own, -, rfl⟩
    exact printable own.2

theorem toDict_ofDict (reads : ∀ value, decode (encode value) = some value) (map : Dict Text ν) :
    toDict decode (ofDict encode map) = some map := by
  have each (entries : List (Sigma fun _ : Text => ν)) :
      (entries.map fun own => (own.1, encode own.2)).mapM (fun field =>
        (decode field.2).map (entry field.1)) = some entries := by
    induction entries with
    | nil => rfl
    | cons own rest ih => simp [ih, reads, entry]
  simp only [ofDict, toDict, each, Option.bind_eq_bind, Option.bind_some, Option.pure_def,
    Dict.toAList_entries]

end Json

end GRoute
