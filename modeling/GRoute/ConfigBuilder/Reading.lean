import GRoute.ConfigBuilder.Outbound
import GRoute.ConfigParser.Bundle

/-!
# Objects as they are built and read

What the readers of the importer find in an object that is built as a list of fields, when two such
objects are the same, and when the text of one determines it.
-/

namespace GRoute.ConfigBuilder

open Text Json ConfigParser

theorem strings_inj {xs ys : List Text} : strings xs = strings ys ↔ xs = ys := by
  rw [strings, strings, Json.arr.injEq]
  exact List.map_inj_right fun x y same => Json.str.inj same

theorem object_append_inj {xs ys zs : List (String × Json)} :
    object (xs ++ zs) = object (ys ++ zs) ↔ object xs = object ys := by
  rw [object, object, object, object, Json.obj.injEq, Json.obj.injEq, List.map_append,
    List.map_append, List.append_left_inj]

theorem object_append_right_inj {xs ys zs : List (String × Json)} :
    object (xs ++ ys) = object (xs ++ zs) ↔ object ys = object zs := by
  rw [object, object, object, object, Json.obj.injEq, Json.obj.injEq, List.map_append,
    List.map_append, List.append_right_inj]

theorem object_append_inj_of_length {xs ys us vs : List (String × Json)}
    (sameLength : xs.length = ys.length) :
    object (xs ++ us) = object (ys ++ vs) ↔ object xs = object ys ∧ object us = object vs := by
  rw [object, object, object, object, object, object, Json.obj.injEq, Json.obj.injEq,
    Json.obj.injEq, List.map_append, List.map_append]
  constructor
  · intro same
    exact List.append_inj same (by simp only [List.length_map, sameLength])
  · rintro ⟨front, back⟩
    rw [front, back]

theorem object_cons_inj {name : String} {value other : Json} {xs ys : List (String × Json)} :
    object ((name, value) :: xs) = object ((name, other) :: ys) ↔
      value = other ∧ object xs = object ys := by
  rw [object, object, object, object, Json.obj.injEq, Json.obj.injEq, List.map_cons, List.map_cons,
    List.cons.injEq, Prod.mk.injEq]
  simp

/-- Objects that begin with a field that is there only under a condition. -/
theorem object_optional_inj {name : String} {p q : Prop} [Decidable p] [Decidable q]
    {value other : Json} {us vs : List (String × Json)}
    (absentLeft : ∀ field ∈ us, txt field.1 ≠ txt name)
    (absentRight : ∀ field ∈ vs, txt field.1 ≠ txt name) :
    object ((if p then [(name, value)] else []) ++ us) =
        object ((if q then [(name, other)] else []) ++ vs) ↔
      ((p ↔ q) ∧ (p → value = other)) ∧ object us = object vs := by
  have clash {fields rest : List (String × Json)} {v : Json}
      (absent : ∀ field ∈ fields, txt field.1 ≠ txt name) :
      object ((name, v) :: rest) ≠ object fields := by
    intro same
    cases fields with
    | nil => simp [object] at same
    | cons field fields =>
        simp only [object, Json.obj.injEq, List.map_cons, List.cons.injEq, Prod.mk.injEq] at same
        exact absent field List.mem_cons_self same.1.1.symm
  by_cases left : p <;> by_cases right : q
  · simp [left, right, object_cons_inj]
  · simp [left, right, clash absentRight]
  · simp [left, right, (clash absentLeft).symm]
  · simp [left, right]

theorem ne_of_mem_optional {name key : String} {p : Prop} [Decidable p] {value : Json}
    (other : txt key ≠ txt name) :
    ∀ field ∈ if p then [(key, value)] else [], txt field.1 ≠ txt name := by
  intro field mem
  split at mem
  · rw [List.mem_singleton.mp mem]
    exact other
  · cases mem

/-- Objects with one field that is there only under a condition. -/
theorem object_optional_singleton_inj {name : String} {p q : Prop} [Decidable p] [Decidable q]
    {value other : Json} :
    object (if p then [(name, value)] else []) = object (if q then [(name, other)] else []) ↔
      (p ↔ q) ∧ (p → value = other) := by
  have alone : object ((if p then [(name, value)] else []) ++ []) =
      object ((if q then [(name, other)] else []) ++ []) ↔ _ :=
    object_optional_inj (List.forall_mem_nil _) (List.forall_mem_nil _)
  simpa only [List.append_nil, and_true] using alone

/-- A value that is an array. -/
def asArray : Json → Option (List Json)
  | .arr elements => some elements
  | _ => none

section Readers

variable (name key : String) (value : Json) (rest : List (String × Json))

theorem stringAt_object_nil : stringAt (object []) key = [] := rfl

theorem stringAt_object_cons : stringAt (object ((name, value) :: rest)) key =
    if txt name = txt key then value.toText else stringAt (object rest) key := by
  rw [stringAt, optString, field?_object_cons]
  split_ifs <;> rfl

theorem arrayAt_object_nil : arrayAt (object []) key = none := rfl

theorem arrayAt_object_cons : arrayAt (object ((name, value) :: rest)) key =
    if txt name = txt key then asArray value else arrayAt (object rest) key := by
  rw [arrayAt, optArray, field?_object_cons]
  split_ifs
  · cases value <;> rfl
  · rfl

theorem optObject_object_nil : (object []).optObject key = none := rfl

theorem optObject_object_cons : (object ((name, value) :: rest)).optObject key =
    if txt name = txt key then asObject value else (object rest).optObject key := by
  rw [optObject, field?_object_cons]
  split_ifs
  · cases value <;> rfl
  · rfl

theorem asObject_object (fields : List (String × Json)) :
    asObject (object fields) = some (object fields) := rfl

theorem asObject_str (text : Text) : asObject (str text) = none := rfl

theorem field?_fieldUnlessEmpty_of_ne {name key : String} (ne : txt name ≠ txt key)
    (text : Text) : (object (fieldUnlessEmpty name text)).field? (txt key) = none := by
  rw [fieldUnlessEmpty]
  split
  · rfl
  · rw [field?_object_cons, if_neg ne]
    rfl

theorem stringAt_fieldUnlessEmpty_append (text : Text) :
    stringAt (object (fieldUnlessEmpty name text ++ rest)) key =
      if txt name = txt key then ifEmpty text (stringAt (object rest) key)
      else stringAt (object rest) key := by
  rw [fieldUnlessEmpty]
  by_cases empty : text = []
  · rw [if_pos empty, empty, ifEmpty_nil, List.nil_append, ite_self]
  · rw [if_neg empty, ifEmpty_of_ne empty, List.cons_append, List.nil_append, stringAt_object_cons]
    rfl

/-- A field that is left out when it is empty is read as it was. -/
theorem stringAt_fieldUnlessEmpty (text : Text) :
    stringAt (object (fieldUnlessEmpty name text)) key =
      if txt name = txt key then text else [] := by
  have read := stringAt_fieldUnlessEmpty_append name key [] text
  rwa [List.append_nil, stringAt_object_nil, ifEmpty_nil_right] at read

end Readers

theorem printable_object {fields : List (String × Json)}
    (distinct : (fields.map fun field => txt field.1).Nodup)
    (each : ∀ field ∈ fields, Printable field.2) : Printable (object fields) := by
  refine .obj ?_ ?_
  · rw [List.map_map]
    exact distinct
  · intro field mem
    rcases List.mem_map.mp mem with ⟨named, isNamed, rfl⟩
    exact each named isNamed

theorem printable_strings (elements : List Text) : Printable (strings elements) := by
  refine .arr fun element mem => ?_
  rcases List.mem_map.mp mem with ⟨text, -, rfl⟩
  exact .str text

theorem printable_fieldUnlessEmpty (key : String) (value : Text) :
    ∀ field ∈ fieldUnlessEmpty key value, Printable field.2 := by
  rw [fieldUnlessEmpty]
  split_ifs
  · exact List.forall_mem_nil _
  · exact List.forall_mem_singleton.mpr (.str value)

theorem names_fieldUnlessEmpty (key : String) (value : Text) :
    List.Sublist ((fieldUnlessEmpty key value).map fun field => txt field.1) [txt key] := by
  rw [fieldUnlessEmpty]
  split_ifs
  · exact List.nil_sublist _
  · exact List.Sublist.refl _

end GRoute.ConfigBuilder
