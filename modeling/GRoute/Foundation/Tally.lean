import Mathlib.Algebra.BigOperators.Group.Finset.Piecewise
import Mathlib.Algebra.Order.BigOperators.Group.Finset
import Mathlib.Data.List.AList

/-!
# Tallies

Finite maps to a commutative monoid. A key that a map does not have counts as zero. To add an amount
at a key and to merge two maps adds the amounts of every key, in a tally and in a map of tallies.
If the amounts are weighed, a weight that adds up key by key adds up over all keys.
-/

namespace GRoute

universe u v

/-- A finite map. -/
abbrev Dict (κ : Type u) (ν : Type v) : Type (max u v) := AList fun _ : κ => ν

namespace Dict

variable {κ ν : Type*} [DecidableEq κ]

def filterKeys (keep : κ → Bool) (map : Dict κ ν) : Dict κ ν :=
  ⟨map.entries.filter fun entry => keep entry.1, map.nodupKeys.sublist List.filter_sublist⟩

theorem dlookup_filter (keep : κ → Bool) (entries : List (Sigma fun _ : κ => ν)) (key : κ) :
    List.dlookup key (entries.filter fun entry => keep entry.1) =
      if keep key then List.dlookup key entries else none := by
  induction entries with
  | nil => simp
  | cons entry rest ih =>
      by_cases same : key = entry.1
      · subst same
        rw [List.dlookup_cons_eq, List.filter_cons]
        split_ifs with kept
        · exact List.dlookup_cons_eq ..
        · rw [ih, if_neg kept]
      · rw [List.dlookup_cons_ne _ entry same, ← ih, List.filter_cons]
        split
        · exact List.dlookup_cons_ne _ entry same
        · rfl

theorem lookup_filterKeys (keep : κ → Bool) (map : Dict κ ν) (key : κ) :
    (map.filterKeys keep).lookup key = if keep key then map.lookup key else none :=
  dlookup_filter keep map.entries key

def support (map : Dict κ ν) : Finset κ := map.keys.toFinset

theorem length_entries_insert (map : Dict κ ν) (key : κ) (value : ν) :
    (map.insert key value).entries.length = (insert key map.support).card := by
  have keys : (map.insert key value).keys.toFinset = insert key map.support := by
    ext other
    rw [List.mem_toFinset, AList.mem_keys.symm, AList.mem_insert, Finset.mem_insert, support,
      List.mem_toFinset, AList.mem_keys]
  rw [← keys, List.toFinset_card_of_nodup (AList.keys_nodup _)]
  exact (List.length_map _).symm

theorem lookup_of_notMem_support {map : Dict κ ν} {key : κ} (absent : key ∉ support map) :
    map.lookup key = none := by
  apply AList.lookup_eq_none.mpr
  intro mem
  exact absent (List.mem_toFinset.mpr (AList.mem_keys.mp mem))

/-- The entries of the second map are put into the first, each combined with what is there. -/
def mergeWith (combine : Option ν → ν → ν) (first second : Dict κ ν) : Dict κ ν :=
  second.foldl (fun out key value => out.insert key (combine (out.lookup key) value)) first

variable {combine : Option ν → ν → ν}

theorem lookup_foldl_insert {entries : List (Sigma fun _ : κ => ν)} (nodup : entries.NodupKeys)
    (first : Dict κ ν) (key : κ) :
    AList.lookup key (entries.foldl (fun out entry =>
        out.insert entry.1 (combine (AList.lookup entry.1 out) entry.2)) first) =
      match entries.dlookup key with
      | none => first.lookup key
      | some value => some (combine (first.lookup key) value) := by
  induction entries generalizing first with
  | nil => rfl
  | cons entry rest ih =>
      rw [List.nodupKeys_cons] at nodup
      rw [List.foldl_cons, ih nodup.2]
      by_cases same : key = entry.1
      · subst same
        rw [List.dlookup_eq_none.mpr nodup.1, List.dlookup_cons_eq]
        exact AList.lookup_insert first
      · rw [AList.lookup_insert_ne same, List.dlookup_cons_ne _ entry same]

theorem lookup_mergeWith (first second : Dict κ ν) (key : κ) :
    (mergeWith combine first second).lookup key =
      match second.lookup key with
      | none => first.lookup key
      | some value => some (combine (first.lookup key) value) :=
  lookup_foldl_insert second.nodupKeys first key

end Dict

namespace Tally

variable {κ ι ν : Type*} [DecidableEq κ] [DecidableEq ι] [AddCommMonoid ν]

def total (tally : Dict κ ν) (key : κ) : ν := (tally.lookup key).getD 0

def addAt (tally : Dict κ ν) (key : κ) (amount : ν) : Dict κ ν :=
  tally.insert key (total tally key + amount)

def merge (first second : Dict κ ν) : Dict κ ν :=
  first.mergeWith
    (fun current amount =>
      match current with
      | none => amount
      | some current => current + amount)
    second

@[simp]
theorem total_empty (key : κ) : total (∅ : Dict κ ν) key = 0 := rfl

theorem total_addAt (tally : Dict κ ν) (key : κ) (amount : ν) (other : κ) :
    total (addAt tally key amount) other =
      total tally other + if key = other then amount else 0 := by
  by_cases same : key = other
  · subst same
    rw [if_pos rfl, total, addAt, AList.lookup_insert, Option.getD_some]
  · rw [if_neg same, add_zero, total, addAt, AList.lookup_insert_ne (Ne.symm same), total]

theorem total_filterKeys (keep : κ → Bool) (tally : Dict κ ν) (key : κ) :
    total (tally.filterKeys keep) key = if keep key then total tally key else 0 := by
  rw [total, Dict.lookup_filterKeys]
  split <;> rfl

theorem total_merge (first second : Dict κ ν) (key : κ) :
    total (merge first second) key = total first key + total second key := by
  rw [total, merge, Dict.lookup_mergeWith, total, total]
  cases second.lookup key with
  | none => simp
  | some amount => cases first.lookup key <;> simp

/-- To add the amounts of a map one by one is to merge it. -/
theorem foldl_addAt_eq_merge (first second : Dict κ ν) :
    second.foldl addAt first = merge first second := by
  rw [merge, Dict.mergeWith]
  congr 1
  funext out key amount
  rw [addAt, total]
  cases out.lookup key with
  | none => rw [Option.getD_none, zero_add]
  | some current => rfl

/-- The tally of a bucket. -/
def inner (map : Dict ι (Dict κ ν)) (bucket : ι) : Dict κ ν := (map.lookup bucket).getD ∅

def addIn (map : Dict ι (Dict κ ν)) (bucket : ι) (key : κ) (amount : ν) : Dict ι (Dict κ ν) :=
  map.insert bucket (addAt (inner map bucket) key amount)

def mergeInner (first second : Dict ι (Dict κ ν)) : Dict ι (Dict κ ν) :=
  first.mergeWith (fun current tally => merge (current.getD ∅) tally) second

theorem total_addIn (map : Dict ι (Dict κ ν)) (bucket : ι) (key : κ) (amount : ν) (other : ι)
    (otherKey : κ) :
    total (inner (addIn map bucket key amount) other) otherKey =
      total (inner map other) otherKey +
        if bucket = other ∧ key = otherKey then amount else 0 := by
  by_cases same : bucket = other
  · subst same
    rw [inner, addIn, AList.lookup_insert, Option.getD_some, total_addAt]
    simp
  · rw [inner, addIn, AList.lookup_insert_ne (Ne.symm same), ← inner]
    simp [same]

omit [DecidableEq κ] [AddCommMonoid ν] in
theorem inner_filterKeys (keep : ι → Bool) (map : Dict ι (Dict κ ν)) (bucket : ι) :
    inner (Dict.filterKeys keep map) bucket = if keep bucket then inner map bucket else ∅ := by
  rw [inner, Dict.lookup_filterKeys]
  split <;> rfl

theorem total_mergeInner (first second : Dict ι (Dict κ ν)) (bucket : ι) (key : κ) :
    total (inner (mergeInner first second) bucket) key =
      total (inner first bucket) key + total (inner second bucket) key := by
  rw [inner, mergeInner, Dict.lookup_mergeWith, inner, inner]
  cases second.lookup bucket with
  | none => simp
  | some tally => simp [total_merge]

section Weights

variable {M : Type*} [AddCommMonoid M] {weight : ν → M}

/-- The weight of the amounts of all keys. -/
def weigh (weight : ν → M) (tally : Dict κ ν) : M :=
  ∑ key ∈ tally.support, weight (total tally key)

/-- The weight of the amounts that the key has in all buckets. -/
def weighKey (weight : ν → M) (map : Dict ι (Dict κ ν)) (key : κ) : M :=
  ∑ bucket ∈ map.support, weight (total (inner map bucket) key)

/-- Sums over the keys at which there is something, where one function is the sum of two others. -/
theorem sum_eq_add_of_pointwise {s t u : Finset κ} {f g h : κ → M} (outsideS : ∀ k ∉ s, f k = 0)
    (outsideT : ∀ k ∉ t, g k = 0) (outsideU : ∀ k ∉ u, h k = 0)
    (pointwise : ∀ k, f k = g k + h k) : ∑ k ∈ s, f k = ∑ k ∈ t, g k + ∑ k ∈ u, h k := by
  have widen {v : Finset κ} {e : κ → M} (subset : v ⊆ s ∪ t ∪ u) (outside : ∀ k ∉ v, e k = 0) :
      ∑ k ∈ v, e k = ∑ k ∈ s ∪ t ∪ u, e k :=
    Finset.sum_subset subset fun k _ absent => outside k absent
  rw [widen (Finset.subset_union_left.trans Finset.subset_union_left) outsideS,
    widen (Finset.subset_union_right.trans Finset.subset_union_left) outsideT,
    widen Finset.subset_union_right outsideU, ← Finset.sum_add_distrib]
  exact Finset.sum_congr rfl fun k _ => pointwise k

theorem sum_eq_add_single_of_pointwise {s t : Finset κ} {f g : κ → M} {key : κ} {more : M}
    (outsideS : ∀ k ∉ s, f k = 0) (outsideT : ∀ k ∉ t, g k = 0)
    (pointwise : ∀ k, f k = g k + if key = k then more else 0) :
    ∑ k ∈ s, f k = ∑ k ∈ t, g k + more := by
  have outsideKey : ∀ k ∉ ({key} : Finset κ), (if key = k then more else 0) = 0 := by
    intro k absent
    rw [if_neg fun same => absent (Finset.mem_singleton.mpr same.symm)]
  rw [sum_eq_add_of_pointwise outsideS outsideT outsideKey pointwise, Finset.sum_singleton,
    if_pos rfl]

theorem weight_total_of_notMem (zero : weight 0 = 0) (tally : Dict κ ν) (key : κ)
    (absent : key ∉ tally.support) : weight (total tally key) = 0 := by
  rw [total, Dict.lookup_of_notMem_support absent, Option.getD_none, zero]

theorem weight_inner_of_notMem (zero : weight 0 = 0) (key : κ) (map : Dict ι (Dict κ ν))
    (bucket : ι) (absent : bucket ∉ map.support) : weight (total (inner map bucket) key) = 0 := by
  rw [inner, Dict.lookup_of_notMem_support absent, Option.getD_none, total_empty, zero]

variable (zero : weight 0 = 0)

include zero

theorem weigh_eq_add {after first second : Dict κ ν}
    (pointwise : ∀ key, weight (total after key) =
      weight (total first key) + weight (total second key)) :
    weigh weight after = weigh weight first + weigh weight second :=
  have outside := weight_total_of_notMem zero
  sum_eq_add_of_pointwise (outside after) (outside first) (outside second) pointwise

theorem weigh_eq_add_single {after before : Dict κ ν} {key : κ} {more : M}
    (pointwise : ∀ other, weight (total after other) =
      weight (total before other) + if key = other then more else 0) :
    weigh weight after = weigh weight before + more :=
  have outside := weight_total_of_notMem zero
  sum_eq_add_single_of_pointwise (outside after) (outside before) pointwise

theorem weighKey_eq_add {after first second : Dict ι (Dict κ ν)} {key : κ}
    (pointwise : ∀ bucket, weight (total (inner after bucket) key) =
      weight (total (inner first bucket) key) + weight (total (inner second bucket) key)) :
    weighKey weight after key = weighKey weight first key + weighKey weight second key :=
  have outside := weight_inner_of_notMem zero key
  sum_eq_add_of_pointwise (outside after) (outside first) (outside second) pointwise

theorem weighKey_eq_add_single {after before : Dict ι (Dict κ ν)} {key : κ} {bucket : ι} {more : M}
    (pointwise : ∀ other, weight (total (inner after other) key) =
      weight (total (inner before other) key) + if bucket = other then more else 0) :
    weighKey weight after key = weighKey weight before key + more :=
  have outside := weight_inner_of_notMem zero key
  sum_eq_add_single_of_pointwise (outside after) (outside before) pointwise

end Weights

section OrderedWeights

variable {M : Type*} [AddCommMonoid M] [PartialOrder M] [IsOrderedAddMonoid M] {weight : ν → M}

theorem weigh_le_add (zero : weight 0 = 0) {after first second : Dict κ ν}
    (pointwise : ∀ key, weight (total after key) ≤
      weight (total first key) + weight (total second key)) :
    weigh weight after ≤ weigh weight first + weigh weight second := by
  have outside (tally : Dict κ ν) := weight_total_of_notMem zero tally
  have outsideSum (key : κ) (absent : key ∉ first.support ∪ second.support) :
      weight (total first key) + weight (total second key) = 0 := by
    rw [Finset.notMem_union] at absent
    rw [outside first key absent.1, outside second key absent.2, add_zero]
  calc weigh weight after
      = ∑ key ∈ after.support ∪ (first.support ∪ second.support), weight (total after key) :=
        Finset.sum_subset Finset.subset_union_left fun key _ => outside after key
    _ ≤ ∑ key ∈ after.support ∪ (first.support ∪ second.support),
          (weight (total first key) + weight (total second key)) :=
        Finset.sum_le_sum fun key _ => pointwise key
    _ = ∑ key ∈ first.support ∪ second.support,
          (weight (total first key) + weight (total second key)) :=
        (Finset.sum_subset Finset.subset_union_right fun key _ => outsideSum key).symm
    _ = weigh weight first + weigh weight second := by
        rw [Finset.sum_add_distrib]
        congr 1
        · exact (Finset.sum_subset Finset.subset_union_left fun key _ => outside first key).symm
        · exact (Finset.sum_subset Finset.subset_union_right fun key _ => outside second key).symm

end OrderedWeights

/-- The weight of a tally, entry by entry. -/
theorem sum_entries_eq_weigh {M : Type*} [AddCommMonoid M] (weight : ν → M) (tally : Dict κ ν) :
    (tally.entries.map fun entry => weight entry.2).sum = weigh weight tally := by
  have byKey : (tally.entries.map fun entry => weight entry.2) =
      tally.keys.map fun key => weight (total tally key) := by
    rw [AList.keys, List.keys, List.map_map]
    apply List.map_congr_left
    intro entry mem
    have found : tally.lookup entry.1 = some entry.2 :=
      (List.mem_dlookup_iff tally.nodupKeys).mpr mem
    rw [Function.comp_apply, total, found, Option.getD_some]
  rw [byKey, weigh, Dict.support, List.sum_toFinset _ tally.keys_nodup]

end Tally

end GRoute
