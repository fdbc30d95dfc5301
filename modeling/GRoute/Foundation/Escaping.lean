import GRoute.Foundation.Replacing

/-!
# Escaping by named entities

Escaping writes some units of a text as a mark and a name. When the entities are read back one
after the other, each in a pass of its own over the whole text, a pass also meets what an earlier
one has written. If the mark is the first to be read back, the passes together read the entities
that the text had before it was escaped. So the text comes back if and only if it has none of
them.
-/

namespace GRoute.Escaping

open Replacing

variable {α : Type*} [DecidableEq α]

/-- A unit and the name that stands for it after the mark. -/
structure Entity (α : Type*) where
  char : α
  name : List α
  deriving DecidableEq

/-- The entities in the order in which they are read back, after that of the mark. -/
structure Table (α : Type*) where
  mark : α
  markName : List α
  entities : List (Entity α)
  /-- Those that escaping writes. -/
  written : List (Entity α)
  written_subset : written ⊆ entities
  char_ne_mark : ∀ e ∈ entities, e.char ≠ mark
  char_injective : ∀ e ∈ entities, ∀ other ∈ entities, e.char = other.char → e = other
  /-- No name has the mark or a unit that is written as an entity. -/
  name_plain : ∀ e ∈ entities, ∀ c ∈ e.name, c ≠ mark ∧ ∀ other ∈ entities, c ≠ other.char
  name_nonempty : ∀ e ∈ entities, e.name ≠ []
  name_prefix : ∀ e ∈ entities, ∀ other ∈ entities, e.name <+: other.name → e = other
  mark_prefix : ∀ e ∈ entities, ¬ markName <+: e.name ∧ ¬ e.name <+: markName
  markName_plain : mark ∉ markName

section Pass

variable {mark : α} {name replacement : List α}

theorem replaceFrom_skip (token : List α) (skip : ℕ) (s : List α) :
    replaceFrom id token replacement skip s = replaceFrom id token replacement 0 (s.drop skip) := by
  induction s generalizing skip with
  | nil => cases skip <;> rfl
  | cons c rest ih =>
      cases skip with
      | zero => rfl
      | succ skip => exact ih skip

theorem replaceFrom_cons_ne {c : α} (other : c ≠ mark) (s : List α) :
    replaceFrom id (mark :: name) replacement 0 (c :: s) =
      c :: replaceFrom id (mark :: name) replacement 0 s := by
  rw [replaceFrom, if_neg]
  rw [List.map_id, List.map_id, List.cons_prefix_cons]
  exact fun starts => other starts.1.symm

theorem replaceFrom_mark_of_not {s : List α} (differs : ¬ name <+: s) :
    replaceFrom id (mark :: name) replacement 0 (mark :: s) =
      mark :: replaceFrom id (mark :: name) replacement 0 s := by
  rw [replaceFrom, if_neg]
  rw [List.map_id, List.map_id, List.cons_prefix_cons]
  exact fun starts => differs starts.2

theorem replaceFrom_token (s : List α) :
    replaceFrom id (mark :: name) replacement 0 (mark :: (name ++ s)) =
      replacement ++ replaceFrom id (mark :: name) replacement 0 s := by
  rw [replaceFrom, if_pos, replaceFrom_skip]
  · simp
  · rw [List.map_id, List.map_id, List.cons_prefix_cons]
    exact ⟨rfl, List.prefix_append name s⟩

/-- A front without the mark is copied. -/
theorem replaceFrom_append {front : List α} (plain : mark ∉ front) (s : List α) :
    replaceFrom id (mark :: name) replacement 0 (front ++ s) =
      front ++ replaceFrom id (mark :: name) replacement 0 s := by
  induction front with
  | nil => rfl
  | cons c front ih =>
      rw [List.mem_cons, not_or] at plain
      rw [List.cons_append, replaceFrom_cons_ne (Ne.symm plain.1), ih plain.2]
      rfl

omit [DecidableEq α] in
/-- Names of which none starts the other are told apart, whatever follows. -/
theorem not_prefix_append {first second : List α} (forth : ¬ first <+: second)
    (back : ¬ second <+: first) (s : List α) : ¬ first <+: second ++ s := by
  intro starts
  rcases List.prefix_or_prefix_of_prefix starts (List.prefix_append second s) with one | other
  · exact forth one
  · exact back other

end Pass

namespace Table

variable (t : Table α)

def escapeUnit (c : α) : List α :=
  if c = t.mark then t.mark :: t.markName
  else match t.written.find? (·.char = c) with
    | some e => t.mark :: e.name
    | none => [c]

/-- One pass, in which no unit is written that is escaped again. -/
def escape (s : List α) : List α := s.flatMap t.escapeUnit

/-- One pass for each entity. -/
def unescape (s : List α) : List α :=
  t.entities.foldl (fun out e => replace id (t.mark :: e.name) [e.char] out)
    (replace id (t.mark :: t.markName) [t.mark] s)

/-- The text while the pending entities are still escaped, and those of the text itself that are
done are read. -/
def partlyFrom (pending done : List (Entity α)) : ℕ → List α → List α
  | _, [] => []
  | skip + 1, _ :: rest => partlyFrom pending done skip rest
  | 0, c :: rest =>
      if c = t.mark then
        match done.find? (·.name <+: rest) with
        | some e => e.char :: partlyFrom pending done e.name.length rest
        | none => t.mark :: partlyFrom pending done 0 rest
      else match pending.find? (·.char = c) with
        | some e => t.mark :: (e.name ++ partlyFrom pending done 0 rest)
        | none => c :: partlyFrom pending done 0 rest

variable {t} {pending done : List (Entity α)}

theorem partlyFrom_skip (skip : ℕ) (s : List α) :
    t.partlyFrom pending done skip s = t.partlyFrom pending done 0 (s.drop skip) := by
  induction s generalizing skip with
  | nil => cases skip <;> rfl
  | cons c rest ih =>
      cases skip with
      | zero => rfl
      | succ skip => exact ih skip

/-- How the text starts between two passes. -/
theorem partlyFrom_mark_some {e : Entity α} {rest : List α}
    (found : done.find? (·.name <+: rest) = some e) :
    t.partlyFrom pending done 0 (t.mark :: rest) =
      e.char :: t.partlyFrom pending done 0 (rest.drop e.name.length) := by
  rw [partlyFrom, if_pos rfl, found]
  exact congrArg (e.char :: ·) (partlyFrom_skip _ _)

theorem partlyFrom_mark_none {rest : List α} (none : done.find? (·.name <+: rest) = none) :
    t.partlyFrom pending done 0 (t.mark :: rest) = t.mark :: t.partlyFrom pending done 0 rest := by
  rw [partlyFrom, if_pos rfl, none]

theorem partlyFrom_pending {c : α} {e : Entity α} {rest : List α} (other : c ≠ t.mark)
    (found : pending.find? (·.char = c) = some e) :
    t.partlyFrom pending done 0 (c :: rest) =
      t.mark :: (e.name ++ t.partlyFrom pending done 0 rest) := by
  rw [partlyFrom, if_neg other, found]

theorem partlyFrom_plain {c : α} {rest : List α} (other : c ≠ t.mark)
    (none : pending.find? (·.char = c) = none) :
    t.partlyFrom pending done 0 (c :: rest) = c :: t.partlyFrom pending done 0 rest := by
  rw [partlyFrom, if_neg other, none]

/-- Escaping leaves the mark to the first pass. -/
theorem replace_escape (s : List α) :
    replace id (t.mark :: t.markName) [t.mark] (t.escape s) =
      t.partlyFrom t.written [] 0 s := by
  rw [replace, if_neg (List.cons_ne_nil _ _)]
  induction s with
  | nil => rfl
  | cons c rest ih =>
      rw [escape, List.flatMap_cons, ← escape, escapeUnit]
      by_cases isMark : c = t.mark
      · subst isMark
        rw [if_pos rfl, List.cons_append, replaceFrom_token, ih, partlyFrom_mark_none rfl]
        rfl
      · rw [if_neg isMark]
        cases found : t.written.find? (·.char = c) with
        | some e =>
            have isEntity := t.written_subset (List.mem_of_find?_eq_some found)
            have apart := t.mark_prefix e isEntity
            have plain : t.mark ∉ e.name := fun mem => (t.name_plain e isEntity _ mem).1 rfl
            rw [partlyFrom_pending isMark found, ← ih]
            refine (replaceFrom_mark_of_not (not_prefix_append apart.1 apart.2 _)).trans ?_
            rw [replaceFrom_append plain]
        | none =>
            rw [partlyFrom_plain isMark found, ← ih]
            exact replaceFrom_cons_ne isMark _

section Step

variable (pendingKnown : pending ⊆ t.entities) (doneKnown : done ⊆ t.entities)
  {e : Entity α} (known : e ∈ t.entities)

include pendingKnown doneKnown known

/-- The units of a name are copied, so a name starts the text now if it did before. -/
theorem prefix_partlyFrom_iff (s : List α) :
    e.name <+: t.partlyFrom pending done 0 s ↔ e.name <+: s := by
  have plain := t.name_plain e known
  generalize e.name = name at plain
  induction name generalizing s with
  | nil => simp
  | cons c name ih =>
      rw [List.forall_mem_cons] at plain
      cases s with
      | nil => rfl
      | cons d rest =>
          by_cases isMark : d = t.mark
          · subst isMark
            have unlike : ¬ c :: name <+: t.mark :: rest := fun starts =>
              plain.1.1 (List.cons_prefix_cons.mp starts).1
            cases found : done.find? (·.name <+: rest) with
            | some read =>
                have isEntity := doneKnown (List.mem_of_find?_eq_some found)
                rw [partlyFrom_mark_some found, List.cons_prefix_cons]
                exact iff_of_false (fun starts => plain.1.2 read isEntity starts.1) unlike
            | none =>
                rw [partlyFrom_mark_none found, List.cons_prefix_cons]
                exact iff_of_false (fun starts => plain.1.1 starts.1) unlike
          · cases found : pending.find? (·.char = d) with
            | some escaped =>
                have isEntity := pendingKnown (List.mem_of_find?_eq_some found)
                have char : escaped.char = d := by simpa using List.find?_some found
                rw [partlyFrom_pending isMark found, List.cons_prefix_cons, List.cons_prefix_cons]
                refine iff_of_false (fun starts => plain.1.1 starts.1) (fun starts => ?_)
                exact plain.1.2 escaped isEntity (starts.1.trans char.symm)
            | none =>
                rw [partlyFrom_plain isMark found, List.cons_prefix_cons, List.cons_prefix_cons]
                exact and_congr_right fun _ => ih rest plain.2

omit doneKnown in
/-- A name of the text itself is copied as it is. -/
theorem partlyFrom_name (s : List α) :
    t.partlyFrom pending done 0 (e.name ++ s) = e.name ++ t.partlyFrom pending done 0 s := by
  have plain := t.name_plain e known
  generalize e.name = name at plain
  induction name with
  | nil => rfl
  | cons c name ih =>
      rw [List.forall_mem_cons] at plain
      have unwritten : pending.find? (·.char = c) = none := by
        rw [List.find?_eq_none]
        intro other mem same
        exact plain.1.2 other (pendingKnown mem) (of_decide_eq_true same).symm
      rw [List.cons_append, partlyFrom_plain plain.1.1 unwritten, ih plain.2]
      rfl

/-- One more pass. -/
theorem replaceFrom_partlyFrom (s : List α) :
    replaceFrom id (t.mark :: e.name) [e.char] 0 (t.partlyFrom pending done 0 s) =
      t.partlyFrom (pending.filter (·.char ≠ e.char)) (done ++ [e]) 0 s := by
  -- an entity of the text shortens what is left by more than one unit
  induction size : s.length using Nat.strong_induction_on generalizing s with
  | _ n ih =>
      cases s with
      | nil => rfl
      | cons c rest =>
          have shorter : rest.length < n := by
            rw [← size]
            exact Nat.lt_succ_self _
          have later := ih rest.length shorter rest rfl
          by_cases isMark : c = t.mark
          · subst isMark
            cases found : done.find? (·.name <+: rest) with
            | some read =>
                have isEntity := doneKnown (List.mem_of_find?_eq_some found)
                have stillFound : (done ++ [e]).find? (·.name <+: rest) = some read := by
                  rw [List.find?_append, found, Option.some_or]
                have left := ih (rest.drop read.name.length).length (by
                  rw [List.length_drop]
                  omega) _ rfl
                rw [partlyFrom_mark_some found, partlyFrom_mark_some stillFound,
                  replaceFrom_cons_ne (t.char_ne_mark read isEntity), left]
            | none =>
                rw [partlyFrom_mark_none found]
                by_cases starts : e.name <+: rest
                · rcases starts with ⟨tail, rfl⟩
                  have nowFound : (done ++ [e]).find? (·.name <+: e.name ++ tail) = some e := by
                    simp [List.find?_append, found]
                  have left := ih tail.length (by
                    rw [List.length_append] at shorter
                    omega) tail rfl
                  rw [partlyFrom_mark_some nowFound, partlyFrom_name pendingKnown known,
                    replaceFrom_token, left, List.drop_left]
                  rfl
                · have notFound : (done ++ [e]).find? (·.name <+: rest) = none := by
                    simp [List.find?_append, found, starts]
                  have differs := mt (prefix_partlyFrom_iff pendingKnown doneKnown known rest).mp
                    starts
                  rw [partlyFrom_mark_none notFound, replaceFrom_mark_of_not differs, later]
          · cases found : pending.find? (·.char = c) with
            | some escaped =>
                have isPending := List.mem_of_find?_eq_some found
                have isEntity := pendingKnown isPending
                have char : escaped.char = c := by simpa using List.find?_some found
                rw [partlyFrom_pending isMark found]
                by_cases same : escaped = e
                · subst same
                  have notFound : (pending.filter (·.char ≠ escaped.char)).find? (·.char = c) =
                      none := by
                    rw [List.find?_eq_none]
                    intro other mem isChar
                    have differs := (List.mem_filter.mp mem).2
                    simp only [decide_eq_true_eq] at isChar differs
                    exact differs (isChar.trans char.symm)
                  rw [partlyFrom_plain isMark notFound, replaceFrom_token, later, char]
                  rfl
                · have apart : e.char ≠ c := fun isChar =>
                    same (t.char_injective _ isEntity _ known (char.trans isChar.symm))
                  have stillFound : (pending.filter (·.char ≠ e.char)).find? (·.char = c) =
                      some escaped := by
                    rw [List.find?_filter, ← found]
                    congr 1
                    funext other
                    by_cases isChar : other.char = c
                    · simp [isChar, Ne.symm apart]
                    · simp [isChar]
                  have plain : t.mark ∉ escaped.name := fun mem =>
                    (t.name_plain escaped isEntity _ mem).1 rfl
                  have differs := not_prefix_append
                    (fun starts => same (t.name_prefix _ known _ isEntity starts).symm)
                    (fun starts => same (t.name_prefix _ isEntity _ known starts))
                  rw [partlyFrom_pending isMark stillFound,
                    replaceFrom_mark_of_not (differs _), replaceFrom_append plain, later]
            | none =>
                have notFound : (pending.filter (·.char ≠ e.char)).find? (·.char = c) = none := by
                  rw [List.find?_eq_none] at found ⊢
                  exact fun other mem => found other (List.mem_of_mem_filter mem)
                rw [partlyFrom_plain isMark found, partlyFrom_plain isMark notFound,
                  replaceFrom_cons_ne isMark, later]

end Step

theorem foldl_partlyFrom {later : List (Entity α)} (s : List α)
    (pendingKnown : pending ⊆ t.entities) (doneKnown : done ⊆ t.entities)
    (laterKnown : later ⊆ t.entities) :
    later.foldl (fun out e => replace id (t.mark :: e.name) [e.char] out)
        (t.partlyFrom pending done 0 s) =
      t.partlyFrom (pending.filter fun e => e.char ∉ later.map (·.char)) (done ++ later) 0 s := by
  induction later generalizing pending done with
  | nil => simp
  | cons e later ih =>
      rw [List.cons_subset] at laterKnown
      have nextKnown : done ++ [e] ⊆ t.entities :=
        List.append_subset.mpr ⟨doneKnown, by simpa using laterKnown.1⟩
      have fewer : pending.filter (·.char ≠ e.char) ⊆ t.entities :=
        List.Subset.trans (List.filter_subset_self _) pendingKnown
      rw [List.foldl_cons, replace, if_neg (List.cons_ne_nil _ _),
        replaceFrom_partlyFrom pendingKnown doneKnown laterKnown.1, ih fewer nextKnown laterKnown.2,
        List.filter_filter, List.append_assoc]
      simp [Bool.and_comm]

/-- The passes read the entities that the text itself has. -/
theorem unescape_escape (s : List α) :
    t.unescape (t.escape s) = t.partlyFrom [] t.entities 0 s := by
  have none : t.written.filter (fun e => e.char ∉ t.entities.map (·.char)) = [] := by
    rw [List.filter_eq_nil_iff]
    intro e mem
    simpa using ⟨e, t.written_subset mem, rfl⟩
  rw [unescape, replace_escape, foldl_partlyFrom s t.written_subset (List.nil_subset _)
    (List.Subset.refl _), none, List.nil_append]

/-- Text without entities is left as it is. -/
theorem partlyFrom_of_not_infix {s : List α}
    (absent : ∀ e ∈ t.entities, ¬ t.mark :: e.name <:+: s) :
    t.partlyFrom [] t.entities 0 s = s := by
  induction s with
  | nil => rfl
  | cons c rest ih =>
      have later := ih fun e mem occurs => absent e mem (List.infix_cons occurs)
      by_cases isMark : c = t.mark
      · subst isMark
        have notFound : t.entities.find? (·.name <+: rest) = none := by
          rw [List.find?_eq_none]
          intro e mem starts
          exact absent e mem (List.cons_prefix_cons.mpr ⟨rfl, of_decide_eq_true starts⟩).isInfix
        rw [partlyFrom_mark_none notFound, later]
      · rw [partlyFrom_plain isMark rfl, later]

/-- An entity that is read makes the text shorter. -/
theorem length_partlyFrom (s : List α) :
    (t.partlyFrom [] t.entities 0 s).length ≤ s.length ∧
      ((∃ e ∈ t.entities, t.mark :: e.name <:+: s) →
        (t.partlyFrom [] t.entities 0 s).length < s.length) := by
  induction size : s.length using Nat.strong_induction_on generalizing s with
  | _ n ih =>
      cases s with
      | nil =>
          rw [← size]
          refine ⟨le_rfl, ?_⟩
          rintro ⟨e, _, occurs⟩
          simp at occurs
      | cons c rest =>
          rw [List.length_cons] at size
          have later := ih rest.length (by omega) rest rfl
          by_cases isMark : c = t.mark
          · subst isMark
            cases found : t.entities.find? (·.name <+: rest) with
            | some read =>
                have isEntity := List.mem_of_find?_eq_some found
                have starts : read.name <+: rest := by simpa using List.find?_some found
                have some := List.length_pos_iff.mpr (t.name_nonempty read isEntity)
                have le := starts.length_le
                have left := (ih (rest.drop read.name.length).length (by
                  rw [List.length_drop]
                  omega) _ rfl).1
                rw [List.length_drop] at left
                rw [partlyFrom_mark_some found, List.length_cons]
                omega
            | none =>
                rw [partlyFrom_mark_none found, List.length_cons]
                refine ⟨by omega, ?_⟩
                rintro ⟨e, mem, occurs⟩
                rcases List.infix_cons_iff.mp occurs with starts | inRest
                · have absent := List.find?_eq_none.mp found e mem
                  exact absurd (decide_eq_true (List.cons_prefix_cons.mp starts).2) absent
                · have shorter := later.2 ⟨e, mem, inRest⟩
                  omega
          · rw [partlyFrom_plain isMark rfl, List.length_cons]
            refine ⟨by omega, ?_⟩
            rintro ⟨e, mem, occurs⟩
            rcases List.infix_cons_iff.mp occurs with starts | inRest
            · exact absurd (List.cons_prefix_cons.mp starts).1.symm isMark
            · have shorter := later.2 ⟨e, mem, inRest⟩
              omega

/-- A text comes back exactly if it has no entity but that of the mark. -/
theorem unescape_escape_eq_iff (s : List α) :
    t.unescape (t.escape s) = s ↔ ∀ e ∈ t.entities, ¬ t.mark :: e.name <:+: s := by
  rw [unescape_escape]
  constructor
  · intro same e mem occurs
    have shorter := (length_partlyFrom s).2 ⟨e, mem, occurs⟩
    rw [same] at shorter
    exact lt_irrefl _ shorter
  · exact partlyFrom_of_not_infix

end Table

end GRoute.Escaping
