import Mathlib.Algebra.Order.Ring.Int
import Mathlib.Data.List.DropRight
import Mathlib.Tactic.NormNum
import Mathlib.Tactic.Ring

/-!
# Kotlin strings

A Kotlin `String` is a sequence of UTF-16 code units, which need not be well formed
UTF-16. The operations below are the ones of the Kotlin standard library on the JVM.
An operation that throws returns `none`. Searches return `-1` when nothing is found,
as in Kotlin, so that an index computed from a failed search reaches `substring`
with the value it has in the program.

The lemmas describe a search by the decomposition it finds: `indexOf` splits a text
at the first occurrence of a unit, `lastIndexOf` at the last one.
-/

namespace GRoute

/-- A Kotlin `String`: a sequence of UTF-16 code units. -/
abbrev Text := List UInt16

-- with a name, so that whether a text is in a list is decided by one term in every module
instance Text.instLawfulBEq : LawfulBEq Text := inferInstance

/-- The code unit of a character of the basic multilingual plane. -/
def unit (c : Char) : UInt16 := UInt16.ofNat c.toNat

/-- A string literal. -/
def txt (s : String) : Text := s.toList.map unit

namespace Text

/-- `Char.isWhitespace` on the JVM. -/
def isWhitespace (c : UInt16) : Bool :=
  (9 ≤ c && c ≤ 13) || (0x1C ≤ c && c ≤ 0x20) || c == 0xA0 || c == 0x1680 ||
    (0x2000 ≤ c && c ≤ 0x200A) || c == 0x2028 || c == 0x2029 || c == 0x202F || c == 0x205F ||
    c == 0x3000

/-- Where white space lies, coarsely. -/
theorem toNat_of_isWhitespace {c : UInt16} (white : isWhitespace c = true) :
    c.toNat ≤ 0x20 ∨ c.toNat = 0xA0 ∨ 0x1680 ≤ c.toNat ∧ c.toNat ≤ 0x3000 := by
  simp only [isWhitespace, Bool.or_eq_true, Bool.and_eq_true, decide_eq_true_eq, beq_iff_eq,
    UInt16.le_iff_toNat_le, ← UInt16.toNat_inj, UInt16.reduceToNat] at white
  omega

def trim (s : Text) : Text := (s.dropWhile isWhitespace).rdropWhile isWhitespace

def isBlank (s : Text) : Bool := s.all isWhitespace

/-- The text neither starts nor ends with white space. -/
def Trimmed (s : Text) : Prop :=
  (∀ c ∈ s.head?, isWhitespace c = false) ∧ ∀ c ∈ s.getLast?, isWhitespace c = false

theorem dropWhile_of_head {s : Text} (head : ∀ c ∈ s.head?, isWhitespace c = false) :
    s.dropWhile isWhitespace = s := by
  cases s with
  | nil => rfl
  | cons c rest => simp [head c (by simp)]

theorem rdropWhile_of_getLast {s : Text} (last : ∀ c ∈ s.getLast?, isWhitespace c = false) :
    s.rdropWhile isWhitespace = s := by
  rw [List.rdropWhile_eq_self_iff]
  intro nonempty
  have holds := last (s.getLast nonempty) (by simp [List.getLast?_eq_some_getLast nonempty])
  simp [holds]

theorem Trimmed.trim_eq {s : Text} (trimmed : Trimmed s) : trim s = s := by
  rw [trim, dropWhile_of_head trimmed.1, rdropWhile_of_getLast trimmed.2]

theorem trim_prefix_dropWhile (s : Text) : trim s <+: s.dropWhile isWhitespace :=
  List.rdropWhile_prefix isWhitespace _

theorem trimmed_trim (s : Text) : Trimmed (trim s) := by
  constructor
  · intro c isHead
    rcases trim_prefix_dropWhile s with ⟨rest, whole⟩
    have headOfDropped : c ∈ (s.dropWhile isWhitespace).head? := by
      rw [← whole]
      cases shape : trim s with
      | nil => simp [shape] at isHead
      | cons first tail => simpa [shape] using isHead
    have kept := List.head?_dropWhile_not isWhitespace s
    rw [Option.mem_def] at headOfDropped
    simpa [headOfDropped] using kept
  · intro c isLast
    have nonempty : trim s ≠ [] := by
      rintro empty
      simp [empty] at isLast
    have kept := List.rdropWhile_last_not isWhitespace (s.dropWhile isWhitespace) nonempty
    rw [List.getLast?_eq_some_getLast nonempty, Option.mem_some_iff] at isLast
    rw [← isLast]
    exact Bool.eq_false_of_not_eq_true kept

@[simp]
theorem trim_trim (s : Text) : trim (trim s) = trim s := (trimmed_trim s).trim_eq

theorem mem_of_mem_trim {c : UInt16} {s : Text} (mem : c ∈ trim s) : c ∈ s :=
  (List.dropWhile_suffix isWhitespace).subset ((trim_prefix_dropWhile s).subset mem)

theorem length_trim_le (s : Text) : (trim s).length ≤ s.length :=
  le_trans (trim_prefix_dropWhile s).length_le (List.dropWhile_suffix isWhitespace).length_le

/-- Both ends of a text survive when something else is put before and after them. -/
theorem trimmed_append {start rest : Text} (startNonempty : start ≠ []) (restNonempty : rest ≠ [])
    (head : ∀ c ∈ start.head?, isWhitespace c = false)
    (last : ∀ c ∈ rest.getLast?, isWhitespace c = false) : Trimmed (start ++ rest) := by
  constructor
  · intro c isHead
    rw [List.head?_append_of_ne_nil _ startNonempty] at isHead
    exact head c isHead
  · intro c isLast
    rw [List.getLast?_append_of_ne_nil _ restNonempty] at isLast
    exact last c isLast

/-- A text without white space is trimmed. -/
theorem trimmed_of_forall {s : Text} (visible : ∀ c ∈ s, isWhitespace c = false) : Trimmed s :=
  ⟨fun c isHead => visible c (List.mem_of_mem_head? isHead),
    fun c isLast => visible c (List.mem_of_getLast? isLast)⟩

/-- The same as a test that can be evaluated. -/
theorem trimmed_of_all {s : Text} (visible : s.all (fun c => !isWhitespace c) = true) :
    Trimmed s :=
  trimmed_of_forall fun c mem => by simpa using List.all_eq_true.mp visible c mem

def indexOf (s : Text) (c : UInt16) : ℤ :=
  match s.findIdx? (· == c) with
  | some i => i
  | none => -1

def lastIndexOf (s : Text) (c : UInt16) : ℤ :=
  match s.reverse.findIdx? (· == c) with
  | some i => s.length - 1 - i
  | none => -1

theorem indexOf_of_notMem {s : Text} {c : UInt16} (absent : c ∉ s) : indexOf s c = -1 := by
  have none : s.findIdx? (· == c) = none := by
    rw [List.findIdx?_eq_none_iff]
    intro x mem
    simpa using fun same : x = c => absent (same ▸ mem)
  rw [indexOf, none]

theorem findIdx?_append_cons {pre post : Text} {c : UInt16} (absent : c ∉ pre) :
    (pre ++ c :: post).findIdx? (· == c) = some pre.length := by
  have none : pre.findIdx? (· == c) = none := by
    rw [List.findIdx?_eq_none_iff]
    intro x mem
    simpa using fun same : x = c => absent (same ▸ mem)
  simp [List.findIdx?_append, List.findIdx?_cons, none]

theorem indexOf_append {pre post : Text} {c : UInt16} (absent : c ∉ pre) :
    indexOf (pre ++ c :: post) c = pre.length := by
  rw [indexOf, findIdx?_append_cons absent]

theorem lastIndexOf_of_notMem {s : Text} {c : UInt16} (absent : c ∉ s) : lastIndexOf s c = -1 := by
  have none : s.reverse.findIdx? (· == c) = none := by
    rw [List.findIdx?_eq_none_iff]
    intro x mem
    simpa using fun same : x = c => absent (same ▸ List.mem_reverse.mp mem)
  rw [lastIndexOf, none]

theorem lastIndexOf_append {pre post : Text} {c : UInt16} (absent : c ∉ post) :
    lastIndexOf (pre ++ c :: post) c = pre.length := by
  have found : (pre ++ c :: post).reverse.findIdx? (· == c) = some post.reverse.length := by
    rw [List.reverse_append, List.reverse_cons, List.append_assoc]
    exact findIdx?_append_cons (by simpa using absent)
  rw [lastIndexOf, found]
  simp only [List.length_append, List.length_cons, List.length_reverse]
  push_cast
  ring

/-- A text splits at the first occurrence of a unit. -/
theorem exists_first {s : Text} {c : UInt16} (mem : c ∈ s) :
    ∃ pre post, s = pre ++ c :: post ∧ c ∉ pre := by
  rcases List.eq_append_cons_of_mem mem with ⟨pre, post, whole, absent⟩
  exact ⟨pre, post, whole, absent⟩

/-- A text splits at the last occurrence of a unit. -/
theorem exists_last {s : Text} {c : UInt16} (mem : c ∈ s) :
    ∃ pre post, s = pre ++ c :: post ∧ c ∉ post := by
  rcases exists_first (List.mem_reverse.mpr mem) with ⟨pre, post, whole, absent⟩
  refine ⟨post.reverse, pre.reverse, ?_, by simpa using absent⟩
  rw [← List.reverse_reverse s, whole]
  simp

def substring (s : Text) (start stop : ℤ) : Option Text :=
  if 0 ≤ start ∧ start ≤ stop ∧ stop ≤ s.length then
    some ((s.take stop.toNat).drop start.toNat)
  else
    none

def substringFrom (s : Text) (start : ℤ) : Option Text := substring s start s.length

def startsWith (s start : Text) : Bool := start.isPrefixOf s

/-- `String.contains` for a string. -/
def containsText (s part : Text) : Bool := s.tails.any (startsWith · part)

def split (s : Text) (c : UInt16) : List Text := s.splitOn c

def joinWith (c : UInt16) (parts : List Text) : Text := [c].intercalate parts

/-- `String.replace` for a one-unit pattern. -/
def replace (s : Text) (c : UInt16) (by_ : Text) : Text :=
  s.flatMap fun x => if x = c then by_ else [x]

def ifEmpty (s default : Text) : Text := if s = [] then default else s

def ifBlank (s default : Text) : Text := if isBlank s then default else s

@[simp]
theorem ifEmpty_nil (default : Text) : ifEmpty [] default = default := rfl

theorem ifEmpty_nil_right (s : Text) : ifEmpty s [] = s := by
  rw [ifEmpty]
  split
  · next empty => exact empty.symm
  · rfl

theorem ifEmpty_of_ne {s : Text} (nonempty : s ≠ []) (default : Text) : ifEmpty s default = s := by
  simp [ifEmpty, nonempty]

theorem ifEmpty_ne_nil {s default : Text} (nonempty : default ≠ []) : ifEmpty s default ≠ [] := by
  rw [ifEmpty]
  split
  · exact nonempty
  · assumption

theorem trimmed_ifEmpty {s default : Text} (trimmed : Trimmed s)
    (defaultTrimmed : Trimmed default) : Trimmed (ifEmpty s default) := by
  rw [ifEmpty]
  split
  · exact defaultTrimmed
  · exact trimmed

theorem substring_zero (pre post : Text) : substring (pre ++ post) 0 pre.length = some pre := by
  simp [substring]

theorem substringFrom_append (pre post : Text) :
    substringFrom (pre ++ post) pre.length = some post := by
  have whole : ((pre ++ post).length : ℤ).toNat = (pre ++ post).length := Int.toNat_natCast _
  rw [substringFrom, substring, if_pos (by simp), whole, List.take_length, Int.toNat_natCast,
    List.drop_left]

theorem substringFrom_append_cons (pre post : Text) (c : UInt16) :
    substringFrom (pre ++ c :: post) (pre.length + 1) = some post := by
  have shifted := substringFrom_append (pre ++ [c]) post
  rw [List.append_assoc, List.length_append] at shifted
  exact_mod_cast shifted

theorem substring_of_neg {s : Text} {start stop : ℤ} (neg : stop < 0) :
    substring s start stop = none := by
  rw [substring, if_neg (by omega)]

theorem substring_sublist {s part : Text} {start stop : ℤ}
    (isPart : substring s start stop = some part) : part.Sublist s := by
  rw [substring] at isPart
  split at isPart
  · rw [← Option.some.inj isPart]
    exact (List.drop_sublist _ _).trans (List.take_sublist _ _)
  · cases isPart

theorem startsWith_append (start rest : Text) : startsWith (start ++ rest) start = true := by
  simp [startsWith]

theorem not_length_le_zero {s : Text} (nonempty : s ≠ []) : ¬(s.length : ℤ) ≤ 0 := by
  have positive := List.length_pos_iff.mpr nonempty
  omega

theorem startsWith_iff {s start : Text} :
    startsWith s start = true ↔ ∃ rest, s = start ++ rest := by
  rw [startsWith, List.isPrefixOf_iff_prefix]
  constructor
  · rintro ⟨rest, rfl⟩
    exact ⟨rest, rfl⟩
  · rintro ⟨rest, rfl⟩
    exact ⟨rest, rfl⟩

/-- A text starts with only one of two texts that are not prefixes of each other. -/
theorem startsWith_eq_false {s start : Text} (other : Text) (starts : startsWith s start = true)
    (notLonger : start.isPrefixOf other = false) (notShorter : other.isPrefixOf start = false) :
    startsWith s other = false := by
  by_contra both
  rw [Bool.not_eq_false, startsWith, List.isPrefixOf_iff_prefix] at both
  rw [startsWith, List.isPrefixOf_iff_prefix] at starts
  rcases List.prefix_or_prefix_of_prefix starts both with longer | shorter
  · rw [List.isPrefixOf_iff_prefix.mpr longer] at notLonger
    cases notLonger
  · rw [List.isPrefixOf_iff_prefix.mpr shorter] at notShorter
    cases notShorter

theorem startsWith_singleton {s : Text} {c : UInt16} :
    startsWith s [c] = true ↔ s.head? = some c := by
  rw [startsWith_iff]
  cases s with
  | nil => simp
  | cons d rest => simp

theorem split_joinWith {c : UInt16} {parts : List Text} (absent : ∀ part ∈ parts, c ∉ part)
    (nonempty : parts ≠ []) : split (joinWith c parts) c = parts :=
  List.splitOn_intercalate c absent nonempty

theorem notMem_of_mem_split {s part : Text} {c : UInt16} (mem : part ∈ split s c) : c ∉ part := by
  rw [split, List.splitOn] at mem
  induction s generalizing part with
  | nil =>
      rw [List.splitOnP_nil, List.mem_singleton] at mem
      rw [mem]
      exact List.not_mem_nil
  | cons x s ih =>
      rw [List.splitOnP_cons_eq_if_modifyHead] at mem
      split_ifs at mem with isSeparator
      · rcases List.mem_cons.mp mem with rfl | later
        · exact List.not_mem_nil
        · exact ih later
      · rcases List.exists_cons_of_ne_nil (List.splitOnP_ne_nil (· == c) s) with
          ⟨first, others, shape⟩
        rw [shape] at mem ih
        rcases List.mem_cons.mp mem with rfl | later
        · rw [List.mem_cons, not_or]
          exact ⟨fun same => isSeparator (by simp [same]), ih List.mem_cons_self⟩
        · exact ih (List.mem_cons_of_mem _ later)

theorem length_joinWith (c : UInt16) (parts : List Text) :
    (joinWith c parts).length = (parts.map List.length).sum + (parts.length - 1) := by
  rw [joinWith]
  induction parts with
  | nil => rfl
  | cons first rest ih =>
      cases rest with
      | nil => simp
      | cons next rest =>
          rw [List.intercalate_cons_cons, List.length_append, List.length_append,
            List.length_singleton, ih]
          simp only [List.map_cons, List.sum_cons, List.length_cons]
          omega

/-- The separators aside, splitting keeps every unit. -/
theorem sum_count_split {c d : UInt16} (other : c ≠ d) (s : Text) :
    ((split s c).map (List.count d)).sum = s.count d := by
  have joined (parts : List Text) :
      (joinWith c parts).count d = (parts.map (List.count d)).sum := by
    rw [joinWith]
    induction parts with
    | nil => rfl
    | cons first rest ih =>
        cases rest with
        | nil => simp
        | cons next rest =>
            rw [List.intercalate_cons_cons, List.count_append, List.count_append,
              List.count_singleton, ih]
            simp [other]
  rw [← joined, joinWith, split, List.intercalate_splitOn]

theorem count_trim {d : UInt16} (visible : isWhitespace d = false) (s : Text) :
    (trim s).count d = s.count d := by
  have dropped (s : Text) : (s.dropWhile isWhitespace).count d = s.count d := by
    have absent : d ∉ s.takeWhile isWhitespace := by
      intro mem
      rw [List.mem_takeWhile_imp mem] at visible
      cases visible
    have parts := congrArg (List.count d)
      (List.takeWhile_append_dropWhile (p := isWhitespace) (l := s))
    rw [List.count_append, List.count_eq_zero.mpr absent, Nat.zero_add] at parts
    exact parts
  rw [trim, List.rdropWhile, List.count_reverse, dropped, List.count_reverse, dropped]

/-- A filter that keeps no white space of the text does not see whether the text is trimmed. -/
theorem filter_trim {keep : UInt16 → Bool} {s : Text}
    (visible : ∀ c ∈ s, keep c = true → isWhitespace c = false) :
    (trim s).filter keep = s.filter keep := by
  have dropped {s : Text} (visible : ∀ c ∈ s, keep c = true → isWhitespace c = false) :
      (s.dropWhile isWhitespace).filter keep = s.filter keep := by
    have none : (s.takeWhile isWhitespace).filter keep = [] := by
      rw [List.filter_eq_nil_iff]
      intro c mem kept
      have white := List.mem_takeWhile_imp mem
      rw [visible c ((List.takeWhile_prefix isWhitespace).subset mem) kept] at white
      cases white
    have parts := congrArg (List.filter keep)
      (List.takeWhile_append_dropWhile (p := isWhitespace) (l := s))
    rw [List.filter_append, none, List.nil_append] at parts
    exact parts
  have reversed : ∀ c ∈ (s.dropWhile isWhitespace).reverse, keep c = true →
      isWhitespace c = false := by
    intro c mem
    exact visible c ((List.dropWhile_suffix isWhitespace).subset (List.mem_reverse.mp mem))
  rw [trim, List.rdropWhile, List.filter_reverse, dropped reversed, List.filter_reverse,
    List.reverse_reverse, dropped visible]

theorem replace_of_notMem {s : Text} {c : UInt16} (absent : c ∉ s) (by_ : Text) :
    replace s c by_ = s := by
  induction s with
  | nil => rfl
  | cons x rest ih =>
      simp only [List.mem_cons, not_or] at absent
      simp only [replace, List.flatMap_cons, if_neg (Ne.symm absent.1)]
      exact congrArg (x :: ·) (ih absent.2)

theorem mem_joinWith {c x : UInt16} {parts : List Text} (mem : x ∈ joinWith c parts) :
    x = c ∨ ∃ part ∈ parts, x ∈ part := by
  induction parts with
  | nil => simp [joinWith, List.intercalate] at mem
  | cons part parts ih =>
      cases parts with
      | nil =>
          right
          exact ⟨part, by simp, by simpa [joinWith, List.intercalate] using mem⟩
      | cons next parts =>
          have shape : joinWith c (part :: next :: parts) =
              part ++ c :: joinWith c (next :: parts) := by
            simp [joinWith, List.intercalate]
          rw [shape, List.mem_append, List.mem_cons] at mem
          rcases mem with inPart | isSeparator | inRest
          · exact Or.inr ⟨part, by simp, inPart⟩
          · exact Or.inl isSeparator
          · rcases ih inRest with isSeparator | ⟨other, otherMem, inOther⟩
            · exact Or.inl isSeparator
            · exact Or.inr ⟨other, by simp [otherMem], inOther⟩

end Text

end GRoute
