import GRoute.Foundation.Utf8

/-!
# Letter case

The case mappings of Unicode are tables that this development does not contain.
`CaseMapping` is what it uses of them: `String.lowercase` and the comparison of keys
by `String.CASE_INSENSITIVE_ORDER`, with the laws that hold of the tables. Texts of
ASCII units are mapped unit by unit, and an ASCII text in front of another text is
mapped independently of it. `CaseMapping.ascii` is the mapping that leaves all other
units alone.
-/

namespace GRoute.Text

def asciiLower (c : UInt16) : UInt16 := if unit 'A' ≤ c ∧ c ≤ unit 'Z' then c + 32 else c

def IsAscii (s : Text) : Prop := ∀ c ∈ s, c.toNat < 0x80

instance (s : Text) : Decidable (IsAscii s) :=
  List.decidableBAll (fun c : UInt16 => c.toNat < 0x80) s

/-- The case mappings of the platform. -/
structure CaseMapping where
  /-- `String.lowercase`. -/
  lowercase : Text → Text
  /-- Two keys are equal for `String.CASE_INSENSITIVE_ORDER` when their folds are. -/
  foldKey : Text → Text
  lowercase_ascii {s : Text} (isAscii : IsAscii s) : lowercase s = s.map asciiLower
  lowercase_append {s : Text} (isAscii : IsAscii s) (rest : Text) :
    ∃ rest', lowercase (s ++ rest) = s.map asciiLower ++ rest'
  lowercase_idem (s : Text) : lowercase (lowercase s) = lowercase s
  trimmed_lowercase {s : Text} (trimmed : Trimmed s) : Trimmed (lowercase s)
  wellFormed_lowercase {s : Text} (wellFormed : WellFormed s) : WellFormed (lowercase s)
  foldKey_ascii {s : Text} (isAscii : IsAscii s) : foldKey s = s.map asciiLower

theorem asciiLower_asciiLower (c : UInt16) : asciiLower (asciiLower c) = asciiLower c := by
  by_cases upper : unit 'A' ≤ c ∧ c ≤ unit 'Z'
  · have range : 65 ≤ c.toNat ∧ c.toNat ≤ 90 := upper
    have value : (c + 32).toNat = c.toNat + 32 := by
      rw [UInt16.toNat_add]
      change (c.toNat + 32) % 65536 = c.toNat + 32
      omega
    have notUpper : ¬ (unit 'A' ≤ c + 32 ∧ c + 32 ≤ unit 'Z') := by
      rintro ⟨_, high⟩
      have bound : (c + 32).toNat ≤ 90 := high
      omega
    rw [asciiLower, asciiLower, if_pos upper, if_neg notUpper]
  · rw [asciiLower, asciiLower, if_neg upper, if_neg upper]

theorem isWhitespace_asciiLower {c : UInt16} (visible : isWhitespace c = false) :
    isWhitespace (asciiLower c) = false := by
  rw [asciiLower]
  split
  · next upper =>
      have range : 65 ≤ c.toNat ∧ c.toNat ≤ 90 := upper
      have value : (c + 32).toNat = c.toNat + 32 := by
        rw [UInt16.toNat_add]
        change (c.toNat + 32) % 65536 = c.toNat + 32
        omega
      by_contra white
      have whiteRange := toNat_of_isWhitespace (by simpa using white)
      omega
  · exact visible

theorem asciiLower_of_ge {c : UInt16} (high : 0x80 ≤ c.toNat) : asciiLower c = c := by
  rw [asciiLower, if_neg]
  rintro ⟨_, upper⟩
  have bound : c.toNat ≤ 90 := upper
  omega

theorem toNat_asciiLower_lt {c : UInt16} (low : c.toNat < 0x80) : (asciiLower c).toNat < 0x80 := by
  rw [asciiLower]
  split
  · next upper =>
      have range : c.toNat ≤ 90 := upper.2
      rw [UInt16.toNat_add]
      change (c.toNat + 32) % 65536 < 0x80
      omega
  · exact low

theorem surrogates_asciiLower (c : UInt16) :
    isHighSurrogate (asciiLower c) = isHighSurrogate c ∧
      isLowSurrogate (asciiLower c) = isLowSurrogate c ∧
      isSurrogate (asciiLower c).toNat = isSurrogate c.toNat := by
  by_cases low : c.toNat < 0x80
  · have noSurrogate (x : UInt16) (lt : x.toNat < 0x80) : isHighSurrogate x = false ∧
        isLowSurrogate x = false ∧ isSurrogate x.toNat = false := by
      simp only [isHighSurrogate, isLowSurrogate, isSurrogate, Bool.and_eq_false_iff,
        decide_eq_false_iff_not]
      omega
    rcases noSurrogate c low with ⟨high, low', surrogate⟩
    rw [high, low', surrogate]
    exact noSurrogate _ (toNat_asciiLower_lt low)
  · rw [asciiLower_of_ge (by omega)]
    exact ⟨rfl, rfl, rfl⟩

theorem wellFormed_map_asciiLower {s : Text} (wellFormed : WellFormed s) :
    WellFormed (s.map asciiLower) := by
  unfold WellFormed at wellFormed ⊢
  fun_induction codePoints s with
  | case1 => simp [codePoints]
  | case2 c =>
      simp only [List.mem_singleton, forall_eq] at wellFormed
      simp only [List.map_cons, List.map_nil, codePoints, List.mem_singleton, forall_eq,
        (surrogates_asciiLower c).2.2, wellFormed]
  | case3 c d rest paired ih =>
      rw [List.forall_mem_cons] at wellFormed
      have high : 0x80 ≤ c.toNat ∧ 0x80 ≤ d.toNat := by
        simp only [isHighSurrogate, isLowSurrogate, Bool.and_eq_true, decide_eq_true_eq] at paired
        omega
      simp only [List.map_cons, asciiLower_of_ge high.1, asciiLower_of_ge high.2, codePoints,
        paired, if_true, List.forall_mem_cons]
      exact ⟨wellFormed.1, ih wellFormed.2⟩
  | case4 c d rest unpaired ih =>
      rw [List.forall_mem_cons] at wellFormed
      have mapped : (isHighSurrogate (asciiLower c) && isLowSurrogate (asciiLower d)) = false := by
        rw [(surrogates_asciiLower c).1, (surrogates_asciiLower d).2.1]
        simpa using unpaired
      simp only [List.map_cons] at ih
      simp only [List.map_cons, codePoints, mapped, Bool.false_eq_true, if_false,
        List.forall_mem_cons, (surrogates_asciiLower c).2.2]
      exact ⟨wellFormed.1, ih wellFormed.2⟩

/-- The mapping of the ASCII letters alone. -/
def CaseMapping.ascii : CaseMapping where
  lowercase s := s.map asciiLower
  foldKey s := s.map asciiLower
  lowercase_ascii _ := rfl
  lowercase_append _ rest := ⟨rest.map asciiLower, List.map_append⟩
  lowercase_idem s := by simp [asciiLower_asciiLower]
  trimmed_lowercase trimmed := by
    constructor
    · intro c isHead
      rw [List.head?_map, Option.mem_map] at isHead
      rcases isHead with ⟨original, isHead, rfl⟩
      exact isWhitespace_asciiLower (trimmed.1 original isHead)
    · intro c isLast
      rw [List.getLast?_map, Option.mem_map] at isLast
      rcases isLast with ⟨original, isLast, rfl⟩
      exact isWhitespace_asciiLower (trimmed.2 original isLast)
  wellFormed_lowercase := wellFormed_map_asciiLower
  foldKey_ascii _ := rfl

namespace CaseMapping

variable (casing : CaseMapping)

/-- Lower-case ASCII text in front of a text stays in front of the lower-cased text. -/
theorem startsWith_lowercase {start : Text} (isAscii : IsAscii start)
    (lower : start.map asciiLower = start) (rest : Text) :
    startsWith (casing.lowercase (start ++ rest)) start = true := by
  rcases casing.lowercase_append isAscii rest with ⟨rest', whole⟩
  rw [whole, lower]
  exact startsWith_append start rest'

theorem lowercase_nil : casing.lowercase [] = [] :=
  casing.lowercase_ascii (s := []) (by intro c mem; cases mem)

/-- A lower-case ASCII text is its own lower case. -/
theorem lowercase_of_lower {s : Text} (isAscii : IsAscii s) (lower : s.map asciiLower = s) :
    casing.lowercase s = s := (casing.lowercase_ascii isAscii).trans lower

end CaseMapping

/-- A `TreeMap` ordered by `String.CASE_INSENSITIVE_ORDER`, as the entries put into it, the
latest first, under their folded keys. -/
abbrev KeyMap := List (Text × Text)

namespace KeyMap

variable (casing : CaseMapping)

def put (map : KeyMap) (key value : Text) : KeyMap := (casing.foldKey key, value) :: map

def get (map : KeyMap) (key : Text) : Option Text :=
  (map.find? fun entry => entry.1 = casing.foldKey key).map Prod.snd

def containsKey (map : KeyMap) (key : Text) : Bool := (get casing map key).isSome

@[simp]
theorem get_nil (key : Text) : get casing [] key = none := rfl

theorem get_put (map : KeyMap) (key value other : Text) :
    get casing (put casing map key value) other =
      if casing.foldKey key = casing.foldKey other then some value else get casing map other := by
  rw [get, put, List.find?_cons]
  by_cases same : casing.foldKey key = casing.foldKey other
  · simp [same]
  · simp [same, get]

end KeyMap

end GRoute.Text
