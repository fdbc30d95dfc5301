import GRoute.Foundation.Text
import Mathlib.Data.List.Forall2
import Mathlib.Tactic.Linarith

/-!
# UTF-8

`String.toByteArray(UTF_8)` and `String(bytes, UTF_8)`. Encoding replaces a surrogate
that is not part of a pair by a question mark. Decoding is the machine of the Encoding
Standard, which replaces each maximal ill-formed part by `U+FFFD`.

Encoding followed by decoding is `sanitize`, the replacement of unpaired surrogates,
so that exactly the well-formed texts survive it.
-/

namespace GRoute.Text

def isHighSurrogate (c : UInt16) : Bool := 0xD800 ≤ c.toNat && c.toNat ≤ 0xDBFF

def isLowSurrogate (c : UInt16) : Bool := 0xDC00 ≤ c.toNat && c.toNat ≤ 0xDFFF

def isSurrogate (p : ℕ) : Bool := 0xD800 ≤ p && p ≤ 0xDFFF

/-- The code point of a surrogate pair. -/
def pairCodePoint (high low : UInt16) : ℕ :=
  0x10000 + (high.toNat - 0xD800) * 1024 + (low.toNat - 0xDC00)

/-- The code points of a text, an unpaired surrogate being its own code point. -/
def codePoints : Text → List ℕ
  | [] => []
  | [c] => [c.toNat]
  | c :: d :: rest =>
      if isHighSurrogate c && isLowSurrogate d then pairCodePoint c d :: codePoints rest
      else c.toNat :: codePoints (d :: rest)

/-- The code units of a code point. -/
def units (p : ℕ) : Text :=
  if p < 0x10000 then [UInt16.ofNat p]
  else [UInt16.ofNat (0xD800 + (p - 0x10000) / 1024), UInt16.ofNat (0xDC00 + (p - 0x10000) % 1024)]

/-- The code point that the encoder writes for a code point. -/
def replaceSurrogate (p : ℕ) : ℕ := if isSurrogate p then 0x3F else p

/-- The text with every unpaired surrogate replaced by a question mark. -/
def sanitize (s : Text) : Text := (codePoints s).flatMap fun p => units (replaceSurrogate p)

/-- The text has no unpaired surrogate. -/
def WellFormed (s : Text) : Prop := ∀ p ∈ codePoints s, isSurrogate p = false

instance (s : Text) : Decidable (WellFormed s) :=
  inferInstanceAs (Decidable (∀ p ∈ codePoints s, isSurrogate p = false))

theorem isSurrogate_of_lt {p : ℕ} (lt : p < 0xD800) : isSurrogate p = false := by
  simp only [isSurrogate, Bool.and_eq_false_iff, decide_eq_false_iff_not]
  omega

theorem isWhitespace_of_isSurrogate {c : UInt16} (surrogate : isSurrogate c.toNat = true) :
    isWhitespace c = false := by
  by_contra white
  have range := toNat_of_isWhitespace (by simpa using white)
  simp only [isSurrogate, Bool.and_eq_true, decide_eq_true_eq] at surrogate
  omega

theorem units_replaceSurrogate_of_lt {p : ℕ} (lt : p < 0xD800) :
    units (replaceSurrogate p) = [UInt16.ofNat p] := by
  rw [replaceSurrogate, if_neg (by simp [isSurrogate_of_lt lt]), units, if_pos (by omega)]

theorem units_toNat (c : UInt16) : units c.toNat = [c] := by
  have lt : c.toNat < 0x10000 := c.toNat_lt
  simp [units, lt]

theorem units_pairCodePoint {high low : UInt16} (isHigh : isHighSurrogate high = true)
    (isLow : isLowSurrogate low = true) : units (pairCodePoint high low) = [high, low] := by
  simp only [isHighSurrogate, isLowSurrogate, Bool.and_eq_true, decide_eq_true_eq] at isHigh isLow
  have highPart : 0xD800 + (pairCodePoint high low - 0x10000) / 1024 = high.toNat := by
    unfold pairCodePoint
    omega
  have lowPart : 0xDC00 + (pairCodePoint high low - 0x10000) % 1024 = low.toNat := by
    unfold pairCodePoint
    omega
  rw [units, if_neg (by unfold pairCodePoint; omega), highPart, lowPart]
  simp

theorem toNat_of_mem_units {p : ℕ} {c : UInt16} (lt : p < 0x110000) (mem : c ∈ units p) :
    c.toNat = p ∨ 0xD800 ≤ c.toNat := by
  rw [units] at mem
  split at mem
  · next small =>
      left
      rw [List.mem_singleton.mp mem]
      exact UInt16.toNat_ofNat_of_lt' small
  · right
    simp only [List.mem_cons, List.not_mem_nil, or_false] at mem
    rcases mem with rfl | rfl
    · rw [UInt16.toNat_ofNat_of_lt' (by simp only [UInt16.size]; omega)]
      omega
    · rw [UInt16.toNat_ofNat_of_lt' (by simp only [UInt16.size]; omega)]
      omega

theorem codePoints_lt (s : Text) : ∀ p ∈ codePoints s, p < 0x110000 := by
  fun_induction codePoints s with
  | case1 => simp
  | case2 c =>
      have lt : c.toNat < 0x10000 := c.toNat_lt
      simp only [List.mem_singleton, forall_eq]
      omega
  | case3 c d rest paired ih =>
      simp only [isHighSurrogate, isLowSurrogate, Bool.and_eq_true, decide_eq_true_eq] at paired
      simp only [List.mem_cons, forall_eq_or_imp]
      refine ⟨?_, ih⟩
      unfold pairCodePoint
      omega
  | case4 c d rest unpaired ih =>
      have lt : c.toNat < 0x10000 := c.toNat_lt
      simp only [List.mem_cons, forall_eq_or_imp] at ih ⊢
      exact ⟨by omega, ih⟩

/-- A text is the sequence of the units of its code points. -/
theorem flatMap_units_codePoints (s : Text) : (codePoints s).flatMap units = s := by
  fun_induction codePoints s with
  | case1 => rfl
  | case2 c => simp [units_toNat]
  | case3 c d rest paired ih =>
      rw [Bool.and_eq_true] at paired
      rw [List.flatMap_cons, units_pairCodePoint paired.1 paired.2, ih]
      rfl
  | case4 c d rest unpaired ih =>
      rw [List.flatMap_cons, units_toNat, ih]
      rfl

theorem units_replaceSurrogate_length (p : ℕ) :
    (units (replaceSurrogate p)).length = (units p).length := by
  rw [replaceSurrogate]
  split
  · next surrogate =>
      simp only [isSurrogate, Bool.and_eq_true, decide_eq_true_eq] at surrogate
      have lt : p < 0x10000 := by omega
      simp [units, lt]
  · rfl

theorem units_replaceSurrogate_eq_iff (p : ℕ) :
    units (replaceSurrogate p) = units p ↔ isSurrogate p = false := by
  rw [replaceSurrogate]
  by_cases surrogate : isSurrogate p = true
  · rw [if_pos surrogate]
    simp only [isSurrogate, Bool.and_eq_true, decide_eq_true_eq] at surrogate
    have lt : p < 0x10000 := by omega
    have differ : (63 : UInt16) ≠ UInt16.ofNat p := by
      intro same
      have values := congrArg UInt16.toNat same
      rw [UInt16.toNat_ofNat_of_lt' lt] at values
      change 63 = p at values
      omega
    simp [units, lt, differ, isSurrogate, surrogate]
  · simp [surrogate]

theorem flatMap_replaceSurrogate_eq_iff (ps : List ℕ) :
    (ps.flatMap fun p => units (replaceSurrogate p)) = ps.flatMap units ↔
      ∀ p ∈ ps, isSurrogate p = false := by
  induction ps with
  | nil => simp
  | cons p ps ih =>
      rw [List.flatMap_cons, List.flatMap_cons, List.forall_mem_cons, ← ih,
        ← units_replaceSurrogate_eq_iff]
      constructor
      · intro same
        exact List.append_inj same (units_replaceSurrogate_length p)
      · rintro ⟨head, tail⟩
        rw [head, tail]

theorem sanitize_eq_self_iff {s : Text} : sanitize s = s ↔ WellFormed s := by
  have whole := flatMap_units_codePoints s
  constructor
  · intro fixed
    apply (flatMap_replaceSurrogate_eq_iff (codePoints s)).mp
    rw [whole]
    exact fixed
  · intro wellFormed
    refine Eq.trans ?_ whole
    exact (flatMap_replaceSurrogate_eq_iff (codePoints s)).mpr wellFormed

theorem replaceSurrogate_pairCodePoint (high low : UInt16) :
    replaceSurrogate (pairCodePoint high low) = pairCodePoint high low := by
  rw [replaceSurrogate, if_neg]
  simp only [isSurrogate, Bool.and_eq_true, decide_eq_true_eq]
  unfold pairCodePoint
  omega

/-- Sanitizing works unit by unit. -/
theorem sanitize_forall₂ (s : Text) :
    List.Forall₂ (fun c d => d = c ∨ d = unit '?' ∧ isSurrogate c.toNat = true) s (sanitize s) := by
  have single (c : UInt16) : List.Forall₂
      (fun c d => d = c ∨ d = unit '?' ∧ isSurrogate c.toNat = true) [c]
      (units (replaceSurrogate c.toNat)) := by
    rw [replaceSurrogate]
    split
    · next surrogate => exact .cons (Or.inr ⟨rfl, surrogate⟩) .nil
    · rw [units_toNat]
      exact .cons (Or.inl rfl) .nil
  rw [sanitize]
  fun_induction codePoints s with
  | case1 => exact .nil
  | case2 c => simpa using single c
  | case3 c d rest paired ih =>
      rw [Bool.and_eq_true] at paired
      rw [List.flatMap_cons, replaceSurrogate_pairCodePoint, units_pairCodePoint paired.1 paired.2]
      exact .cons (Or.inl rfl) (.cons (Or.inl rfl) ih)
  | case4 c d rest unpaired ih =>
      rw [List.flatMap_cons]
      exact List.rel_append (single c) ih

@[simp]
theorem sanitize_nil : sanitize [] = [] := rfl

theorem sanitize_ne_nil {s : Text} (nonempty : s ≠ []) : sanitize s ≠ [] := by
  have related := (sanitize_forall₂ s).length_eq
  intro empty
  rw [empty, List.length_nil] at related
  exact nonempty (List.length_eq_zero_iff.mp related)

/-- A unit that does not open a pair is sanitized by itself. -/
theorem sanitize_cons {c : UInt16} {rest : Text}
    (unpaired : isHighSurrogate c = false ∨ ∀ d ∈ rest.head?, isLowSurrogate d = false) :
    sanitize (c :: rest) = units (replaceSurrogate c.toNat) ++ sanitize rest := by
  cases rest with
  | nil => simp [sanitize, codePoints]
  | cons d rest =>
      have notPair : (isHighSurrogate c && isLowSurrogate d) = false := by
        rcases unpaired with notHigh | notLow
        · rw [notHigh, Bool.false_and]
        · rw [notLow d (by simp), Bool.and_false]
      simp only [sanitize, codePoints, notPair]
      rfl

theorem sanitize_pair {c d : UInt16} (isHigh : isHighSurrogate c = true)
    (isLow : isLowSurrogate d = true) (rest : Text) :
    sanitize (c :: d :: rest) = c :: d :: sanitize rest := by
  simp only [sanitize, codePoints, isHigh, isLow, Bool.and_self, if_true, List.flatMap_cons,
    replaceSurrogate_pairCodePoint, units_pairCodePoint isHigh isLow]
  rfl

/-- A unit that is no surrogate stays. -/
theorem sanitize_cons_scalar {c : UInt16} (scalar : isSurrogate c.toNat = false) (rest : Text) :
    sanitize (c :: rest) = c :: sanitize rest := by
  have notHigh : isHighSurrogate c = false := by
    simp only [isSurrogate, isHighSurrogate, Bool.and_eq_false_iff, decide_eq_false_iff_not]
      at scalar ⊢
    omega
  rw [sanitize_cons (Or.inl notHigh), replaceSurrogate, if_neg (by simp [scalar]), units_toNat]
  rfl

theorem sanitize_append_scalars {s : Text} (scalars : ∀ c ∈ s, isSurrogate c.toNat = false)
    (rest : Text) : sanitize (s ++ rest) = s ++ sanitize rest := by
  induction s with
  | nil => rfl
  | cons c s ih =>
      rw [List.forall_mem_cons] at scalars
      rw [List.cons_append, sanitize_cons_scalar scalars.1, ih scalars.2, List.cons_append]

/-- The unit written for a single unit is no surrogate. -/
theorem exists_units_replaceSurrogate (c : UInt16) :
    ∃ x, units (replaceSurrogate c.toNat) = [x] ∧ isSurrogate x.toNat = false := by
  rw [replaceSurrogate]
  split
  · exact ⟨63, by decide, by decide⟩
  · next scalar => exact ⟨c, units_toNat c, by simpa using scalar⟩

theorem sanitize_sanitize (s : Text) : sanitize (sanitize s) = sanitize s := by
  induction s using codePoints.induct with
  | case1 => rfl
  | case2 c =>
      rcases exists_units_replaceSurrogate c with ⟨x, image, scalar⟩
      rw [sanitize_cons (Or.inr (by simp)), image]
      exact sanitize_cons_scalar scalar []
  | case3 c d rest paired ih =>
      rw [Bool.and_eq_true] at paired
      rw [sanitize_pair paired.1 paired.2, sanitize_pair paired.1 paired.2, ih]
  | case4 c d rest unpaired ih =>
      have alone : isHighSurrogate c = false ∨
          ∀ x ∈ (d :: rest).head?, isLowSurrogate x = false := by
        rw [Bool.and_eq_true, not_and_or, Bool.not_eq_true, Bool.not_eq_true] at unpaired
        simpa using unpaired
      rcases exists_units_replaceSurrogate c with ⟨x, image, scalar⟩
      rw [sanitize_cons alone, image, List.singleton_append, sanitize_cons_scalar scalar, ih]

theorem wellFormed_sanitize (s : Text) : WellFormed (sanitize s) :=
  sanitize_eq_self_iff.mp (sanitize_sanitize s)

/-- Sanitizing keeps a trimmed text trimmed. -/
theorem trimmed_sanitize {s : Text} (trimmed : Trimmed s) : Trimmed (sanitize s) := by
  have visible {c d : UInt16} (replaced : d = c ∨ d = unit '?' ∧ isSurrogate c.toNat = true)
      (cVisible : isWhitespace c = false) : isWhitespace d = false := by
    rcases replaced with rfl | ⟨rfl, _⟩
    · exact cVisible
    · decide
  have head {s t : Text} (related : List.Forall₂
      (fun c d => d = c ∨ d = unit '?' ∧ isSurrogate c.toNat = true) s t)
      (sVisible : ∀ c ∈ s.head?, isWhitespace c = false) :
      ∀ d ∈ t.head?, isWhitespace d = false := by
    cases related with
    | nil => simp
    | cons replaced _ =>
        simp only [List.head?_cons, Option.mem_some_iff, forall_eq'] at sVisible ⊢
        exact visible replaced sVisible
  refine ⟨head (sanitize_forall₂ s) trimmed.1, ?_⟩
  have reversed := List.forall₂_reverse_iff.mpr (sanitize_forall₂ s)
  have last := head reversed (by simpa using trimmed.2)
  simpa using last

theorem isBlank_sanitize (s : Text) : isBlank (sanitize s) = isBlank s := by
  have visible : isWhitespace (unit '?') = false := by decide
  have related := sanitize_forall₂ s
  rw [isBlank, isBlank]
  generalize sanitize s = t at related
  induction related with
  | nil => rfl
  | cons replaced _ ih =>
      rw [List.all_cons, List.all_cons, ih]
      rcases replaced with rfl | ⟨rfl, surrogate⟩
      · rfl
      · rw [visible, isWhitespace_of_isSurrogate surrogate]

/-- Sanitizing adds a question mark wherever it changes the text. -/
theorem wellFormed_of_count_sanitize_le {s : Text}
    (le : (sanitize s).count (unit '?') ≤ s.count (unit '?')) : WellFormed s := by
  have compare {s t : Text} (related : List.Forall₂
      (fun c d => d = c ∨ d = unit '?' ∧ isSurrogate c.toNat = true) s t) :
      s.count (unit '?') ≤ t.count (unit '?') ∧
        (t.count (unit '?') ≤ s.count (unit '?') → t = s) := by
    induction related with
    | nil => simp
    | @cons c d s t replaced _ ih =>
        rcases replaced with rfl | ⟨rfl, surrogate⟩
        · rw [List.count_cons, List.count_cons]
          refine ⟨by omega, fun tailLe => ?_⟩
          rw [ih.2 (by omega)]
        · have other : c ≠ unit '?' := by
            rintro rfl
            exact absurd surrogate (by decide)
          rw [List.count_cons_self, List.count_cons_of_ne other]
          exact ⟨by omega, fun tailLe => by omega⟩
  exact sanitize_eq_self_iff.mp ((compare (sanitize_forall₂ s)).2 le)

theorem wellFormed_of_isBlank {s : Text} (blank : isBlank s = true) : WellFormed s := by
  apply wellFormed_of_count_sanitize_le
  have absent : unit '?' ∉ sanitize s := by
    intro mem
    rw [← isBlank_sanitize, isBlank, List.all_eq_true] at blank
    exact absurd (blank _ mem) (by decide)
  rw [List.count_eq_zero.mpr absent]
  exact Nat.zero_le _

def encodeCodePoint (p : ℕ) : List UInt8 :=
  if p < 0x80 then [UInt8.ofNat p]
  else if p < 0x800 then [UInt8.ofNat (0xC0 + p / 64), UInt8.ofNat (0x80 + p % 64)]
  else if p < 0x10000 then
    [UInt8.ofNat (0xE0 + p / 4096), UInt8.ofNat (0x80 + p / 64 % 64), UInt8.ofNat (0x80 + p % 64)]
  else
    [UInt8.ofNat (0xF0 + p / 262144), UInt8.ofNat (0x80 + p / 4096 % 64),
      UInt8.ofNat (0x80 + p / 64 % 64), UInt8.ofNat (0x80 + p % 64)]

/-- The bytes of one code point of a text. -/
def codePointBytes (p : ℕ) : List UInt8 := encodeCodePoint (replaceSurrogate p)

/-- `String.toByteArray(UTF_8)`. -/
def encodeUtf8 (s : Text) : List UInt8 := (codePoints s).flatMap codePointBytes

/-- A sequence of which at least one byte is missing: how many are, between which bounds
the next one has to be, and the bits read so far. -/
structure Pending where
  needed : ℕ
  lower : ℕ
  upper : ℕ
  value : ℕ

/-- A byte between two sequences. -/
def lead (b : UInt8) : Text × Option Pending :=
  let n := b.toNat
  if n < 0x80 then ([UInt16.ofNat n], none)
  else if 0xC2 ≤ n ∧ n ≤ 0xDF then ([], some ⟨1, 0x80, 0xBF, n - 0xC0⟩)
  else if n = 0xE0 then ([], some ⟨2, 0xA0, 0xBF, 0⟩)
  else if n = 0xED then ([], some ⟨2, 0x80, 0x9F, 0xD⟩)
  else if 0xE1 ≤ n ∧ n ≤ 0xEF then ([], some ⟨2, 0x80, 0xBF, n - 0xE0⟩)
  else if n = 0xF0 then ([], some ⟨3, 0x90, 0xBF, 0⟩)
  else if n = 0xF4 then ([], some ⟨3, 0x80, 0x8F, 4⟩)
  else if 0xF1 ≤ n ∧ n ≤ 0xF3 then ([], some ⟨3, 0x80, 0xBF, n - 0xF0⟩)
  else ([0xFFFD], none)

/-- The units written for one byte, and the sequence that is then incomplete. -/
def advance (state : Option Pending) (b : UInt8) : Text × Option Pending :=
  match state with
  | none => lead b
  | some pending =>
      let n := b.toNat
      if pending.lower ≤ n ∧ n ≤ pending.upper then
        let value := pending.value * 64 + (n - 0x80)
        if pending.needed = 1 then (units value, none)
        else ([], some ⟨pending.needed - 1, 0x80, 0xBF, value⟩)
      else
        let (out, next) := lead b
        (0xFFFD :: out, next)

def decodeFrom : Option Pending → List UInt8 → Text
  | none, [] => []
  | some _, [] => [0xFFFD]
  | state, b :: rest => (advance state b).1 ++ decodeFrom (advance state b).2 rest

/-- `String(bytes, UTF_8)`. -/
def decodeUtf8 (bytes : List UInt8) : Text := decodeFrom none bytes

theorem decodeFrom_cons (state : Option Pending) (b : UInt8) (rest : List UInt8) :
    decodeFrom state (b :: rest) = (advance state b).1 ++ decodeFrom (advance state b).2 rest := by
  cases state <;> rfl

/-- A continuation byte that is in range adds its six bits. -/
theorem decodeFrom_continuation {needed lower upper value bits : ℕ} (rest : List UInt8)
    (small : bits < 64) (inRange : lower ≤ 0x80 + bits ∧ 0x80 + bits ≤ upper) :
    decodeFrom (some ⟨needed, lower, upper, value⟩) (UInt8.ofNat (0x80 + bits) :: rest) =
      if needed = 1 then units (value * 64 + bits) ++ decodeFrom none rest
      else decodeFrom (some ⟨needed - 1, 0x80, 0xBF, value * 64 + bits⟩) rest := by
  have toNat := UInt8.toNat_ofNat_of_lt' (show 0x80 + bits < 256 by omega)
  rw [decodeFrom_cons]
  simp only [advance, toNat, inRange, and_self, if_true, Nat.add_sub_cancel_left]
  split <;> rfl

/-- A lead byte opens a sequence that the next six bits can continue. -/
def Opens (n needed value bits : ℕ) : Prop :=
  ∃ lower upper, lead (UInt8.ofNat n) = ([], some ⟨needed, lower, upper, value⟩) ∧
    lower ≤ 0x80 + bits ∧ 0x80 + bits ≤ upper

theorem decodeFrom_opens {n needed value bits : ℕ} (opens : Opens n needed value bits)
    (small : bits < 64) (rest : List UInt8) :
    decodeFrom none (UInt8.ofNat n :: UInt8.ofNat (0x80 + bits) :: rest) =
      if needed = 1 then units (value * 64 + bits) ++ decodeFrom none rest
      else decodeFrom (some ⟨needed - 1, 0x80, 0xBF, value * 64 + bits⟩) rest := by
  rcases opens with ⟨lower, upper, starts, inRange⟩
  rw [decodeFrom_cons, advance, starts, List.nil_append,
    decodeFrom_continuation rest small inRange]

theorem opens_two {p : ℕ} (low : 0x80 ≤ p) (high : p < 0x800) :
    Opens (0xC0 + p / 64) 1 (p / 64) (p % 64) := by
  have toNat := UInt8.toNat_ofNat_of_lt' (show 0xC0 + p / 64 < 256 by omega)
  refine ⟨0x80, 0xBF, ?_, by omega, by omega⟩
  simp only [lead, toNat]
  rw [if_neg (by omega), if_pos (by omega), Nat.add_sub_cancel_left]

theorem opens_three {p : ℕ} (low : 0x800 ≤ p) (high : p < 0x10000)
    (scalar : p < 0xD800 ∨ 0xDFFF < p) :
    Opens (0xE0 + p / 4096) 2 (p / 4096) (p / 64 % 64) := by
  have toNat := UInt8.toNat_ofNat_of_lt' (show 0xE0 + p / 4096 < 256 by omega)
  by_cases zero : p / 4096 = 0
  · refine ⟨0xA0, 0xBF, ?_, by omega, by omega⟩
    simp only [lead, toNat]
    rw [if_neg (by omega), if_neg (by omega), if_pos (by omega), zero]
  by_cases surrogateBlock : p / 4096 = 0xD
  · refine ⟨0x80, 0x9F, ?_, by omega, by omega⟩
    simp only [lead, toNat]
    rw [if_neg (by omega), if_neg (by omega), if_neg (by omega), if_pos (by omega), surrogateBlock]
  refine ⟨0x80, 0xBF, ?_, by omega, by omega⟩
  simp only [lead, toNat]
  rw [if_neg (by omega), if_neg (by omega), if_neg (by omega), if_neg (by omega),
    if_pos (by omega), Nat.add_sub_cancel_left]

theorem opens_four {p : ℕ} (low : 0x10000 ≤ p) (high : p < 0x110000) :
    Opens (0xF0 + p / 262144) 3 (p / 262144) (p / 4096 % 64) := by
  have toNat := UInt8.toNat_ofNat_of_lt' (show 0xF0 + p / 262144 < 256 by omega)
  by_cases zero : p / 262144 = 0
  · refine ⟨0x90, 0xBF, ?_, by omega, by omega⟩
    simp only [lead, toNat]
    rw [if_neg (by omega), if_neg (by omega), if_neg (by omega), if_neg (by omega),
      if_neg (by omega), if_pos (by omega), zero]
  by_cases four : p / 262144 = 4
  · refine ⟨0x80, 0x8F, ?_, by omega, by omega⟩
    simp only [lead, toNat]
    rw [if_neg (by omega), if_neg (by omega), if_neg (by omega), if_neg (by omega),
      if_neg (by omega), if_neg (by omega), if_pos (by omega), four]
  refine ⟨0x80, 0xBF, ?_, by omega, by omega⟩
  simp only [lead, toNat]
  rw [if_neg (by omega), if_neg (by omega), if_neg (by omega), if_neg (by omega),
    if_neg (by omega), if_neg (by omega), if_neg (by omega), if_pos (by omega),
    Nat.add_sub_cancel_left]

/-- A code point is decoded from its bytes, whatever follows. -/
theorem decodeFrom_encodeCodePoint {p : ℕ} (lt : p < 0x110000) (scalar : isSurrogate p = false)
    (rest : List UInt8) :
    decodeFrom none (encodeCodePoint p ++ rest) = units p ++ decodeFrom none rest := by
  have split : p < 0xD800 ∨ 0xDFFF < p := by
    simp only [isSurrogate, Bool.and_eq_false_iff, decide_eq_false_iff_not] at scalar
    omega
  rw [encodeCodePoint]
  by_cases one : p < 0x80
  · have toNat := UInt8.toNat_ofNat_of_lt' (show p < 256 by omega)
    rw [if_pos one, List.singleton_append, decodeFrom_cons]
    simp only [advance, lead, toNat, if_pos one, units, if_pos (show p < 0x10000 by omega)]
  rw [if_neg one]
  by_cases two : p < 0x800
  · have opens := opens_two (by omega) two
    have value : p / 64 * 64 + p % 64 = p := by omega
    rw [if_pos two, List.cons_append, List.singleton_append,
      decodeFrom_opens opens (by omega), if_pos rfl, value]
  rw [if_neg two]
  by_cases three : p < 0x10000
  · have opens := opens_three (by omega) three split
    have value : (p / 4096 * 64 + p / 64 % 64) * 64 + p % 64 = p := by omega
    rw [if_pos three, List.cons_append, List.cons_append, List.singleton_append,
      decodeFrom_opens opens (by omega), if_neg (by norm_num),
      decodeFrom_continuation rest (by omega) (by omega), if_pos rfl, value]
  rw [if_neg three]
  have opens := opens_four (by omega) lt
  have value : ((p / 262144 * 64 + p / 4096 % 64) * 64 + p / 64 % 64) * 64 + p % 64 = p := by omega
  rw [List.cons_append, List.cons_append, List.cons_append, List.singleton_append,
    decodeFrom_opens opens (by omega), if_neg (by norm_num),
    decodeFrom_continuation _ (by omega) (by omega), if_neg (by norm_num),
    decodeFrom_continuation rest (by omega) (by omega), if_pos rfl, value]

theorem replaceSurrogate_lt {p : ℕ} (lt : p < 0x110000) : replaceSurrogate p < 0x110000 := by
  rw [replaceSurrogate]
  split <;> omega

theorem isSurrogate_replaceSurrogate (p : ℕ) : isSurrogate (replaceSurrogate p) = false := by
  rw [replaceSurrogate]
  split
  · rfl
  · next scalar => simpa using scalar

theorem decodeFrom_codePointBytes {p : ℕ} (lt : p < 0x110000) (rest : List UInt8) :
    decodeFrom none (codePointBytes p ++ rest) =
      units (replaceSurrogate p) ++ decodeFrom none rest :=
  decodeFrom_encodeCodePoint (replaceSurrogate_lt lt) (isSurrogate_replaceSurrogate p) rest

/-- Encoding and decoding replaces the unpaired surrogates and nothing else. -/
theorem decodeUtf8_encodeUtf8 (s : Text) : decodeUtf8 (encodeUtf8 s) = sanitize s := by
  rw [decodeUtf8, encodeUtf8, sanitize]
  have bounded := codePoints_lt s
  generalize codePoints s = ps at bounded
  induction ps with
  | nil => rfl
  | cons p ps ih =>
      rw [List.forall_mem_cons] at bounded
      rw [List.flatMap_cons, List.flatMap_cons, decodeFrom_codePointBytes bounded.1, ih bounded.2]

theorem encodeUtf8_ne_nil {s : Text} (nonempty : s ≠ []) : encodeUtf8 s ≠ [] := by
  intro empty
  have read := decodeUtf8_encodeUtf8 s
  rw [empty] at read
  exact sanitize_ne_nil nonempty read.symm

/-- A code point that is no surrogate. -/
def IsScalar (p : ℕ) : Prop := p < 0x110000 ∧ (p < 0xD800 ∨ 0xDFFF < p)

theorem sanitize_units_append {p : ℕ} (scalar : IsScalar p) (rest : Text) :
    sanitize (units p ++ rest) = units p ++ sanitize rest := by
  rcases scalar with ⟨bound, split⟩
  rw [units]
  split_ifs with small
  · have value : (UInt16.ofNat p).toNat = p := UInt16.toNat_ofNat_of_lt' small
    apply sanitize_cons_scalar
    rw [value, isSurrogate, Bool.and_eq_false_iff, decide_eq_false_iff_not, decide_eq_false_iff_not]
    omega
  · have high : (UInt16.ofNat (0xD800 + (p - 0x10000) / 1024)).toNat =
        0xD800 + (p - 0x10000) / 1024 :=
      UInt16.toNat_ofNat_of_lt' (by simp only [UInt16.size]; omega)
    have low : (UInt16.ofNat (0xDC00 + (p - 0x10000) % 1024)).toNat =
        0xDC00 + (p - 0x10000) % 1024 :=
      UInt16.toNat_ofNat_of_lt' (by simp only [UInt16.size]; omega)
    apply sanitize_pair
    · simp only [isHighSurrogate, high, Bool.and_eq_true, decide_eq_true_eq]
      omega
    · simp only [isLowSurrogate, low, Bool.and_eq_true, decide_eq_true_eq]
      omega

/-- Every way to complete the sequence gives a scalar. -/
def Pending.Completes (pending : Pending) : Prop :=
  1 ≤ pending.needed ∧ 0x80 ≤ pending.lower ∧ pending.upper ≤ 0xBF ∧
    ∀ n, pending.lower ≤ n → n ≤ pending.upper →
      ∀ rest < 64 ^ (pending.needed - 1),
        IsScalar ((pending.value * 64 + (n - 0x80)) * 64 ^ (pending.needed - 1) + rest)

theorem lead_completes (b : UInt8) :
    (∀ rest, sanitize ((lead b).1 ++ rest) = (lead b).1 ++ sanitize rest) ∧
      ∀ pending ∈ (lead b).2, pending.Completes := by
  have plain (p : ℕ) (small : p < 0x80) (rest : Text) :
      sanitize ([UInt16.ofNat p] ++ rest) = [UInt16.ofNat p] ++ sanitize rest := by
    have same : units p = [UInt16.ofNat p] := by rw [units, if_pos (by omega)]
    rw [← same]
    exact sanitize_units_append ⟨by omega, by omega⟩ rest
  have bound := b.toNat_lt
  simp only [lead]
  split_ifs
  · next small => exact ⟨plain _ small, by simp⟩
  all_goals
    first
    | refine ⟨fun rest => rfl, ?_⟩
      intro pending isPending
      cases isPending
      refine ⟨by norm_num, by norm_num, by norm_num, ?_⟩
      intro n low high rest lt
      simp only [Nat.reduceSub, Nat.reducePow, IsScalar] at low high lt ⊢
      omega
    | refine ⟨fun rest => ?_, by simp⟩
      exact sanitize_cons_scalar (by decide) rest

theorem advance_completes {state : Option Pending}
    (completes : ∀ pending ∈ state, pending.Completes) (b : UInt8) :
    (∀ rest, sanitize ((advance state b).1 ++ rest) = (advance state b).1 ++ sanitize rest) ∧
      ∀ pending ∈ (advance state b).2, pending.Completes := by
  have leads := lead_completes b
  cases state with
  | none => exact leads
  | some pending =>
      rcases completes pending rfl with ⟨some, lower, upper, scalar⟩
      simp only [advance]
      split_ifs with inRange last
      · have isScalar : IsScalar (pending.value * 64 + (b.toNat - 0x80)) := by
          have whole := scalar b.toNat inRange.1 inRange.2 0 (Nat.pow_pos (by norm_num))
          rwa [last, Nat.sub_self, pow_zero, Nat.mul_one, Nat.add_zero] at whole
        constructor
        · intro rest
          rw [sanitize_units_append isScalar]
        · intro next isNext
          cases isNext
      · refine ⟨fun rest => rfl, ?_⟩
        intro next isNext
        cases isNext
        have more : pending.needed - 1 = (pending.needed - 1 - 1) + 1 := by omega
        have again : 1 ≤ pending.needed - 1 := by omega
        refine ⟨again, le_rfl, le_rfl, ?_⟩
        intro n low high rest lt
        simp only at low high lt ⊢
        have digit :
            (n - 0x80) * 64 ^ (pending.needed - 1 - 1) + rest < 64 ^ (pending.needed - 1) := by
          rw [more, pow_succ, Nat.add_sub_cancel]
          have small : n - 0x80 ≤ 63 := by omega
          nlinarith [Nat.mul_le_mul_right (64 ^ (pending.needed - 1 - 1)) small]
        have whole := scalar b.toNat inRange.1 inRange.2 _ digit
        have same : (pending.value * 64 + (b.toNat - 0x80)) * 64 ^ (pending.needed - 1) +
            ((n - 0x80) * 64 ^ (pending.needed - 1 - 1) + rest) =
            ((pending.value * 64 + (b.toNat - 0x80)) * 64 + (n - 0x80)) *
              64 ^ (pending.needed - 1 - 1) + rest := by
          rw [more, pow_succ, Nat.add_sub_cancel]
          ring
        rwa [same] at whole
      · refine ⟨fun rest => ?_, leads.2⟩
        rw [List.cons_append, sanitize_cons_scalar (by decide), leads.1]
        rfl

/-- What is decoded has no unpaired surrogate. -/
theorem wellFormed_decodeUtf8 (bytes : List UInt8) : WellFormed (decodeUtf8 bytes) := by
  have fixed (state : Option Pending) (completes : ∀ pending ∈ state, pending.Completes) :
      sanitize (decodeFrom state bytes) = decodeFrom state bytes := by
    induction bytes generalizing state with
    | nil =>
        cases state with
        | none => rfl
        | some pending => rw [decodeFrom]; decide
    | cons b bytes ih =>
        have next := advance_completes completes b
        rw [decodeFrom_cons, next.1, ih _ next.2]
  exact sanitize_eq_self_iff.mp (fixed none (by simp))

end GRoute.Text
