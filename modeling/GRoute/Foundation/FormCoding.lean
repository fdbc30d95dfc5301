import GRoute.Foundation.Numeral
import GRoute.Foundation.Utf8

/-!
# Form coding

`URLEncoder.encode(s, "UTF-8")` and `URLDecoder.decode(s, "UTF-8")`. The decoder
collects the bytes of a run of `%` escapes and decodes the run as a whole, so its
state is the list of the bytes of the current run. Each escape goes through
`Integer.parseInt`, with the signs and the digits that function accepts.
-/

namespace GRoute.Text

def isAsciiLetterOrDigit (p : ℕ) : Bool :=
  (48 ≤ p && p ≤ 57) || (65 ≤ p && p ≤ 90) || (97 ≤ p && p ≤ 122)

/-- The code points that the encoder leaves alone: letters, digits and `-`, `_`, `.`, `*`. -/
def isFormSafe (p : ℕ) : Bool :=
  isAsciiLetterOrDigit p || p == 0x2D || p == 0x5F || p == 0x2E || p == 0x2A

def hexDigit (n : ℕ) : UInt16 := UInt16.ofNat (if n < 10 then 48 + n else 55 + n)

def percent (b : UInt8) : Text :=
  [unit '%', hexDigit (b.toNat / 16), hexDigit (b.toNat % 16)]

def formEncodeCodePoint (p : ℕ) : Text :=
  if isFormSafe p then [UInt16.ofNat p]
  else if p = 0x20 then [unit '+']
  else (codePointBytes p).flatMap percent

/-- `URLEncoder.encode(s, "UTF-8")`. -/
def urlEncode (s : Text) : Text := (codePoints s).flatMap formEncodeCodePoint

/-- The decoder in the middle of a run of escapes that has given the bytes `pending`. -/
def urlDecodeFrom (pending : List UInt8) (s : Text) : Option Text :=
  match s with
  | [] => some (decodeUtf8 pending)
  | c :: rest =>
      if c = unit '%' then
        match rest with
        | high :: low :: rest =>
            match parseInt 16 [high, low] with
            | some v =>
                if v < 0 then none else urlDecodeFrom (pending ++ [UInt8.ofNat v.toNat]) rest
            | none => none
        | _ => none
      else if c = unit '+' then (urlDecodeFrom [] rest).map (decodeUtf8 pending ++ unit ' ' :: ·)
      else (urlDecodeFrom [] rest).map (decodeUtf8 pending ++ c :: ·)

/-- `URLDecoder.decode(s, "UTF-8")`. -/
def urlDecode (s : Text) : Option Text := urlDecodeFrom [] s

/-- The code units of encoded texts. -/
def isFormUnit (c : UInt16) : Bool := isFormSafe c.toNat || c == unit '+' || c == unit '%'

theorem hexDigit_eq {n : ℕ} (lt : n < 16) :
    digit 16 (hexDigit n) = some n ∧ hexDigit n ≠ unit '-' ∧ hexDigit n ≠ unit '+' ∧
      isFormUnit (hexDigit n) = true ∧ hexDigit n ≠ unit '%' := by
  interval_cases n <;> decide

theorem isFormUnit_of_mem_percent {b : UInt8} {c : UInt16} (mem : c ∈ percent b) :
    isFormUnit c = true ∧ c ≠ unit '+' := by
  have lt := b.toNat_lt
  simp only [percent, List.mem_cons, List.not_mem_nil, or_false] at mem
  rcases mem with rfl | rfl | rfl
  · decide
  · have facts := hexDigit_eq (n := b.toNat / 16) (by omega)
    exact ⟨facts.2.2.2.1, facts.2.2.1⟩
  · have facts := hexDigit_eq (n := b.toNat % 16) (by omega)
    exact ⟨facts.2.2.2.1, facts.2.2.1⟩

theorem isFormSafe_lt {p : ℕ} (safe : isFormSafe p = true) : p < 0x80 := by
  simp only [isFormSafe, isAsciiLetterOrDigit, Bool.or_eq_true, Bool.and_eq_true,
    decide_eq_true_eq, beq_iff_eq] at safe
  omega

theorem toNat_ofNat_of_safe {p : ℕ} (safe : isFormSafe p = true) : (UInt16.ofNat p).toNat = p := by
  have lt := isFormSafe_lt safe
  exact UInt16.toNat_ofNat_of_lt' (by simp only [UInt16.size]; omega)

theorem safe_ne {p : ℕ} (safe : isFormSafe p = true) :
    UInt16.ofNat p ≠ unit '%' ∧ UInt16.ofNat p ≠ unit '+' := by
  have toNat := toNat_ofNat_of_safe safe
  constructor
  · intro same
    rw [← toNat, same] at safe
    exact absurd safe (by decide)
  · intro same
    rw [← toNat, same] at safe
    exact absurd safe (by decide)

theorem isFormUnit_of_mem_urlEncode {s : Text} {c : UInt16} (mem : c ∈ urlEncode s) :
    isFormUnit c = true := by
  rcases List.mem_flatMap.mp mem with ⟨p, _, mem⟩
  rw [formEncodeCodePoint] at mem
  split at mem
  · next safe =>
      rw [List.mem_singleton.mp mem, isFormUnit, toNat_ofNat_of_safe safe, safe]
      rfl
  · split at mem
    · rw [List.mem_singleton.mp mem]
      decide
    · rcases List.mem_flatMap.mp mem with ⟨b, _, mem⟩
      exact (isFormUnit_of_mem_percent mem).1

/-- A unit outside the alphabet does not occur in an encoded text. -/
theorem notMem_urlEncode {s : Text} {c : UInt16} (outside : isFormUnit c = false) :
    c ∉ urlEncode s := by
  intro mem
  rw [isFormUnit_of_mem_urlEncode mem] at outside
  cases outside

theorem isWhitespace_of_isFormUnit {c : UInt16} (formUnit : isFormUnit c = true) :
    isWhitespace c = false := by
  simp only [isFormUnit, isFormSafe, isAsciiLetterOrDigit, Bool.or_eq_true, Bool.and_eq_true,
    decide_eq_true_eq, beq_iff_eq, ← UInt16.toNat_inj,
    show (unit '+').toNat = 0x2B by decide, show (unit '%').toNat = 0x25 by decide] at formUnit
  by_contra white
  have range := toNat_of_isWhitespace (by simpa using white)
  omega

theorem urlDecodeFrom_percent (pending : List UInt8) (b : UInt8) (rest : Text) :
    urlDecodeFrom pending (percent b ++ rest) = urlDecodeFrom (pending ++ [b]) rest := by
  have lt := b.toNat_lt
  have high := hexDigit_eq (n := b.toNat / 16) (by omega)
  have low := hexDigit_eq (n := b.toNat % 16) (by omega)
  have value : b.toNat / 16 * 16 + b.toNat % 16 = b.toNat := by omega
  have read : parseInt 16 [hexDigit (b.toNat / 16), hexDigit (b.toNat % 16)] =
      some (b.toNat : ℤ) := by
    have magnitudeEq : magnitude 16 [hexDigit (b.toNat / 16), hexDigit (b.toNat % 16)] =
        some b.toNat := by
      simp [magnitude, high.1, low.1, value]
    rw [parseInt, signed, if_neg high.2.1, if_neg high.2.2.1, magnitudeEq, Option.map_some,
      Option.filter_some, if_pos]
    · rfl
    · simp only [Int.ofNat_eq_natCast, decide_eq_true_eq]
      omega
  rw [percent, List.cons_append, List.cons_append, List.cons_append, List.nil_append,
    urlDecodeFrom, if_pos rfl]
  simp only [read]
  rw [if_neg (by omega), Int.toNat_natCast, UInt8.ofNat_toNat]

theorem urlDecodeFrom_bytes (pending bytes : List UInt8) (rest : Text) :
    urlDecodeFrom pending (bytes.flatMap percent ++ rest) =
      urlDecodeFrom (pending ++ bytes) rest := by
  induction bytes generalizing pending with
  | nil => simp
  | cons b bytes ih =>
      rw [List.flatMap_cons, List.append_assoc, urlDecodeFrom_percent, ih, List.append_assoc]
      rfl

theorem urlDecodeFrom_plain (pending : List UInt8) {c : UInt16} (rest : Text)
    (notEscape : c ≠ unit '%') (notPlus : c ≠ unit '+') :
    urlDecodeFrom pending (c :: rest) =
      (urlDecodeFrom [] rest).map (decodeUtf8 pending ++ c :: ·) := by
  rw [urlDecodeFrom.eq_def]
  simp only [if_neg notEscape, if_neg notPlus]

/-- A text without escapes and plus signs is decoded to itself. -/
theorem urlDecode_of_plain {s : Text} (noEscape : unit '%' ∉ s) (noPlus : unit '+' ∉ s) :
    urlDecode s = some s := by
  rw [urlDecode]
  induction s with
  | nil => rfl
  | cons c rest ih =>
      simp only [List.mem_cons, not_or] at noEscape noPlus
      rw [urlDecodeFrom_plain [] rest (Ne.symm noEscape.1) (Ne.symm noPlus.1),
        ih noEscape.2 noPlus.2]
      rfl

/-- The bytes of a run decode to `out` whatever bytes follow them in the run. -/
def Decodes (pending : List UInt8) (out : Text) : Prop :=
  ∀ rest, decodeFrom none (pending ++ rest) = out ++ decodeFrom none rest

theorem Decodes.nil : Decodes [] [] := fun _ => rfl

theorem Decodes.decodeUtf8_eq {pending : List UInt8} {out : Text} (decodes : Decodes pending out) :
    decodeUtf8 pending = out := by
  have whole := decodes []
  rw [List.append_nil] at whole
  rw [decodeUtf8, whole]
  exact List.append_nil out

theorem Decodes.codePoint {pending : List UInt8} {out : Text} (decodes : Decodes pending out)
    {p : ℕ} (lt : p < 0x110000) :
    Decodes (pending ++ codePointBytes p) (out ++ units (replaceSurrogate p)) := by
  intro rest
  rw [List.append_assoc, decodes, decodeFrom_codePointBytes lt, List.append_assoc]

/-- A piece of encoded text and the text it stands for. -/
inductive Coded : Text → Text → Prop
  | plain {c : UInt16} (notEscape : c ≠ unit '%') (notPlus : c ≠ unit '+') : Coded [c] [c]
  | space : Coded [unit '+'] [unit ' ']
  | escaped {bytes : List UInt8} {out : Text}
      (decodes : ∀ {pending before}, Decodes pending before →
        Decodes (pending ++ bytes) (before ++ out)) : Coded (bytes.flatMap percent) out

/-- Decoding a sequence of coded pieces, in the middle of a run. -/
theorem urlDecodeFrom_coded {code image : ℕ → Text} {pending : List UInt8} {before : Text}
    (decodes : Decodes pending before) (ps : List ℕ)
    (coded : ∀ p ∈ ps, Coded (code p) (image p)) :
    urlDecodeFrom pending (ps.flatMap code) = some (before ++ ps.flatMap image) := by
  induction ps generalizing pending before with
  | nil =>
      rw [List.flatMap_nil, urlDecodeFrom, decodes.decodeUtf8_eq, List.flatMap_nil, List.append_nil]
  | cons p ps ih =>
      rw [List.forall_mem_cons] at coded
      rw [List.flatMap_cons, List.flatMap_cons]
      have head := coded.1
      generalize code p = piece at head
      generalize image p = text at head
      cases head with
      | plain notEscape notPlus =>
          rw [List.singleton_append, urlDecodeFrom_plain pending _ notEscape notPlus,
            ih Decodes.nil coded.2, decodes.decodeUtf8_eq]
          rfl
      | space =>
          rw [List.singleton_append, urlDecodeFrom.eq_def]
          simp only [if_neg (show unit '+' ≠ unit '%' by decide), if_true]
          rw [ih Decodes.nil coded.2, decodes.decodeUtf8_eq]
          rfl
      | escaped continues =>
          rw [urlDecodeFrom_bytes, ih (continues decodes) coded.2, List.append_assoc]

theorem coded_escape {p : ℕ} (lt : p < 0x110000) :
    Coded ((codePointBytes p).flatMap percent) (units (replaceSurrogate p)) :=
  .escaped fun decodes => decodes.codePoint lt

theorem units_of_safe {p : ℕ} (safe : isFormSafe p = true) :
    units (replaceSurrogate p) = [UInt16.ofNat p] :=
  units_replaceSurrogate_of_lt ((isFormSafe_lt safe).trans (by decide))

theorem coded_formEncodeCodePoint {p : ℕ} (lt : p < 0x110000) :
    Coded (formEncodeCodePoint p) (units (replaceSurrogate p)) := by
  rw [formEncodeCodePoint]
  split
  · next safe =>
      rw [units_of_safe safe]
      exact .plain (safe_ne safe).1 (safe_ne safe).2
  · split
    · next space =>
        subst space
        exact .space
    · exact coded_escape lt

/-- Form coding replaces the unpaired surrogates and nothing else. -/
theorem urlDecode_urlEncode (s : Text) : urlDecode (urlEncode s) = some (sanitize s) := by
  rw [urlDecode, urlEncode, urlDecodeFrom_coded Decodes.nil (codePoints s)
    fun p mem => coded_formEncodeCodePoint (codePoints_lt s p mem)]
  rfl

/-- The encoded text with its plus signs escaped. -/
def escapePlus (s : Text) : Text := replace s (unit '+') (txt "%2B")

/-- What becomes of a unit when the plus sign for a space is escaped. -/
def plusForSpace (c : UInt16) : UInt16 := if c = unit ' ' then unit '+' else c

theorem plusForSpace_ne_space (c : UInt16) : plusForSpace c ≠ unit ' ' := by
  rw [plusForSpace]
  split
  · decide
  · assumption

theorem map_plusForSpace_of_notMem {s : Text} (noSpace : unit ' ' ∉ s) :
    s.map plusForSpace = s := by
  induction s with
  | nil => rfl
  | cons c rest ih =>
      simp only [List.mem_cons, not_or] at noSpace
      rw [List.map_cons, ih noSpace.2, plusForSpace, if_neg (Ne.symm noSpace.1)]

theorem escapePlus_formEncodeCodePoint (p : ℕ) : escapePlus (formEncodeCodePoint p) =
    if p = 0x20 then (codePointBytes 0x2B).flatMap percent else formEncodeCodePoint p := by
  by_cases space : p = 0x20
  · subst space
    decide
  · rw [if_neg space, escapePlus, replace_of_notMem]
    intro mem
    rw [formEncodeCodePoint, if_neg space] at mem
    split at mem
    · next safe => exact (safe_ne safe).2 (List.mem_singleton.mp mem).symm
    · rcases List.mem_flatMap.mp mem with ⟨b, _, mem⟩
      exact (isFormUnit_of_mem_percent mem).2 rfl

theorem units_map_plusForSpace {p : ℕ} (lt : p < 0x110000) :
    (units (replaceSurrogate p)).map plusForSpace =
      if p = 0x20 then [unit '+'] else units (replaceSurrogate p) := by
  by_cases space : p = 0x20
  · subst space
    decide
  rw [if_neg space]
  apply map_plusForSpace_of_notMem
  intro mem
  have other : replaceSurrogate p ≠ 0x20 := by
    rw [replaceSurrogate]
    split <;> omega
  have value : (unit ' ').toNat = 0x20 := by decide
  rcases toNat_of_mem_units (replaceSurrogate_lt lt) mem with same | surrogate
  · exact other (same.symm.trans value)
  · omega

/-- A space comes back from `escapePlus` as a plus sign. -/
theorem urlDecode_escapePlus_urlEncode (s : Text) :
    urlDecode (escapePlus (urlEncode s)) = some ((sanitize s).map plusForSpace) := by
  have pieces : escapePlus (urlEncode s) =
      (codePoints s).flatMap fun p => escapePlus (formEncodeCodePoint p) := by
    simp only [escapePlus, replace, urlEncode, List.flatMap_assoc]
  have coded : ∀ p ∈ codePoints s, Coded (escapePlus (formEncodeCodePoint p))
      ((units (replaceSurrogate p)).map plusForSpace) := by
    intro p mem
    have lt := codePoints_lt s p mem
    rw [escapePlus_formEncodeCodePoint, units_map_plusForSpace lt]
    split
    · exact coded_escape (by norm_num)
    · exact coded_formEncodeCodePoint lt
  rw [urlDecode, pieces, urlDecodeFrom_coded Decodes.nil (codePoints s) coded]
  simp only [List.nil_append, sanitize, List.map_flatMap]

/-- A text survives that one unit is replaced in it exactly when it is well formed and does not
have the unit. -/
theorem map_sanitize_eq_iff {f : UInt16 → UInt16} {a : UInt16} {s : Text}
    (kept : ∀ c, c ≠ a → f c = c) (avoids : ∀ c, f c ≠ a) (notMark : unit '?' ≠ a) :
    (sanitize s).map f = s ↔ WellFormed s ∧ a ∉ s := by
  rw [← sanitize_eq_self_iff]
  constructor
  · have related := sanitize_forall₂ s
    generalize sanitize s = t at related
    intro fixed
    induction related with
    | nil => simp
    | @cons c d s t replaced _ ih =>
        rw [List.map_cons, List.cons.injEq] at fixed
        rcases ih fixed.2 with ⟨same, absent⟩
        have other : c ≠ a := by
          rintro rfl
          exact avoids d fixed.1
        have isKept : d = c := by
          rcases replaced with isKept | ⟨rfl, _⟩
          · exact isKept
          · exact (kept _ notMark).symm.trans fixed.1
        rw [isKept, same]
        exact ⟨rfl, by simp [Ne.symm other, absent]⟩
  · rintro ⟨wellFormed, absent⟩
    rw [wellFormed, List.map_congr_left fun c mem => kept c fun same => absent (same ▸ mem),
      List.map_id']

/-- The text survives exactly when it is well formed and has no space. -/
theorem map_plusForSpace_sanitize_eq_iff {s : Text} :
    (sanitize s).map plusForSpace = s ↔ WellFormed s ∧ unit ' ' ∉ s := by
  apply map_sanitize_eq_iff _ plusForSpace_ne_space (by decide)
  intro c other
  rw [plusForSpace, if_neg other]

end GRoute.Text
