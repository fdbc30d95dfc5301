import GRoute.Foundation.FormCoding

/-!
# Percent coding

A text in which every code point is escaped except those that `keep` leaves alone. The decoder is
the one for forms, which reads a plus sign as a space. So a text is read back after its plus signs
are escaped, and without that exactly when no plus sign was left alone. Decoding makes a text with
an escape or a plus sign smaller, so it leaves a text alone only if it has neither or is malformed.
-/

namespace GRoute.Text

/-- Letters, digits and `-`, `.`, `_`, `~`. -/
def isUnreserved (p : ℕ) : Bool :=
  isAsciiLetterOrDigit p || p == 0x2D || p == 0x2E || p == 0x5F || p == 0x7E

def percentEncodeCodePoint (keep : ℕ → Bool) (p : ℕ) : Text :=
  if keep p then [UInt16.ofNat p] else (codePointBytes p).flatMap percent

/-- The bytes of the text in UTF-8, escaped unless `keep` leaves their code point alone. -/
def percentEncode (keep : ℕ → Bool) (s : Text) : Text :=
  (codePoints s).flatMap (percentEncodeCodePoint keep)

/-- Only visible ASCII units stand for themselves, and the percent sign does not. -/
def KeepsPlain (keep : ℕ → Bool) : Prop := ∀ p, keep p = true → 0x20 < p ∧ p < 0x7F ∧ p ≠ 0x25

theorem keepsPlain_isUnreserved : KeepsPlain isUnreserved := by
  intro p kept
  simp only [isUnreserved, isAsciiLetterOrDigit, Bool.or_eq_true, Bool.and_eq_true,
    decide_eq_true_eq, beq_iff_eq] at kept
  omega

/-- The plus sign may be left alone too. -/
theorem KeepsPlain.orPlus {keep : ℕ → Bool} (plain : KeepsPlain keep) :
    KeepsPlain fun p => keep p || p == 0x2B := by
  intro p kept
  rcases Bool.or_eq_true _ _ ▸ kept with kept | isPlus
  · exact plain p kept
  · have value := beq_iff_eq.mp isPlus
    omega

section

variable {keep : ℕ → Bool} (plain : KeepsPlain keep)

include plain

theorem KeepsPlain.toNat_ofNat {p : ℕ} (kept : keep p = true) : (UInt16.ofNat p).toNat = p := by
  have range := plain p kept
  apply UInt16.toNat_ofNat_of_lt'
  simp only [UInt16.size]
  omega

theorem KeepsPlain.ofNat_ne {p : ℕ} (kept : keep p = true) {c : UInt16} (other : p ≠ c.toNat) :
    UInt16.ofNat p ≠ c := by
  intro same
  apply other
  rw [← same, plain.toNat_ofNat kept]

theorem KeepsPlain.units_eq {p : ℕ} (kept : keep p = true) :
    units (replaceSurrogate p) = [UInt16.ofNat p] := by
  have range := plain p kept
  exact units_replaceSurrogate_of_lt (by omega)

theorem mem_percentEncode {s : Text} {c : UInt16} (mem : c ∈ percentEncode keep s) :
    keep c.toNat = true ∨ c = unit '%' ∨ ∃ n < 16, c = hexDigit n := by
  rcases List.mem_flatMap.mp mem with ⟨p, -, inPiece⟩
  rw [percentEncodeCodePoint] at inPiece
  split at inPiece
  · next kept =>
      left
      rw [List.mem_singleton.mp inPiece, plain.toNat_ofNat kept]
      exact kept
  · right
    rcases List.mem_flatMap.mp inPiece with ⟨b, -, inEscape⟩
    have small := b.toNat_lt
    simp only [percent, List.mem_cons, List.not_mem_nil, or_false] at inEscape
    rcases inEscape with rfl | rfl | rfl
    · exact .inl rfl
    · exact .inr ⟨b.toNat / 16, by omega, rfl⟩
    · exact .inr ⟨b.toNat % 16, by omega, rfl⟩

theorem notMem_percentEncode {c : UInt16} (dropped : keep c.toNat = false)
    (outside : c ∉ txt "%0123456789ABCDEF") (s : Text) : c ∉ percentEncode keep s := by
  intro mem
  rcases mem_percentEncode plain mem with kept | rfl | ⟨n, lt, rfl⟩
  · rw [dropped] at kept
    cases kept
  · exact outside (by decide)
  · exact outside (by interval_cases n <;> decide)

theorem percentEncode_visible (s : Text) : ∀ c ∈ percentEncode keep s, isWhitespace c = false := by
  intro c mem
  rcases mem_percentEncode plain mem with kept | rfl | ⟨n, lt, rfl⟩
  · have range := plain _ kept
    by_contra white
    have whiteRange := toNat_of_isWhitespace (by simpa using white)
    omega
  · decide
  · interval_cases n <;> decide

theorem escapePlus_percentEncodeCodePoint (p : ℕ) :
    escapePlus (percentEncodeCodePoint keep p) =
      percentEncodeCodePoint (fun q => keep q && q != 0x2B) p := by
  by_cases isPlus : p = 0x2B
  · subst isPlus
    rw [percentEncodeCodePoint, percentEncodeCodePoint]
    cases keep 0x2B <;> decide
  · have sameTest : (keep p && p != 0x2B) = keep p := by simp [isPlus]
    have sameCode : percentEncodeCodePoint (fun q => keep q && q != 0x2B) p =
        percentEncodeCodePoint keep p := by
      simp only [percentEncodeCodePoint, sameTest]
    rw [sameCode, escapePlus, replace_of_notMem]
    intro mem
    rw [percentEncodeCodePoint] at mem
    split at mem
    · next kept =>
        exact plain.ofNat_ne (c := unit '+') kept isPlus (List.mem_singleton.mp mem).symm
    · rcases List.mem_flatMap.mp mem with ⟨b, -, inEscape⟩
      exact (isFormUnit_of_mem_percent inEscape).2 rfl

/-- Escaping the plus signs of an encoded text is leaving them alone no longer. -/
theorem escapePlus_percentEncode (s : Text) :
    escapePlus (percentEncode keep s) = percentEncode (fun p => keep p && p != 0x2B) s := by
  have pieces := escapePlus_percentEncodeCodePoint plain
  rw [escapePlus, replace, percentEncode, List.flatMap_assoc, percentEncode]
  exact List.flatMap_congr fun p _ => pieces p

/-- What a plus sign that was left alone is read as. -/
def spaceForPlus (c : UInt16) : UInt16 := if c = unit '+' then unit ' ' else c

omit plain in
theorem map_spaceForPlus_units {p : ℕ} (lt : p < 0x110000) (notPlus : p ≠ 0x2B) :
    (units (replaceSurrogate p)).map spaceForPlus = units (replaceSurrogate p) := by
  have others : ∀ c ∈ units (replaceSurrogate p), spaceForPlus c = c := by
    intro c mem
    rw [spaceForPlus, if_neg]
    rintro rfl
    have other : replaceSurrogate p ≠ 0x2B := by
      rw [replaceSurrogate]
      split <;> omega
    have value : (unit '+').toNat = 0x2B := by decide
    rcases toNat_of_mem_units (replaceSurrogate_lt lt) mem with same | surrogate
    · exact other (same.symm.trans value)
    · omega
  rw [List.map_congr_left others, List.map_id']

theorem urlDecode_percentEncode_of_plus (keepsPlus : keep 0x2B = true) (s : Text) :
    urlDecode (percentEncode keep s) = some ((sanitize s).map spaceForPlus) := by
  have coded : ∀ p ∈ codePoints s, Coded (percentEncodeCodePoint keep p)
      ((units (replaceSurrogate p)).map spaceForPlus) := by
    intro p mem
    have lt := codePoints_lt s p mem
    by_cases isPlus : p = 0x2B
    · subst isPlus
      rw [percentEncodeCodePoint, if_pos keepsPlus]
      exact .space
    · rw [map_spaceForPlus_units lt isPlus, percentEncodeCodePoint]
      split
      · next kept =>
          rw [plain.units_eq kept]
          exact .plain (plain.ofNat_ne kept (plain p kept).2.2) (plain.ofNat_ne kept isPlus)
      · exact coded_escape lt
  rw [urlDecode, percentEncode, urlDecodeFrom_coded Decodes.nil (codePoints s) coded]
  simp only [List.nil_append, sanitize, List.map_flatMap]

theorem urlDecode_percentEncode (dropsPlus : keep 0x2B = false) (s : Text) :
    urlDecode (percentEncode keep s) = some (sanitize s) := by
  have coded : ∀ p ∈ codePoints s, Coded (percentEncodeCodePoint keep p)
      (units (replaceSurrogate p)) := by
    intro p mem
    rw [percentEncodeCodePoint]
    split
    · next kept =>
        have notPlus : p ≠ 0x2B := by
          rintro rfl
          rw [dropsPlus] at kept
          cases kept
        rw [plain.units_eq kept]
        exact .plain (plain.ofNat_ne kept (plain p kept).2.2) (plain.ofNat_ne kept notPlus)
    · exact coded_escape (codePoints_lt s p mem)
  rw [urlDecode, percentEncode, urlDecodeFrom_coded Decodes.nil (codePoints s) coded]
  rfl

/-- A text is read back up to its unpaired surrogates if the plus signs are escaped first. -/
theorem urlDecode_escapePlus_percentEncode (s : Text) :
    urlDecode (escapePlus (percentEncode keep s)) = some (sanitize s) := by
  rw [escapePlus_percentEncode plain]
  apply urlDecode_percentEncode
  · intro p kept
    exact plain p (Bool.and_eq_true_iff.mp kept).1
  · simp

end

theorem map_spaceForPlus_sanitize_eq_iff {s : Text} :
    (sanitize s).map spaceForPlus = s ↔ WellFormed s ∧ unit '+' ∉ s := by
  apply map_sanitize_eq_iff
  · intro c other
    rw [spaceForPlus, if_neg other]
  · intro c
    rw [spaceForPlus]
    split
    · decide
    · assumption
  · decide

theorem percentEncode_ne_nil {s : Text} (nonempty : s ≠ []) (keep : ℕ → Bool) :
    percentEncode keep s ≠ [] := by
  have bytes := encodeUtf8_ne_nil nonempty
  intro empty
  rw [percentEncode, List.flatMap_eq_nil_iff] at empty
  apply bytes
  rw [encodeUtf8, List.flatMap_eq_nil_iff]
  intro p mem
  have piece := empty p mem
  rw [percentEncodeCodePoint] at piece
  split at piece
  · cases piece
  · rw [List.flatMap_eq_nil_iff] at piece
    rw [List.eq_nil_iff_forall_not_mem]
    intro b isByte
    have escape := piece b isByte
    simp [percent] at escape

/-- No more units are decoded than there were bytes. -/
theorem length_decodeFrom_le (state : Option Pending) (bytes : List UInt8) :
    (decodeFrom state bytes).length ≤ bytes.length + state.isSome.toNat := by
  have leads (b : UInt8) : (lead b).1.length + (lead b).2.isSome.toNat = 1 := by
    simp only [lead]
    split_ifs <;> rfl
  have unitsLength (p : ℕ) : (units p).length ≤ 2 := by
    rw [units]
    split <;> simp
  have advances (state : Option Pending) (b : UInt8) :
      (advance state b).1.length + (advance state b).2.isSome.toNat ≤ 1 + state.isSome.toNat := by
    have leadsTo := leads b
    cases state with
    | none => exact leadsTo.le
    | some pending =>
        have written := unitsLength (pending.value * 64 + (b.toNat - 0x80))
        simp only [advance, Option.isSome_some, Bool.toNat_true]
        split_ifs
        · simpa using written
        · simp
        · simp only [List.length_cons]
          omega
  induction bytes generalizing state with
  | nil => cases state <;> simp [decodeFrom]
  | cons b bytes ih =>
      have now := advances state b
      have later := ih (advance state b).2
      rw [decodeFrom_cons, List.length_append, List.length_cons]
      omega

/-- The number of units that are not white space. -/
def visibleCount (s : Text) : ℕ := s.countP (!isWhitespace ·)

theorem visibleCount_cons (c : UInt16) (s : Text) :
    visibleCount (c :: s) = visibleCount s + if isWhitespace c then 0 else 1 := by
  rw [visibleCount, List.countP_cons]
  cases isWhitespace c <;> rfl

theorem visibleCount_append (s t : Text) :
    visibleCount (s ++ t) = visibleCount s + visibleCount t := List.countP_append

theorem visibleCount_trim (s : Text) : visibleCount (trim s) = visibleCount s := by
  have dropped (s : Text) : visibleCount (s.dropWhile isWhitespace) = visibleCount s := by
    induction s with
    | nil => rfl
    | cons c rest ih =>
        rw [List.dropWhile_cons]
        split
        · next white => rw [visibleCount_cons, if_pos white, ih, Nat.add_zero]
        · rfl
  have reversed (s : Text) : visibleCount s.reverse = visibleCount s := List.countP_reverse
  rw [trim, List.rdropWhile, reversed, dropped, reversed, dropped]

theorem digit_of_isWhitespace {c : UInt16} (white : isWhitespace c = true) (radix : ℕ) :
    digit radix c = none := by
  have none : decimalDigit c = none ∧ letterDigit c = none := by
    simp only [isWhitespace, Bool.or_eq_true, Bool.and_eq_true, decide_eq_true_eq, beq_iff_eq,
      UInt16.le_iff_toNat_le, ← UInt16.toNat_inj, UInt16.reduceToNat] at white
    rw [← UInt16.ofNat_toNat (x := c)]
    generalize c.toNat = n at white
    rcases white with
      ((((((((range | range) | rfl) | rfl) | range) | rfl) | rfl) | rfl) | rfl) | rfl
    · rcases range with ⟨low, high⟩
      interval_cases n <;> decide
    · rcases range with ⟨low, high⟩
      interval_cases n <;> decide
    · decide
    · decide
    · rcases range with ⟨low, high⟩
      interval_cases n <;> decide
    all_goals decide
  rw [digit, none.1, none.2]
  rfl

/-- The first digit of an escape is visible. -/
theorem visible_of_parseInt {high low : UInt16} {v : ℤ} (reads : parseInt 16 [high, low] = some v) :
    isWhitespace high = false := by
  by_contra white
  rw [Bool.not_eq_false] at white
  have notMinus : high ≠ unit '-' := by
    rintro rfl
    exact absurd white (by decide)
  have notPlus : high ≠ unit '+' := by
    rintro rfl
    exact absurd white (by decide)
  have fails : magnitude 16 [high, low] = none := by
    simp [magnitude, digit_of_isWhitespace white]
  rw [parseInt, signed, if_neg notMinus, if_neg notPlus, fails] at reads
  cases reads

theorem visibleCount_decodeUtf8_le (bytes : List UInt8) :
    visibleCount (decodeUtf8 bytes) ≤ bytes.length := by
  have written := length_decodeFrom_le none bytes
  exact List.countP_le_length.trans (by simpa [decodeUtf8] using written)

/-- Decoding makes fewer visible units of an escape or a plus sign. -/
theorem visibleCount_urlDecodeFrom {pending : List UInt8} {s decoded : Text}
    (decodes : urlDecodeFrom pending s = some decoded) :
    visibleCount decoded ≤ visibleCount s + pending.length ∧
      (unit '%' ∈ s ∨ unit '+' ∈ s → visibleCount decoded < visibleCount s + pending.length) := by
  have percentVisible : isWhitespace (unit '%') = false := by decide
  have plusVisible : isWhitespace (unit '+') = false := by decide
  have spaceWhite : isWhitespace (unit ' ') = true := by decide
  fun_induction urlDecodeFrom pending s generalizing decoded with
  | case1 pending =>
      rw [Option.some.injEq] at decodes
      subst decodes
      have written := visibleCount_decodeUtf8_le pending
      refine ⟨by simpa [visibleCount] using written, ?_⟩
      rintro (mem | mem) <;> cases mem
  | case3 pending high low rest v reads nonneg ih =>
      have later := (ih decodes).1
      have highVisible := visible_of_parseInt reads
      rw [List.length_append, List.length_singleton] at later
      rw [visibleCount_cons, visibleCount_cons, visibleCount_cons, percentVisible, highVisible]
      simp only [Bool.false_eq_true, if_false]
      exact ⟨by omega, fun _ => by omega⟩
  | case6 pending rest _ ih =>
      rcases Option.map_eq_some_iff.mp decodes with ⟨later, isLater, rfl⟩
      have written := visibleCount_decodeUtf8_le pending
      have bound := (ih isLater).1
      rw [List.length_nil] at bound
      rw [visibleCount_append, visibleCount_cons, visibleCount_cons, spaceWhite, plusVisible]
      simp only [if_true, Bool.false_eq_true, if_false]
      exact ⟨by omega, fun _ => by omega⟩
  | case7 pending c rest notEscape notPlus ih =>
      rcases Option.map_eq_some_iff.mp decodes with ⟨later, isLater, rfl⟩
      have written := visibleCount_decodeUtf8_le pending
      have bound := ih isLater
      rw [List.length_nil] at bound
      rw [visibleCount_append, visibleCount_cons, visibleCount_cons]
      refine ⟨by omega, ?_⟩
      intro coded
      have inRest : unit '%' ∈ rest ∨ unit '+' ∈ rest := by
        simpa [Ne.symm notEscape, Ne.symm notPlus] using coded
      have strict := bound.2 inRest
      omega
  | _ => cases decodes

theorem visibleCount_sanitize (s : Text) : visibleCount (sanitize s) = visibleCount s := by
  have related := sanitize_forall₂ s
  generalize sanitize s = t at related
  induction related with
  | nil => rfl
  | @cons c d s t replaced _ ih =>
      rw [visibleCount_cons, visibleCount_cons, ih]
      rcases replaced with rfl | ⟨rfl, surrogate⟩
      · rfl
      · rw [isWhitespace_of_isSurrogate surrogate]
        rfl

theorem wellFormed_of_trim_sanitize {s : Text} (same : trim (sanitize s) = trim s) :
    WellFormed s := by
  have visible : isWhitespace (unit '?') = false := by decide
  apply wellFormed_of_count_sanitize_le
  rw [← count_trim visible (sanitize s), same, count_trim visible]

/-- Decoding a text that was sanitized changes nothing but white space at the ends exactly when the
text is well formed and there is nothing to decode in it. -/
theorem trim_decode_sanitize_eq_iff {s : Text} :
    trim ((urlDecode (sanitize s)).getD (sanitize s)) = trim s ↔
      WellFormed s ∧ (urlDecode s = none ∨ unit '%' ∉ s ∧ unit '+' ∉ s) := by
  constructor
  · intro same
    cases decodes : urlDecode (sanitize s) with
    | none =>
        rw [decodes, Option.getD_none] at same
        have wellFormed := wellFormed_of_trim_sanitize same
        rw [sanitize_eq_self_iff.mpr wellFormed] at decodes
        exact ⟨wellFormed, .inl decodes⟩
    | some decoded =>
        rw [decodes, Option.getD_some] at same
        have counts := congrArg visibleCount same
        rw [visibleCount_trim, visibleCount_trim, ← visibleCount_sanitize s] at counts
        have smaller := (visibleCount_urlDecodeFrom decodes).2
        have plain : unit '%' ∉ sanitize s ∧ unit '+' ∉ sanitize s := by
          rw [← not_or]
          intro coded
          have strict := smaller coded
          rw [counts, List.length_nil] at strict
          omega
        rw [urlDecode_of_plain plain.1 plain.2, Option.some.injEq] at decodes
        rw [← decodes] at same
        have wellFormed := wellFormed_of_trim_sanitize same
        rw [sanitize_eq_self_iff.mpr wellFormed] at plain
        exact ⟨wellFormed, .inr plain⟩
  · rintro ⟨wellFormed, fails | ⟨noEscape, noPlus⟩⟩
    · rw [sanitize_eq_self_iff.mpr wellFormed, fails, Option.getD_none]
    · rw [sanitize_eq_self_iff.mpr wellFormed, urlDecode_of_plain noEscape noPlus, Option.getD_some]

end GRoute.Text
