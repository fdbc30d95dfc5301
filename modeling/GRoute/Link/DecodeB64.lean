import GRoute.ConfigParser

/-!
# Decoding shared Base64 texts

`decodeB64` guesses between several forms. The text of an encoding is read in its padded
form, first in the standard alphabet. A URL-safe encoding is misread there whenever what
the standard decoder keeps of it is accepted.
-/

namespace GRoute.ConfigParser

open Text Base64

theorem mem_encodeToString {alphabet : Alphabet} {padded : Bool} {bytes : List UInt8} {c : UInt16}
    (mem : c ∈ encodeToString alphabet padded bytes) :
    c = unit '=' ∨ ∃ v < 64, c = alphabet.encode v := by
  rcases List.mem_append.mp mem with symbols | pads
  · rcases List.mem_map.mp symbols with ⟨v, isSextet, rfl⟩
    exact Or.inr ⟨v, sextets_lt bytes v isSextet, rfl⟩
  · left
    split at pads
    · exact List.eq_of_mem_replicate pads
    · simp at pads

theorem encodeToString_visible (alphabet : Alphabet) (padded : Bool) (bytes : List UInt8) :
    ∀ c ∈ encodeToString alphabet padded bytes, isWhitespace c = false := by
  intro c mem
  rcases mem_encodeToString mem with rfl | ⟨v, lt, rfl⟩
  · decide
  · exact isWhitespace_encode alphabet lt

theorem notMem_encodeToString (alphabet : Alphabet) (padded : Bool) (bytes : List UInt8)
    {c : UInt16} (separator : c ∈ txt " \t\n\r#%:?@") :
    c ∉ encodeToString alphabet padded bytes := by
  intro mem
  rcases mem_encodeToString mem with rfl | ⟨v, lt, rfl⟩
  · exact absurd separator (by decide)
  · have known : txt " \t\n\r#%:?@" ⊆ txt " \t\n\r#%:=?@" := by decide
    exact encode_notMem_separators alphabet lt (known separator)

theorem encode_ne_equals (alphabet : Alphabet) {v : ℕ} (lt : v < 64) :
    alphabet.encode v ≠ unit '=' := by
  intro same
  exact encode_notMem_separators alphabet lt (same ▸ by decide)

theorem bareB64_append (alphabet : Alphabet) {xs : List ℕ} (lt : ∀ v ∈ xs, v < 64) (pads : ℕ) :
    bareB64 (xs.map alphabet.encode ++ List.replicate pads (unit '=')) =
      xs.map alphabet.encode := by
  induction pads with
  | zero =>
      rw [List.replicate_zero, List.append_nil, bareB64, List.rdropWhile_eq_self_iff]
      intro nonempty
      rcases List.mem_map.mp (List.getLast_mem nonempty) with ⟨v, mem, last⟩
      rw [← last, beq_iff_eq]
      exact encode_ne_equals alphabet (lt v mem)
  | succ pads ih =>
      rw [List.replicate_succ', ← List.append_assoc, bareB64,
        List.rdropWhile_concat_pos _ _ _ (by simp)]
      exact ih

theorem paddedB64_map (alphabet : Alphabet) (xs : List ℕ) :
    paddedB64 (xs.map alphabet.encode) =
      xs.map alphabet.encode ++ List.replicate (padding xs.length) (unit '=') := by
  rw [paddedB64, List.length_map, padding]
  split_ifs with whole
  · rw [whole]
    simp
  · rw [Nat.mod_eq_of_lt (by omega : 4 - xs.length % 4 < 4)]

theorem filter_encodeToString (alphabet : Alphabet) (padded : Bool) (bytes : List UInt8) :
    (encodeToString alphabet padded bytes).filter (!isB64Blank ·) =
      encodeToString alphabet padded bytes := by
  rw [List.filter_eq_self]
  intro c mem
  have notBlank (b : UInt16) (separator : b ∈ txt " \t\n\r#%:?@") : c ≠ b := by
    rintro rfl
    exact notMem_encodeToString alphabet padded bytes separator mem
  simp [isB64Blank, notBlank (unit '\n') (by decide), notBlank (unit '\r') (by decide),
    notBlank (unit ' ') (by decide), notBlank (unit '\t') (by decide)]

theorem sextets_ne_nil {bytes : List UInt8} (nonempty : bytes ≠ []) : sextets bytes ≠ [] := by
  fun_cases sextets bytes <;> simp_all

theorem nonemptyDecode_encodeToString (alphabet : Alphabet) {bytes : List UInt8}
    (nonempty : bytes ≠ []) :
    nonemptyDecode alphabet (encodeToString alphabet true bytes) = some bytes := by
  rw [nonemptyDecode, encodeToString, if_pos rfl, decode_encode]
  simp [nonempty]

theorem padded_bare_encodeToString (alphabet : Alphabet) (padded : Bool) (bytes : List UInt8) :
    paddedB64 (bareB64 (encodeToString alphabet padded bytes)) =
      encodeToString alphabet true bytes := by
  have bare : bareB64 (encodeToString alphabet padded bytes) =
      (sextets bytes).map alphabet.encode := by
    cases padded with
    | false => exact bareB64_append alphabet (sextets_lt bytes) 0
    | true => exact bareB64_append alphabet (sextets_lt bytes) _
  rw [bare, paddedB64_map, encodeToString, if_pos rfl]

/-- The padded form is tried first: in the standard alphabet, and then in the other one. -/
theorem decodeB64_encodeToString (alphabet : Alphabet) (padded : Bool) {bytes : List UInt8}
    (nonempty : bytes ≠ []) :
    decodeB64 (encodeToString alphabet padded bytes) =
      some ((nonemptyDecode .standard (encodeToString alphabet true bytes)).getD bytes) := by
  have textNonempty : encodeToString alphabet padded bytes ≠ [] := by
    simp [encodeToString, sextets_ne_nil nonempty]
  have own := nonemptyDecode_encodeToString alphabet nonempty
  simp only [decodeB64]
  rw [(trimmed_of_forall (encodeToString_visible alphabet padded bytes)).trim_eq,
    filter_encodeToString, if_neg textNonempty, padded_bare_encodeToString, List.findSome?_cons,
    List.findSome?_cons]
  cases standard : nonemptyDecode .standard (encodeToString alphabet true bytes) with
  | some decoded => rfl
  | none =>
      cases alphabet with
      | standard =>
          rw [standard] at own
          cases own
      | urlSafe =>
          rw [List.findSome?_cons, own]
          rfl

/-- A standard encoding is read back. -/
theorem decodeB64_standard (padded : Bool) {bytes : List UInt8} (nonempty : bytes ≠ []) :
    decodeB64 (encodeToString .standard padded bytes) = some bytes := by
  rw [decodeB64_encodeToString .standard padded nonempty, nonemptyDecode_encodeToString _ nonempty,
    Option.getD_some]

/-- The standard decoder on a URL-safe encoding: it skips the two largest sextets. -/
theorem nonemptyDecode_standard_urlSafe (bytes : List UInt8) :
    nonemptyDecode .standard (encodeToString .urlSafe true bytes) =
      if Accepts ((sextets bytes).filter (· < 62)).length (padding (sextets bytes).length) ∧
          packSextets ((sextets bytes).filter (· < 62)) ≠ [] then
        some (packSextets ((sextets bytes).filter (· < 62)))
      else none := by
  have few : padding (sextets bytes).length ≤ 2 := by
    have notOne := sextets_length_mod bytes
    simp only [padding]
    omega
  rw [nonemptyDecode, encodeToString, if_pos rfl, decode_standard_urlSafe (sextets_lt _) few]
  by_cases accepts : Accepts ((sextets bytes).filter (· < 62)).length
      (padding (sextets bytes).length)
  · by_cases empty : packSextets ((sextets bytes).filter (· < 62)) = []
    · simp [accepts, empty]
    · simp [accepts, empty]
  · simp [accepts]

/-- The number of units that the URL-safe alphabet writes differently. -/
def unshared (bytes : List UInt8) : ℕ := (sextets bytes).countP (62 ≤ ·)

/-- Without the unshared units a URL-safe encoding is no standard encoding, or an empty one. -/
def Refused (bytes : List UInt8) : Prop :=
  unshared bytes = (sextets bytes).length ∨
    if bytes.length % 3 = 0 then unshared bytes % 4 = 3 else unshared bytes % 4 ≠ 0

instance (bytes : List UInt8) : Decidable (Refused bytes) :=
  inferInstanceAs (Decidable (_ ∨ _))

theorem length_shared (bytes : List UInt8) :
    ((sextets bytes).filter (· < 62)).length + unshared bytes = (sextets bytes).length := by
  have parts := List.length_eq_countP_add_countP (l := sextets bytes) (fun v => decide (v < 62))
  rw [parts, List.countP_eq_length_filter, unshared]
  congr 2
  funext v
  simp

/-- The standard decoder reads something else exactly when it does not refuse. -/
theorem refused_iff (bytes : List UInt8) :
    Refused bytes ↔
      ¬(Accepts ((sextets bytes).filter (· < 62)).length (padding (sextets bytes).length) ∧
        packSextets ((sextets bytes).filter (· < 62)) ≠ []) := by
  have shared := length_shared bytes
  have packed := length_packSextets ((sextets bytes).filter (· < 62))
  rw [← List.length_pos_iff_ne_nil, packed, Refused, Accepts, padding]
  rcases sextets_remainder bytes with ⟨third, fourth⟩ | ⟨third, fourth⟩ | ⟨third, fourth⟩
  · rw [third, fourth, if_pos rfl]
    omega
  · rw [third, fourth, if_neg (by norm_num)]
    omega
  · rw [third, fourth, if_neg (by norm_num)]
    omega

/-- What is read with fewer sextets is shorter. -/
theorem packSextets_shared_eq_iff {bytes : List UInt8} (read : ¬Refused bytes) :
    packSextets ((sextets bytes).filter (· < 62)) = bytes ↔ unshared bytes = 0 := by
  have shared := length_shared bytes
  have size := length_sextets bytes
  have packed := length_packSextets ((sextets bytes).filter (· < 62))
  constructor
  · intro same
    rw [same] at packed
    rw [Refused] at read
    split at read <;> omega
  · intro none
    have all : (sextets bytes).filter (· < 62) = sextets bytes := by
      apply List.filter_eq_self.mpr
      rw [← List.length_filter_eq_length_iff]
      omega
    rw [all, packSextets_sextets]

/-- Blanks in an encoding are dropped, wherever they stand. -/
theorem decodeB64_of_filter {input : Text} {alphabet : Alphabet} {padded : Bool}
    {bytes : List UInt8}
    (inserted : input.filter (!isB64Blank ·) = encodeToString alphabet padded bytes) :
    decodeB64 input = decodeB64 (encodeToString alphabet padded bytes) := by
  have visible : ∀ c ∈ input, (!isB64Blank c) = true → isWhitespace c = false := by
    intro c mem kept
    apply encodeToString_visible alphabet padded bytes
    rw [← inserted]
    exact List.mem_filter.mpr ⟨mem, kept⟩
  have kept : (trim input).filter (!isB64Blank ·) =
      (trim (encodeToString alphabet padded bytes)).filter (!isB64Blank ·) := by
    rw [filter_trim visible, inserted,
      (trimmed_of_forall (encodeToString_visible alphabet padded bytes)).trim_eq,
      filter_encodeToString]
  simp only [decodeB64, kept]

/-- An encoding with blanks in it is read back, unless it is a URL-safe one with unshared units
that the standard decoder does not refuse. -/
theorem decodeB64_eq_some_iff {bytes : List UInt8} (nonempty : bytes ≠ []) {alphabet : Alphabet}
    {padded : Bool} {input : Text}
    (inserted : input.filter (!isB64Blank ·) = encodeToString alphabet padded bytes) :
    decodeB64 input = some bytes ↔
      alphabet = .standard ∨ unshared bytes = 0 ∨ Refused bytes := by
  rw [decodeB64_of_filter inserted, decodeB64_encodeToString alphabet padded nonempty,
    Option.some.injEq]
  cases alphabet with
  | standard =>
      rw [nonemptyDecode_encodeToString .standard nonempty, Option.getD_some]
      simp
  | urlSafe =>
      rw [nonemptyDecode_standard_urlSafe]
      by_cases refused : Refused bytes
      · rw [if_neg ((refused_iff bytes).mp refused), Option.getD_none]
        simp [refused]
      · rw [if_pos (not_not.mp (mt (refused_iff bytes).mpr refused)), Option.getD_some,
          packSextets_shared_eq_iff refused]
        simp [refused]

/-- The encoding `AQ==` with a line break and a blank in it. -/
theorem decodeB64_eq_some_iff_blanks : decodeB64 (txt "A\n Q==") = some [1] := by
  have inserted : (txt "A\n Q==").filter (!isB64Blank ·) = encodeToString .urlSafe true [1] := by
    decide
  exact (decodeB64_eq_some_iff (by decide) inserted).mpr (.inr (.inl (by decide)))

/-- The text is `----AAAA`. The four unshared units are dropped together, and the bytes they
stand for are lost. -/
theorem decodeB64_unshared :
    decodeB64 (encodeToString .urlSafe false [251, 239, 190, 0, 0, 0]) = some [0, 0, 0] ∧
      decodeB64 (encodeToString .urlSafe false [251, 239, 190, 0, 0, 0]) ≠
        some [251, 239, 190, 0, 0, 0] := by
  decide

theorem countP_symbol_paddedB64 (alphabet : Alphabet) (bare : Text) :
    ((paddedB64 bare).map alphabet.symbol).countP Symbol.isSextet ≤ bare.length := by
  have bound : (bare.map alphabet.symbol).countP Symbol.isSextet ≤ bare.length :=
    List.countP_le_length.trans (List.length_map _).le
  rw [paddedB64]
  split
  · exact bound
  · rw [List.map_append, List.countP_append, List.map_replicate, symbol_equals,
      List.countP_replicate]
    exact bound

/-- There are fewer bytes than units in the text. -/
theorem length_of_decodeB64 {input : Text} {bytes : List UInt8}
    (decodes : decodeB64 input = some bytes) : bytes.length < input.length := by
  simp only [decodeB64] at decodes
  split at decodes
  · cases decodes
  · rcases List.exists_of_findSome?_eq_some decodes with ⟨candidate, isCandidate, some⟩
    rcases List.exists_of_findSome?_eq_some some with ⟨alphabet, -, decoded⟩
    rw [nonemptyDecode, Option.filter_eq_some_iff] at decoded
    have size := process_length decoded.1 (of_decide_eq_true decoded.2)
    have kept : ((trim input).filter (!isB64Blank ·)).length ≤ input.length :=
      (List.length_filter_le _ _).trans (length_trim_le input)
    have bare := (List.rdropWhile_prefix (· == unit '=')
      ((trim input).filter (!isB64Blank ·))).length_le
    have bound {t : Text} : (t.map alphabet.symbol).countP Symbol.isSextet ≤ t.length :=
      List.countP_le_length.trans (List.length_map _).le
    simp only [List.mem_cons, List.not_mem_nil, or_false] at isCandidate
    rcases isCandidate with rfl | rfl | rfl
    · have padded :=
        countP_symbol_paddedB64 alphabet (bareB64 ((trim input).filter (!isB64Blank ·)))
      rw [State.count, Nat.add_zero] at size
      exact size.trans_le (padded.trans (bare.trans kept))
    · exact size.trans_le (bound.trans (bare.trans kept))
    · exact size.trans_le (bound.trans kept)

end GRoute.ConfigParser
