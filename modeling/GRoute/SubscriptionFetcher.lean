import GRoute.Link.DecodeB64

/-!
# Subscription bodies

`decodeMaybeBase64` of `SubscriptionFetcher.kt`. A body that shows a config is taken as it is. Any
other body is decoded as Base64, in the standard alphabet first, and the first decoding that shows a
config is taken. A URL-safe body is misread when what the standard alphabet keeps of it still shows
a config.
-/

namespace GRoute.SubscriptionFetcher

open Text Base64 ConfigParser

/-- `SCHEMES`. -/
def schemes : List String :=
  ["vless://", "vmess://", "trojan://", "ss://", "ssr://", "socks5://", "socks4://", "socks://",
    "http://", "hysteria2://", "hysteria://", "hy2://", "hy://", "tuic://", "ikev2://",
    "wireguard://", "wg://", "warp://", "juicity://", "anytls://", "mieru://", "naive+"]

variable (casing : CaseMapping)

/-- One of the schemes occurs in the text, in any case. -/
def showsScheme (text : Text) : Bool :=
  schemes.any fun scheme => containsText (casing.lowercase text) (txt scheme)

def hasConfig (text : Text) : Bool :=
  let lower := casing.lowercase text
  let t := trim text
  showsScheme casing text ||
    (startsWith t [unit '\x7b'] || startsWith t (txt "[")) &&
      (containsText lower (txt "\x22outbounds\x22") || containsText lower (txt "\x22protocol\x22"))

def isInvisible (c : UInt16) : Bool := c == 0xFEFF || c == 0x200B || c == 0x200E || c == 0x200F

def strip (raw : Text) : Text := trim (raw.filter (!isInvisible ·))

/-- The alphabets of the flags and whether `NO_PADDING` is one of them, which the decoder ignores
like `NO_WRAP`. -/
def flags : List (Alphabet × Bool) :=
  [(.standard, false), (.urlSafe, false), (.standard, true), (.urlSafe, true)]

/-- The decoding for one flag, if there is one and it shows a config. -/
def attempt (text : Text) (flag : Alphabet × Bool) : Option Text :=
  ((decode flag.1 text).map decodeUtf8).filter (hasConfig casing ·)

def decodeMaybeBase64 (body : Text) : Text :=
  let trimmed := strip body
  if hasConfig casing trimmed then trimmed
  else
    let packed := trimmed.filter (!isWhitespace ·)
    let padded := packed ++ List.replicate ((4 - packed.length % 4) % 4) (unit '=')
    ((flags.findSome? (attempt casing packed)).or (flags.findSome? (attempt casing padded))).getD
      trimmed

/-- How a text is served. -/
inductive BodyForm
  | plain
  | encoded (alphabet : Alphabet) (padded : Bool)
  deriving DecidableEq, Repr

def BodyForm.write (form : BodyForm) (text : Text) : Text :=
  match form with
  | plain => text
  | encoded alphabet padded => encodeToString alphabet padded (encodeUtf8 text)

/-- What the standard alphabet makes of the URL-safe encoding, if it accepts it. It skips the units
of the two largest sextets. -/
def misreading (padded : Bool) (text : Text) : Option Text :=
  let written := sextets (encodeUtf8 text)
  let kept := written.filter (· < 62)
  if Accepts kept.length (if padded then padding written.length else 0) then
    some (decodeUtf8 (packSextets kept))
  else none

/-- The body is read back: an encoded text has no unpaired surrogate, and no misreading of it that
shows a config is another text. -/
def BodyForm.Survives (casing : CaseMapping) (form : BodyForm) (text : Text) : Prop :=
  match form with
  | plain => True
  | encoded .standard _ => WellFormed text
  | encoded .urlSafe padded =>
      WellFormed text ∧
        ∀ misread, misreading padded text = some misread → hasConfig casing misread = true →
          misread = text

variable {casing} {text : Text} {alphabet : Alphabet} {padded : Bool}

theorem decode_encodeToString (alphabet : Alphabet) (padded : Bool) (bytes : List UInt8) :
    decode alphabet (encodeToString alphabet padded bytes) = some bytes := by
  cases padded with
  | true => exact decode_encode alphabet bytes
  | false =>
      have unpadded := process_sextets (sextets bytes) (Nat.zero_le 2)
      have accepts : Accepts (sextets bytes).length 0 := .inl ⟨rfl, sextets_length_mod bytes⟩
      rw [List.replicate_zero, List.append_nil, if_pos accepts, packSextets_sextets] at unpadded
      rw [encodeToString, if_neg (by decide), List.append_nil, decode,
        map_symbol_encode alphabet (sextets_lt bytes), unpadded]

theorem decode_standard_eq_misreading (padded : Bool) (text : Text) :
    (decode .standard (encodeToString .urlSafe padded (encodeUtf8 text))).map decodeUtf8 =
      misreading padded text := by
  have few : (if padded then padding (sextets (encodeUtf8 text)).length else 0) ≤ 2 := by
    have notOne := sextets_length_mod (encodeUtf8 text)
    simp only [padding]
    split <;> omega
  have shape : encodeToString .urlSafe padded (encodeUtf8 text) =
      (sextets (encodeUtf8 text)).map Alphabet.urlSafe.encode ++
        List.replicate (if padded then padding (sextets (encodeUtf8 text)).length else 0)
          (unit '=') := by
    cases padded <;> rfl
  rw [shape, decode_standard_urlSafe (sextets_lt _) few, apply_ite (Option.map decodeUtf8)]
  rfl

/-- The units of an encoding are ASCII. -/
theorem toNat_lt_of_mem_encodeToString {bytes : List UInt8} {c : UInt16}
    (mem : c ∈ encodeToString alphabet padded bytes) : c.toNat < 0x80 := by
  rcases mem_encodeToString mem with rfl | ⟨v, lt, rfl⟩
  · decide
  · cases alphabet <;> (interval_cases v <;> decide)

theorem wellFormed_encodeToString (bytes : List UInt8) :
    WellFormed (encodeToString alphabet padded bytes) := by
  rw [← sanitize_eq_self_iff]
  have scalars : ∀ c ∈ encodeToString alphabet padded bytes, isSurrogate c.toNat = false := by
    intro c mem
    have small := toNat_lt_of_mem_encodeToString mem
    exact isSurrogate_of_lt (by omega)
  have whole := sanitize_append_scalars scalars []
  rwa [sanitize_nil, List.append_nil] at whole

theorem strip_encodeToString (bytes : List UInt8) :
    strip (encodeToString alphabet padded bytes) = encodeToString alphabet padded bytes := by
  have kept : (encodeToString alphabet padded bytes).filter (!isInvisible ·) =
      encodeToString alphabet padded bytes := by
    rw [List.filter_eq_self]
    intro c mem
    have small := toNat_lt_of_mem_encodeToString mem
    simp only [isInvisible, Bool.not_eq_true', Bool.or_eq_false_iff, beq_eq_false_iff_ne, ne_eq,
      ← UInt16.toNat_inj, UInt16.reduceToNat]
    omega
  rw [strip, kept, (trimmed_of_forall (encodeToString_visible alphabet padded bytes)).trim_eq]

theorem packed_encodeToString (bytes : List UInt8) :
    (encodeToString alphabet padded bytes).filter (!isWhitespace ·) =
      encodeToString alphabet padded bytes := by
  rw [List.filter_eq_self]
  intro c mem
  simp [encodeToString_visible alphabet padded bytes c mem]

theorem findSome?_flags (packed : Text) :
    flags.findSome? (attempt casing packed) =
      (attempt casing packed (.standard, false)).or (attempt casing packed (.urlSafe, false)) := by
  have standard : attempt casing packed (.standard, true) =
      attempt casing packed (.standard, false) := rfl
  have urlSafe : attempt casing packed (.urlSafe, true) =
      attempt casing packed (.urlSafe, false) := rfl
  simp only [flags, List.findSome?_cons, List.findSome?_nil, standard, urlSafe]
  cases attempt casing packed (.standard, false) with
  | some _ => rfl
  | none => cases attempt casing packed (.urlSafe, false) <;> rfl

/-- Whatever a body is decoded to has no unpaired surrogate. -/
theorem wellFormed_of_findSome? {packed out : Text}
    (found : flags.findSome? (attempt casing packed) = some out) : WellFormed out := by
  rcases List.exists_of_findSome?_eq_some found with ⟨flag, -, attempted⟩
  rcases Option.map_eq_some_iff.mp (Option.filter_eq_some_iff.mp attempted).1 with ⟨bytes, -, rfl⟩
  exact wellFormed_decodeUtf8 bytes

theorem decodeMaybeBase64_encoded
    (notConfig : hasConfig casing (encodeToString alphabet padded (encodeUtf8 text)) = false) :
    ∃ later, decodeMaybeBase64 casing (encodeToString alphabet padded (encodeUtf8 text)) =
      ((flags.findSome? (attempt casing (encodeToString alphabet padded (encodeUtf8 text)))).or
        later).getD (encodeToString alphabet padded (encodeUtf8 text)) ∧
      ∀ out ∈ later, WellFormed out := by
  simp only [decodeMaybeBase64, strip_encodeToString, notConfig, Bool.false_eq_true, if_false,
    packed_encodeToString]
  exact ⟨_, rfl, fun out isLater => wellFormed_of_findSome? isLater⟩

/-- A text that comes back from its encoding can be written in UTF-8. -/
theorem wellFormed_of_decodeMaybeBase64
    (notConfig : hasConfig casing (encodeToString alphabet padded (encodeUtf8 text)) = false)
    (same : decodeMaybeBase64 casing (encodeToString alphabet padded (encodeUtf8 text)) = text) :
    WellFormed text := by
  rcases decodeMaybeBase64_encoded notConfig with ⟨later, value, laterWellFormed⟩
  rw [same] at value
  rw [value]
  cases found : flags.findSome? (attempt casing (encodeToString alphabet padded (encodeUtf8 text)))
  with
  | some out => exact wellFormed_of_findSome? found
  | none =>
      cases later with
      | some out => exact laterWellFormed out rfl
      | none => exact wellFormed_encodeToString _

/-- In its own alphabet a body is read back. -/
theorem attempt_own (shows : hasConfig casing text = true) (wellFormed : WellFormed text)
    (alphabet : Alphabet) (padded : Bool) :
    attempt casing (encodeToString alphabet padded (encodeUtf8 text)) (alphabet, false) =
      some text := by
  rw [attempt, decode_encodeToString, Option.map_some, decodeUtf8_encodeUtf8,
    sanitize_eq_self_iff.mpr wellFormed, Option.filter_some, if_pos shows]

theorem decodeMaybeBase64_standard
    (notConfig : hasConfig casing (encodeToString .standard padded (encodeUtf8 text)) = false)
    (shows : hasConfig casing text = true) :
    decodeMaybeBase64 casing (encodeToString .standard padded (encodeUtf8 text)) = text ↔
      WellFormed text := by
  constructor
  · exact wellFormed_of_decodeMaybeBase64 notConfig
  · intro wellFormed
    rcases decodeMaybeBase64_encoded notConfig with ⟨later, value, -⟩
    rw [value, findSome?_flags, attempt_own shows wellFormed]
    rfl

theorem decodeMaybeBase64_urlSafe
    (notConfig : hasConfig casing (encodeToString .urlSafe padded (encodeUtf8 text)) = false)
    (shows : hasConfig casing text = true) (wellFormed : WellFormed text) :
    decodeMaybeBase64 casing (encodeToString .urlSafe padded (encodeUtf8 text)) =
      ((misreading padded text).filter (hasConfig casing ·)).getD text := by
  rcases decodeMaybeBase64_encoded notConfig with ⟨later, value, -⟩
  rw [value, findSome?_flags, attempt_own shows wellFormed, attempt, decode_standard_eq_misreading]
  cases (misreading padded text).filter (hasConfig casing ·) <;> rfl

theorem hasConfig_of_showsScheme (shows : showsScheme casing text = true) :
    hasConfig casing text = true := by
  rw [hasConfig, shows]
  rfl

theorem decodeMaybeBase64_plain (stripped : strip text = text)
    (shows : hasConfig casing text = true) : decodeMaybeBase64 casing text = text := by
  simp only [decodeMaybeBase64, stripped, shows, if_true]

/-- A body is exact unless it is misread in the wrong alphabet, or cannot be written in UTF-8. -/
theorem decodeMaybeBase64_write_iff (casing : CaseMapping) (form : BodyForm) {text : Text}
    (shows : showsScheme casing text = true) (stripped : strip text = text)
    (notConfig : form ≠ .plain → hasConfig casing (form.write text) = false) :
    decodeMaybeBase64 casing (form.write text) = text ↔ form.Survives casing text := by
  have isConfig := hasConfig_of_showsScheme shows
  cases form with
  | plain =>
      rw [BodyForm.write, BodyForm.Survives, iff_true]
      exact decodeMaybeBase64_plain stripped isConfig
  | encoded alphabet padded =>
      have encodedNotConfig := notConfig (by simp)
      cases alphabet with
      | standard => exact decodeMaybeBase64_standard encodedNotConfig isConfig
      | urlSafe =>
          have readBack (wellFormed : WellFormed text) :
              decodeMaybeBase64 casing (encodeToString .urlSafe padded (encodeUtf8 text)) = text ↔
                ∀ misread, misreading padded text = some misread →
                  hasConfig casing misread = true → misread = text := by
            rw [decodeMaybeBase64_urlSafe encodedNotConfig isConfig wellFormed]
            cases misreading padded text with
            | none => simp
            | some misread =>
                rw [Option.filter_some]
                split
                · next misreadShows => simp [misreadShows]
                · next hides => simp [hides]
          constructor
          · intro same
            have wellFormed := wellFormed_of_decodeMaybeBase64 encodedNotConfig same
            exact ⟨wellFormed, (readBack wellFormed).mp same⟩
          · rintro ⟨wellFormed, survives⟩
            exact (readBack wellFormed).mpr survives

theorem decodeMaybeBase64_write_link :
    decodeMaybeBase64 .ascii ((BodyForm.encoded .urlSafe true).write (txt "ss://abc")) =
        txt "ss://abc" ∧
      showsScheme .ascii (txt "ss://abc") = true := by
  have shows : showsScheme .ascii (txt "ss://abc") = true := by decide +kernel
  have notMisread : misreading true (txt "ss://abc") = some (txt "ss://abc") := by decide +kernel
  refine ⟨(decodeMaybeBase64_write_iff .ascii _ shows (by decide +kernel) ?_).mpr ?_, shows⟩
  · intro _
    decide +kernel
  · refine ⟨by decide, fun misread isMisread _ => ?_⟩
    rw [notMisread, Option.some.injEq] at isMisread
    exact isMisread.symm

/-- The last sextet of `ss://a???` is 63. Without it the body still shows a link, with one question
mark less. -/
theorem misreads_urlSafe :
    showsScheme .ascii (txt "ss://a???") = true ∧ strip (txt "ss://a???") = txt "ss://a???" ∧
      hasConfig .ascii ((BodyForm.encoded .urlSafe true).write (txt "ss://a???")) = false ∧
      decodeMaybeBase64 .ascii ((BodyForm.encoded .urlSafe true).write (txt "ss://a???")) =
        txt "ss://a??" := by
  refine ⟨by decide +kernel, by decide +kernel, by decide +kernel, by decide +kernel⟩

end GRoute.SubscriptionFetcher
