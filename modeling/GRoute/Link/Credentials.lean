import GRoute.Foundation.Lists
import GRoute.Foundation.PercentCoding
import GRoute.Link.Endpoint

/-!
# Percent-coded credentials

The user part of a link is decoded by `pctDecode` for VLESS, Trojan, Hysteria2 and Shadowsocks, and
as a form for proxies, IKEv2 and WireGuard, where a plus sign becomes a space. The identity of an
IKEv2 link is decoded twice. The user part of a Shadowsocks link is taken for Base64 if its decoding
happens to have a colon.
-/

namespace GRoute.ConfigParser

open Text

variable {platform : Platform}

/-- A credential may have letters, digits and `-`, `.`, `_`, `~`, `+` as they are. -/
def isCredentialUnit (p : ℕ) : Bool := isUnreserved p || p == 0x2B

def encodeCredential (s : Text) : Text := percentEncode isCredentialUnit s

theorem keepsPlain_isCredentialUnit : KeepsPlain isCredentialUnit := keepsPlain_isUnreserved.orPlus

/-- The separators of a link are escaped. -/
def DropsSeparators (keep : ℕ → Bool) : Prop := ∀ c ∈ txt "/@#?", keep c.toNat = false

theorem dropsSeparators_of_all {keep : ℕ → Bool}
    (drops : (txt "/@#?").all (fun c => !keep c.toNat) = true) : DropsSeparators keep :=
  fun c mem => by simpa using List.all_eq_true.mp drops c mem

theorem plainPart_percentEncode {keep : ℕ → Bool} (plain : KeepsPlain keep)
    (drops : DropsSeparators keep) (s : Text) : PlainPart (percentEncode keep s) := by
  intro c mem
  refine ⟨percentEncode_visible plain s c mem, fun separator => ?_⟩
  have outside : (txt "/@#?").all (fun c => !(txt "%0123456789ABCDEF").contains c) = true := by
    decide
  have notCode : c ∉ txt "%0123456789ABCDEF" := by
    simpa using List.all_eq_true.mp outside c separator
  exact notMem_percentEncode plain (drops c separator) notCode s mem

theorem plainPart_encodeCredential (s : Text) : PlainPart (encodeCredential s) :=
  plainPart_percentEncode keepsPlain_isCredentialUnit (dropsSeparators_of_all (by decide)) s

theorem noColon_encodeCredential (s : Text) : unit ':' ∉ encodeCredential s :=
  notMem_percentEncode keepsPlain_isCredentialUnit (by decide) (by decide) s

theorem pctDecode_percentEncode {keep : ℕ → Bool} (plain : KeepsPlain keep) (s : Text) :
    pctDecode (percentEncode keep s) = sanitize s := by
  rw [pctDecode, urlDecode_escapePlus_percentEncode plain, Option.getD_some]

theorem dec_encodeCredential (s : Text) :
    dec (encodeCredential s) = (sanitize s).map spaceForPlus := by
  rw [dec, encodeCredential,
    urlDecode_percentEncode_of_plus keepsPlain_isCredentialUnit (by decide), Option.getD_some]

theorem formDecode_encodeCredential (s : Text) :
    formDecode (encodeCredential s) = (sanitize s).map spaceForPlus := dec_encodeCredential s

/-- The two credentials of a user part. -/
def userAndSecret (name secret : Text) : Text :=
  encodeCredential name ++ unit ':' :: encodeCredential secret

theorem plainPart_userAndSecret (name secret : Text) : PlainPart (userAndSecret name secret) :=
  plainPart_append.mpr ⟨plainPart_encodeCredential name,
    plainPart_cons.mpr ⟨by decide, plainPart_encodeCredential secret⟩⟩

/-- The user parts that carry a credential, alone or beside another one, and the field that the
credential belongs to. -/
def credentialForms (scheme : Scheme) (s other : Text) : List (Text × (ProxyConfig → Text)) :=
  match scheme with
  | .vless => [(encodeCredential s, ProxyConfig.uuid)]
  | .trojan | .hysteria2 | .hy2 => [(encodeCredential s, ProxyConfig.password)]
  | .socks5 | .socks | .http =>
      [(encodeCredential s, ProxyConfig.uuid), (userAndSecret s other, ProxyConfig.uuid),
        (userAndSecret other s, ProxyConfig.password)]
  | .ikev2 =>
      [(userAndSecret s other, ProxyConfig.uuid), (userAndSecret other s, ProxyConfig.password)]
  | .wireguard | .wg => [(encodeCredential s, ProxyConfig.privateKey)]
  | .vmess | .ss => []

/-- The user part is decoded as a form. -/
def Scheme.isFormDecoded : Scheme → Bool
  | .socks5 | .socks | .http | .ikev2 | .wireguard | .wg => true
  | _ => false

/-- What becomes of a credential. -/
def Scheme.readCredential (scheme : Scheme) (s : Text) : Text :=
  if scheme.isFormDecoded then (sanitize s).map spaceForPlus else sanitize s

theorem parseProxyUrl_credentialForm {scheme : Scheme} {proto s other : Text}
    {form : Text × (ProxyConfig → Text)} {host tail : Text} {port : ℤ} {source : ConfigSource}
    {id : Text}
    (isForm : form ∈ [(encodeCredential s, ProxyConfig.uuid),
      (userAndSecret s other, ProxyConfig.uuid), (userAndSecret other s, ProxyConfig.password)])
    (isFormDecoded : scheme.isFormDecoded = true) (isHost : IsHost host) (isInt : IsInt port)
    (isTail : IsTail tail) :
    ∃ c, parseProxyUrl (endpoint form.1 (hostPort host port) ++ tail) proto source id = some c ∧
      form.2 c = scheme.readCredential s := by
  have serverPlain := plainPart_hostPort isHost.plain port
  have alone := parseProxyUrl_endpoint (plainPart_encodeCredential s) serverPlain rfl
    isHost.nonempty isInt isTail source id proto
  have pair (name secret : Text) := parseProxyUrl_endpoint (plainPart_userAndSecret name secret)
    serverPlain rfl isHost.nonempty isInt isTail source id proto
  have first (name secret : Text) : upTo (userAndSecret name secret) (unit ':') =
      encodeCredential name := upTo_append (noColon_encodeCredential name) _
  have second (name secret : Text) : after (userAndSecret name secret) (unit ':') =
      encodeCredential secret := after_append (noColon_encodeCredential name) _
  rw [Scheme.readCredential, if_pos isFormDecoded, ← dec_encodeCredential]
  simp only [List.mem_cons, List.not_mem_nil, or_false] at isForm
  rcases isForm with rfl | rfl | rfl
  · rcases alone with ⟨c, parses, -, -, uuid, -⟩
    exact ⟨c, parses, uuid.trans (by rw [upTo_of_notMem (noColon_encodeCredential s)])⟩
  · rcases pair s other with ⟨c, parses, -, -, uuid, -⟩
    exact ⟨c, parses, uuid.trans (by rw [first])⟩
  · rcases pair other s with ⟨c, parses, -, -, -, password⟩
    exact ⟨c, parses, password.trans (by rw [second])⟩

theorem parseIkev2_userAndSecret {name host tail : Text} (nonempty : name ≠ []) (secret : Text)
    (isHost : IsHost host) {port : ℤ} (isInt : IsInt port) (isTail : IsTail tail)
    (source : ConfigSource) (id : Text) :
    ∃ c, parseIkev2 platform (endpoint (userAndSecret name secret) (hostPort host port) ++ tail)
        source id = some c ∧
      c.uuid = (sanitize name).map spaceForPlus ∧
      c.password = (sanitize secret).map spaceForPlus := by
  have serverPlain := plainPart_hostPort isHost.plain port
  rcases parseIkev2_endpoint (plainPart_userAndSecret name secret) serverPlain
    (splitHostPort_host isHost isInt) isTail source id rfl (percentEncode_ne_nil nonempty _)
    (noColon_encodeCredential name) (by simp [hostPort]) with
    ⟨c, parses, -, -, uuid, password, -⟩
  refine ⟨c, parses, ?_, ?_⟩
  · rw [uuid, formDecode_encodeCredential]
  · rw [password, formDecode_encodeCredential]

/-- A credential is read in the same way wherever it stands. -/
theorem parse_credentialForm (platform : Platform) {scheme : Scheme} {s other : Text}
    (nonempty : s ≠ []) (otherNonempty : other ≠ []) {form : Text × (ProxyConfig → Text)}
    (isForm : form ∈ credentialForms scheme s other) {host tail : Text} (isHost : IsHost host)
    {port : ℤ} (isInt : IsInt port) (isTail : IsTail tail) (source : ConfigSource) (id : Text) :
    ∃ c, parse platform (linkText scheme form.1 (hostPort host port) tail) source id = some c ∧
      form.2 c = scheme.readCredential s := by
  have serverPlain := plainPart_hostPort isHost.plain port
  have userPlain : PlainPart form.1 := by
    have single := plainPart_encodeCredential s
    have before := plainPart_userAndSecret s other
    have behind := plainPart_userAndSecret other s
    cases scheme <;>
      simp only [credentialForms, List.mem_cons, List.not_mem_nil, or_false] at isForm
    case socks5 | socks | http => rcases isForm with rfl | rfl | rfl <;> assumption
    case ikev2 => rcases isForm with rfl | rfl <;> assumption
    all_goals
      subst isForm
      assumption
  have reads := splitHostPort_host isHost isInt
  have single := plainPart_encodeCredential s
  have isTail' := isTail.rdropWhile
  rw [parse_linkText userPlain serverPlain]
  cases scheme with
  | vmess | ss => cases isForm
  | vless =>
      rw [List.mem_singleton.mp isForm]
      rcases parseVless_endpoint single serverPlain reads isTail' source id with
        ⟨c, parses, -, -, uuid⟩
      exact ⟨c, parses, uuid.trans (pctDecode_percentEncode keepsPlain_isCredentialUnit s)⟩
  | trojan =>
      rw [List.mem_singleton.mp isForm]
      rcases parseTrojan_endpoint single serverPlain reads isTail' source id with
        ⟨c, parses, -, -, password⟩
      exact ⟨c, parses, password.trans (pctDecode_percentEncode keepsPlain_isCredentialUnit s)⟩
  | hysteria2 | hy2 =>
      rw [List.mem_singleton.mp isForm]
      rcases parseHysteria2_endpoint single serverPlain reads isTail' source id with
        ⟨c, parses, -, -, password⟩
      exact ⟨c, parses, password.trans (pctDecode_percentEncode keepsPlain_isCredentialUnit s)⟩
  | socks5 | socks | http => exact parseProxyUrl_credentialForm isForm rfl isHost isInt isTail'
  | ikev2 =>
      simp only [credentialForms, List.mem_cons, List.not_mem_nil, or_false] at isForm
      rcases isForm with rfl | rfl
      · rcases parseIkev2_userAndSecret nonempty other isHost isInt isTail' source id with
          ⟨c, parses, uuid, -⟩
        exact ⟨c, parses, uuid⟩
      · rcases parseIkev2_userAndSecret otherNonempty s isHost isInt isTail' source id with
          ⟨c, parses, -, password⟩
        exact ⟨c, parses, password⟩
  | wireguard | wg =>
      rw [List.mem_singleton.mp isForm]
      rcases parseWireguardUri_endpoint single serverPlain rfl isHost.nonempty isInt isTail' source
        id (percentEncode_ne_nil nonempty _) with ⟨c, parses, -, -, key⟩
      exact ⟨c, parses, key.trans (dec_encodeCredential s)⟩

/-- The query of a link with one parameter. -/
def parameter (key : String) (s : Text) : Text :=
  txt key ++ unit '=' :: percentEncode isUnreserved s

theorem notMem_parameter {key : String} {c : UInt16} (notKey : c ∉ txt key)
    (notEquals : c ≠ unit '=') (dropped : isUnreserved c.toNat = false)
    (outside : c ∉ txt "%0123456789ABCDEF") (s : Text) : c ∉ parameter key s := by
  simp only [parameter, List.mem_append, List.mem_cons, not_or]
  exact ⟨notKey, notEquals, notMem_percentEncode keepsPlain_isUnreserved dropped outside s⟩

/-- What the keys of an identity have in common. -/
theorem ikeIdKeys_facts {key : String} (isKey : key ∈ ikeIdKeys) :
    txt key ≠ [] ∧ (txt key).all (fun c => !isWhitespace c) = true ∧ IsAscii (txt key) ∧
      (txt key).map asciiLower = txt key ∧
      (txt "=&#@").all (fun c => !(txt key).contains c) = true := by
  revert key
  decide

theorem lookup_parameter {key other : String} (isKey : key ∈ ikeIdKeys)
    (isOther : other ∈ ikeIdKeys) (s : Text) :
    lookup platform (parseQuery platform (parameter key s)) other =
      if key = other then some (sanitize s) else none := by
  rcases ikeIdKeys_facts isKey with ⟨nonempty, visible, isAscii, lower, noSeparator⟩
  rcases ikeIdKeys_facts isOther with ⟨-, -, otherAscii, otherLower, -⟩
  have absent {c : UInt16} (separator : c ∈ txt "=&#@") : c ∉ txt key := by
    simpa using List.all_eq_true.mp noSeparator c separator
  have whole : split (parameter key s) (unit '&') = [parameter key s] := by
    have noAnd : unit '&' ∉ parameter key s :=
      notMem_parameter (absent (by decide)) (by decide) (by decide) (by decide) s
    have absentAnd : ∀ part ∈ [parameter key s], unit '&' ∉ part := by simpa using noAnd
    simpa [joinWith] using split_joinWith absentAnd (by simp)
  have equals : indexOf (parameter key s) (unit '=') = (txt key).length :=
    indexOf_append (absent (by decide))
  have length : (0 : ℤ) < (txt key).length := by
    have positive := List.length_pos_iff.mpr nonempty
    omega
  have keyPart : (parameter key s).take (txt key).length = txt key := by simp [parameter]
  have valuePart :
      (parameter key s).drop ((txt key).length + 1) = percentEncode isUnreserved s := by
    simp [parameter]
  have decoded : formDecode (percentEncode isUnreserved s) = sanitize s := by
    rw [formDecode, urlDecode_percentEncode keepsPlain_isUnreserved (by decide), Option.getD_some]
  have parses : parseQuery platform (parameter key s) =
      KeyMap.put platform.casing [] (txt key) (sanitize s) := by
    rw [parseQuery, if_neg (by simp [parameter]), whole, List.foldl_cons, List.foldl_nil]
    simp only [queryStep, equals, gt_iff_lt, length, if_true, Int.toNat_natCast, keyPart, valuePart,
      decoded, (trimmed_of_all visible).trim_eq, ne_eq, nonempty, not_false_eq_true]
  have injective : ∀ key ∈ ikeIdKeys, ∀ other ∈ ikeIdKeys, txt key = txt other → key = other := by
    decide
  rw [parses, lookup, KeyMap.get_put, platform.casing.foldKey_ascii isAscii, lower,
    platform.casing.foldKey_ascii otherAscii, otherLower, KeyMap.get_nil]
  by_cases same : key = other
  · rw [if_pos (congrArg txt same), if_pos same]
  · rw [if_neg fun eq => same (injective key isKey other isOther eq), if_neg same]

/-- The identity that is read from a parameter: it is decoded a second time. -/
theorem parse_identity (platform : Platform) {key : String} (isKey : key ∈ ikeIdKeys)
    {name host : Text} (nonempty : name ≠ []) (secret s : Text) (isHost : IsHost host)
    {port : ℤ} (isInt : IsInt port) (source : ConfigSource) (id : Text) :
    ∃ c, parse platform (linkText .ikev2 (userAndSecret name secret) (hostPort host port)
        (unit '?' :: parameter key s)) source id = some c ∧
      c.sni = trim (formDecode (sanitize s)) := by
  rcases ikeIdKeys_facts isKey with ⟨-, visible, -, -, noSeparator⟩
  have absent {c : UInt16} (separator : c ∈ txt "=&#@") : c ∉ txt key := by
    simpa using List.all_eq_true.mp noSeparator c separator
  have serverPlain := plainPart_hostPort isHost.plain port
  have userPlain := plainPart_userAndSecret name secret
  have noHash : unit '#' ∉ unit '?' :: parameter key s := by
    rw [List.mem_cons, not_or]
    exact ⟨by decide, notMem_parameter (absent (by decide)) (by decide) (by decide) (by decide) s⟩
  have isTail : IsTail (unit '?' :: parameter key s) := by
    refine ⟨?_, by simp⟩
    rw [List.mem_cons, not_or]
    exact ⟨by decide, notMem_parameter (absent (by decide)) (by decide) (by decide) (by decide) s⟩
  have allVisible : ∀ c ∈ unit '?' :: parameter key s, isWhitespace c = false := by
    simp only [parameter, List.mem_cons, List.mem_append]
    rintro c (rfl | inKey | rfl | inValue)
    · decide
    · simpa using List.all_eq_true.mp visible c inKey
    · decide
    · exact percentEncode_visible keepsPlain_isUnreserved s c inValue
  have kept : (unit '?' :: parameter key s).rdropWhile isWhitespace = unit '?' :: parameter key s :=
    rdropWhile_of_getLast fun c isLast => allVisible c (List.mem_of_getLast? isLast)
  have query : after (upTo (endpoint (userAndSecret name secret) (hostPort host port) ++
      unit '?' :: parameter key s) (unit '#')) (unit '?') = parameter key s := by
    rw [upTo_hash_endpoint userPlain serverPlain, upTo_of_notMem noHash]
    exact after_append (notMem_endpoint userPlain serverPlain (by decide)) _
  rw [parse_linkText userPlain serverPlain, kept]
  rcases parseIkev2_endpoint userPlain serverPlain
    (splitHostPort_host isHost isInt) isTail source id rfl (percentEncode_ne_nil nonempty _)
    (noColon_encodeCredential name) (by simp [hostPort]) with ⟨c, parses, -, -, -, -, sni⟩
  refine ⟨c, parses, ?_⟩
  rw [sni, query, Lists.findSome?_of_only isKey]
  · rw [lookup_parameter isKey isKey, if_pos rfl, Option.map_some, Option.filter_some]
    by_cases empty : trim (formDecode (sanitize s)) = []
    · rw [empty]
      rfl
    · rw [if_pos (decide_eq_true empty), Option.getD_some]
  · intro other isOther different
    rw [lookup_parameter isKey isOther, if_neg (Ne.symm different)]
    rfl

/-- Wherever the credential stands, it is the field of the config. -/
def ReadsCredential (platform : Platform) (scheme : Scheme) (s : Text) : Prop :=
  ∀ other, other ≠ [] → ∀ form ∈ credentialForms scheme s other, ∀ host port tail source id,
    IsHost host → IsInt port → IsTail tail →
      ∃ c, parse platform (linkText scheme form.1 (hostPort host port) tail) source id = some c ∧
        form.2 c = s

/-- The identity is decoded once, and trimmed. -/
def ReadsIdentity (platform : Platform) (s : Text) : Prop :=
  ∀ key ∈ ikeIdKeys, ∀ name, name ≠ [] → ∀ secret host port source id, IsHost host → IsInt port →
    ∃ c, parse platform (linkText .ikev2 (userAndSecret name secret) (hostPort host port)
      (unit '?' :: parameter key s)) source id = some c ∧ c.sni = trim s

theorem isHost_letter : IsHost (txt "h") where
  nonempty := by decide
  plain := plainPart_of_all (by decide)
  noOpen := by decide
  noClose := by decide

theorem readCredential_eq_iff {scheme : Scheme} {s : Text} :
    scheme.readCredential s = s ↔ WellFormed s ∧ (scheme.isFormDecoded = true → unit '+' ∉ s) := by
  rw [Scheme.readCredential]
  cases scheme.isFormDecoded with
  | true =>
      rw [if_pos rfl, map_spaceForPlus_sanitize_eq_iff]
      simp
  | false =>
      rw [if_neg (by decide), sanitize_eq_self_iff]
      simp

theorem exists_credentialForm {scheme : Scheme} (notVmess : scheme ≠ .vmess) (notSs : scheme ≠ .ss)
    (s other : Text) : ∃ form, form ∈ credentialForms scheme s other := by
  apply List.exists_mem_of_ne_nil
  cases scheme <;> simp_all [credentialForms]

theorem readsCredential_iff {scheme : Scheme} (notVmess : scheme ≠ .vmess) (notSs : scheme ≠ .ss)
    {s : Text} (nonempty : s ≠ []) :
    ReadsCredential platform scheme s ↔
      WellFormed s ∧ (scheme.isFormDecoded = true → unit '+' ∉ s) := by
  rw [← readCredential_eq_iff]
  constructor
  · intro reads
    have isInt : IsInt 1 := by norm_num [IsInt]
    rcases exists_credentialForm notVmess notSs s s with ⟨form, isForm⟩
    rcases reads s nonempty form isForm (txt "h") 1 [] .personal [] isHost_letter
      isInt isTail_nil with ⟨c, parses, isField⟩
    rcases parse_credentialForm platform nonempty nonempty isForm isHost_letter
      isInt isTail_nil .personal [] with ⟨found, foundParses, foundField⟩
    rw [parses, Option.some.injEq] at foundParses
    rw [← foundField, ← foundParses, isField]
  · intro same other otherNonempty form isForm host port tail source id isHost isInt isTail
    rcases parse_credentialForm platform nonempty otherNonempty isForm isHost isInt
      isTail source id with ⟨c, parses, field⟩
    exact ⟨c, parses, field.trans same⟩

theorem readsIdentity_iff {s : Text} :
    ReadsIdentity platform s ↔
      WellFormed s ∧ (urlDecode s = none ∨ unit '%' ∉ s ∧ unit '+' ∉ s) := by
  rw [← trim_decode_sanitize_eq_iff]
  constructor
  · intro reads
    have isInt : IsInt 1 := by norm_num [IsInt]
    have isSni : "sni" ∈ ikeIdKeys := by decide
    have nonempty : txt "u" ≠ [] := by decide
    rcases reads "sni" isSni (txt "u") nonempty [] (txt "h") 1 .personal [] isHost_letter
      isInt with ⟨c, parses, isIdentity⟩
    rcases parse_identity platform isSni nonempty [] s isHost_letter isInt .personal [] with
      ⟨found, foundParses, foundIdentity⟩
    rw [parses, Option.some.injEq] at foundParses
    rw [← isIdentity, foundParses, foundIdentity, formDecode]
  · intro same key isKey name nameNonempty secret host port source id isHost isInt
    rcases parse_identity platform isKey nameNonempty secret s isHost isInt source id
      with ⟨c, parses, identity⟩
    exact ⟨c, parses, identity.trans same⟩

/-- A credential is exact unless it cannot be written in UTF-8, or a plus sign of it is decoded as
a space, or, as an identity, it has an escape of its own. -/
theorem readsCredentials_iff (platform : Platform) {scheme : Scheme} (notVmess : scheme ≠ .vmess)
    (notSs : scheme ≠ .ss) {s : Text} (nonempty : s ≠ []) :
    (ReadsCredential platform scheme s ∧ (scheme = .ikev2 → ReadsIdentity platform s)) ↔
      WellFormed s ∧ (scheme.isFormDecoded = true → unit '+' ∉ s) ∧
        (scheme = .ikev2 → urlDecode s = none ∨ unit '%' ∉ s) := by
  rw [readsCredential_iff notVmess notSs nonempty, readsIdentity_iff]
  constructor
  · rintro ⟨⟨wellFormed, noPlus⟩, identity⟩
    refine ⟨wellFormed, noPlus, fun isIkev2 => ?_⟩
    exact (identity isIkev2).2.imp_right And.left
  · rintro ⟨wellFormed, noPlus, identity⟩
    refine ⟨⟨wellFormed, noPlus⟩, fun isIkev2 => ⟨wellFormed, ?_⟩⟩
    have formDecoded : scheme.isFormDecoded = true := by rw [isIkev2]; rfl
    exact (identity isIkev2).imp_right fun noEscape => ⟨noEscape, noPlus formDecoded⟩

theorem readsCredentials_key :
    (ReadsCredential .ascii .wireguard (txt "a/b=") ∧
      (Scheme.wireguard = .ikev2 → ReadsIdentity .ascii (txt "a/b="))) ∧ txt "a/b=" ≠ [] := by
  refine ⟨(readsCredentials_iff .ascii (by decide) (by decide) (by decide)).mpr ?_, by decide⟩
  exact ⟨by decide, fun _ => by decide, fun isIkev2 => by cases isIkev2⟩

/-- A WireGuard key with a plus sign is not read back. -/
theorem losesPlus_key :
    ¬ (ReadsCredential .ascii .wireguard (txt "a+b=") ∧
      (Scheme.wireguard = .ikev2 → ReadsIdentity .ascii (txt "a+b="))) := by
  rintro ⟨reads, -⟩
  have exact_ := (readsCredential_iff (by decide) (by decide) (by decide)).mp reads
  exact exact_.2 rfl (by decide)

theorem mem_sanitize {s : Text} {c : UInt16} (scalar : isSurrogate c.toNat = false) (mem : c ∈ s) :
    c ∈ sanitize s := by
  have related := sanitize_forall₂ s
  generalize sanitize s = t at related
  induction related with
  | nil => cases mem
  | @cons d e s t replaced _ ih =>
      rcases List.mem_cons.mp mem with rfl | inRest
      · rcases replaced with rfl | ⟨-, surrogate⟩
        · exact List.mem_cons_self
        · rw [scalar] at surrogate
          cases surrogate
      · exact List.mem_cons_of_mem _ (ih inRest)

theorem length_of_decodeB64Text {input decoded : Text}
    (decodes : decodeB64Text input = some decoded) : decoded.length < input.length := by
  rcases Option.map_eq_some_iff.mp decodes with ⟨bytes, isBytes, rfl⟩
  have written := length_decodeFrom_le none bytes
  rw [Option.isSome_none, Bool.toNat_false, Nat.add_zero] at written
  exact written.trans_lt (length_of_decodeB64 isBytes)

/-- However the credentials are escaped, they come back as they were. -/
def ReadsPlain (platform : Platform) (method password : Text) : Prop :=
  ∀ keep, KeepsPlain keep → DropsSeparators keep → ∀ host port tail source id,
    IsHost host → IsInt port → IsTail tail →
      ∃ c, parse platform (linkText .ss (percentEncode keep (method ++ unit ':' :: password))
        (hostPort host port) tail) source id = some c ∧ c.method = method ∧ c.password = password

section

variable {method password : Text}

theorem parse_plain (platform : Platform) {keep : ℕ → Bool} (plain : KeepsPlain keep)
    (drops : DropsSeparators keep) {info : Text}
    (credentials : splitMethodPassword (shadowsocksInfo (percentEncode keep info)) =
      some (method, password)) {host tail : Text} (isHost : IsHost host) {port : ℤ}
    (isInt : IsInt port) (isTail : IsTail tail) (source : ConfigSource) (id : Text) :
    ∃ c, parse platform (linkText .ss (percentEncode keep info) (hostPort host port) tail) source
      id = some c ∧ c.method = method ∧ c.password = password := by
  have userPlain := plainPart_percentEncode plain drops info
  have serverPlain := plainPart_hostPort isHost.plain port
  rw [parse_linkText userPlain serverPlain]
  rcases parseShadowsocks_endpoint userPlain serverPlain (splitHostPort_host isHost isInt)
    isTail.rdropWhile source id credentials with ⟨c, parses, -, -, isMethod, isPassword⟩
  exact ⟨c, parses, isMethod, isPassword⟩

/-- There is always a colon to split at. -/
theorem colon_mem_shadowsocksInfo {keep : ℕ → Bool} (plain : KeepsPlain keep) {info : Text}
    (colon : unit ':' ∈ info) : unit ':' ∈ shadowsocksInfo (percentEncode keep info) := by
  have kept : unit ':' ∈ sanitize info := mem_sanitize (by decide) colon
  rw [shadowsocksInfo, pctDecode_percentEncode plain]
  split
  · next decoded _ =>
      split
      · next hasColon => simpa using hasColon
      · exact kept
  · exact kept

theorem shadowsocksInfo_of_readsPlain (reads : ReadsPlain platform method password) :
    shadowsocksInfo (percentEncode isUnreserved (method ++ unit ':' :: password)) =
      method ++ unit ':' :: password := by
  have drops : DropsSeparators isUnreserved := dropsSeparators_of_all (by decide)
  have isInt : IsInt 1 := by norm_num [IsInt]
  have colon : unit ':' ∈ method ++ unit ':' :: password := by simp
  rcases exists_first (colon_mem_shadowsocksInfo keepsPlain_isUnreserved colon) with
    ⟨foundMethod, foundPassword, isInfo, noColon⟩
  rcases parse_plain platform keepsPlain_isUnreserved drops
    (splitMethodPassword_iff.mpr ⟨isInfo, noColon⟩) isHost_letter isInt isTail_nil .personal [] with
    ⟨found, foundParses, isFoundMethod, isFoundPassword⟩
  rcases reads isUnreserved keepsPlain_isUnreserved drops (txt "h") 1 [] .personal [] isHost_letter
    isInt isTail_nil with ⟨c, parses, isMethod, isPassword⟩
  rw [parses, Option.some.injEq] at foundParses
  subst foundParses
  rw [isInfo, ← isFoundMethod, ← isFoundPassword, isMethod, isPassword]

/-- A decoding with a colon would be taken instead, and it is too short. -/
theorem noColon_of_readsPlain (reads : ReadsPlain platform method password) {decoded : Text}
    (decodes : decodeB64Text (sanitize (method ++ unit ':' :: password)) = some decoded) :
    unit ':' ∉ decoded := by
  intro colon
  have info := shadowsocksInfo_of_readsPlain reads
  rw [shadowsocksInfo, pctDecode_percentEncode keepsPlain_isUnreserved, decodes] at info
  simp only [List.contains_iff_mem.mpr colon, if_true] at info
  have shorter := length_of_decodeB64Text decodes
  have sameLength := (sanitize_forall₂ (method ++ unit ':' :: password)).length_eq
  rw [info, ← sameLength] at shorter
  exact absurd shorter (lt_irrefl _)

theorem wellFormed_of_readsPlain (reads : ReadsPlain platform method password) :
    WellFormed (method ++ unit ':' :: password) := by
  have info := shadowsocksInfo_of_readsPlain reads
  rw [shadowsocksInfo, pctDecode_percentEncode keepsPlain_isUnreserved] at info
  rw [← sanitize_eq_self_iff]
  split at info
  · next decoded decodes =>
      rw [if_neg (by simpa using noColon_of_readsPlain reads decodes)] at info
      exact info
  · exact info

/-- Plain credentials are exact unless they cannot be written in UTF-8, or read as Base64 they
have a colon. -/
theorem readsPlain_iff (platform : Platform) (noColon : unit ':' ∉ method) :
    ReadsPlain platform method password ↔
      WellFormed (method ++ unit ':' :: password) ∧
        ∀ decoded, decodeB64Text (method ++ unit ':' :: password) = some decoded →
          unit ':' ∉ decoded := by
  constructor
  · intro reads
    have wellFormed := wellFormed_of_readsPlain reads
    refine ⟨wellFormed, fun decoded decodes => ?_⟩
    apply noColon_of_readsPlain reads
    rw [sanitize_eq_self_iff.mpr wellFormed]
    exact decodes
  · rintro ⟨wellFormed, plainText⟩ keep plain drops host port tail source id isHost isInt isTail
    apply parse_plain platform plain drops _ isHost isInt isTail
    rw [splitMethodPassword_iff]
    refine ⟨?_, noColon⟩
    rw [shadowsocksInfo, pctDecode_percentEncode plain, sanitize_eq_self_iff.mpr wellFormed]
    split
    · next decoded decodes => rw [if_neg (by simpa using plainText decoded decodes)]
    · rfl

end

theorem readsPlain_short : ReadsPlain .ascii (txt "rc4") (txt "x") ∧ unit ':' ∉ txt "rc4" := by
  refine ⟨(readsPlain_iff .ascii (by decide)).mpr ⟨by decide, fun decoded decodes => ?_⟩, by decide⟩
  have value : decodeB64Text (txt "rc4" ++ unit ':' :: txt "x") = some [0xFFFD, 0xFFFD, 0x31] := by
    decide +kernel
  rw [value, Option.some.injEq] at decodes
  rw [← decodes]
  decide

/-- The units of `aes-256-gcm:abcOjo6` in the standard alphabet decode to a text that ends in
three colons. -/
theorem misreads_plain : ¬ ReadsPlain .ascii (txt "aes-256-gcm") (txt "abcOjo6") := by
  intro reads
  have decodes : (decodeB64Text (sanitize (txt "aes-256-gcm" ++ unit ':' :: txt "abcOjo6"))).any
      (·.contains (unit ':')) = true := by decide +kernel
  cases value : decodeB64Text (sanitize (txt "aes-256-gcm" ++ unit ':' :: txt "abcOjo6")) with
  | none =>
      rw [value] at decodes
      cases decodes
  | some decoded =>
      rw [value] at decodes
      exact noColon_of_readsPlain reads value (by simpa using decodes)

end GRoute.ConfigParser
