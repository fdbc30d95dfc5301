import GRoute.Link.Query

/-!
# Schemes and normal forms

A link is dispatched by its scheme, and the texts that the parser normalizes are their
own normal forms. A normalized text survives sanitizing exactly when it is well formed.
-/

namespace GRoute.ConfigParser

open Text ConfigShare

variable (platform : Platform)

/-- The test that `parse` makes for a scheme. -/
def HasScheme (uri : Text) (scheme : String) : Prop :=
  startsWith (platform.casing.lowercase (trim uri)) (txt scheme) = true

variable {platform}

theorem HasScheme.startsWith_other {uri : Text} {scheme : String}
    (has : HasScheme platform uri scheme) (other : String)
    (notLonger : (txt scheme).isPrefixOf (txt other) = false)
    (notShorter : (txt other).isPrefixOf (txt scheme) = false) :
    startsWith (platform.casing.lowercase (trim uri)) (txt other) = false :=
  startsWith_eq_false (txt other) has notLonger notShorter

/-- The schemes that `parse` tells apart. -/
inductive Scheme
  | vless | vmess | trojan | ss | socks5 | socks | http | hysteria2 | hy2 | ikev2 | wireguard | wg
  deriving DecidableEq, Repr

namespace Scheme

def text : Scheme → String
  | vless => "vless://"
  | vmess => "vmess://"
  | trojan => "trojan://"
  | ss => "ss://"
  | socks5 => "socks5://"
  | socks => "socks://"
  | http => "http://"
  | hysteria2 => "hysteria2://"
  | hy2 => "hy2://"
  | ikev2 => "ikev2://"
  | wireguard => "wireguard://"
  | wg => "wg://"

/-- The parser of what follows the scheme. -/
def parseBody (platform : Platform) (scheme : Scheme) (body : Text) (source : ConfigSource)
    (id : Text) : Option ProxyConfig :=
  match scheme with
  | vless => parseVless platform body source id
  | vmess => parseVmess platform body source id
  | trojan => parseTrojan platform body source id
  | ss => parseShadowsocks platform body source id
  | socks5 | socks => parseProxyUrl body (txt "socks") source id
  | http => parseProxyUrl body (txt "http") source id
  | hysteria2 | hy2 => parseHysteria2 platform body source id
  | ikev2 => parseIkev2 platform body source id
  | wireguard | wg => parseWireguardUri platform body source id

/-- No scheme is the start of another one. -/
theorem isPrefixOf_text {scheme other : Scheme} (different : scheme ≠ other) :
    (txt scheme.text).isPrefixOf (txt other.text) = false := by
  revert different
  cases scheme <;> cases other <;> decide

end Scheme

/-- The tests of `parse` for the other schemes fail. -/
theorem parse_of_scheme {uri : Text} (scheme : Scheme) (has : HasScheme platform uri scheme.text)
    (source : ConfigSource) (id : Text) : parse platform uri source id =
      (substringFrom (trim uri) (txt scheme.text).length).bind
        (scheme.parseBody platform · source id) := by
  have test (other : Scheme) : startsWith (platform.casing.lowercase (trim uri)) (txt other.text) =
      decide (scheme = other) := by
    by_cases same : scheme = other
    · subst same
      rw [decide_eq_true rfl]
      exact has
    · rw [decide_eq_false same]
      exact has.startsWith_other _ (Scheme.isPrefixOf_text same)
        (Scheme.isPrefixOf_text (Ne.symm same))
  have vless := test .vless
  have vmess := test .vmess
  have trojan := test .trojan
  have ss := test .ss
  have socks5 := test .socks5
  have socks := test .socks
  have http := test .http
  have hysteria2 := test .hysteria2
  have hy2 := test .hy2
  have ikev2 := test .ikev2
  have wireguard := test .wireguard
  have wg := test .wg
  simp only [Scheme.text] at vless vmess trojan ss socks5 socks http
  simp only [Scheme.text] at hysteria2 hy2 ikev2 wireguard wg
  simp only [parse, vless, vmess, trojan, ss, socks5, socks, http, hysteria2, hy2, ikev2, wireguard,
    wg]
  cases scheme <;> rfl

theorem parse_of_vless {uri : Text} (scheme : HasScheme platform uri "vless://")
    (source : ConfigSource) (id : Text) : parse platform uri source id =
      (substringFrom (trim uri) 8).bind (parseVless platform · source id) :=
  parse_of_scheme .vless scheme source id

theorem parse_of_vmess {uri : Text} (scheme : HasScheme platform uri "vmess://")
    (source : ConfigSource) (id : Text) : parse platform uri source id =
      (substringFrom (trim uri) 8).bind (parseVmess platform · source id) :=
  parse_of_scheme .vmess scheme source id

theorem parse_of_trojan {uri : Text} (scheme : HasScheme platform uri "trojan://")
    (source : ConfigSource) (id : Text) : parse platform uri source id =
      (substringFrom (trim uri) 9).bind (parseTrojan platform · source id) :=
  parse_of_scheme .trojan scheme source id

theorem parse_of_ss {uri : Text} (scheme : HasScheme platform uri "ss://")
    (source : ConfigSource) (id : Text) : parse platform uri source id =
      (substringFrom (trim uri) 5).bind (parseShadowsocks platform · source id) :=
  parse_of_scheme .ss scheme source id

theorem parse_of_hysteria2 {uri : Text} (scheme : HasScheme platform uri "hysteria2://")
    (source : ConfigSource) (id : Text) : parse platform uri source id =
      (substringFrom (trim uri) 12).bind (parseHysteria2 platform · source id) :=
  parse_of_scheme .hysteria2 scheme source id

theorem parse_of_hy2 {uri : Text} (scheme : HasScheme platform uri "hy2://")
    (source : ConfigSource) (id : Text) : parse platform uri source id =
      (substringFrom (trim uri) 6).bind (parseHysteria2 platform · source id) :=
  parse_of_scheme .hy2 scheme source id

/-- The scheme of a printed link is recognized. -/
theorem hasScheme_link {scheme : String} (isAscii : IsAscii (txt scheme))
    (lower : (txt scheme).map asciiLower = txt scheme) {body : Text}
    (trimmed : Trimmed (txt scheme ++ body)) : HasScheme platform (txt scheme ++ body) scheme := by
  rw [HasScheme, trimmed.trim_eq]
  exact platform.casing.startsWith_lowercase isAscii lower body

/-- A link that ends in an encoded name has no white space around it. -/
theorem trimmed_link {scheme : String} (nonempty : txt scheme ≠ [])
    (visible : ∀ c ∈ (txt scheme).head?, isWhitespace c = false) (main name : Text) :
    Trimmed (txt scheme ++ (main ++ unit '#' :: enc name)) := by
  rw [← List.append_assoc]
  refine trimmed_append (by simp [nonempty]) (by simp) ?_ ?_
  · rw [List.head?_append_of_ne_nil _ nonempty]
    exact visible
  · intro c isLast
    rcases List.mem_cons.mp (List.mem_of_getLast? isLast) with rfl | inName
    · decide
    · exact isWhitespace_of_isFormUnit (isFormUnit_of_mem_urlEncode inName)

/-- What follows the scheme of a printed link is its body. -/
theorem substringFrom_link {scheme : String} {start : ℤ} (length : (txt scheme).length = start)
    {body : Text} (trimmed : Trimmed (txt scheme ++ body)) :
    substringFrom (trim (txt scheme ++ body)) start = some body := by
  rw [trimmed.trim_eq, ← length, substringFrom_append]

theorem ifEmpty_sanitize_eq_iff {s : Text} (nonempty : s ≠ []) (default : Text) :
    ifEmpty (sanitize s) default = s ↔ WellFormed s := by
  rw [ifEmpty_of_ne (sanitize_ne_nil nonempty), sanitize_eq_self_iff]

theorem name_reread_iff {name : Text} (trimmed : Trimmed name) (nonempty : name ≠ [])
    (default : Text) : ifEmpty (trim (sanitize name)) default = name ↔ WellFormed name := by
  rw [(trimmed_sanitize trimmed).trim_eq, ifEmpty_sanitize_eq_iff nonempty]

theorem fragmentName_trimmed (body default : Text) (trimmed : Trimmed default)
    (nonempty : default ≠ []) :
    Trimmed (fragmentName body default) ∧ fragmentName body default ≠ [] := by
  refine ⟨trimmed_ifEmpty ?_ trimmed, ifEmpty_ne_nil nonempty⟩
  split
  · exact trimmed_trim _
  · simp [Trimmed]

theorem sanitize_ofInt (z : ℤ) : sanitize (ofInt z) = ofInt z := by
  have scalars : ∀ c ∈ ofInt z, isSurrogate c.toNat = false := by
    intro c mem
    rcases mem_ofInt mem with rfl | ⟨d, lt, rfl⟩
    · decide
    · interval_cases d <;> decide
  have whole := sanitize_append_scalars scalars []
  rwa [sanitize_nil, List.append_nil] at whole

/-- The server part of a link has no separator of the other parts. -/
theorem notMem_server (body : Text) :
    unit '#' ∉ trim (upTo (upTo body (unit '#')) (unit '?')) ∧
      unit '?' ∉ trim (upTo (upTo body (unit '#')) (unit '?')) := by
  constructor
  · exact fun mem => notMem_upTo body _ (mem_of_mem_upTo (mem_of_mem_trim mem))
  · exact fun mem => notMem_upTo _ _ (mem_of_mem_trim mem)

/-- The user and the server of a link. -/
def userServer (user address : Text) (port : ℤ) : Text :=
  enc user ++ unit '@' :: hostPort address port

theorem userServer_trimmed (user address : Text) (port : ℤ) :
    Trimmed (userServer user address port) := by
  constructor
  · intro d isHead
    rw [userServer] at isHead
    cases shape : enc user with
    | nil =>
        rw [shape] at isHead
        cases isHead
        decide
    | cons first rest =>
        rw [shape] at isHead
        cases isHead
        exact isWhitespace_of_isFormUnit (isFormUnit_of_mem_urlEncode (by
          rw [← enc, shape]
          simp))
  · intro d isLast
    rw [userServer, hostPort, List.getLast?_append_of_ne_nil _ (by simp),
      List.getLast?_cons_of_ne_nil (by simp), List.getLast?_append_of_ne_nil _ (by simp),
      List.getLast?_cons_of_ne_nil (ofInt_ne_nil _)] at isLast
    exact not_isWhitespace_of_mem_ofInt (List.mem_of_getLast? isLast)

theorem notMem_userServer {user address : Text} {port : ℤ} {x : UInt16} (absent : x ∉ address)
    (outside : isFormUnit x = false) (notAt : x ≠ unit '@') (notColon : x ≠ unit ':') :
    x ∉ userServer user address port := by
  have notDigit : x ∉ ofInt port := by
    apply notMem_ofInt
    intro mem
    have digits : (txt "-0123456789").all isFormUnit = true := by decide
    rw [List.all_eq_true.mp digits x mem] at outside
    cases outside
  simp only [userServer, hostPort, List.mem_append, List.mem_cons, not_or]
  exact ⟨notMem_urlEncode outside, notAt, absent, notColon, notDigit⟩

theorem splitUserHostPort_userServer {address : Text} (noAt : unit '@' ∉ address) (user : Text)
    (port : ℤ) : splitUserHostPort (userServer user address port) =
      (splitHostPort (hostPort address port)).map fun hp => (enc user, hp.1, hp.2) :=
  splitUserHostPort_append _ (notMem_hostPort noAt (by decide) (by decide))

/-- A link after its scheme. -/
def tableBody (user address : Text) (port : ℤ) (table : List Row) (name : Text) : Text :=
  userServer user address port ++ queryPart (queryText (rowParams table)) ++ unit '#' :: enc name

theorem splitUserUri_tableBody {table : List Row} (distinct : DistinctKeys (table.map Row.key))
    {address : Text} (noHash : unit '#' ∉ address) (noQuestion : unit '?' ∉ address)
    (user : Text) (port : ℤ) (name default : Text) :
    splitUserUri platform (tableBody user address port table name) default =
      (ifEmpty (trim (sanitize name)) default, userServer user address port,
        parseQuery platform (queryText (rowParams table))) := by
  apply splitUserUri_link _ _ (userServer_trimmed user address port)
  · exact notMem_userServer noHash (by decide) (by decide) (by decide)
  · exact notMem_userServer noQuestion (by decide) (by decide) (by decide)
  · exact notMem_queryText (plain_rowParams distinct) (by decide) (by decide) (by decide)

variable (platform)

theorem trimmed_lowercase_trim (s : Text) : Trimmed (platform.casing.lowercase (trim s)) :=
  platform.casing.trimmed_lowercase (trimmed_trim s)

theorem lowercase_trim_lowercase_trim (s : Text) :
    platform.casing.lowercase (trim (platform.casing.lowercase (trim s))) =
      platform.casing.lowercase (trim s) := by
  rw [(trimmed_lowercase_trim platform s).trim_eq, platform.casing.lowercase_idem]

/-- A lower-case ASCII text without white space is read as it stands. -/
theorem lowercase_trim_of_lower {s : Text} (visible : s.all (fun c => !isWhitespace c) = true)
    (isAscii : IsAscii s) (lower : s.map asciiLower = s) :
    platform.casing.lowercase (trim s) = s := by
  rw [(trimmed_of_all visible).trim_eq, platform.casing.lowercase_of_lower isAscii lower]

/-- The names that `normalizeNetwork` gives to the aliases it knows. -/
def canonicalNetworks : List Text := [txt "tcp", txt "kcp", txt "ws", txt "http", txt "xhttp"]

theorem normalizeNetwork_cases (t : Option Text) :
    normalizeNetwork platform t ∈ canonicalNetworks ∨
      normalizeNetwork platform t = platform.casing.lowercase (trim (t.getD [])) := by
  simp only [normalizeNetwork, canonicalNetworks]
  split_ifs <;> simp

/-- The texts that `normalizeNetwork` replaces. -/
def networkAliases : List Text :=
  [[], txt "raw", txt "mkcp", txt "websocket", txt "h2", txt "http2", txt "splithttp"]

theorem normalizeNetwork_of_notMem {t : Option Text}
    (notAlias : platform.casing.lowercase (trim (t.getD [])) ∉ networkAliases) :
    normalizeNetwork platform t = platform.casing.lowercase (trim (t.getD [])) := by
  simp only [networkAliases, List.mem_cons, List.not_mem_nil, or_false, not_or] at notAlias
  simp [normalizeNetwork, notAlias]

theorem normalizeNetwork_canonical {n : Text} (canonical : n ∈ canonicalNetworks) :
    normalizeNetwork platform (some n) = n ∧ Trimmed n ∧ WellFormed n := by
  have facts : ∀ n ∈ canonicalNetworks, n.all (fun c => !isWhitespace c) = true ∧ IsAscii n ∧
      n.map asciiLower = n ∧ WellFormed n ∧ n ∉ networkAliases := by decide
  rcases facts n canonical with ⟨visible, isAscii, lower, wellFormed, notAlias⟩
  have read : platform.casing.lowercase (trim n) = n :=
    lowercase_trim_of_lower platform visible isAscii lower
  refine ⟨?_, ?_, wellFormed⟩
  · rw [normalizeNetwork_of_notMem platform (by simpa [read] using notAlias)]
    exact read
  · exact trimmed_of_all visible

theorem normalizeNetwork_notMem_aliases {t : Option Text}
    (other : normalizeNetwork platform t ∉ canonicalNetworks) :
    platform.casing.lowercase (trim (t.getD [])) ∉ networkAliases := by
  intro isAlias
  apply other
  simp only [networkAliases, List.mem_cons, List.not_mem_nil, or_false] at isAlias
  rcases isAlias with same | same | same | same | same | same | same <;>
    (rw [normalizeNetwork, same]; decide)

/-- A normalized network is its own normal form. -/
theorem normalizeNetwork_normal (t : Option Text) :
    normalizeNetwork platform (some (normalizeNetwork platform t)) = normalizeNetwork platform t ∧
      Trimmed (normalizeNetwork platform t) := by
  by_cases canonical : normalizeNetwork platform t ∈ canonicalNetworks
  · have facts := normalizeNetwork_canonical platform canonical
    exact ⟨facts.1, facts.2.1⟩
  · have notAlias := normalizeNetwork_notMem_aliases platform canonical
    have idem := lowercase_trim_lowercase_trim platform (t.getD [])
    rw [normalizeNetwork_of_notMem platform notAlias]
    refine ⟨?_, trimmed_lowercase_trim platform _⟩
    rw [normalizeNetwork_of_notMem platform (by simpa [idem] using notAlias)]
    exact idem

theorem wellFormed_normalizeNetwork {s : Text} (trimmed : Trimmed s) (wellFormed : WellFormed s) :
    WellFormed (normalizeNetwork platform (some s)) := by
  rcases normalizeNetwork_cases platform (some s) with canonical | lower
  · exact (normalizeNetwork_canonical platform canonical).2.2
  · rw [lower, Option.getD_some, trimmed.trim_eq]
    exact platform.casing.wellFormed_lowercase wellFormed

/-- A normalized network survives sanitizing exactly when it is well formed. -/
theorem normalizeNetwork_sanitize_iff {n : Text} (trimmed : Trimmed n)
    (normal : normalizeNetwork platform (some n) = n) :
    normalizeNetwork platform (some (sanitize n)) = n ↔ WellFormed n := by
  constructor
  · intro same
    rw [← same]
    exact wellFormed_normalizeNetwork platform (trimmed_sanitize trimmed) (wellFormed_sanitize n)
  · intro wellFormed
    rw [sanitize_eq_self_iff.mpr wellFormed, normal]

theorem normalizeHeaderType_normal (t : Option Text) :
    normalizeHeaderType platform (some (normalizeHeaderType platform t)) =
        normalizeHeaderType platform t ∧ Trimmed (normalizeHeaderType platform t) := by
  by_cases none : platform.casing.lowercase (trim (t.getD [])) = txt "none"
  · have empty : normalizeHeaderType platform t = [] := by simp [normalizeHeaderType, none]
    rw [empty]
    refine ⟨?_, by simp [Trimmed]⟩
    have blank : trim [] = [] := rfl
    rw [normalizeHeaderType, Option.getD_some, blank, platform.casing.lowercase_nil]
    rfl
  · have idem := lowercase_trim_lowercase_trim platform (t.getD [])
    have value : normalizeHeaderType platform t = platform.casing.lowercase (trim (t.getD [])) := by
      simp [normalizeHeaderType, none]
    rw [value]
    refine ⟨?_, trimmed_lowercase_trim platform _⟩
    simp [normalizeHeaderType, idem, none]

theorem normalizeHeaderType_sanitize_iff {h : Text} (trimmed : Trimmed h)
    (normal : normalizeHeaderType platform (some h) = h) :
    normalizeHeaderType platform (some (sanitize h)) = h ↔ WellFormed h := by
  constructor
  · intro same
    rw [← same, normalizeHeaderType]
    simp only [Option.getD_some, (trimmed_sanitize trimmed).trim_eq]
    split
    · simp [WellFormed, codePoints]
    · exact platform.casing.wellFormed_lowercase (wellFormed_sanitize h)
  · intro wellFormed
    rw [sanitize_eq_self_iff.mpr wellFormed, normal]

end GRoute.ConfigParser
