import GRoute.ConfigBuilder.Outbound
import GRoute.Link.Normal

/-!
# Hysteria2 links

A shared Hysteria2 link does not carry the host, so the config that is read from it
differs from the first one. It has the same meaning when the core gets the same
outbound for both.
-/

namespace GRoute.ConfigParser

open Text ConfigShare ConfigBuilder

variable {platform : Platform}

/-- The facts about a parsed config that its link depends on. -/
structure ParsedHysteria2 (c : ProxyConfig) : Prop where
  server : CleanServer c.address c.port
  noHash : unit '#' ∉ c.address
  noQuestion : unit '?' ∉ c.address
  protocol : c.protocol = txt "hysteria2"
  pin : c.pinnedCertSha256 = []
  up : IsInt c.hyUpMbps
  down : IsInt c.hyDownMbps

theorem parsedHysteria2_of_parseHysteria2 {body id : Text} {source : ConfigSource}
    {c : ProxyConfig} (accepted : parseHysteria2 platform body source id = some c) :
    ParsedHysteria2 c := by
  simp only [parseHysteria2, splitUserUri, Option.bind_eq_bind, Option.bind_eq_some_iff,
    Option.pure_def, Option.some.injEq] at accepted
  rcases accepted with ⟨⟨user, address, port⟩, server, rfl⟩
  rcases splitUserHostPort_accepts server with ⟨clean, fromServer⟩
  exact {
    server := clean
    noHash := fun mem => (notMem_server body).1 (fromServer _ mem)
    noQuestion := fun mem => (notMem_server body).2 (fromServer _ mem)
    protocol := rfl
    pin := rfl
    up := isInt_getD_toIntOrNull _
    down := isInt_getD_toIntOrNull _ }

/-- The rows of the query of a Hysteria2 link. -/
def hysteria2Table (c : ProxyConfig) : List Row :=
  [⟨"sni", c.sni, c.sni ≠ []⟩, ⟨"alpn", c.alpn, c.alpn ≠ []⟩,
    ⟨"insecure", txt "1", c.allowInsecure⟩,
    ⟨"obfs", ifEmpty c.hyObfs (txt "salamander"), c.hyObfsPassword ≠ []⟩,
    ⟨"obfs-password", c.hyObfsPassword, c.hyObfsPassword ≠ []⟩,
    ⟨"upmbps", ofInt c.hyUpMbps, c.hyUpMbps > 0⟩,
    ⟨"downmbps", ofInt c.hyDownMbps, c.hyDownMbps > 0⟩]

def hysteria2Keys : List String :=
  ["sni", "alpn", "insecure", "obfs", "obfs-password", "upmbps", "downmbps"]

theorem hysteria2Table_distinct (c : ProxyConfig) :
    DistinctKeys ((hysteria2Table c).map Row.key) := by
  have distinct : DistinctKeys hysteria2Keys := by decide
  exact distinct

theorem hysteria2Params_eq (c : ProxyConfig) :
    hysteria2Params c = rowParams (hysteria2Table c) := by
  by_cases obfs : c.hyObfsPassword = []
  · simp [hysteria2Params, unlessEmpty, rowParams, hysteria2Table, obfs]
  · simp [hysteria2Params, unlessEmpty, rowParams, hysteria2Table, obfs]

/-- The address as the link writes it. -/
def hysteria2Host (c : ProxyConfig) : Text :=
  if unit ':' ∈ c.address then bracketed c.address else c.address

def hysteria2Body (c : ProxyConfig) : Text :=
  tableBody c.password (hysteria2Host c) c.port (hysteria2Table c) c.name

theorem hysteria2Link_eq (c : ProxyConfig) :
    hysteria2Link c = txt "hysteria2://" ++ hysteria2Body c := by
  have colon : txt ":" = [unit ':'] := rfl
  have at_ : txt "@" = [unit '@'] := rfl
  have hash : txt "#" = [unit '#'] := rfl
  simp [hysteria2Link, hysteria2Body, tableBody, userServer, hostPort, queryPart,
    hysteria2Params_eq, hysteria2Host, bracketed, colon, at_, hash]

theorem parse_toLink_hysteria2 {c : ProxyConfig} (protocol : c.protocol = txt "hysteria2")
    (source : ConfigSource) (fresh : Text) :
    parse platform (toLink c) source fresh =
      parseHysteria2 platform (hysteria2Body c) source fresh := by
  have link : toLink c = txt "hysteria2://" ++ hysteria2Body c := by
    rw [toLink, protocol, if_neg (by decide), if_neg (by decide), if_neg (by decide),
      if_neg (by decide), if_pos rfl, hysteria2Link_eq]
  have trimmed : Trimmed (txt "hysteria2://" ++ hysteria2Body c) :=
    trimmed_link (by decide) (by rintro _ ⟨⟩; decide) _ _
  rw [link, parse_of_hysteria2 (hasScheme_link (by decide) (by decide) trimmed),
    substringFrom_link (by decide) trimmed, Option.bind_some]

/-- The link writes no separator that the address does not have. -/
theorem notMem_hysteria2Host {c : ProxyConfig} {x : UInt16} (absent : x ∉ c.address)
    (notOpen : x ≠ unit '[') (notClose : x ≠ unit ']') : x ∉ hysteria2Host c := by
  rw [hysteria2Host]
  split
  · simp only [bracketed, List.mem_cons, List.mem_append, List.not_mem_nil, or_false, not_or]
    exact ⟨notOpen, absent, notClose⟩
  · exact absent

/-- The config that is read from the link of another one, given its server. -/
def rereadHysteria2 (c : ProxyConfig) (address : Text) (port : ℤ) (source : ConfigSource)
    (id : Text) : ProxyConfig :=
  { name := ifEmpty (trim (sanitize c.name)) (txt "Hysteria2")
    protocol := txt "hysteria2"
    address := address
    port := port
    password := (sanitize c.password).map plusForSpace
    sni := sanitize c.sni
    alpn := sanitize c.alpn
    security := txt "tls"
    hyObfs := if c.hyObfsPassword = [] then [] else sanitize (ifEmpty c.hyObfs (txt "salamander"))
    hyObfsPassword := sanitize c.hyObfsPassword
    hyUpMbps := if c.hyUpMbps > 0 then c.hyUpMbps else 0
    hyDownMbps := if c.hyDownMbps > 0 then c.hyDownMbps else 0
    allowInsecure := c.allowInsecure
    source := source
    id := id }

section Lookup

variable (c : ProxyConfig)

/-- The query of a printed link, as the parser reads it. -/
def hysteria2Query (platform : Platform) (c : ProxyConfig) : KeyMap :=
  parseQuery platform (queryText (rowParams (hysteria2Table c)))

theorem lookup_hysteria2Query {row : Row} (mem : row ∈ hysteria2Table c) :
    lookup platform (hysteria2Query platform c) row.key =
      if row.printed then some (sanitize row.value) else none :=
  lookup_table (hysteria2Table_distinct c) mem

theorem lookup_hysteria2Query_absent {key : String} (plain : isPlainKey (txt key) = true)
    (absent : (txt key).map asciiLower ∉
      hysteria2Keys.map fun key => (txt key).map asciiLower) :
    lookup platform (hysteria2Query platform c) key = none :=
  lookup_table_of_notMem (hysteria2Table_distinct c) plain absent

/-- The value of an optional row, printed unless it is empty. -/
theorem lookupOrEmpty_hysteria2Query {key : String} {value : Text}
    (mem : ⟨key, value, value ≠ []⟩ ∈ hysteria2Table c) :
    lookupOrEmpty platform (hysteria2Query platform c) key = sanitize value :=
  lookupOrEmpty_table (hysteria2Table_distinct c) mem

/-- A bandwidth is printed when it is positive. -/
theorem lookupInt_hysteria2Query {first second : String} {value : ℤ} (isInt : IsInt value)
    (mem : ⟨first, ofInt value, value > 0⟩ ∈ hysteria2Table c)
    (absent : lookup platform (hysteria2Query platform c) second = none) :
    lookupInt platform (hysteria2Query platform c) first second =
      if value > 0 then value else 0 := by
  rw [lookupInt, absent, lookup_hysteria2Query c mem]
  by_cases positive : value > 0
  · simp [positive, sanitize_ofInt, toIntOrNull_ofInt isInt]
  · simp only [positive, decide_false, Bool.false_eq_true, if_false]
    decide

theorem lookupOrEmpty_hysteria2Query_absent {key : String} (plain : isPlainKey (txt key) = true)
    (absent : (txt key).map asciiLower ∉
      hysteria2Keys.map fun key => (txt key).map asciiLower) :
    lookupOrEmpty platform (hysteria2Query platform c) key = [] := by
  rw [lookupOrEmpty, lookup_hysteria2Query_absent c plain absent, Option.getD_none]

theorem obfs_hysteria2Query :
    lookupOrEmpty platform (hysteria2Query platform c) "obfs" =
      if c.hyObfsPassword = [] then [] else sanitize (ifEmpty c.hyObfs (txt "salamander")) := by
  have mem : ⟨"obfs", ifEmpty c.hyObfs (txt "salamander"), c.hyObfsPassword ≠ []⟩ ∈
      hysteria2Table c := by simp [hysteria2Table]
  rw [lookupOrEmpty, lookup_hysteria2Query c mem]
  by_cases empty : c.hyObfsPassword = []
  · simp [empty]
  · simp [empty]

theorem insecure_hysteria2Query :
    isSet (((lookup platform (hysteria2Query platform c) "insecure").or
      (lookup platform (hysteria2Query platform c) "allowInsecure")).getD []) =
        c.allowInsecure := by
  have mem : ⟨"insecure", txt "1", c.allowInsecure⟩ ∈ hysteria2Table c := by
    simp [hysteria2Table]
  rw [lookup_hysteria2Query c mem, lookup_hysteria2Query_absent c (by decide) (by decide)]
  cases c.allowInsecure with
  | false => decide
  | true => decide

end Lookup

theorem parseHysteria2_hysteria2Body {c : ProxyConfig} (parsed : ParsedHysteria2 c)
    (source : ConfigSource) (fresh : Text) :
    parseHysteria2 platform (hysteria2Body c) source fresh =
      (splitHostPort (hostPort (hysteria2Host c) c.port)).map fun hp =>
        rereadHysteria2 c hp.1 hp.2 source fresh := by
  have split : splitUserUri platform (hysteria2Body c) (txt "Hysteria2") =
      (ifEmpty (trim (sanitize c.name)) (txt "Hysteria2"),
        userServer c.password (hysteria2Host c) c.port, hysteria2Query platform c) :=
    splitUserUri_tableBody (hysteria2Table_distinct c)
      (notMem_hysteria2Host parsed.noHash (by decide) (by decide))
      (notMem_hysteria2Host parsed.noQuestion (by decide) (by decide)) _ _ _ _
  have server := splitUserHostPort_userServer
    (notMem_hysteria2Host parsed.server.noAt (by decide) (by decide)) c.password c.port
  have row (key : String) (value : Text) (mem : ⟨key, value, value ≠ []⟩ ∈ hysteria2Table c) :
      lookupOrEmpty platform (hysteria2Query platform c) key = sanitize value :=
    lookupOrEmpty_hysteria2Query c mem
  have absent (key : String) (plain : isPlainKey (txt key) = true)
      (notKey : (txt key).map asciiLower ∉ hysteria2Keys.map fun key => (txt key).map asciiLower) :
      lookupOrEmpty platform (hysteria2Query platform c) key = [] :=
    lookupOrEmpty_hysteria2Query_absent c plain notKey
  have up : lookupInt platform (hysteria2Query platform c) "upmbps" "up" =
      if c.hyUpMbps > 0 then c.hyUpMbps else 0 :=
    lookupInt_hysteria2Query c parsed.up (by simp [hysteria2Table])
      (lookup_hysteria2Query_absent c (by decide) (by decide))
  have down : lookupInt platform (hysteria2Query platform c) "downmbps" "down" =
      if c.hyDownMbps > 0 then c.hyDownMbps else 0 :=
    lookupInt_hysteria2Query c parsed.down (by simp [hysteria2Table])
      (lookup_hysteria2Query_absent c (by decide) (by decide))
  rw [parseHysteria2, split]
  simp only [server, row "sni" c.sni (by simp [hysteria2Table]),
    row "alpn" c.alpn (by simp [hysteria2Table]),
    row "obfs-password" c.hyObfsPassword (by simp [hysteria2Table]), obfs_hysteria2Query,
    insecure_hysteria2Query, up, down, absent "peer" (by decide) (by decide),
    absent "host" (by decide) (by decide), absent "obfsParam" (by decide) (by decide),
    ifEmpty_nil_right]
  cases splitHostPort (hostPort (hysteria2Host c) c.port) with
  | none => rfl
  | some hp =>
      simp only [Option.map_some, Option.bind_eq_bind, Option.bind_some, pctDecode_enc]
      rfl

theorem sum_count_commaParts {d : UInt16} (notComma : unit ',' ≠ d)
    (visible : isWhitespace d = false) (s : Text) :
    ((commaParts s).map (List.count d)).sum = s.count d := by
  have kept (parts : List Text) :
      (((parts.map trim).filter (· ≠ [])).map (List.count d)).sum =
        (parts.map (List.count d)).sum := by
    induction parts with
    | nil => rfl
    | cons part parts ih =>
        rw [List.map_cons, List.map_cons, List.sum_cons, ← count_trim visible part, ← ih]
        by_cases empty : trim part = []
        · simp [empty]
        · simp [empty]
  rw [commaParts, kept, sum_count_split notComma]

theorem commaParts_sanitize_iff {s : Text} :
    commaParts (sanitize s) = commaParts s ↔ WellFormed s := by
  constructor
  · intro same
    have count := sum_count_commaParts (d := unit '?') (by decide) (by decide)
    apply wellFormed_of_count_sanitize_le
    rw [← count, ← count s, same]
  · intro wellFormed
    rw [sanitize_eq_self_iff.mpr wellFormed]

theorem ifBlank_sanitize (s default : Text) :
    ifBlank (sanitize s) default = if isBlank s then default else sanitize s := by
  rw [ifBlank, isBlank_sanitize]

theorem ifBlank_sanitize_iff {s default : Text} :
    ifBlank (sanitize s) default = ifBlank s default ↔ WellFormed s := by
  rw [ifBlank_sanitize, ifBlank]
  split
  · next blank => exact ⟨fun _ => wellFormed_of_isBlank blank, fun _ => rfl⟩
  · exact sanitize_eq_self_iff

theorem alpn_reread_iff {alpn default : Text} :
    commaParts (ifBlank (sanitize alpn) default) = commaParts (ifBlank alpn default) ↔
      WellFormed alpn := by
  rw [ifBlank_sanitize, ifBlank]
  split
  · next blank => exact ⟨fun _ => wellFormed_of_isBlank blank, fun _ => rfl⟩
  · exact commaParts_sanitize_iff

/-- The server name survives: only a name of its own is shared. -/
def ServerNameSurvives (c : ProxyConfig) : Prop :=
  if isBlank c.sni then isBlank c.host ∨ c.host = c.address else WellFormed c.sni

theorem serverName_reread_iff {c : ProxyConfig} :
    ifBlank (sanitize c.sni) c.address = hysteria2ServerName c ↔ ServerNameSurvives c := by
  rw [ifBlank_sanitize, hysteria2ServerName, ifBlank, ServerNameSurvives]
  split
  · rw [ifBlank]
    split
    · next blank => simp [blank]
    · next visible => simp [visible, eq_comm]
  · exact sanitize_eq_self_iff

theorem obfs_reread_iff {obfs : Text} :
    ifBlank (sanitize (ifEmpty obfs (txt "salamander"))) (txt "salamander") =
      ifBlank obfs (txt "salamander") ↔ WellFormed obfs := by
  by_cases empty : obfs = []
  · rw [empty]
    decide
  · rw [ifEmpty_of_ne empty]
    exact ifBlank_sanitize_iff

/-- The obfuscation survives, or there is none. -/
def ObfsSurvives (c : ProxyConfig) : Prop :=
  isBlank c.hyObfsPassword ∨ WellFormed c.hyObfs ∧ WellFormed c.hyObfsPassword

section Reread

variable {c : ProxyConfig} {address : Text} {port : ℤ} {source : ConfigSource} {id : Text}

theorem masks_reread_iff :
    (hysteria2Masks (rereadHysteria2 c address port source id)).map
        (fun field => (txt field.1, field.2)) =
      (hysteria2Masks c).map (fun field => (txt field.1, field.2)) ↔ ObfsSurvives c := by
  simp only [hysteria2Masks, rereadHysteria2, isBlank_sanitize, ObfsSurvives]
  by_cases blank : isBlank c.hyObfsPassword = true
  · simp [blank]
  · have nonempty : c.hyObfsPassword ≠ [] := by
      intro empty
      rw [empty] at blank
      exact blank rfl
    simp only [blank, nonempty, Bool.false_eq_true, if_false, false_or, Json.object, List.map_cons,
      List.map_nil, List.cons.injEq, Prod.mk.injEq, Json.arr.injEq, Json.obj.injEq,
      Json.str.injEq, and_true, true_and, obfs_reread_iff, sanitize_eq_self_iff]

theorem bandwidth_reread :
    hysteria2Bandwidth (rereadHysteria2 c address port source id) = hysteria2Bandwidth c := by
  simp only [hysteria2Bandwidth, rereadHysteria2]
  split_ifs <;> first | rfl | omega

theorem pinField_reread (parsed : ParsedHysteria2 c) :
    pinField (rereadHysteria2 c address port source id) = pinField c := by
  rw [pinField, pinField, parsed.pin]
  rfl

/-- The outbound for the second config is the one for the first exactly when the server, the
credential and the settings survive. -/
theorem buildHysteria2_reread_iff (parsed : ParsedHysteria2 c) :
    buildHysteria2 (rereadHysteria2 c address port source id) = buildHysteria2 c ↔
      (address = c.address ∧ Json.int port = Json.int c.port) ∧ ServerNameSurvives c ∧
        WellFormed c.alpn ∧ (WellFormed c.password ∧ unit ' ' ∉ c.password) ∧ ObfsSurvives c := by
  have serverName : hysteria2ServerName (rereadHysteria2 c address port source id) =
      ifBlank (sanitize c.sni) address := rfl
  have password : (rereadHysteria2 c address port source id).password = c.password ↔
      WellFormed c.password ∧ unit ' ' ∉ c.password := map_plusForSpace_sanitize_eq_iff
  have alpn : List.map Json.str (commaParts
      (ifBlank (rereadHysteria2 c address port source id).alpn (txt "h3"))) =
        List.map Json.str (commaParts (ifBlank c.alpn (txt "h3"))) ↔ WellFormed c.alpn := by
    rw [List.map_inj_right fun _ _ => Json.str.inj]
    exact alpn_reread_iff
  have server : (rereadHysteria2 c address port source id).address = address ∧
      (rereadHysteria2 c address port source id).port = port := ⟨rfl, rfl⟩
  simp only [buildHysteria2, Json.object, List.map_cons, List.map_nil, Json.obj.injEq,
    List.cons.injEq, Prod.mk.injEq, List.cons_append, List.nil_append, true_and, and_true,
    Json.str.injEq, Json.strings, csvArray, Json.arr.injEq, bandwidth_reread,
    pinField_reread parsed, masks_reread_iff, password, alpn, server.1, server.2, serverName]
  constructor
  · rintro ⟨⟨rfl, portEq⟩, ⟨name, alpn⟩, password, obfs⟩
    exact ⟨⟨rfl, portEq⟩, serverName_reread_iff.mp name, alpn, password, obfs⟩
  · rintro ⟨⟨rfl, portEq⟩, name, alpn, password, obfs⟩
    exact ⟨⟨rfl, portEq⟩, ⟨serverName_reread_iff.mpr name, alpn⟩, password, obfs⟩

end Reread

/-- The address comes back from the form in which the link writes it. -/
def AddressSurvives (address : Text) : Prop :=
  if unit ':' ∈ address then unit ']' ∉ address else PlainStart address

theorem splitHostPort_hysteria2Host {c : ProxyConfig} (parsed : ParsedHysteria2 c)
    (survives : AddressSurvives c.address) :
    splitHostPort (hostPort (hysteria2Host c) c.port) = some (c.address, c.port) := by
  rw [AddressSurvives] at survives
  rw [hysteria2Host]
  split at survives
  · next colon =>
      rw [if_pos colon]
      exact splitHostPort_bracketed parsed.server.noSlash parsed.server.isInt survives
  · next noColon =>
      rw [if_neg noColon]
      exact splitHostPort_hostPort parsed.server.noSlash parsed.server.isInt survives

theorem addressSurvives_of_splitHostPort {c : ProxyConfig} (parsed : ParsedHysteria2 c) {port : ℤ}
    (accepted : splitHostPort (hostPort (hysteria2Host c) c.port) = some (c.address, port)) :
    AddressSurvives c.address := by
  rw [hysteria2Host] at accepted
  rw [AddressSurvives]
  split
  · next colon =>
      rw [if_pos colon] at accepted
      exact (splitHostPort_bracketed_iff parsed.server.noSlash parsed.server.isInt).mp
        ⟨port, accepted⟩
  · next noColon =>
      rw [if_neg noColon] at accepted
      exact (splitHostPort_hostPort_iff parsed.server.noSlash parsed.server.isInt).mp
        ⟨port, accepted⟩

/-- The config survives being shared as a Hysteria2 link. -/
structure SurvivesHysteria2Link (c : ProxyConfig) : Prop where
  address : AddressSurvives c.address
  serverName : ServerNameSurvives c
  alpn : WellFormed c.alpn
  password : WellFormed c.password ∧ unit ' ' ∉ c.password
  obfs : ObfsSurvives c

/-- The link shared for a config that was read from a Hysteria2 link gives a config with the
same outbound exactly when the config survives the link. -/
theorem buildOutbound_toLink_hysteria2_iff {u id fresh : Text} {c : ProxyConfig}
    (scheme : HasScheme platform u "hysteria2://" ∨ HasScheme platform u "hy2://")
    (accepted : parse platform u .personal id = some c) :
    (∃ d, parse platform (toLink c) .personal fresh = some d ∧
      buildOutbound platform d = buildOutbound platform c) ↔ SurvivesHysteria2Link c := by
  have parsed : ParsedHysteria2 c := by
    rcases scheme with long | short
    · rw [parse_of_hysteria2 long, Option.bind_eq_some_iff] at accepted
      rcases accepted with ⟨body, _, accepted⟩
      exact parsedHysteria2_of_parseHysteria2 accepted
    · rw [parse_of_hy2 short, Option.bind_eq_some_iff] at accepted
      rcases accepted with ⟨body, _, accepted⟩
      exact parsedHysteria2_of_parseHysteria2 accepted
  rw [parse_toLink_hysteria2 parsed.protocol, parseHysteria2_hysteria2Body parsed,
    buildOutbound_of_hysteria2 parsed.protocol]
  constructor
  · rintro ⟨d, reread, same⟩
    rw [Option.map_eq_some_iff] at reread
    rcases reread with ⟨⟨address, port⟩, server, rfl⟩
    rw [buildOutbound_of_hysteria2 rfl, buildHysteria2_reread_iff parsed] at same
    rcases same with ⟨⟨addressEq, _⟩, serverName, alpn, password, obfs⟩
    rw [show address = c.address from addressEq] at server
    exact ⟨addressSurvives_of_splitHostPort parsed server, serverName, alpn, password, obfs⟩
  · rintro ⟨address, serverName, alpn, password, obfs⟩
    refine ⟨rereadHysteria2 c c.address c.port .personal fresh, ?_, ?_⟩
    · rw [splitHostPort_hysteria2Host parsed address, Option.map_some]
    · rw [buildOutbound_of_hysteria2 rfl, buildHysteria2_reread_iff parsed]
      exact ⟨⟨rfl, rfl⟩, serverName, alpn, password, obfs⟩

/-- The config of a link to `h` with the password `p`, the name `n` and the given host. -/
def sampleHysteria2 (id host : Text) : ProxyConfig where
  id := id
  name := txt "n"
  protocol := txt "hysteria2"
  address := txt "h"
  port := 443
  password := txt "p"
  security := txt "tls"
  host := host

theorem survivesHysteria2Link_sampleHysteria2 :
    parse .ascii (txt "hysteria2://p@h:443#n") .personal (txt "1") =
        some (sampleHysteria2 (txt "1") []) ∧
      SurvivesHysteria2Link (sampleHysteria2 (txt "1") []) := by
  have scheme : HasScheme .ascii (txt "hysteria2://p@h:443#n") "hysteria2://" := by
    unfold HasScheme
    decide +kernel
  have accepted : parse .ascii (txt "hysteria2://p@h:443#n") .personal (txt "1") =
      some (sampleHysteria2 (txt "1") []) := by decide +kernel
  have reread : parse .ascii (toLink (sampleHysteria2 (txt "1") [])) .personal (txt "2") =
      some (sampleHysteria2 (txt "2") []) := by decide +kernel
  exact ⟨accepted, (buildOutbound_toLink_hysteria2_iff (.inl scheme) accepted).mp
    ⟨sampleHysteria2 (txt "2") [], reread, rfl⟩⟩

/-- The server name of an outbound. -/
def outboundServerName (out : Json) : Option Text :=
  (out.optObject "streamSettings").bind fun stream =>
    (stream.optObject "tlsSettings").map fun tls => tls.optString (txt "serverName") []

/-- Without a name of its own the server name is the host, which the link does not carry. -/
theorem buildOutbound_toLink_sampleHysteria2_host :
    parse .ascii (txt "hy2://p@h:443?host=x#n") .personal (txt "1") =
        some (sampleHysteria2 (txt "1") (txt "x")) ∧
      ¬ ∃ d, parse .ascii (toLink (sampleHysteria2 (txt "1") (txt "x"))) .personal (txt "2") =
          some d ∧
        buildOutbound .ascii d = buildOutbound .ascii (sampleHysteria2 (txt "1") (txt "x")) := by
  refine ⟨by decide +kernel, ?_⟩
  rintro ⟨d, reread, same⟩
  have found : parse .ascii (toLink (sampleHysteria2 (txt "1") (txt "x"))) .personal (txt "2") =
      some (sampleHysteria2 (txt "2") []) := by decide +kernel
  rw [found, Option.some.injEq] at reread
  subst reread
  have names : outboundServerName (buildOutbound .ascii (sampleHysteria2 (txt "2") [])) ≠
      outboundServerName (buildOutbound .ascii (sampleHysteria2 (txt "1") (txt "x"))) := by
    decide +kernel
  exact names (congrArg outboundServerName same)

end GRoute.ConfigParser
