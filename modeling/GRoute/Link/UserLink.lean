import GRoute.Link.Normal

/-!
# VLESS and Trojan links

A config that was parsed from a VLESS or Trojan link is printed and parsed again. The
second config is computed field by field, and compared with the first one. It is the
same exactly when nothing was lost: the printer does not write `allowInsecure`, it
writes a space of the credential as a plus sign that the parser does not read as a
space, a path that came from `seed` is taken for the service name of a gRPC transport,
an address that starts with a bracket or with white space is read differently, and an
unpaired surrogate cannot be written in UTF-8.
-/

namespace GRoute.ConfigParser

open Text ConfigShare

variable {platform : Platform}

/-- The config with the fields that no VLESS or Trojan link sets at their defaults. -/
def onlyStream (c : ProxyConfig) : ProxyConfig :=
  { name := c.name
    protocol := c.protocol
    address := c.address
    port := c.port
    uuid := c.uuid
    password := c.password
    encryption := c.encryption
    flow := c.flow
    network := c.network
    security := c.security
    sni := c.sni
    publicKey := c.publicKey
    shortId := c.shortId
    fingerprint := c.fingerprint
    allowInsecure := c.allowInsecure
    path := c.path
    host := c.host
    serviceName := c.serviceName
    mode := c.mode
    alpn := c.alpn
    headerType := c.headerType
    source := c.source
    id := c.id }

/-- The facts about a parsed config that its link depends on. -/
structure ParsedStream (platform : Platform) (c : ProxyConfig) : Prop where
  server : CleanServer c.address c.port
  noHash : unit '#' ∉ c.address
  noQuestion : unit '?' ∉ c.address
  nameTrimmed : Trimmed c.name
  nameNonempty : c.name ≠ []
  network : normalizeNetwork platform (some c.network) = c.network
  networkTrimmed : Trimmed c.network
  headerType : normalizeHeaderType platform (some c.headerType) = c.headerType
  headerTypeTrimmed : Trimmed c.headerType
  security : c.security ≠ []
  fingerprint : c.fingerprint ≠ []
  encryption : c.encryption ≠ []
  onlyStream_eq : onlyStream c = c

theorem parsedStream_streamConfig {p : KeyMap}
    {name protocol address defaultSecurity id user : Text} {port : ℤ} {source : ConfigSource}
    {body : Text}
    (accepted : splitUserHostPort (trim (upTo (upTo body (unit '#')) (unit '?'))) =
      some (user, address, port))
    (nameTrimmed : Trimmed name) (nameNonempty : name ≠ []) (security : defaultSecurity ≠ [])
    (uuid password encryption : Text) (encryptionNonempty : encryption ≠ []) :
    ParsedStream platform
      { streamConfig platform p name protocol address port defaultSecurity source id with
        uuid := uuid
        password := password
        encryption := encryption } := by
  rcases splitUserHostPort_accepts accepted with ⟨server, fromServer⟩
  have network := normalizeNetwork_normal platform (lookup platform p "type")
  have headerType :=
    normalizeHeaderType_normal platform (lookup platform p "headerType")
  exact {
    server := server
    noHash := fun mem => (notMem_server body).1 (fromServer _ mem)
    noQuestion := fun mem => (notMem_server body).2 (fromServer _ mem)
    nameTrimmed := nameTrimmed
    nameNonempty := nameNonempty
    network := network.1
    networkTrimmed := network.2
    headerType := headerType.1
    headerTypeTrimmed := headerType.2
    security := ifEmpty_ne_nil security
    fingerprint := ifEmpty_ne_nil (by decide)
    encryption := encryptionNonempty
    onlyStream_eq := rfl }

theorem parsedStream_of_parseVless {body id : Text} {source : ConfigSource} {c : ProxyConfig}
    (accepted : parseVless platform body source id = some c) :
    ParsedStream platform c ∧ c.protocol = txt "vless" ∧ c.password = [] ∧ c.source = source := by
  simp only [parseVless, splitUserUri, Option.bind_eq_bind, Option.bind_eq_some_iff,
    Option.pure_def, Option.some.injEq] at accepted
  rcases accepted with ⟨⟨user, address, port⟩, server, rfl⟩
  have name := fragmentName_trimmed body (txt "VLESS")
    (trimmed_of_all (by decide)) (by decide)
  refine ⟨?_, rfl, rfl, rfl⟩
  exact parsedStream_streamConfig server name.1 name.2 (by decide) _ _ _
    (ifEmpty_ne_nil (by decide))

theorem parsedStream_of_parseTrojan {body id : Text} {source : ConfigSource} {c : ProxyConfig}
    (accepted : parseTrojan platform body source id = some c) :
    ParsedStream platform c ∧ c.protocol = txt "trojan" ∧ c.uuid = [] ∧
      c.encryption = txt "none" ∧ c.source = source := by
  simp only [parseTrojan, splitUserUri, Option.bind_eq_bind, Option.bind_eq_some_iff,
    Option.pure_def, Option.some.injEq] at accepted
  rcases accepted with ⟨⟨user, address, port⟩, server, rfl⟩
  have name := fragmentName_trimmed body (txt "Trojan")
    (trimmed_of_all (by decide)) (by decide)
  refine ⟨?_, rfl, rfl, rfl, rfl⟩
  exact parsedStream_streamConfig server name.1 name.2 (by decide) _ _ (txt "none")
    (by decide)

/-- The rows of the query of a VLESS or Trojan link. -/
def userTable (c : ProxyConfig) (includeEncryption : Bool) : List Row :=
  [⟨"type", c.network, true⟩, ⟨"security", c.security, true⟩,
    ⟨"encryption", c.encryption, includeEncryption && c.encryption ≠ []⟩,
    ⟨"flow", c.flow, c.flow ≠ []⟩, ⟨"sni", c.sni, c.sni ≠ []⟩,
    ⟨"pbk", c.publicKey, c.publicKey ≠ []⟩, ⟨"sid", c.shortId, c.shortId ≠ []⟩,
    ⟨"fp", c.fingerprint, c.fingerprint ≠ []⟩, ⟨"path", c.path, c.path ≠ []⟩,
    ⟨"host", c.host, c.host ≠ []⟩, ⟨"serviceName", c.serviceName, c.serviceName ≠ []⟩,
    ⟨"mode", c.mode, c.mode ≠ []⟩, ⟨"alpn", c.alpn, c.alpn ≠ []⟩,
    ⟨"headerType", c.headerType, c.headerType ≠ []⟩]

/-- The keys of the table. -/
def userKeys : List String :=
  ["type", "security", "encryption", "flow", "sni", "pbk", "sid", "fp", "path", "host",
    "serviceName", "mode", "alpn", "headerType"]

theorem userTable_distinct (c : ProxyConfig) (includeEncryption : Bool) :
    DistinctKeys ((userTable c includeEncryption).map Row.key) := by
  have distinct : DistinctKeys userKeys := by decide
  exact distinct

theorem unlessEmpty_eq (key : String) (value : Text) :
    unlessEmpty key value = if decide (value ≠ []) then [(txt key, value)] else [] := by
  simp only [unlessEmpty, ne_eq, decide_not, Bool.not_eq_true', decide_eq_false_iff_not, ite_not]

theorem userParams_eq (c : ProxyConfig) (includeEncryption : Bool) :
    userParams c includeEncryption = rowParams (userTable c includeEncryption) := by
  cases includeEncryption with
  | false => simp [userParams, unlessEmpty_eq, rowParams, userTable]
  | true => simp [userParams, unlessEmpty_eq, rowParams, userTable]

/-- The query of a printed link, as the parser reads it. -/
def userQuery (platform : Platform) (c : ProxyConfig) (includeEncryption : Bool) : KeyMap :=
  parseQuery platform (queryText (rowParams (userTable c includeEncryption)))

/-- A link after its scheme. -/
def userBody (user : Text) (c : ProxyConfig) (includeEncryption : Bool) : Text :=
  tableBody user c.address c.port (userTable c includeEncryption) c.name

theorem userLink_eq (scheme user : Text) (c : ProxyConfig) (includeEncryption : Bool) :
    userLink scheme user c includeEncryption =
      scheme ++ txt "://" ++ userBody user c includeEncryption := by
  have nonempty : queryText (rowParams (userTable c includeEncryption)) ≠ [] :=
    queryText_ne_nil (by simp [rowParams, userTable])
  have colon : txt ":" = [unit ':'] := rfl
  have at_ : txt "@" = [unit '@'] := rfl
  have question : txt "?" = [unit '?'] := rfl
  have hash : txt "#" = [unit '#'] := rfl
  simp [userLink, userBody, tableBody, userServer, hostPort, queryPart, userParams_eq, nonempty,
    colon, at_, question, hash]

theorem splitUserUri_userBody {c : ProxyConfig} (parsed : ParsedStream platform c) (user : Text)
    (includeEncryption : Bool) (default : Text) :
    splitUserUri platform (userBody user c includeEncryption) default =
      (ifEmpty (trim (sanitize c.name)) default, userServer user c.address c.port,
        userQuery platform c includeEncryption) :=
  splitUserUri_tableBody (userTable_distinct c includeEncryption) parsed.noHash parsed.noQuestion
    user c.port c.name default

theorem splitUserHostPort_parsed {c : ProxyConfig} (parsed : ParsedStream platform c)
    (user : Text) : splitUserHostPort (userServer user c.address c.port) =
      (splitHostPort (hostPort c.address c.port)).map fun hp => (enc user, hp.1, hp.2) :=
  splitUserHostPort_userServer parsed.server.noAt user c.port

/-- The config that the parser makes of a printed query. -/
def rereadStream (platform : Platform) (c : ProxyConfig) (name protocol address : Text) (port : ℤ)
    (defaultSecurity : Text) (source : ConfigSource) (id : Text) : ProxyConfig :=
  { name := name
    protocol := protocol
    address := address
    port := port
    flow := sanitize c.flow
    network := normalizeNetwork platform (some (sanitize c.network))
    security := ifEmpty (sanitize c.security) defaultSecurity
    sni := sanitize c.sni
    publicKey := sanitize c.publicKey
    shortId := sanitize c.shortId
    fingerprint := ifEmpty (sanitize c.fingerprint) (txt "chrome")
    path := sanitize c.path
    host := sanitize c.host
    serviceName := ifEmpty (sanitize c.serviceName)
      (if normalizeNetwork platform (some (sanitize c.network)) = txt "grpc" then sanitize c.path
        else [])
    mode := sanitize c.mode
    alpn := sanitize c.alpn
    headerType := normalizeHeaderType platform (some (sanitize c.headerType))
    source := source
    id := id }

section Lookup

variable (c : ProxyConfig) (includeEncryption : Bool)

theorem lookup_userQuery {row : Row} (mem : row ∈ userTable c includeEncryption) :
    lookup platform (userQuery platform c includeEncryption) row.key =
      if row.printed then some (sanitize row.value) else none :=
  lookup_table (userTable_distinct c includeEncryption) mem

theorem lookupOrEmpty_userQuery (key : String) (value : Text)
    (mem : ⟨key, value, value ≠ []⟩ ∈ userTable c includeEncryption) :
    lookupOrEmpty platform (userQuery platform c includeEncryption) key = sanitize value :=
  lookupOrEmpty_table (userTable_distinct c includeEncryption) mem

theorem lookup_userQuery_of_notMem {key : String} (plain : isPlainKey (txt key) = true)
    (absent : (txt key).map asciiLower ∉ userKeys.map fun key => (txt key).map asciiLower) :
    lookup platform (userQuery platform c includeEncryption) key = none :=
  lookup_table_of_notMem (userTable_distinct c includeEncryption) plain absent

theorem streamConfig_userQuery (name protocol address : Text) (port : ℤ) (defaultSecurity : Text)
    (source : ConfigSource) (id : Text) :
    streamConfig platform (userQuery platform c includeEncryption) name protocol address port
        defaultSecurity source id =
      rereadStream platform c name protocol address port defaultSecurity source id := by
  have network : lookup platform (userQuery platform c includeEncryption) "type" =
      some (sanitize c.network) :=
    lookup_userQuery c includeEncryption
      (show (⟨"type", c.network, true⟩ : Row) ∈ userTable c includeEncryption by simp [userTable])
  have security : lookup platform (userQuery platform c includeEncryption) "security" =
      some (sanitize c.security) :=
    lookup_userQuery c includeEncryption
      (show (⟨"security", c.security, true⟩ : Row) ∈ userTable c includeEncryption by
        simp [userTable])
  have securityText : lookupOrEmpty platform (userQuery platform c includeEncryption) "security" =
      sanitize c.security := by
    rw [lookupOrEmpty, security, Option.getD_some]
  have headerType : normalizeHeaderType platform
      (lookup platform (userQuery platform c includeEncryption) "headerType") =
      normalizeHeaderType platform (some (sanitize c.headerType)) := by
    have value : lookupOrEmpty platform (userQuery platform c includeEncryption) "headerType" =
        sanitize c.headerType := lookupOrEmpty_userQuery c _ _ _ (by simp [userTable])
    rw [lookupOrEmpty] at value
    rw [normalizeHeaderType, value]
    rfl
  have seed : lookupOrEmpty platform (userQuery platform c includeEncryption) "seed" = [] := by
    rw [lookupOrEmpty, lookup_userQuery_of_notMem c _ (by decide) (by decide), Option.getD_none]
  rw [streamConfig, rereadStream, network, securityText, headerType, seed,
    lookup_userQuery_of_notMem c _ (by decide) (by decide),
    lookup_userQuery_of_notMem c _ (by decide) (by decide),
    lookupOrEmpty_userQuery c _ "flow" c.flow (by simp [userTable]),
    lookupOrEmpty_userQuery c _ "sni" c.sni (by simp [userTable]),
    lookupOrEmpty_userQuery c _ "pbk" c.publicKey (by simp [userTable]),
    lookupOrEmpty_userQuery c _ "sid" c.shortId (by simp [userTable]),
    lookupOrEmpty_userQuery c _ "fp" c.fingerprint (by simp [userTable]),
    lookupOrEmpty_userQuery c _ "path" c.path (by simp [userTable]),
    lookupOrEmpty_userQuery c _ "host" c.host (by simp [userTable]),
    lookupOrEmpty_userQuery c _ "serviceName" c.serviceName (by simp [userTable]),
    lookupOrEmpty_userQuery c _ "mode" c.mode (by simp [userTable]),
    lookupOrEmpty_userQuery c _ "alpn" c.alpn (by simp [userTable]), ifEmpty_nil_right]
  rfl

end Lookup

/-- The transport fields of the config survive being printed and parsed. -/
structure StreamSurvives (c : ProxyConfig) : Prop where
  secure : c.allowInsecure = false
  serviceName : ¬ (c.network = txt "grpc" ∧ c.serviceName = [] ∧ c.path ≠ [])
  wellFormed : ∀ s ∈ [c.flow, c.network, c.security, c.sni, c.publicKey, c.shortId, c.fingerprint,
    c.path, c.host, c.serviceName, c.mode, c.alpn, c.headerType], WellFormed s

theorem serviceName_reread_iff {serviceName path : Text} {isGrpc : Prop} [Decidable isGrpc] :
    ifEmpty (sanitize serviceName) (if isGrpc then sanitize path else []) = serviceName ↔
      WellFormed serviceName ∧ ¬ (isGrpc ∧ serviceName = [] ∧ path ≠ []) := by
  by_cases empty : serviceName = []
  · subst empty
    by_cases pathEmpty : path = []
    · subst pathEmpty
      simp [WellFormed, codePoints]
    · simp [WellFormed, codePoints, pathEmpty, sanitize_ne_nil pathEmpty]
  · rw [ifEmpty_sanitize_eq_iff empty]
    simp [empty]

section Compare

variable {c : ProxyConfig} {source : ConfigSource} {name address uuid password encryption : Text}
  {port : ℤ} {defaultSecurity fresh : Text}

theorem streamSurvives_of_reread (parsed : ParsedStream platform c)
    (same : { rereadStream platform c name c.protocol address port defaultSecurity source fresh with
      uuid := uuid, password := password, encryption := encryption } = { c with id := fresh }) :
    StreamSurvives c := by
  have network := (normalizeNetwork_sanitize_iff platform parsed.networkTrimmed parsed.network).mp
    (congrArg ProxyConfig.network same)
  have grpcName := congrArg ProxyConfig.serviceName same
  simp only [rereadStream, sanitize_eq_self_iff.mpr network, parsed.network] at grpcName
  have serviceName := serviceName_reread_iff.mp grpcName
  refine ⟨(congrArg ProxyConfig.allowInsecure same).symm, serviceName.2, ?_⟩
  simp only [List.forall_mem_cons]
  exact ⟨sanitize_eq_self_iff.mp (congrArg ProxyConfig.flow same), network,
    (ifEmpty_sanitize_eq_iff parsed.security _).mp (congrArg ProxyConfig.security same),
    sanitize_eq_self_iff.mp (congrArg ProxyConfig.sni same),
    sanitize_eq_self_iff.mp (congrArg ProxyConfig.publicKey same),
    sanitize_eq_self_iff.mp (congrArg ProxyConfig.shortId same),
    (ifEmpty_sanitize_eq_iff parsed.fingerprint _).mp (congrArg ProxyConfig.fingerprint same),
    sanitize_eq_self_iff.mp (congrArg ProxyConfig.path same),
    sanitize_eq_self_iff.mp (congrArg ProxyConfig.host same), serviceName.1,
    sanitize_eq_self_iff.mp (congrArg ProxyConfig.mode same),
    sanitize_eq_self_iff.mp (congrArg ProxyConfig.alpn same),
    (normalizeHeaderType_sanitize_iff platform parsed.headerTypeTrimmed parsed.headerType).mp
      (congrArg ProxyConfig.headerType same), by simp⟩

theorem reread_of_streamSurvives (parsed : ParsedStream platform c) (survives : StreamSurvives c)
    (sourceEq : c.source = source) :
    { rereadStream platform c c.name c.protocol c.address c.port defaultSecurity source fresh with
      uuid := c.uuid, password := c.password, encryption := c.encryption } =
        { c with id := fresh } := by
  rcases survives with ⟨secure, grpc, wellFormed⟩
  simp only [List.forall_mem_cons] at wellFormed
  rcases wellFormed with ⟨flow, network, security, sni, publicKey, shortId, fingerprint, path, host,
    serviceName, mode, alpn, headerType, _⟩
  have reread := serviceName_reread_iff.mpr ⟨serviceName, grpc⟩
  rw [sanitize_eq_self_iff.mpr path] at reread
  have restricted : { c with id := fresh } = { onlyStream c with id := fresh } := by
    rw [parsed.onlyStream_eq]
  rw [restricted]
  simp only [rereadStream, onlyStream, secure, sourceEq, sanitize_eq_self_iff.mpr flow,
    (normalizeNetwork_sanitize_iff platform parsed.networkTrimmed parsed.network).mpr network,
    (ifEmpty_sanitize_eq_iff parsed.security _).mpr security, sanitize_eq_self_iff.mpr sni,
    sanitize_eq_self_iff.mpr publicKey, sanitize_eq_self_iff.mpr shortId,
    (ifEmpty_sanitize_eq_iff parsed.fingerprint _).mpr fingerprint, reread,
    sanitize_eq_self_iff.mpr path, sanitize_eq_self_iff.mpr host, sanitize_eq_self_iff.mpr mode,
    sanitize_eq_self_iff.mpr alpn,
    (normalizeHeaderType_sanitize_iff platform parsed.headerTypeTrimmed parsed.headerType).mpr
      headerType]

end Compare

theorem parseVless_userBody {c : ProxyConfig} (parsed : ParsedStream platform c)
    (protocol : c.protocol = txt "vless") (noPassword : c.password = []) (source : ConfigSource)
    (fresh : Text) :
    parseVless platform (userBody c.uuid c true) source fresh =
      (splitHostPort (hostPort c.address c.port)).map fun hp =>
        { rereadStream platform c (ifEmpty (trim (sanitize c.name)) (txt "VLESS")) c.protocol hp.1
            hp.2 (txt "none") source fresh with
          uuid := (sanitize c.uuid).map plusForSpace
          password := c.password
          encryption := ifEmpty (sanitize c.encryption) (txt "none") } := by
  have encryption : lookupOrEmpty platform (userQuery platform c true) "encryption" =
      sanitize c.encryption := lookupOrEmpty_userQuery c true _ _ (by simp [userTable])
  rw [parseVless, splitUserUri_userBody parsed]
  simp only [splitUserHostPort_parsed parsed, streamConfig_userQuery, encryption]
  cases splitHostPort (hostPort c.address c.port) with
  | none => rfl
  | some hp =>
      rw [protocol, noPassword]
      simp only [Option.map_some, Option.bind_eq_bind, Option.bind_some, pctDecode_enc]
      rfl

theorem parseTrojan_userBody {c : ProxyConfig} (parsed : ParsedStream platform c)
    (protocol : c.protocol = txt "trojan") (noUuid : c.uuid = [])
    (encryption : c.encryption = txt "none") (source : ConfigSource) (fresh : Text) :
    parseTrojan platform (userBody c.password c false) source fresh =
      (splitHostPort (hostPort c.address c.port)).map fun hp =>
        { rereadStream platform c (ifEmpty (trim (sanitize c.name)) (txt "Trojan")) c.protocol hp.1
            hp.2 (txt "tls") source fresh with
          uuid := c.uuid
          password := (sanitize c.password).map plusForSpace
          encryption := c.encryption } := by
  rw [parseTrojan, splitUserUri_userBody parsed]
  simp only [splitUserHostPort_parsed parsed, streamConfig_userQuery]
  cases splitHostPort (hostPort c.address c.port) with
  | none => rfl
  | some hp =>
      rw [protocol, noUuid, encryption]
      simp only [Option.map_some, Option.bind_eq_bind, Option.bind_some, pctDecode_enc]
      rfl

/-- The config survives being shared as a VLESS or Trojan link. -/
structure SurvivesUserLink (c : ProxyConfig) : Prop where
  stream : StreamSurvives c
  plainStart : PlainStart c.address
  name : WellFormed c.name
  encryption : WellFormed c.encryption
  uuid : WellFormed c.uuid ∧ unit ' ' ∉ c.uuid
  password : WellFormed c.password ∧ unit ' ' ∉ c.password

/-- The second config is the first one exactly when the server and all fields survive. -/
theorem map_reread_eq_iff {c : ProxyConfig} (parsed : ParsedStream platform c)
    {source : ConfigSource} (sourceEq : c.source = source)
    {name uuid password encryption defaultSecurity fresh : Text}
    (nameIff : name = c.name ↔ WellFormed c.name)
    (uuidIff : uuid = c.uuid ↔ WellFormed c.uuid ∧ unit ' ' ∉ c.uuid)
    (passwordIff : password = c.password ↔ WellFormed c.password ∧ unit ' ' ∉ c.password)
    (encryptionIff : encryption = c.encryption ↔ WellFormed c.encryption) :
    ((splitHostPort (hostPort c.address c.port)).map fun hp =>
        { rereadStream platform c name c.protocol hp.1 hp.2 defaultSecurity source fresh with
          uuid := uuid, password := password, encryption := encryption }) =
        some { c with id := fresh } ↔ SurvivesUserLink c := by
  have serverIff := splitHostPort_hostPort_iff parsed.server.noSlash parsed.server.isInt
  constructor
  · intro same
    rw [Option.map_eq_some_iff] at same
    rcases same with ⟨⟨address, port⟩, server, same⟩
    have addressEq : address = c.address := congrArg ProxyConfig.address same
    exact {
      stream := streamSurvives_of_reread parsed same
      plainStart := serverIff.mp ⟨port, by rw [server, addressEq]⟩
      name := nameIff.mp (congrArg ProxyConfig.name same)
      encryption := encryptionIff.mp (congrArg ProxyConfig.encryption same)
      uuid := uuidIff.mp (congrArg ProxyConfig.uuid same)
      password := passwordIff.mp (congrArg ProxyConfig.password same) }
  · intro survives
    rw [splitHostPort_hostPort parsed.server.noSlash parsed.server.isInt survives.plainStart,
      Option.map_some, nameIff.mpr survives.name, uuidIff.mpr survives.uuid,
      passwordIff.mpr survives.password, encryptionIff.mpr survives.encryption]
    exact congrArg some (reread_of_streamSurvives parsed survives.stream sourceEq)

theorem parse_toLink_vless {c : ProxyConfig} (protocol : c.protocol = txt "vless")
    (source : ConfigSource) (fresh : Text) :
    parse platform (toLink c) source fresh =
      parseVless platform (userBody c.uuid c true) source fresh := by
  have scheme : txt "vless" ++ txt "://" = txt "vless://" := by decide
  have trimmed : Trimmed (txt "vless://" ++ userBody c.uuid c true) :=
    trimmed_link (by decide) (by rintro _ ⟨⟩; decide) _ _
  rw [toLink, if_pos protocol, userLink_eq, scheme,
    parse_of_vless (hasScheme_link (by decide) (by decide) trimmed),
    substringFrom_link (by decide) trimmed, Option.bind_some]

theorem parse_toLink_trojan {c : ProxyConfig} (protocol : c.protocol = txt "trojan")
    (source : ConfigSource) (fresh : Text) :
    parse platform (toLink c) source fresh =
      parseTrojan platform (userBody c.password c false) source fresh := by
  have scheme : txt "trojan" ++ txt "://" = txt "trojan://" := by decide
  have notVless : c.protocol ≠ txt "vless" := by rw [protocol]; decide
  have trimmed : Trimmed (txt "trojan://" ++ userBody c.password c false) :=
    trimmed_link (by decide) (by rintro _ ⟨⟩; decide) _ _
  rw [toLink, if_neg notVless, if_pos protocol, userLink_eq, scheme,
    parse_of_trojan (hasScheme_link (by decide) (by decide) trimmed),
    substringFrom_link (by decide) trimmed, Option.bind_some]

/-- A config read from a VLESS or a Trojan link is read again from the link shared for it,
under a fresh identifier, exactly when it survives the link. -/
theorem parse_toLink_user_iff {u id fresh : Text} {c : ProxyConfig}
    (scheme : HasScheme platform u "vless://" ∨ HasScheme platform u "trojan://")
    (accepted : parse platform u .personal id = some c) :
    parse platform (toLink c) .personal fresh = some { c with id := fresh } ↔
      SurvivesUserLink c := by
  have noSpaces : ([] : Text) = [] ↔ WellFormed [] ∧ unit ' ' ∉ ([] : Text) := by decide
  rcases scheme with vless | trojan
  · rw [parse_of_vless vless, Option.bind_eq_some_iff] at accepted
    rcases accepted with ⟨body, _, accepted⟩
    rcases parsedStream_of_parseVless accepted with ⟨parsed, protocol, noPassword, sourceEq⟩
    rw [parse_toLink_vless protocol, parseVless_userBody parsed protocol noPassword]
    exact map_reread_eq_iff parsed sourceEq
      (name_reread_iff parsed.nameTrimmed parsed.nameNonempty _)
      map_plusForSpace_sanitize_eq_iff (noPassword ▸ noSpaces)
      (ifEmpty_sanitize_eq_iff parsed.encryption _)
  · rw [parse_of_trojan trojan, Option.bind_eq_some_iff] at accepted
    rcases accepted with ⟨body, _, accepted⟩
    rcases parsedStream_of_parseTrojan accepted with
      ⟨parsed, protocol, noUuid, encryption, sourceEq⟩
    have encryptionIff : c.encryption = c.encryption ↔ WellFormed c.encryption := by
      rw [encryption]
      decide
    rw [parse_toLink_trojan protocol, parseTrojan_userBody parsed protocol noUuid encryption]
    exact map_reread_eq_iff parsed sourceEq
      (name_reread_iff parsed.nameTrimmed parsed.nameNonempty _)
      (noUuid ▸ noSpaces) map_plusForSpace_sanitize_eq_iff encryptionIff

/-- The config read from `vless://a@b:443#n`. -/
def plainVless (id : Text) : ProxyConfig where
  id := id
  name := txt "n"
  protocol := txt "vless"
  address := txt "b"
  port := 443
  uuid := txt "a"

theorem survivesUserLink_plainVless :
    parse .ascii (txt "vless://a@b:443#n") .personal (txt "1") = some (plainVless (txt "1")) ∧
      SurvivesUserLink (plainVless (txt "1")) := by
  have scheme : HasScheme .ascii (txt "vless://a@b:443#n") "vless://" := by
    unfold HasScheme
    decide +kernel
  have accepted : parse .ascii (txt "vless://a@b:443#n") .personal (txt "1") =
      some (plainVless (txt "1")) := by decide +kernel
  have same : parse .ascii (toLink (plainVless (txt "1"))) .personal (txt "2") =
      some { plainVless (txt "1") with id := txt "2" } := by decide +kernel
  exact ⟨accepted, (parse_toLink_user_iff (.inl scheme) accepted).mp same⟩

/-- The config read from `trojan://p%20w@h:443#n`. -/
def spacedTrojan (id : Text) : ProxyConfig where
  id := id
  name := txt "n"
  protocol := txt "trojan"
  address := txt "h"
  port := 443
  password := txt "p w"
  security := txt "tls"

/-- The space of a password is shared as `+`, which the parser reads verbatim. -/
theorem parse_toLink_spacedTrojan :
    parse .ascii (txt "trojan://p%20w@h:443#n") .personal (txt "1") =
        some (spacedTrojan (txt "1")) ∧
      parse .ascii (toLink (spacedTrojan (txt "1"))) .personal (txt "2") =
        some { spacedTrojan (txt "2") with password := txt "p+w" } ∧
      parse .ascii (toLink (spacedTrojan (txt "1"))) .personal (txt "2") ≠
        some { spacedTrojan (txt "1") with id := txt "2" } := by
  decide +kernel

end GRoute.ConfigParser
