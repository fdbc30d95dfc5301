import GRoute.Link.DecodeB64
import GRoute.Link.Normal

/-!
# VMess links

A VMess link is the Base64 text of a JSON object. The parser reads two fields that the
printer does not write, so a config comes back from its link only if these are empty.
-/

namespace GRoute.ConfigParser

open Text ConfigShare

variable {platform : Platform}

/-- The fields that the VMess parser fills, with the defaults of all others. -/
def onlyVmess (c : ProxyConfig) : ProxyConfig :=
  { name := c.name
    protocol := txt "vmess"
    address := c.address
    port := c.port
    uuid := c.uuid
    alterId := c.alterId
    encryption := c.encryption
    network := c.network
    security := c.security
    sni := c.sni
    fingerprint := c.fingerprint
    path := c.path
    host := c.host
    serviceName := if c.network = txt "grpc" then c.path else []
    mode := c.mode
    alpn := c.alpn
    headerType := c.headerType
    source := c.source
    id := c.id }

/-- The facts about a parsed config that its link depends on. -/
structure ParsedVmess (platform : Platform) (c : ProxyConfig) : Prop where
  port : IsInt c.port
  alterId : IsInt c.alterId
  name : c.name ≠ []
  encryption : c.encryption ≠ []
  fingerprint : c.fingerprint ≠ []
  network : normalizeNetwork platform (some c.network) = c.network
  networkTrimmed : Trimmed c.network
  headerType : normalizeHeaderType platform (some c.headerType) = c.headerType
  headerTypeTrimmed : Trimmed c.headerType
  security : c.security = if c.security = txt "tls" then txt "tls" else txt "none"
  onlyVmess_eq : onlyVmess c = c

theorem parsedVmess_of_parseVmess {body id : Text} {source : ConfigSource} {c : ProxyConfig}
    (accepted : parseVmess platform body source id = some c) :
    ParsedVmess platform c ∧ c.source = source := by
  simp only [parseVmess, Option.bind_eq_bind, Option.bind_eq_some_iff, Option.pure_def,
    Option.some.injEq] at accepted
  rcases accepted with ⟨json, _, o, _, rfl⟩
  have network := normalizeNetwork_normal platform (some (o.optString (txt "net") (txt "tcp")))
  have headerType := normalizeHeaderType_normal platform (some (o.optString (txt "type") []))
  refine ⟨?_, rfl⟩
  exact {
    port := isInt_getD_toIntOrNull _
    alterId := isInt_getD_toIntOrNull _
    name := ifEmpty_ne_nil (by decide)
    encryption := ifEmpty_ne_nil (by decide)
    fingerprint := ifEmpty_ne_nil (by decide)
    network := network.1
    networkTrimmed := network.2
    headerType := headerType.1
    headerTypeTrimmed := headerType.2
    security := by dsimp only; split <;> decide
    onlyVmess_eq := rfl }

/-- The fields that are read from the shared object. -/
def vmessTable (c : ProxyConfig) : List (Text × Text) :=
  (vmessFields c).map fun field => (sanitize field.1, sanitize field.2)

theorem vmessTable_keys (c : ProxyConfig) : (vmessTable c).map Prod.fst =
    [txt "v", txt "ps", txt "add", txt "port", txt "id", txt "aid", txt "scy", txt "net",
      txt "type", txt "host", txt "path", txt "tls", txt "sni", txt "fp"] := by
  simp only [vmessTable, vmessFields, List.map_cons, List.map_nil]
  decide

theorem vmessTable_distinct (c : ProxyConfig) : ((vmessTable c).map Prod.fst).Nodup := by
  rw [vmessTable_keys]
  decide

/-- The text of a VMess link after its scheme. -/
def vmessBody (c : ProxyConfig) : Text :=
  Base64.encodeToString .standard true (encodeUtf8 (Json.ofStrings (vmessFields c)).print)

theorem decodeB64Text_vmessBody (c : ProxyConfig) :
    decodeB64Text (vmessBody c) = some (Json.ofStrings (vmessTable c)).print := by
  have nonempty : encodeUtf8 (Json.ofStrings (vmessFields c)).print ≠ [] :=
    encodeUtf8_ne_nil (by simp [Json.ofStrings, Json.print])
  rw [decodeB64Text, vmessBody, decodeB64_standard true nonempty, Option.map_some,
    decodeUtf8_encodeUtf8, Json.sanitize_print_ofStrings]
  rfl

theorem optString_vmessTable {c : ProxyConfig} (key : String) (value : Text)
    (mem : (txt key, value) ∈ vmessFields c) (scalar : sanitize (txt key) = txt key)
    (default : Text) :
    (Json.ofStrings (vmessTable c)).optString (txt key) default = sanitize value := by
  refine Json.optString_ofStrings_of_mem (vmessTable_distinct c) ?_ default
  exact List.mem_map.mpr ⟨_, mem, by rw [scalar]⟩

/-- The config that is read from the link of another one. -/
def rereadVmess (platform : Platform) (c : ProxyConfig) (source : ConfigSource) (id : Text) :
    ProxyConfig :=
  let network := normalizeNetwork platform (some (sanitize c.network))
  { name := ifEmpty (sanitize c.name) (txt "VMess")
    protocol := txt "vmess"
    address := sanitize c.address
    port := c.port
    uuid := sanitize c.uuid
    alterId := c.alterId
    encryption := ifEmpty (sanitize c.encryption) (txt "auto")
    network := network
    security := if c.security = txt "tls" then txt "tls" else txt "none"
    sni := sanitize c.sni
    fingerprint := ifEmpty (sanitize c.fingerprint) (txt "chrome")
    path := sanitize c.path
    host := sanitize c.host
    serviceName := if network = txt "grpc" then sanitize c.path else []
    headerType := normalizeHeaderType platform (some (sanitize (ifEmpty c.headerType (txt "none"))))
    source := source
    id := id }

theorem parseVmess_vmessBody {c : ProxyConfig} (parsed : ParsedVmess platform c)
    (source : ConfigSource) (fresh : Text) :
    parseVmess platform (vmessBody c) source fresh =
      some (rereadVmess platform c source fresh) := by
  have noHash : unit '#' ∉ vmessBody c := notMem_encodeToString _ _ _ (by decide)
  have noQuestion : unit '?' ∉ vmessBody c := notMem_encodeToString _ _ _ (by decide)
  have field (key : String) (value default : Text) (mem : (txt key, value) ∈ vmessFields c)
      (scalar : sanitize (txt key) = txt key) :
      (Json.ofStrings (vmessTable c)).optString (txt key) default = sanitize value :=
    optString_vmessTable key value mem scalar default
  have missing (key : String) (absent : txt key ∉ (vmessTable c).map Prod.fst) :
      (Json.ofStrings (vmessTable c)).optString (txt key) [] = [] :=
    Json.optString_ofStrings_of_notMem absent []
  have mode := missing "mode" (by rw [vmessTable_keys]; decide)
  have alpn := missing "alpn" (by rw [vmessTable_keys]; decide)
  have tls : sanitize (if c.security = txt "tls" then txt "tls" else []) =
      if c.security = txt "tls" then txt "tls" else [] := by split <;> decide
  have security : (if (if c.security = txt "tls" then txt "tls" else []) ≠ [] ∧
      (if c.security = txt "tls" then txt "tls" else []) ≠ txt "none" then txt "tls"
      else txt "none") = if c.security = txt "tls" then txt "tls" else txt "none" := by
    split <;> decide
  have object : platform.json.parse (Json.ofStrings (vmessTable c)).print =
      some (Json.ofStrings (vmessTable c)) := platform.json.parse_print (vmessTable_distinct c)
  rw [parseVmess, upTo_of_notMem noHash, upTo_of_notMem noQuestion, decodeB64Text_vmessBody]
  simp only [Option.bind_eq_bind, Option.bind_some, object, mode, alpn,
    field "ps" c.name _ (by simp [vmessFields]) (by decide),
    field "add" c.address _ (by simp [vmessFields]) (by decide),
    field "port" (ofInt c.port) _ (by simp [vmessFields]) (by decide),
    field "id" c.uuid _ (by simp [vmessFields]) (by decide),
    field "aid" (ofInt c.alterId) _ (by simp [vmessFields]) (by decide),
    field "scy" (ifEmpty c.encryption (txt "auto")) _ (by simp [vmessFields]) (by decide),
    field "net" c.network _ (by simp [vmessFields]) (by decide),
    field "type" (ifEmpty c.headerType (txt "none")) _ (by simp [vmessFields]) (by decide),
    field "host" c.host _ (by simp [vmessFields]) (by decide),
    field "path" c.path _ (by simp [vmessFields]) (by decide),
    field "tls" (if c.security = txt "tls" then txt "tls" else []) _ (by simp [vmessFields])
      (by decide),
    field "sni" c.sni _ (by simp [vmessFields]) (by decide),
    field "fp" c.fingerprint _ (by simp [vmessFields]) (by decide),
    sanitize_ofInt, toIntOrNull_ofInt parsed.port, toIntOrNull_ofInt parsed.alterId,
    Option.getD_some, tls, security, ifEmpty_of_ne parsed.encryption]
  rfl

theorem parse_toLink_vmess {c : ProxyConfig} (protocol : c.protocol = txt "vmess")
    (source : ConfigSource) (fresh : Text) :
    parse platform (toLink c) source fresh =
      parseVmess platform (vmessBody c) source fresh := by
  have link : toLink c = txt "vmess://" ++ vmessBody c := by
    rw [toLink, protocol, if_neg (by decide), if_neg (by decide), if_pos rfl]
    rfl
  have trimmed : Trimmed (txt "vmess://" ++ vmessBody c) := by
    refine trimmed_of_forall fun d mem => ?_
    rcases List.mem_append.mp mem with inScheme | inBody
    · have visible : (txt "vmess://").all (fun d => !isWhitespace d) = true := by decide
      simpa using List.all_eq_true.mp visible d inScheme
    · exact encodeToString_visible _ _ _ d inBody
  rw [link, parse_of_vmess (hasScheme_link (by decide) (by decide) trimmed),
    substringFrom_link (by decide) trimmed, Option.bind_some]

/-- The config survives being shared as a VMess link. -/
structure SurvivesVmessLink (c : ProxyConfig) : Prop where
  mode : c.mode = []
  alpn : c.alpn = []
  wellFormed : ∀ t ∈ [c.name, c.address, c.uuid, c.encryption, c.network, c.headerType, c.host,
    c.path, c.sni, c.fingerprint], WellFormed t

theorem headerType_reread_iff {headerType : Text} (trimmed : Trimmed headerType)
    (normal : normalizeHeaderType platform (some headerType) = headerType) :
    normalizeHeaderType platform (some (sanitize (ifEmpty headerType (txt "none")))) = headerType ↔
      WellFormed headerType := by
  by_cases empty : headerType = []
  · have plain : sanitize (txt "none") = txt "none" := by decide
    have none : normalizeHeaderType platform (some (txt "none")) = [] := by
      rw [normalizeHeaderType, Option.getD_some,
        lowercase_trim_of_lower platform (by decide) (by decide) (by decide)]
      decide
    rw [empty, ifEmpty_nil, plain, none]
    decide
  · rw [ifEmpty_of_ne empty, normalizeHeaderType_sanitize_iff platform trimmed normal]

theorem rereadVmess_eq_iff {c : ProxyConfig} (parsed : ParsedVmess platform c)
    {source : ConfigSource} (sourceEq : c.source = source) (fresh : Text) :
    rereadVmess platform c source fresh = { c with id := fresh } ↔ SurvivesVmessLink c := by
  have networkIff := normalizeNetwork_sanitize_iff platform parsed.networkTrimmed parsed.network
  have headerTypeIff := headerType_reread_iff parsed.headerTypeTrimmed parsed.headerType
  constructor
  · intro same
    refine ⟨(congrArg ProxyConfig.mode same).symm, (congrArg ProxyConfig.alpn same).symm, ?_⟩
    simp only [List.forall_mem_cons]
    exact ⟨(ifEmpty_sanitize_eq_iff parsed.name _).mp (congrArg ProxyConfig.name same),
      sanitize_eq_self_iff.mp (congrArg ProxyConfig.address same),
      sanitize_eq_self_iff.mp (congrArg ProxyConfig.uuid same),
      (ifEmpty_sanitize_eq_iff parsed.encryption _).mp (congrArg ProxyConfig.encryption same),
      networkIff.mp (congrArg ProxyConfig.network same),
      headerTypeIff.mp (congrArg ProxyConfig.headerType same),
      sanitize_eq_self_iff.mp (congrArg ProxyConfig.host same),
      sanitize_eq_self_iff.mp (congrArg ProxyConfig.path same),
      sanitize_eq_self_iff.mp (congrArg ProxyConfig.sni same),
      (ifEmpty_sanitize_eq_iff parsed.fingerprint _).mp (congrArg ProxyConfig.fingerprint same),
      by simp⟩
  · rintro ⟨mode, alpn, wellFormed⟩
    simp only [List.forall_mem_cons] at wellFormed
    rcases wellFormed with ⟨name, address, uuid, encryption, network, headerType, host, path, sni,
      fingerprint, _⟩
    have restricted : { c with id := fresh } = { onlyVmess c with id := fresh } := by
      rw [parsed.onlyVmess_eq]
    rw [restricted]
    simp only [rereadVmess, onlyVmess, ← parsed.security, mode, alpn, sourceEq,
      (ifEmpty_sanitize_eq_iff parsed.name _).mpr name, sanitize_eq_self_iff.mpr address,
      sanitize_eq_self_iff.mpr uuid, (ifEmpty_sanitize_eq_iff parsed.encryption _).mpr encryption,
      networkIff.mpr network, headerTypeIff.mpr headerType, sanitize_eq_self_iff.mpr host,
      sanitize_eq_self_iff.mpr path, sanitize_eq_self_iff.mpr sni,
      (ifEmpty_sanitize_eq_iff parsed.fingerprint _).mpr fingerprint]

/-- A config read from a VMess link is read again from the link shared for it, under a fresh
identifier, exactly when it survives the link. -/
theorem parse_toLink_vmess_iff {u id fresh : Text} {c : ProxyConfig}
    (scheme : HasScheme platform u "vmess://")
    (accepted : parse platform u .personal id = some c) :
    parse platform (toLink c) .personal fresh = some { c with id := fresh } ↔
      SurvivesVmessLink c := by
  rw [parse_of_vmess scheme, Option.bind_eq_some_iff] at accepted
  rcases accepted with ⟨body, _, accepted⟩
  rcases parsedVmess_of_parseVmess accepted with ⟨parsed, sourceEq⟩
  have protocol : c.protocol = txt "vmess" :=
    (congrArg ProxyConfig.protocol parsed.onlyVmess_eq).symm
  rw [parse_toLink_vmess protocol, parseVmess_vmessBody parsed, Option.some.injEq]
  exact rereadVmess_eq_iff parsed sourceEq fresh

/-- The config of a link for `{"ps":"n","add":"h","port":"443","id":"u"}`. -/
def plainVmess (id : Text) : ProxyConfig where
  id := id
  name := txt "n"
  protocol := txt "vmess"
  address := txt "h"
  port := 443
  uuid := txt "u"
  encryption := txt "auto"

def plainVmessUri : Text :=
  txt "vmess://eyJwcyI6Im4iLCJhZGQiOiJoIiwicG9ydCI6IjQ0MyIsImlkIjoidSJ9"

theorem survivesVmessLink_plainVmess :
    parse .ascii plainVmessUri .personal (txt "1") = some (plainVmess (txt "1")) ∧
      SurvivesVmessLink (plainVmess (txt "1")) := by
  have scheme : HasScheme .ascii plainVmessUri "vmess://" := by
    unfold HasScheme
    decide +kernel
  have accepted : parse .ascii plainVmessUri .personal (txt "1") =
      some (plainVmess (txt "1")) := by decide +kernel
  have same : parse .ascii (toLink (plainVmess (txt "1"))) .personal (txt "2") =
      some { plainVmess (txt "1") with id := txt "2" } := by decide +kernel
  exact ⟨accepted, (parse_toLink_vmess_iff scheme accepted).mp same⟩

/-- The link of the same config with `"alpn":"h2"`. -/
def alpnVmessUri : Text :=
  txt "vmess://eyJwcyI6Im4iLCJhZGQiOiJoIiwicG9ydCI6IjQ0MyIsImlkIjoidSIsImFscG4iOiJoMiJ9"

/-- The printer does not write `alpn`, which the parser reads. -/
theorem parse_toLink_alpnVmess :
    parse .ascii alpnVmessUri .personal (txt "1") =
        some { plainVmess (txt "1") with alpn := txt "h2" } ∧
      parse .ascii (toLink { plainVmess (txt "1") with alpn := txt "h2" }) .personal (txt "2") =
        some (plainVmess (txt "2")) ∧
      parse .ascii (toLink { plainVmess (txt "1") with alpn := txt "h2" }) .personal (txt "2") ≠
        some { plainVmess (txt "2") with alpn := txt "h2" } := by
  decide +kernel

end GRoute.ConfigParser
