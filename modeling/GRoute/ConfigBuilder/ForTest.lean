import GRoute.ConfigBuilder.Reading
import GRoute.ConfigBuilder.Security

/-!
# Test configs

`buildForTest` of `ConfigBuilder.kt`, and what the importer reads of the server and the transport of
its outbound. The builder and the importer have a table of JSON paths each. The importer does not
read a second path or host where the builder writes lists, the mode of a transport, and a header of
mKCP in another spelling than its own.
-/

namespace GRoute.ConfigBuilder

open Text Json ConfigParser

variable (platform : Platform)

/-- The root of the config that a delay is measured with. -/
def testRoot (config : ProxyConfig) (chainBase : Option ProxyConfig) : Json :=
  let proxyOut := buildOutbound platform config
  let outbounds :=
    match chainBase.filter fun base => base.id ≠ config.id with
    | some base => [chainOutbound proxyOut, taggedOutbound platform "chain" base]
    | none => [proxyOut]
  object [("log", object [("loglevel", text "none")]), ("outbounds", arr outbounds)]

def buildForTest (config : ProxyConfig) (chainBase : Option ProxyConfig) : Text :=
  (testRoot platform config chainBase).print

/-- The protocols that have stream settings of their own and are imported. -/
def importedProtocols : List Text :=
  [txt "vless", txt "vmess", txt "trojan", txt "shadowsocks", txt "socks", txt "http"]

/-- The text is a list of exactly one item. -/
def IsOneItem (s : Text) : Prop := (commaParts s).length = 1

instance (s : Text) : Decidable (IsOneItem s) := inferInstanceAs (Decidable (_ = _))

/-- The importer reads all that the builder writes for the transport. -/
def TransportReadsBack (c : ProxyConfig) (net : Text) : Prop :=
  (net = txt "tcp" → equalsIgnoreCase platform c.headerType (txt "http") = true →
    IsOneItem (ifEmpty c.path (txt "/")) ∧ (c.host = [] ∨ IsOneItem c.host)) ∧
  (net = txt "kcp" → platform.casing.lowercase (trim c.headerType) = c.headerType) ∧
  (net = txt "xhttp" → c.mode = []) ∧
  (net = txt "grpc" → c.mode ≠ txt "multi") ∧
  (net = txt "http" → c.host = [] ∨ IsOneItem c.host)

/-- The importer reads all that the builder writes for the config. -/
def ReadsBack (c : ProxyConfig) : Prop :=
  TransportReadsBack platform c (normalizeNetwork platform c.network) ∧
    (c.security = txt "tls" → CertPin.isValid c.pinnedCertSha256 = false)

/-- What an item of a list with commas is. -/
def IsItem (part : Text) : Prop := part ≠ [] ∧ Trimmed part ∧ unit ',' ∉ part

theorem isItem_of_mem_commaParts {s part : Text} (mem : part ∈ commaParts s) : IsItem part := by
  rw [commaParts, List.mem_filter] at mem
  rcases List.mem_map.mp mem.1 with ⟨piece, isPiece, rfl⟩
  refine ⟨by simpa using mem.2, trimmed_trim piece, ?_⟩
  intro comma
  exact notMem_of_mem_split isPiece (mem_of_mem_trim comma)

theorem commaParts_joinWith {parts : List Text} (items : ∀ part ∈ parts, IsItem part) :
    commaParts (joinWith (unit ',') parts) = parts := by
  cases parts with
  | nil => rfl
  | cons first others =>
      have trims : (first :: others).map trim = first :: others := by
        rw [List.map_congr_left (fun part mem => (items part mem).2.1.trim_eq), List.map_id']
      have pieces := split_joinWith (fun part mem => (items part mem).2.2)
        (List.cons_ne_nil first others)
      rw [commaParts, pieces, trims, List.filter_eq_self]
      intro part mem
      simpa using (items part mem).1

theorem commaParts_item {part : Text} (isItem : IsItem part) : commaParts part = [part] := by
  have joined := commaParts_joinWith (List.forall_mem_singleton.mpr isItem)
  rwa [joinWith, List.intercalate_singleton] at joined

theorem isItem_headD {s : Text} (some : commaParts s ≠ []) : IsItem ((commaParts s).headD []) := by
  apply @isItem_of_mem_commaParts s
  cases shape : commaParts s with
  | nil => exact absurd shape some
  | cons first others => exact List.mem_cons_self

/-- The first item alone is the list again exactly when the list has no other. -/
theorem csvArray_headD_iff {s : Text} (some : commaParts s ≠ []) :
    csvArray ((commaParts s).headD []) = csvArray s ↔ IsOneItem s := by
  rw [csvArray, csvArray, commaParts_item (isItem_headD some), strings_inj, IsOneItem]
  cases shape : commaParts s with
  | nil => exact absurd shape some
  | cons first others => simp [eq_comm]

theorem csvArray_path_iff (path : Text) :
    csvArray (ifEmpty ((commaParts (ifEmpty path (txt "/"))).headD []) (txt "/")) =
      csvArray (ifEmpty path (txt "/")) ↔ IsOneItem (ifEmpty path (txt "/")) := by
  by_cases none : commaParts (ifEmpty path (txt "/")) = []
  · have slash : commaParts (txt "/") = [txt "/"] := by decide
    rw [csvArray, csvArray, strings_inj, IsOneItem, none, List.headD_nil, ifEmpty_nil, slash]
    simp
  · rw [ifEmpty_of_ne (isItem_headD none).1]
    exact csvArray_headD_iff none

/-- The hosts as the builder writes them, if it writes any. -/
theorem hostField_iff (key : String) (host : Text) :
    object (if (commaParts host).headD [] = [] then []
        else [(key, csvArray ((commaParts host).headD []))]) =
      object (if host = [] then [] else [(key, csvArray host)]) ↔ host = [] ∨ IsOneItem host := by
  by_cases empty : host = []
  · rw [empty]
    exact iff_of_true rfl (.inl rfl)
  by_cases none : commaParts host = []
  · simp [none, empty, IsOneItem, object]
  · rw [if_neg empty, if_neg (isItem_headD none).1, object, object, Json.obj.injEq, List.map_cons,
      List.map_cons, List.cons.injEq, Prod.mk.injEq, csvArray_headD_iff none]
    simp [empty]

variable (json : OrgObject) {c : ProxyConfig}

theorem optInt_object_cons (name key : String) (value : Json) (rest : List (String × Json)) :
    json.optInt (object ((name, value) :: rest)) (txt key) 0 =
      if txt name = txt key then (json.toInteger value).getD 0
      else json.optInt (object rest) (txt key) 0 := by
  rw [OrgArray.optInt, field?_object_cons]
  split_ifs <;> rfl

/-- The server that the importer reads, with the fields that the builder writes for the protocol. -/
def importedServer (c : ProxyConfig) : OutboundServer :=
  if c.protocol = txt "vless" then
    { address := c.address, port := c.port, uuid := c.uuid, encryption := c.encryption
      flow := c.flow }
  else if c.protocol = txt "vmess" then
    { address := c.address, port := c.port, uuid := c.uuid, encryption := c.encryption
      alterId := c.alterId }
  else if c.protocol = txt "trojan" then
    { address := c.address, port := c.port, password := c.password, flow := c.flow }
  else if c.protocol = txt "shadowsocks" then
    { address := c.address, port := c.port, password := c.password, method := c.method }
  else { address := c.address, port := c.port, uuid := c.uuid, password := c.password }

theorem outboundServer_vnextSettings {protocol : Text} (isInt : IsInt c.port)
    (vnext : protocol = txt "vless" ∨ protocol = txt "vmess") (user : List (String × Json)) :
    outboundServer json protocol (vnextSettings c user) = some
      { address := c.address
        port := c.port
        uuid := c.uuid
        flow := stringAt (object user) "flow"
        alterId := json.optInt (object user) (txt "alterId") 0
        encryption :=
          if protocol = txt "vless" then ifEmpty (stringAt (object user) "encryption") (txt "none")
          else ifEmpty (stringAt (object user) "security") (txt "auto") } := by
  simp +decide only [outboundServer, if_pos vnext, vnextSettings, firstObject, arrayAt_object_cons,
    asArray, asObject_object, stringAt_object_cons, optInt_object_cons,
    json.toInteger_int isInt, toText, List.head?_cons, List.cons_append, List.nil_append,
    Option.bind_some, Option.map_some, Option.getD_some, if_true, if_false]

theorem outboundServer_serverSettings {protocol : Text} (isInt : IsInt c.port)
    (servers : protocol = txt "trojan" ∨ protocol = txt "shadowsocks" ∨ protocol = txt "socks" ∨
      protocol = txt "http") (credentials : List (String × Json)) :
    outboundServer json protocol (serverSettings c credentials) = some
      { address := c.address
        port := c.port
        password := ifEmpty (stringAt (object credentials) "password")
          (stringOrEmpty (firstObject (object credentials) "users") "pass")
        method := stringAt (object credentials) "method"
        flow := stringAt (object credentials) "flow"
        uuid := stringOrEmpty (firstObject (object credentials) "users") "user" } := by
  have notVnext : ¬ (protocol = txt "vless" ∨ protocol = txt "vmess") := by
    rcases servers with rfl | rfl | rfl | rfl <;> decide
  simp +decide only [outboundServer, if_neg notVnext, if_pos servers, serverSettings, firstObject,
    arrayAt_object_cons, asArray, asObject_object, stringAt_object_cons,
    optInt_object_cons, json.toInteger_int isInt, toText, List.head?_cons, List.cons_append,
    List.nil_append, Option.bind_some, Option.map_some, Option.getD_some, if_true, if_false]

/-- The builder leaves the users of a proxy out if there is neither a name nor a password. -/
theorem outboundServer_proxy {protocol : Text} (isInt : IsInt c.port)
    (proxy : protocol = txt "socks" ∨ protocol = txt "http") :
    outboundServer json protocol (serverSettings c (if c.uuid ≠ [] ∨ c.password ≠ [] then
      [("users", arr [object [("user", str c.uuid), ("pass", str c.password)]])] else [])) =
        some { address := c.address, port := c.port, uuid := c.uuid, password := c.password } := by
  rw [outboundServer_serverSettings json isInt (.inr (.inr proxy))]
  by_cases given : c.uuid ≠ [] ∨ c.password ≠ []
  · simp +decide only [if_pos given, firstObject, arrayAt_object_cons, asArray, asObject_object,
      stringOrEmpty, stringAt_object_cons, stringAt_object_nil, toText, List.head?_cons,
      Option.bind_some, Option.map_some, Option.getD_some, if_true, if_false, ifEmpty_nil]
  · rcases not_or.mp given with ⟨noUuid, noPassword⟩
    rw [if_neg given, not_not.mp noUuid, not_not.mp noPassword]
    rfl

theorem outboundServer_protocolSettings (isInt : IsInt c.port) (isIntAlter : IsInt c.alterId)
    (imported : c.protocol ∈ importedProtocols) (encryption : c.encryption ≠ []) :
    outboundServer json c.protocol (protocolSettings c) = some (importedServer c) := by
  simp only [importedProtocols, List.mem_cons, List.not_mem_nil, or_false] at imported
  rcases imported with vless | vmess | trojan | shadowsocks | socks | http
  · have alterId : json.optInt (object (fieldUnlessEmpty "flow" c.flow)) (txt "alterId") 0 = 0 := by
      rw [OrgArray.optInt, field?_fieldUnlessEmpty_of_ne (by decide)]
      rfl
    rw [protocolSettings, if_pos vless, vless, outboundServer_vnextSettings json isInt (.inl rfl)]
    simp +decide only [importedServer, vless, stringAt_object_cons, stringAt_fieldUnlessEmpty,
      optInt_object_cons, alterId, toText, List.cons_append, List.nil_append,
      ifEmpty_of_ne encryption, if_true, if_false]
  · simp +decide only [protocolSettings, importedServer, vmess,
      outboundServer_vnextSettings json isInt (.inr rfl), stringAt_object_cons, stringAt_object_nil,
      optInt_object_cons, json.toInteger_int isIntAlter, toText, ifEmpty_of_ne encryption, if_true,
      if_false, Option.getD_some]
  · have users : firstObject (object (fieldUnlessEmpty "flow" c.flow)) "users" = none := by
      rw [firstObject, arrayAt, optArray, field?_fieldUnlessEmpty_of_ne (by decide)]
      rfl
    simp +decide only [protocolSettings, importedServer, trojan,
      outboundServer_serverSettings json isInt (.inl rfl), stringAt_object_cons,
      stringAt_fieldUnlessEmpty, toText, List.cons_append, List.nil_append, if_true, if_false]
    simp +decide only [firstObject, arrayAt_object_cons, if_false] at users ⊢
    simp only [users, stringOrEmpty, Option.map_none, Option.getD_none, ifEmpty_nil_right]
  · simp +decide only [protocolSettings, importedServer, shadowsocks,
      outboundServer_serverSettings json isInt (.inr (.inl rfl)), stringAt_object_cons,
      stringAt_object_nil, firstObject, arrayAt_object_cons, arrayAt_object_nil, stringOrEmpty,
      toText, if_true, if_false, Option.bind_none, Option.map_none, Option.getD_none,
      ifEmpty_nil_right]
  · simp +decide only [protocolSettings, importedServer, socks,
      outboundServer_proxy json isInt (.inl rfl), if_false, if_true]
  · simp +decide only [protocolSettings, importedServer, http,
      outboundServer_proxy json isInt (.inr rfl), if_false, if_true]

/-- The config has the fields of the server. -/
structure HasServer (d : ProxyConfig) (server : OutboundServer) : Prop where
  address : d.address = server.address
  port : d.port = server.port
  uuid : d.uuid = server.uuid
  password : d.password = server.password
  method : d.method = server.method
  encryption : d.encryption = server.encryption
  flow : d.flow = server.flow
  alterId : d.alterId = server.alterId

theorem protocolSettings_of_hasServer {d : ProxyConfig} (imported : c.protocol ∈ importedProtocols)
    (sameProtocol : d.protocol = c.protocol) (has : HasServer d (importedServer c)) :
    protocolSettings d = protocolSettings c := by
  simp only [importedProtocols, List.mem_cons, List.not_mem_nil, or_false] at imported
  rcases imported with isOne | isOne | isOne | isOne | isOne | isOne <;>
    simp +decide only [importedServer, isOne, if_true, if_false] at has <;>
    simp +decide only [protocolSettings, vnextSettings, serverSettings, sameProtocol, isOne,
      has.address, has.port, has.uuid, has.password, has.method, has.encryption, has.flow,
      has.alterId, if_true, if_false]

variable {platform}

theorem field?_securityFields {key : Text}
    (other : key ∉ [txt "security", txt "realitySettings", txt "tlsSettings"]) :
    (object (securityFields c)).field? key = none := by
  apply field?_object_of_forall_ne
  intro field mem same
  apply other
  rw [← same]
  simp only [securityFields] at mem
  split_ifs at mem <;> simp at mem
  all_goals rcases mem with rfl | rfl <;> simp

/-- The settings of the transport are not hidden by the other settings. -/
theorem optObject_buildStream {key : String} (isTransport : txt key ∈ transportKeys) :
    (buildStream platform c).optObject key =
      (object (transportFields platform c (normalizeNetwork platform c.network))).optObject
        key := by
  have others : ∀ name ∈ transportKeys, txt "network" ≠ name ∧
      name ∉ [txt "security", txt "realitySettings", txt "tlsSettings"] := by decide
  rcases others _ isTransport with ⟨notNetwork, notSecurity⟩
  rw [optObject, buildStream, field?_object_append, field?_securityFields notSecurity,
    Option.or_none, field?_object_append, field?_object_cons, if_neg notNetwork]
  rfl

/-- What the importer reads of the transport. -/
def importedTransport (platform : Platform) (c : ProxyConfig) (net : Text) : OutboundTransport :=
  if net = txt "tcp" then
    if equalsIgnoreCase platform c.headerType (txt "http") then
      { headerType := txt "http"
        path := (commaParts (ifEmpty c.path (txt "/"))).headD []
        host := (commaParts c.host).headD [] }
    else {}
  else if net = txt "kcp" then
    { headerType :=
        ConfigParser.normalizeHeaderType platform (some (ifEmpty c.headerType (txt "none")))
      path := c.path }
  else if net = txt "ws" ∨ net = txt "httpupgrade" ∨ net = txt "xhttp" then
    { path := ifEmpty c.path (txt "/"), host := c.host }
  else if net = txt "grpc" then { serviceName := c.serviceName }
  else if net = txt "http" then
    { path := ifEmpty c.path (txt "/"), host := (commaParts c.host).headD [] }
  else {}

theorem firstString_strings (elements : List Text) :
    firstString (elements.map str) = elements.headD [] := by
  cases elements <;> rfl

/-- The first host of a list that is left out when it is empty. -/
theorem firstString_hostField {key : String} {rest : List (String × Json)} (host : Text)
    (absent : arrayAt (object rest) key = none) :
    ((arrayAt (object ((if host = [] then [] else [(key, csvArray host)]) ++ rest)) key).map
      firstString).getD [] = (commaParts host).headD [] := by
  by_cases empty : host = []
  · rw [if_pos empty, List.nil_append, absent, empty]
    rfl
  · rw [if_neg empty, List.cons_append, arrayAt_object_cons, if_pos rfl, csvArray, strings, asArray,
      Option.map_some, Option.getD_some, firstString_strings]

theorem normalizeHeaderType_http :
    normalizeHeaderType platform (some (txt "http")) = txt "http" := by
  rw [normalizeHeaderType, Option.getD_some,
    lowercase_trim_of_lower platform (by decide) (by decide) (by decide)]
  decide

theorem normalizeHeaderType_none : normalizeHeaderType platform none = [] := by
  have lower : platform.casing.lowercase (trim []) = [] := platform.casing.lowercase_nil
  rw [normalizeHeaderType, Option.getD_none, lower]
  rfl

theorem outboundTransport_tcp {stream : Json}
    (found : stream.optObject "tcpSettings" = some (object [("header", httpHeader c)])) :
    outboundTransport platform (txt "tcp") stream =
      { headerType := txt "http"
        path := (commaParts (ifEmpty c.path (txt "/"))).headD []
        host := (commaParts c.host).headD [] } := by
  have path : asArray (csvArray (ifEmpty c.path (txt "/"))) =
      some ((commaParts (ifEmpty c.path (txt "/"))).map str) := rfl
  simp +decide only [outboundTransport, found, optObject_object_cons, httpHeader, asObject_object,
    Option.bind_some, Option.map_some, stringAt_object_cons, Json.text, toText,
    normalizeHeaderType_http, arrayAt_object_cons, arrayAt_object_nil, firstString_hostField, path,
    firstString_strings, if_true, if_false, Option.getD_some]

theorem outboundTransport_buildStream {net : Text}
    (isNet : normalizeNetwork platform c.network = net) :
    outboundTransport platform net (buildStream platform c) = importedTransport platform c net := by
  have read (key : String) (isTransport : txt key ∈ transportKeys) :
      (buildStream platform c).optObject key =
        (object (transportFields platform c net)).optObject key :=
    isNet ▸ optObject_buildStream isTransport
  by_cases tcp : net = txt "tcp"
  · subst tcp
    have settings := read "tcpSettings" (by decide)
    rw [transportFields, if_pos rfl] at settings
    rw [importedTransport, if_pos rfl]
    split_ifs at settings ⊢
    · rw [optObject_object_cons, if_pos rfl, asObject_object] at settings
      exact outboundTransport_tcp settings
    · rw [optObject_object_nil] at settings
      simp only [outboundTransport, settings, if_true, Option.bind_none, Option.map_none,
        Option.getD_none, normalizeHeaderType_none]
  by_cases kcp : net = txt "kcp"
  · subst kcp
    simp +decide only [outboundTransport, importedTransport, transportFields,
      read "kcpSettings" (by decide),
      optObject_object_cons, asObject_object, stringAt_object_cons, stringAt_fieldUnlessEmpty,
      stringOrEmpty, toText, Option.bind_some, Option.map_some, if_true, if_false, Option.getD_some,
      List.cons_append, List.nil_append]
  by_cases ws : net = txt "ws"
  · subst ws
    by_cases host : c.host = [] <;>
    simp +decide only [outboundTransport, importedTransport, transportFields,
      read "wsSettings" (by decide),
      optObject_object_cons, optObject_object_nil, asObject_object, stringAt_object_cons,
      stringAt_object_nil, stringOrEmpty, toText, host, Option.bind_some, Option.map_some,
      Option.map_none, if_true, if_false, Option.getD_some, Option.getD_none, List.cons_append,
      List.nil_append, ifEmpty_nil_right]
  by_cases httpupgrade : net = txt "httpupgrade"
  · subst httpupgrade
    simp +decide only [outboundTransport, importedTransport, transportFields,
      read "httpupgradeSettings" (by decide), optObject_object_cons, asObject_object,
      stringAt_object_cons, stringAt_fieldUnlessEmpty, stringOrEmpty, toText, Option.map_some,
      if_true, if_false, Option.getD_some, List.cons_append, List.nil_append]
  by_cases xhttp : net = txt "xhttp"
  · subst xhttp
    simp +decide only [outboundTransport, importedTransport, transportFields,
      read "xhttpSettings" (by decide), optObject_object_cons, asObject_object,
      stringAt_object_cons, stringAt_fieldUnlessEmpty_append, stringAt_fieldUnlessEmpty,
      stringOrEmpty, toText, Option.map_some, if_true, if_false, Option.getD_some, List.cons_append,
      List.nil_append, ifEmpty_nil_right]
  by_cases grpc : net = txt "grpc"
  · subst grpc
    simp +decide only [outboundTransport, importedTransport, transportFields,
      read "grpcSettings" (by decide), optObject_object_cons, asObject_object,
      stringAt_object_cons, stringAt_object_nil, stringOrEmpty, toText, Option.map_some, if_true,
      if_false, Option.getD_some]
  by_cases http : net = txt "http"
  · subst http
    have host := firstString_hostField c.host (arrayAt_object_nil "host")
    rw [List.append_nil] at host
    simp +decide only [outboundTransport, importedTransport, transportFields,
      read "httpSettings" (by decide), optObject_object_cons, asObject_object,
      stringAt_object_cons, arrayAt_object_cons, stringOrEmpty, toText, Option.map_some,
      Option.bind_some, Option.getD_some, if_true, if_false, List.cons_append, List.nil_append,
      host]
  simp only [outboundTransport, importedTransport, tcp, kcp, ws, httpupgrade, xhttp, grpc, http,
    if_false, or_self]

/-- The config has the fields of the transport. -/
structure HasTransport (d : ProxyConfig) (transport : OutboundTransport) : Prop where
  host : d.host = transport.host
  path : d.path = transport.path
  headerType : d.headerType = transport.headerType
  serviceName : d.serviceName = transport.serviceName

theorem httpHeader_iff {d : ProxyConfig}
    (path : d.path = (commaParts (ifEmpty c.path (txt "/"))).headD [])
    (host : d.host = (commaParts c.host).headD []) :
    httpHeader d = httpHeader c ↔
      IsOneItem (ifEmpty c.path (txt "/")) ∧ (c.host = [] ∨ IsOneItem c.host) := by
  simp only [httpHeader, object_cons_inj, object_append_inj, path, host, hostField_iff,
    csvArray_path_iff, true_and, and_true]

/-- The header of mKCP is normalized by the importer and not by the builder. -/
theorem headerType_kcp_iff (headerType : Text) :
    ifEmpty (normalizeHeaderType platform (some (ifEmpty headerType (txt "none")))) (txt "none") =
      ifEmpty headerType (txt "none") ↔
        platform.casing.lowercase (trim headerType) = headerType := by
  have none : platform.casing.lowercase (trim (txt "none")) = txt "none" :=
    lowercase_trim_of_lower platform (by decide) (by decide) (by decide)
  by_cases empty : headerType = []
  · have lower : platform.casing.lowercase (trim []) = [] := platform.casing.lowercase_nil
    rw [empty, ifEmpty_nil, normalizeHeaderType, Option.getD_some, none, lower]
    exact iff_of_true rfl rfl
  rw [ifEmpty_of_ne empty, normalizeHeaderType, Option.getD_some]
  by_cases isNone : platform.casing.lowercase (trim headerType) = txt "none"
  · simp only [isNone, if_true, ifEmpty_nil]
  · simp only [if_neg isNone]
    by_cases blank : platform.casing.lowercase (trim headerType) = []
    · rw [blank, ifEmpty_nil]
      constructor
      · intro same
        rw [← same, none] at isNone
        exact absurd rfl isNone
      · intro same
        exact absurd same.symm empty
    · rw [ifEmpty_of_ne blank]

theorem mode_xhttp_iff (mode : Text) :
    object (fieldUnlessEmpty "mode" []) = object (fieldUnlessEmpty "mode" mode) ↔ mode = [] := by
  simp only [fieldUnlessEmpty, if_true]
  split_ifs with empty
  · exact iff_of_true rfl empty
  · simp [object, empty]

theorem isHttp_importedTransport {d : ProxyConfig}
    (has : HasTransport d (importedTransport platform c (txt "tcp"))) :
    equalsIgnoreCase platform d.headerType (txt "http") =
      equalsIgnoreCase platform c.headerType (txt "http") := by
  rw [has.headerType, importedTransport, if_pos rfl]
  cases equalsIgnoreCase platform c.headerType (txt "http") with
  | true => rw [if_pos rfl, equalsIgnoreCase, beq_self_eq_true]
  | false =>
      rw [if_neg (by decide), equalsIgnoreCase, platform.casing.foldKey_ascii (by decide),
        platform.casing.foldKey_ascii (by decide)]
      decide

theorem transportFields_tcp_iff {d : ProxyConfig}
    (has : HasTransport d (importedTransport platform c (txt "tcp"))) :
    object (transportFields platform d (txt "tcp")) =
        object (transportFields platform c (txt "tcp")) ↔
      (equalsIgnoreCase platform c.headerType (txt "http") = true →
        IsOneItem (ifEmpty c.path (txt "/")) ∧ (c.host = [] ∨ IsOneItem c.host)) := by
  have isHttp := isHttp_importedTransport has
  rw [importedTransport, if_pos rfl] at has
  cases http : equalsIgnoreCase platform c.headerType (txt "http") with
  | true =>
      rw [http, if_pos rfl] at has
      simp only [transportFields, isHttp, http, if_true, object_cons_inj, and_true,
        httpHeader_iff has.path has.host, true_implies]
  | false =>
      simp only [transportFields, isHttp, http, if_true, Bool.false_eq_true, if_false,
        false_implies]

/-- The importer keeps whether there are settings of the transport. -/
theorem length_transportFields {d : ProxyConfig} {net : Text}
    (has : HasTransport d (importedTransport platform c net)) :
    (transportFields platform d net).length = (transportFields platform c net).length := by
  by_cases tcp : net = txt "tcp"
  · subst tcp
    simp only [transportFields, isHttp_importedTransport has, if_true]
    split_ifs <;> rfl
  · simp only [transportFields, if_neg tcp]
    split_ifs <;> rfl

theorem transportFields_iff {d : ProxyConfig} {net : Text}
    (has : HasTransport d (importedTransport platform c net)) (noMode : d.mode = []) :
    object (transportFields platform d net) = object (transportFields platform c net) ↔
      TransportReadsBack platform c net := by
  have slash (path : Text) : ifEmpty (ifEmpty path (txt "/")) (txt "/") = ifEmpty path (txt "/") :=
    ifEmpty_of_ne (ifEmpty_ne_nil (by decide)) _
  by_cases tcp : net = txt "tcp"
  · subst tcp
    simp +decide only [transportFields_tcp_iff has, TransportReadsBack, and_true, true_implies,
      false_implies]
  by_cases kcp : net = txt "kcp"
  · subst kcp
    simp +decide only [importedTransport, if_true, if_false] at has
    simp +decide only [transportFields, has.headerType, has.path, object_cons_inj, Json.str.injEq,
      headerType_kcp_iff, TransportReadsBack, if_true, if_false, List.cons_append, List.nil_append,
      and_true, true_and, true_implies, false_implies]
  by_cases ws : net = txt "ws"
  · subst ws
    simp +decide only [importedTransport, if_true, if_false] at has
    simp +decide only [transportFields, has.host, has.path, slash, TransportReadsBack, if_false,
      if_true, false_implies, and_true]
  by_cases httpupgrade : net = txt "httpupgrade"
  · subst httpupgrade
    simp +decide only [importedTransport, if_true, if_false] at has
    simp +decide only [transportFields, has.host, has.path, slash, TransportReadsBack, if_false,
      if_true, false_implies, and_true]
  by_cases xhttp : net = txt "xhttp"
  · subst xhttp
    simp +decide only [importedTransport, if_true, if_false] at has
    simp +decide only [transportFields, has.host, has.path, noMode, slash, object_cons_inj,
      object_append_right_inj, mode_xhttp_iff, TransportReadsBack, if_false, if_true, and_true,
      true_and, true_implies, false_implies]
  by_cases grpc : net = txt "grpc"
  · subst grpc
    simp +decide only [importedTransport, if_true, if_false] at has
    have single : ([] == txt "multi") = (c.mode == txt "multi") ↔ c.mode ≠ txt "multi" := by
      rw [eq_comm, ← beq_eq_false_iff_ne]
      exact Iff.rfl
    simp +decide only [transportFields, has.serviceName, noMode, object_cons_inj, Json.bool.injEq,
      single, TransportReadsBack, if_false, if_true, and_true, true_and, true_implies,
      false_implies]
  by_cases http : net = txt "http"
  · subst http
    simp +decide only [importedTransport, if_true, if_false] at has
    simp +decide only [transportFields, has.host, has.path, slash, object_cons_inj,
      object_append_right_inj, hostField_iff, TransportReadsBack, if_false, if_true, and_true,
      true_and, true_implies, false_implies]
  simp only [transportFields, TransportReadsBack, tcp, kcp, ws, httpupgrade, xhttp, grpc, http,
    if_false, false_implies, and_true]

end GRoute.ConfigBuilder
