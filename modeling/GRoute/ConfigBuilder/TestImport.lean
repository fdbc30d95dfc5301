import GRoute.ConfigBuilder.ForTest
import GRoute.ProxyConfig.Json

/-!
# Importing a test config

The security of the outbound, and `parseBundle` on the text of a test config. The importer reads no
pin. A config comes back with the same test config exactly when it uses nothing that the importer
does not read.
-/

namespace GRoute.ConfigBuilder

open Text Json ConfigParser

variable {platform : Platform} (json : OrgObject) {c : ProxyConfig}

/-- What the importer reads of the security. -/
structure ImportedSecurity where
  security : Text := txt "none"
  sni : Text := []
  alpn : Text := []
  fingerprint : Text := txt "chrome"
  publicKey : Text := []
  shortId : Text := []

def importedSecurity (c : ProxyConfig) : ImportedSecurity :=
  if c.security = txt "reality" then
    { security := txt "reality", sni := c.sni, fingerprint := c.fingerprint
      publicKey := c.publicKey, shortId := c.shortId }
  else if c.security = txt "tls" then
    { security := txt "tls"
      sni := ifEmpty c.sni (ifEmpty (trim (upTo c.host (unit ','))) c.address)
      alpn := joinWith (unit ',') (commaParts c.alpn)
      fingerprint := c.fingerprint }
  else {}

/-- The config has the fields of the security, and no pin. -/
structure HasSecurity (d : ProxyConfig) (read : ImportedSecurity) : Prop where
  security : d.security = read.security
  sni : d.sni = read.sni
  alpn : d.alpn = read.alpn
  fingerprint : d.fingerprint = read.fingerprint
  publicKey : d.publicKey = read.publicKey
  shortId : d.shortId = read.shortId
  noPin : d.pinnedCertSha256 = []

theorem pinField_iff {d : ProxyConfig} (noPin : d.pinnedCertSha256 = []) :
    object (pinField d) = object (pinField c) ↔ CertPin.isValid c.pinnedCertSha256 = false := by
  have invalid : CertPin.isValid [] = false := by decide
  cases valid : CertPin.isValid c.pinnedCertSha256 <;>
    simp [pinField, noPin, invalid, valid, object]

theorem securityFields_iff {d : ProxyConfig} (address : c.address ≠ [])
    (has : HasSecurity d (importedSecurity c)) :
    object (securityFields d) = object (securityFields c) ↔
      (c.security = txt "tls" → CertPin.isValid c.pinnedCertSha256 = false) := by
  by_cases reality : c.security = txt "reality"
  · rw [importedSecurity, if_pos reality] at has
    simp +decide only [securityFields, realitySettings, has.security, has.sni, has.fingerprint,
      has.publicKey, has.shortId, reality, if_true, false_implies]
  by_cases tls : c.security = txt "tls"
  · rw [importedSecurity, if_neg reality, if_pos tls] at has
    have sni : ifEmpty c.sni (ifEmpty (trim (upTo c.host (unit ','))) c.address) ≠ [] :=
      ifEmpty_ne_nil (ifEmpty_ne_nil address)
    have alpn : commaParts d.alpn = commaParts c.alpn := by
      rw [has.alpn]
      exact commaParts_joinWith fun _ => isItem_of_mem_commaParts
    simp +decide only [securityFields, tlsSettings, csvArray, has.security, has.sni,
      has.fingerprint, alpn, ifEmpty_of_ne sni, tls, if_true, if_false, object_cons_inj, and_true,
      true_and, true_implies, List.cons_append, List.nil_append, object_append_inj,
      pinField_iff has.noPin]
  · rw [importedSecurity, if_neg reality, if_neg tls] at has
    simp +decide only [securityFields, has.security, reality, tls, if_false, false_implies]

theorem stringAt_buildStream_security : stringAt (buildStream platform c) "security" =
    stringAt (object (securityFields c)) "security" := by
  rw [stringAt, optString, field?_buildStream (by decide)]
  rfl

theorem optObject_buildStream_security {key : String}
    (isSecurity : txt key ∈ [txt "security", txt "tlsSettings", txt "realitySettings"]) :
    (buildStream platform c).optObject key = (object (securityFields c)).optObject key := by
  rw [optObject, field?_buildStream isSecurity]
  rfl

/-- The security as `outboundToConfig` reads it. -/
def readStreamSecurity (stream : Json) : ImportedSecurity :=
  let reality := stream.optObject "realitySettings"
  let sec := (stream.optObject "tlsSettings").or reality
  { security :=
      if reality.isSome then txt "reality" else ifEmpty (stringAt stream "security") (txt "none")
    sni := stringOrEmpty sec "serverName"
    alpn := ((sec.bind (arrayAt · "alpn")).map fun elements =>
      joinWith (unit ',') (elements.map toText)).getD []
    fingerprint := ifEmpty (stringOrEmpty sec "fingerprint") (txt "chrome")
    publicKey := stringOrEmpty reality "publicKey"
    shortId := stringOrEmpty reality "shortId" }

theorem toText_comp_str : toText ∘ str = id := rfl

/-- Of the fields after the fingerprint, only the protocols of the application are an array. -/
theorem alpn_tlsSettings (c : ProxyConfig) :
    ((arrayAt (tlsSettings c) "alpn").map fun elements =>
      joinWith (unit ',') (elements.map toText)).getD [] =
        joinWith (unit ',') (commaParts c.alpn) := by
  cases valid : CertPin.isValid c.pinnedCertSha256 <;> by_cases none : commaParts c.alpn = [] <;>
    simp +decide [tlsSettings, pinField, valid, none, arrayAt_object_cons, arrayAt_object_nil,
      csvArray, strings, asArray, joinWith, toText_comp_str]

theorem readStreamSecurity_buildStream (fingerprint : c.fingerprint ≠ []) :
    readStreamSecurity (buildStream platform c) = importedSecurity c := by
  rw [readStreamSecurity, stringAt_buildStream_security,
    optObject_buildStream_security (by decide), optObject_buildStream_security (by decide)]
  by_cases reality : c.security = txt "reality"
  · simp +decide only [securityFields, realitySettings, importedSecurity, reality, Json.text,
      optObject_object_cons, optObject_object_nil, asObject_object, asObject_str, stringOrEmpty,
      stringAt_object_cons, arrayAt_object_cons, arrayAt_object_nil, toText, if_true, if_false,
      ifEmpty_of_ne fingerprint, Option.isSome_some, Option.none_or, Option.bind_some,
      Option.map_some, Option.map_none, Option.getD_some, Option.getD_none]
  by_cases tls : c.security = txt "tls"
  · have isObject : asObject (tlsSettings c) = some (tlsSettings c) := rfl
    have serverName : stringAt (tlsSettings c) "serverName" =
        ifEmpty c.sni (ifEmpty (trim (upTo c.host (unit ','))) c.address) := by
      simp +decide only [tlsSettings, List.cons_append, stringAt_object_cons, if_true, toText]
    have print : stringAt (tlsSettings c) "fingerprint" = c.fingerprint := by
      simp +decide only [tlsSettings, List.cons_append, stringAt_object_cons, if_true, if_false,
        toText]
    simp +decide only [securityFields, importedSecurity, tls, Json.text, optObject_object_cons,
      optObject_object_nil, asObject_str, isObject, stringOrEmpty, stringAt_object_cons, toText,
      serverName, print, alpn_tlsSettings, if_true, if_false, ifEmpty_of_ne fingerprint,
      Option.isSome_none, Option.some_or, Option.bind_some, Option.map_some, Option.map_none,
      Option.getD_some, Option.getD_none, ifEmpty_of_ne (show txt "tls" ≠ [] by decide)]
  · simp +decide only [securityFields, importedSecurity, reality, tls, optObject_object_nil,
      stringAt_object_nil, stringOrEmpty, if_false, ifEmpty_nil, Option.isSome_none, Option.none_or,
      Option.bind_none, Option.map_none, Option.getD_none]

theorem asObject_protocolSettings (c : ProxyConfig) :
    asObject (protocolSettings c) = some (protocolSettings c) := by
  rw [protocolSettings]
  split_ifs <;> rfl

theorem asObject_buildStream (platform : Platform) (c : ProxyConfig) :
    asObject (buildStream platform c) = some (buildStream platform c) := rfl

theorem normalizeNetwork_ne_nil (network : Text) : normalizeNetwork platform network ≠ [] := by
  rw [normalizeNetwork, ConfigParser.normalizeNetwork]
  split_ifs with isTcp <;> try decide
  exact fun empty => isTcp (.inl empty)

/-- The network is written in its normal form, which the importer keeps. -/
theorem network_buildStream : ConfigParser.normalizeNetwork platform
    (some (ifEmpty (stringAt (buildStream platform c) "network") (txt "tcp"))) =
      normalizeNetwork platform c.network := by
  have read : stringAt (buildStream platform c) "network" =
      normalizeNetwork platform c.network := by
    rw [stringAt, optString, buildStream, List.cons_append, List.nil_append, List.cons_append,
      field?_object_cons, if_pos rfl]
    rfl
  rw [read, ifEmpty_of_ne (normalizeNetwork_ne_nil c.network)]
  exact (normalizeNetwork_normal platform (some c.network)).1

theorem buildOutbound_of_imported (imported : c.protocol ∈ importedProtocols) :
    buildOutbound platform c = object [("tag", text "proxy"), ("protocol", str c.protocol),
      ("settings", protocolSettings c), ("streamSettings", buildStream platform c)] := by
  have others : ∀ protocol ∈ importedProtocols,
      protocol ∉ [txt "wireguard", txt "aether", txt "hysteria2", txt "tor"] := by decide
  exact buildOutbound_of_isStream (others c.protocol imported)

/-- The config that is read from the outbound of another. -/
structure ImportOf (platform : Platform) (c d : ProxyConfig) : Prop where
  protocol : d.protocol = c.protocol
  network : d.network = normalizeNetwork platform c.network
  mode : d.mode = []
  server : HasServer d (importedServer c)
  transport : HasTransport d (importedTransport platform c (normalizeNetwork platform c.network))
  security : HasSecurity d (importedSecurity c)

theorem exists_outboundToConfig (platform : Platform) (isInt : IsInt c.port)
    (isIntAlter : IsInt c.alterId) (imported : c.protocol ∈ importedProtocols)
    (address : c.address ≠ []) (port : 0 < c.port)
    (encryption : c.encryption ≠ []) (fingerprint : c.fingerprint ≠ []) (source : ConfigSource)
    (id : Text) :
    ∃ d, outboundToConfig platform json (buildOutbound platform c) source [] id = some d ∧
      ImportOf platform c d := by
  have facts : ∀ protocol ∈ importedProtocols, protocol ≠ [] ∧ protocol ∉ localProtocols ∧
      IsAscii protocol ∧ protocol.map asciiLower = protocol := by decide
  rcases facts c.protocol imported with ⟨nonempty, remote, isAscii, lower⟩
  have protocol := platform.casing.lowercase_of_lower isAscii lower
  have server := outboundServer_protocolSettings json isInt isIntAlter imported encryption
  have serverAddress : (importedServer c).address = c.address := by
    rw [importedServer]
    split_ifs <;> rfl
  have serverPort : (importedServer c).port = c.port := by
    rw [importedServer]
    split_ifs <;> rfl
  have usable : ¬ ((importedServer c).address = [] ∨ (importedServer c).port ≤ 0) := by
    rw [serverAddress, serverPort]
    rintro (noAddress | noPort)
    · exact address noAddress
    · omega
  have transport := outboundTransport_buildStream (rfl : normalizeNetwork platform c.network = _)
  simp +decide only [outboundToConfig, buildOutbound_of_imported imported, stringAt_object_cons,
    optObject_object_cons, asObject_protocolSettings, asObject_buildStream, toText, protocol,
    if_true, if_false, if_neg nonempty, if_neg remote, Option.getD_some, server, Option.bind_some,
    if_neg usable, network_buildStream, transport]
  refine ⟨_, rfl, rfl, rfl, rfl, ⟨rfl, rfl, rfl, rfl, rfl, rfl, rfl, rfl⟩, ⟨rfl, rfl, rfl, rfl⟩, ?_⟩
  rw [← readStreamSecurity_buildStream fingerprint]
  exact ⟨rfl, rfl, rfl, rfl, rfl, rfl, rfl⟩

/-- The outbound of the imported config is that of the config exactly when the importer reads all
that the builder writes. -/
theorem buildOutbound_iff {d : ProxyConfig} (imported : c.protocol ∈ importedProtocols)
    (address : c.address ≠ []) (importOf : ImportOf platform c d) :
    buildOutbound platform d = buildOutbound platform c ↔ ReadsBack platform c := by
  have network : normalizeNetwork platform d.network = normalizeNetwork platform c.network := by
    rw [importOf.network]
    exact (normalizeNetwork_normal platform (some c.network)).1
  have settings :=
    protocolSettings_of_hasServer imported importOf.protocol importOf.server
  rw [buildOutbound_of_imported imported,
    buildOutbound_of_imported (importOf.protocol ▸ imported), importOf.protocol, settings,
    object_cons_inj, object_cons_inj, object_cons_inj, object_cons_inj, buildStream, buildStream,
    network, List.append_assoc, List.append_assoc, object_append_right_inj,
    object_append_inj_of_length (length_transportFields importOf.transport),
    transportFields_iff importOf.transport importOf.mode,
    securityFields_iff address importOf.security, ReadsBack]
  simp only [true_and, and_true]

theorem printable_vnextSettings {user : List (String × Json)} (isInt : IsInt c.port)
    (distinct : ((("id", str c.uuid) :: user).map fun field => txt field.1).Nodup)
    (each : ∀ field ∈ user, Printable field.2) : Printable (vnextSettings c user) := by
  have users : Printable (object ([("id", str c.uuid)] ++ user)) :=
    printable_object distinct (List.forall_mem_cons.mpr ⟨.str _, each⟩)
  refine printable_object (by simp) (List.forall_mem_singleton.mpr (.arr ?_))
  refine List.forall_mem_singleton.mpr (printable_object ?_ ?_)
  · simp only [List.map_cons, List.map_nil]
    decide
  · simp only [List.forall_mem_cons, List.not_mem_nil, false_implies, implies_true, and_true]
    exact ⟨.str _, .ofInt isInt, .arr (List.forall_mem_singleton.mpr users)⟩

theorem printable_serverSettings {credentials : List (String × Json)} (isInt : IsInt c.port)
    (distinct : ((("address", str c.address) :: ("port", int c.port) :: credentials).map
      fun field => txt field.1).Nodup)
    (each : ∀ field ∈ credentials, Printable field.2) :
    Printable (serverSettings c credentials) := by
  refine printable_object (by simp) (List.forall_mem_singleton.mpr (.arr ?_))
  refine List.forall_mem_singleton.mpr (printable_object distinct ?_)
  exact List.forall_mem_cons.mpr ⟨.str _, List.forall_mem_cons.mpr ⟨.ofInt isInt, each⟩⟩

theorem printable_protocolSettings (isInt : IsInt c.port) (isIntAlter : IsInt c.alterId) :
    Printable (protocolSettings c) := by
  rw [protocolSettings]
  split_ifs with vless vmess trojan shadowsocks proxy given
  · refine printable_vnextSettings isInt ?_ ?_
    · have names := ((names_fieldUnlessEmpty "flow" c.flow).cons_cons (txt "encryption")).cons_cons
        (txt "id")
      exact names.nodup (by decide)
    · exact List.forall_mem_cons.mpr ⟨.str _, printable_fieldUnlessEmpty _ _⟩
  · refine printable_vnextSettings isInt ?_ ?_
    · simp only [List.map_cons, List.map_nil]
      decide
    · exact List.forall_mem_cons.mpr ⟨.ofInt isIntAlter, List.forall_mem_singleton.mpr (.str _)⟩
  · refine printable_serverSettings isInt ?_ ?_
    · have names := (((names_fieldUnlessEmpty "flow" c.flow).cons_cons (txt "password")).cons_cons
        (txt "port")).cons_cons (txt "address")
      exact names.nodup (by decide)
    · exact List.forall_mem_cons.mpr ⟨.str _, printable_fieldUnlessEmpty _ _⟩
  · refine printable_serverSettings isInt ?_ ?_
    · simp only [List.map_cons, List.map_nil]
      decide
    · exact List.forall_mem_cons.mpr ⟨.str _, List.forall_mem_singleton.mpr (.str _)⟩
  · refine printable_serverSettings isInt ?_ ?_
    · simp only [List.map_cons, List.map_nil]
      decide
    · refine List.forall_mem_singleton.mpr (.arr (List.forall_mem_singleton.mpr ?_))
      refine printable_object (by simp only [List.map_cons, List.map_nil]; decide) ?_
      exact List.forall_mem_cons.mpr ⟨.str _, List.forall_mem_singleton.mpr (.str _)⟩
  · refine printable_serverSettings isInt ?_ (List.forall_mem_nil _)
    simp only [List.map_cons, List.map_nil]
    decide
  · exact printable_object List.nodup_nil (List.forall_mem_nil _)

theorem printable_hostField (key : String) (host : Text) :
    ∀ field ∈ (if host = [] then [] else [(key, csvArray host)]), Printable field.2 := by
  split_ifs
  · exact List.forall_mem_nil _
  · exact List.forall_mem_singleton.mpr (printable_strings _)

theorem printable_httpHeader (c : ProxyConfig) : Printable (httpHeader c) := by
  have texts (value : Text) : Printable (arr [str value]) :=
    .arr (List.forall_mem_singleton.mpr (.str value))
  have headers : Printable (object ((if c.host = [] then [] else [("Host", csvArray c.host)]) ++
      [("User-Agent", arr [text ("Mozilla/5.0 (Windows NT 10.0; Win64; x64) AppleWebKit/537.36 " ++
          "(KHTML, like Gecko) Chrome/125.0.0.0 Safari/537.36")]),
        ("Accept-Encoding", arr [text "gzip, deflate"]),
        ("Connection", arr [text "keep-alive"]),
        ("Pragma", text "no-cache")])) := by
    refine printable_object ?_ (List.forall_mem_append.mpr ⟨printable_hostField _ _, ?_⟩)
    · split_ifs <;>
        (simp only [List.nil_append, List.cons_append, List.map_cons, List.map_nil]; decide)
    · simp only [List.forall_mem_cons, List.not_mem_nil, false_implies, implies_true, and_true]
      exact ⟨texts _, texts _, texts _, .str _⟩
  refine printable_object (by simp only [List.map_cons, List.map_nil]; decide) ?_
  refine List.forall_mem_cons.mpr ⟨.str _, List.forall_mem_singleton.mpr ?_⟩
  refine printable_object (by simp only [List.map_cons, List.map_nil]; decide) ?_
  simp only [List.forall_mem_cons, List.not_mem_nil, false_implies, implies_true, and_true]
  exact ⟨.str _, .str _, printable_strings _, headers⟩

/-- An object of a path and of a field that may be left out. -/
theorem printable_pathAnd {path : Text} {fields : List (String × Json)} {names : List Text}
    (distinct : (txt "path" :: names).Nodup)
    (sublist : List.Sublist (fields.map fun field => txt field.1) names)
    (each : ∀ field ∈ fields, Printable field.2) :
    Printable (object ([("path", str path)] ++ fields)) := by
  refine printable_object ?_ (List.forall_mem_cons.mpr ⟨.str path, each⟩)
  exact (sublist.cons_cons (txt "path")).nodup distinct

theorem printable_transportFields (c : ProxyConfig) (net : Text) :
    ∀ field ∈ transportFields platform c net, Printable field.2 := by
  have named (key : String) (value : Json) :
      List.Sublist ((if c.host = [] then [] else [(key, value)]).map fun field => txt field.1)
        [txt key] := by
    split_ifs
    · exact List.nil_sublist _
    · exact List.Sublist.refl _
  rw [transportFields]
  split
  · split
    · refine List.forall_mem_singleton.mpr (printable_object (by simp) ?_)
      exact List.forall_mem_singleton.mpr (printable_httpHeader c)
    · exact List.forall_mem_nil _
  split
  · refine List.forall_mem_singleton.mpr (printable_object ?_ ?_)
    · refine List.Sublist.nodup ((names_fieldUnlessEmpty "seed" c.path).cons_cons (txt "header")) ?_
      decide
    · refine List.forall_mem_cons.mpr ⟨?_, printable_fieldUnlessEmpty _ _⟩
      exact printable_object (by simp) (List.forall_mem_singleton.mpr (.str _))
  split
  · refine List.forall_mem_singleton.mpr (printable_pathAnd (by decide) (named "headers" _) ?_)
    split
    · exact List.forall_mem_nil _
    · refine List.forall_mem_singleton.mpr (printable_object (by simp) ?_)
      exact List.forall_mem_singleton.mpr (.str _)
  split
  · exact List.forall_mem_singleton.mpr (printable_pathAnd (by decide)
      (names_fieldUnlessEmpty "host" c.host) (printable_fieldUnlessEmpty _ _))
  split
  · refine List.forall_mem_singleton.mpr ?_
    have names := (names_fieldUnlessEmpty "host" c.host).append
      (names_fieldUnlessEmpty "mode" c.mode)
    rw [← List.map_append] at names
    rw [List.append_assoc]
    exact printable_pathAnd (by decide) names (List.forall_mem_append.mpr
      ⟨printable_fieldUnlessEmpty _ _, printable_fieldUnlessEmpty _ _⟩)
  split
  · refine List.forall_mem_singleton.mpr (printable_object ?_ ?_)
    · simp only [List.map_cons, List.map_nil]
      decide
    · exact List.forall_mem_cons.mpr ⟨.str _, List.forall_mem_singleton.mpr (.bool _)⟩
  split
  · exact List.forall_mem_singleton.mpr (printable_pathAnd (by decide) (named "host" _)
      (printable_hostField _ _))
  · exact List.forall_mem_nil _

theorem printable_tlsSettings (c : ProxyConfig) : Printable (tlsSettings c) := by
  refine printable_object ?_ ?_
  · simp only [pinField]
    split_ifs <;>
      (simp only [List.nil_append, List.append_nil, List.cons_append, List.map_cons, List.map_nil]
       decide)
  · simp only [List.forall_mem_append, List.forall_mem_cons, List.not_mem_nil, false_implies,
      implies_true, and_true, pinField]
    refine ⟨⟨⟨.str _, .str _⟩, ?_⟩, ?_⟩
    · split_ifs
      · exact List.forall_mem_singleton.mpr (.str _)
      · exact List.forall_mem_nil _
    · split_ifs
      · exact List.forall_mem_nil _
      · exact List.forall_mem_singleton.mpr (printable_strings _)

theorem printable_securityFields (c : ProxyConfig) :
    ∀ field ∈ securityFields c, Printable field.2 := by
  rw [securityFields]
  split_ifs
  · refine List.forall_mem_cons.mpr ⟨.str _, List.forall_mem_singleton.mpr ?_⟩
    refine printable_object (by simp only [List.map_cons, List.map_nil]; decide) ?_
    simp only [List.forall_mem_cons, List.not_mem_nil, false_implies, implies_true, and_true]
    exact ⟨.str _, .str _, .str _, .str _, .str _⟩
  · exact List.forall_mem_cons.mpr
      ⟨.str _, List.forall_mem_singleton.mpr (printable_tlsSettings c)⟩
  · exact List.forall_mem_nil _

theorem printable_buildStream (platform : Platform) (c : ProxyConfig) :
    Printable (buildStream platform c) := by
  refine printable_object ?_ ?_
  · simp only [transportFields, securityFields]
    split_ifs <;>
      (simp only [List.nil_append, List.append_nil, List.cons_append, List.map_cons, List.map_nil]
       decide)
  · refine List.forall_mem_append.mpr ⟨?_, printable_securityFields c⟩
    exact List.forall_mem_cons.mpr ⟨.str _, printable_transportFields c _⟩

theorem printable_testRoot (platform : Platform) (isInt : IsInt c.port)
    (isIntAlter : IsInt c.alterId) (imported : c.protocol ∈ importedProtocols) :
    Printable (testRoot platform c none) := by
  have outbound : Printable (buildOutbound platform c) := by
    rw [buildOutbound_of_imported imported]
    refine printable_object (by simp only [List.map_cons, List.map_nil]; decide) ?_
    simp only [List.forall_mem_cons, List.not_mem_nil, false_implies, implies_true, and_true]
    exact ⟨.str _, .str _, printable_protocolSettings isInt isIntAlter, printable_buildStream _ _⟩
  refine printable_object (by simp only [List.map_cons, List.map_nil]; decide) ?_
  simp only [List.forall_mem_cons, List.not_mem_nil, false_implies, implies_true, and_true]
  exact ⟨printable_object (by simp) (List.forall_mem_singleton.mpr (.str _)),
    .arr (List.forall_mem_singleton.mpr outbound)⟩

theorem collect_testRoot (platform : Platform) (c : ProxyConfig)
    (imported : c.protocol ∈ importedProtocols) :
    collect (testRoot platform c none) = [(buildOutbound platform c, [])] := by
  have isObject : asObject (buildOutbound platform c) = some (buildOutbound platform c) := by
    rw [buildOutbound_of_imported imported]
    rfl
  have label : (labelKeys.map (stringAt (testRoot platform c none))).find? (· ≠ []) = none := by
    simp +decide only [labelKeys, List.map_cons, List.map_nil, testRoot, stringAt_object_cons,
      stringAt_object_nil, if_false]
  have outbounds : arrayAt (testRoot platform c none) "outbounds" =
      some [buildOutbound platform c] := by
    simp +decide only [testRoot, arrayAt_object_cons, if_false, if_true, Option.filter_none,
      asArray]
  rw [collect, outbounds, label]
  simp only [List.filterMap_cons, isObject, List.filterMap_nil, List.map_cons, List.map_nil,
    Option.getD_none]

theorem parseBundle_buildForTest (platform : Platform) (isInt : IsInt c.port)
    (isIntAlter : IsInt c.alterId) (imported : c.protocol ∈ importedProtocols)
    (address : c.address ≠ []) (port : 0 < c.port)
    (encryption : c.encryption ≠ []) (fingerprint : c.fingerprint ≠ []) (source : ConfigSource)
    (fresh : ℕ → Text) :
    ∃ d, parseBundle platform json (buildForTest platform c none) source fresh = [d] ∧
      ImportOf platform c d := by
  rcases exists_outboundToConfig json platform isInt isIntAlter imported address port encryption
    fingerprint source (fresh 0) with ⟨d, isRead, importOf⟩
  have nodes : (collect (testRoot platform c none)).zipIdx.filterMap (fun entry =>
      outboundToConfig platform json entry.1.1 source entry.1.2 (fresh entry.2)) = [d] := by
    rw [collect_testRoot platform c imported]
    simp only [List.zipIdx_cons, List.zipIdx_nil, List.filterMap_cons, List.filterMap_nil, isRead]
  refine ⟨d, ?_, importOf⟩
  rw [← nodes]
  apply parseBundle_print (printable_testRoot platform isInt isIntAlter imported)
  exact nodes ▸ List.cons_ne_nil d []

theorem ImportOf.isInts {d : ProxyConfig} (importOf : ImportOf platform c d) (isInt : IsInt c.port)
    (isIntAlter : IsInt c.alterId) : IsInt d.port ∧ IsInt d.alterId := by
  rw [importOf.server.port, importOf.server.alterId, importedServer]
  have zero : IsInt 0 := by norm_num [IsInt]
  split_ifs <;> exact ⟨isInt, by assumption⟩

/-- The texts are the same exactly when the outbounds are. -/
theorem buildForTest_inj {d : ProxyConfig} (left : Printable (testRoot platform d none))
    (right : Printable (testRoot platform c none)) :
    buildForTest platform d none = buildForTest platform c none ↔
      buildOutbound platform d = buildOutbound platform c := by
  constructor
  · intro same
    have read : readObject (testRoot platform d none).print = some (testRoot platform d none) :=
      readObject_print left
    have other : readObject (testRoot platform c none).print = some (testRoot platform c none) :=
      readObject_print right
    have sameRoot : testRoot platform d none = testRoot platform c none := by
      rw [← buildForTest, same, buildForTest, other] at read
      exact (Option.some.inj read).symm
    simp only [testRoot, Option.filter_none, object_cons_inj, Json.arr.injEq, List.cons.injEq,
      true_and, and_true] at sameRoot
    exact sameRoot
  · intro same
    simp only [buildForTest, testRoot, Option.filter_none, same]

/-- A config is imported from its test config as one with the same test config, exactly when it
uses nothing that the importer does not read. -/
theorem parseBundle_buildForTest_iff (platform : Platform) (json : OrgObject) {c : ProxyConfig}
    (source : ConfigSource) (fresh : ℕ → Text) (ints : c.HasInts)
    (imported : c.protocol ∈ importedProtocols) (address : c.address ≠ []) (port : 0 < c.port)
    (encryption : c.encryption ≠ []) (fingerprint : c.fingerprint ≠ []) :
    (∃ d, parseBundle platform json (buildForTest platform c none) source fresh = [d] ∧
        buildForTest platform d none = buildForTest platform c none) ↔
      ReadsBack platform c := by
  rcases parseBundle_buildForTest json platform ints.port ints.alterId imported address port
    encryption fingerprint source fresh with ⟨d, isRead, importOf⟩
  have isInts := importOf.isInts ints.port ints.alterId
  have sameText := buildForTest_inj
    (printable_testRoot platform isInts.1 isInts.2 (importOf.protocol ▸ imported))
    (printable_testRoot platform ints.port ints.alterId imported)
  rw [← buildOutbound_iff imported address importOf, ← sameText]
  constructor
  · rintro ⟨other, isOther, same⟩
    rw [isRead, List.cons.injEq] at isOther
    rw [isOther.1]
    exact same
  · intro same
    exact ⟨d, isRead, same⟩

/-- A config that keeps to the defaults. -/
def plainConfig : ProxyConfig where
  name := txt "n"
  protocol := txt "vless"
  address := txt "h"
  port := 1
  id := txt "1"

theorem parseBundle_buildForTest_plain :
    ∃ d, parseBundle .ascii .strict (buildForTest .ascii plainConfig none) .personal
        (fun _ => txt "2") = [d] ∧
      buildForTest .ascii d none = buildForTest .ascii plainConfig none := by
  have one : IsInt 1 := by norm_num [IsInt]
  have zero : IsInt 0 := by norm_num [IsInt]
  have ints : plainConfig.HasInts := ⟨one, zero, zero, zero, zero⟩
  refine (parseBundle_buildForTest_iff .ascii .strict .personal _ ints (by decide) (by decide)
    (by decide) (by decide) (by decide)).mpr ?_
  refine ⟨⟨?_, ?_, ?_, ?_, ?_⟩, ?_⟩ <;> decide +kernel

/-- A config whose gRPC transport carries several streams on one connection. -/
def multiModeConfig : ProxyConfig :=
  { plainConfig with network := txt "grpc", mode := txt "multi" }

theorem losesMode_multiModeConfig :
    ¬ ∃ d, parseBundle .ascii .strict (buildForTest .ascii multiModeConfig none) .personal
        (fun _ => txt "1") = [d] ∧
      buildForTest .ascii d none = buildForTest .ascii multiModeConfig none := by
  have bundle : parseBundle .ascii .strict (buildForTest .ascii multiModeConfig none) .personal
      (fun _ => txt "1") = [{ multiModeConfig with name := txt "h:1", mode := [] }] := by
    decide +kernel
  rintro ⟨d, isRead, same⟩
  rw [bundle, List.cons.injEq] at isRead
  rw [← isRead.1] at same
  exact absurd same (by decide +kernel)

end GRoute.ConfigBuilder
