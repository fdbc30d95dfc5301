import GRoute.ConfigBuilder.Reading

/-!
# What an outbound takes from the fields that the duplicate key leaves out

Two configs that agree in the fields of the key that `ConfigStore.duplicateIds` compares make the
same outbound exactly if they agree in what the builder of their protocol takes from the fields that
are not in it. A builder may take nothing from such a field, or not all of it: a number that is not
positive and a pin that is no hash are ignored.
-/

namespace GRoute.ConfigBuilder

open Text Json

variable {platform : Platform} {c d : ProxyConfig}

/-- The pin, unless it is ignored. -/
def usedPin (c : ProxyConfig) : Text :=
  if CertPin.isValid c.pinnedCertSha256 then c.pinnedCertSha256 else []

/-- The reserved bytes, unless they are ignored. -/
def usedReserved (c : ProxyConfig) : List ℤ :=
  let reserved := ((split c.reserved (unit ',')).map trim).filterMap toIntOrNull
  if reserved.length = 3 then reserved else []

/-- The obfuscation of a Hysteria2 outbound and its password, unless they are ignored. -/
def usedObfs (c : ProxyConfig) : List Text :=
  if isBlank c.hyObfsPassword then [] else [ifBlank c.hyObfs (txt "salamander"), c.hyObfsPassword]

/-- What the settings of a transport take from the fields that are not in the key. -/
def transportBeyondKey (platform : Platform) (c : ProxyConfig) (net : Text) : List Text :=
  if net = txt "tcp" then
    if equalsIgnoreCase platform c.headerType (txt "http") then [txt "http"] else []
  else if net = txt "kcp" then [ifEmpty c.headerType (txt "none")]
  else if net = txt "xhttp" then [c.mode]
  else if net = txt "grpc" then if c.mode = txt "multi" then [c.mode] else []
  else []

/-- What the settings of the security take from them. -/
def securityBeyondKey (c : ProxyConfig) : List Text :=
  if c.security = txt "reality" then [c.fingerprint]
  else if c.security = txt "tls" then c.fingerprint :: usedPin c :: commaParts c.alpn
  else []

/-- What the outbound takes from them. -/
def outboundBeyondKey (platform : Platform) (c : ProxyConfig) : List (List Text) :=
  if c.protocol = txt "wireguard" then [[ofInt (max 0 c.mtu)], (usedReserved c).map ofInt]
  else if c.protocol = txt "aether" then []
  else if c.protocol = txt "hysteria2" then
    [commaParts (ifBlank c.alpn (txt "h3")),
      [usedPin c, ofInt (max 0 c.hyUpMbps), ofInt (max 0 c.hyDownMbps)],
      usedObfs c]
  else if c.protocol = txt "tor" then []
  else [transportBeyondKey platform c (normalizeNetwork platform c.network), securityBeyondKey c]

/-- The fields of the key that an outbound depends on. -/
structure SameKeyFields (c d : ProxyConfig) : Prop where
  protocol : c.protocol = d.protocol
  address : c.address = d.address
  port : c.port = d.port
  uuid : c.uuid = d.uuid
  password : c.password = d.password
  method : c.method = d.method
  encryption : c.encryption = d.encryption
  flow : c.flow = d.flow
  alterId : c.alterId = d.alterId
  network : c.network = d.network
  security : c.security = d.security
  sni : c.sni = d.sni
  path : c.path = d.path
  host : c.host = d.host
  publicKey : c.publicKey = d.publicKey
  shortId : c.shortId = d.shortId
  serviceName : c.serviceName = d.serviceName
  privateKey : c.privateKey = d.privateKey
  localAddress : c.localAddress = d.localAddress

theorem optional_positive_iff {f : ℤ → Json} (inj : ∀ {a b}, f a = f b ↔ a = b) {a b : ℤ} :
    ((a > 0 ↔ b > 0) ∧ (a > 0 → f a = f b)) ↔ max 0 a = max 0 b := by
  rw [inj]
  omega

theorem usedPin_eq_iff :
    ((CertPin.isValid c.pinnedCertSha256 = true ↔ CertPin.isValid d.pinnedCertSha256 = true) ∧
      (CertPin.isValid c.pinnedCertSha256 = true →
        str c.pinnedCertSha256 = str d.pinnedCertSha256)) ↔ usedPin c = usedPin d := by
  have notEmpty {pin : Text} (valid : CertPin.isValid pin = true) : pin ≠ [] := by
    rintro rfl
    exact absurd valid (by decide)
  rw [usedPin, usedPin, Json.str.injEq]
  by_cases left : CertPin.isValid c.pinnedCertSha256 = true <;>
    by_cases right : CertPin.isValid d.pinnedCertSha256 = true
  · simp [left, right]
  · simp [left, right, notEmpty left]
  · simp [left, right, (notEmpty right).symm]
  · simp [left, right]

theorem object_pinField_append_inj {us vs : List (String × Json)}
    (absentLeft : ∀ field ∈ us, txt field.1 ≠ txt "pinnedPeerCertSha256")
    (absentRight : ∀ field ∈ vs, txt field.1 ≠ txt "pinnedPeerCertSha256") :
    object (pinField c ++ us) = object (pinField d ++ vs) ↔
      usedPin c = usedPin d ∧ object us = object vs := by
  rw [pinField, pinField, object_optional_inj absentLeft absentRight, usedPin_eq_iff]

theorem object_pinField_inj :
    object (pinField c) = object (pinField d) ↔ usedPin c = usedPin d := by
  have pins := object_pinField_append_inj (c := c) (d := d) (List.forall_mem_nil _)
    (List.forall_mem_nil _)
  simpa only [List.append_nil, and_true] using pins

theorem usedReserved_eq_iff {xs ys : List ℤ} :
    ((xs.length = 3 ↔ ys.length = 3) ∧ (xs.length = 3 → arr (xs.map int) = arr (ys.map int))) ↔
      (if xs.length = 3 then xs else []) = if ys.length = 3 then ys else [] := by
  have inj : arr (xs.map int) = arr (ys.map int) ↔ xs = ys := by
    rw [Json.arr.injEq]
    exact List.map_inj_right fun _ _ => int_inj.mp
  rw [inj]
  by_cases left : xs.length = 3 <;> by_cases right : ys.length = 3
  · simp [left, right]
  · have filled : xs ≠ [] := List.ne_nil_of_length_pos (by omega)
    simp [left, right, filled]
  · have filled : ys ≠ [] := List.ne_nil_of_length_pos (by omega)
    simp [left, right, filled.symm]
  · simp [left, right]

theorem hysteria2Bandwidth_inj :
    object (hysteria2Bandwidth c) = object (hysteria2Bandwidth d) ↔
      max 0 c.hyUpMbps = max 0 d.hyUpMbps ∧ max 0 c.hyDownMbps = max 0 d.hyDownMbps := by
  have inj {a b : ℤ} : str (ofInt a ++ txt "mbps") = str (ofInt b ++ txt "mbps") ↔ a = b := by
    rw [Json.str.injEq, List.append_left_inj, ofInt_inj]
  rw [hysteria2Bandwidth, hysteria2Bandwidth,
    object_optional_inj (ne_of_mem_optional (by decide)) (ne_of_mem_optional (by decide)),
    object_optional_singleton_inj, optional_positive_iff inj, optional_positive_iff inj]

theorem hysteria2Masks_inj :
    object (hysteria2Masks c) = object (hysteria2Masks d) ↔ usedObfs c = usedObfs d := by
  rw [hysteria2Masks, hysteria2Masks, usedObfs, usedObfs]
  by_cases left : isBlank c.hyObfsPassword = true <;>
    by_cases right : isBlank d.hyObfsPassword = true
  · simp [left, right]
  · simp [left, right, object]
  · simp [left, right, object]
  · simp [left, right, object_cons_inj]

theorem ne_tcpSettings (c : ProxyConfig) :
    ∀ field ∈ securityFields c, txt field.1 ≠ txt "tcpSettings" := by
  rw [securityFields]
  split_ifs <;> simp +decide

section

variable (key : SameKeyFields c d)

include key

theorem buildWireguard_inj : buildWireguard platform c = buildWireguard platform d ↔
    max 0 c.mtu = max 0 d.mtu ∧ usedReserved c = usedReserved d := by
  simp only [buildWireguard, key.address, key.port, key.publicKey, key.privateKey,
    key.localAddress, List.cons_append, List.nil_append, object_cons_inj, true_and, and_true]
  rw [object_optional_inj (ne_of_mem_optional (by decide)) (ne_of_mem_optional (by decide)),
    object_optional_singleton_inj, optional_positive_iff int_inj, usedReserved_eq_iff]
  rfl

theorem buildHysteria2_inj : buildHysteria2 c = buildHysteria2 d ↔
    commaParts (ifBlank c.alpn (txt "h3")) = commaParts (ifBlank d.alpn (txt "h3")) ∧
      usedPin c = usedPin d ∧ (max 0 c.hyUpMbps = max 0 d.hyUpMbps ∧
        max 0 c.hyDownMbps = max 0 d.hyDownMbps) ∧ usedObfs c = usedObfs d := by
  simp only [buildHysteria2, hysteria2ServerName, key.address, key.port, key.sni, key.host,
    key.password, List.cons_append, List.nil_append, object_cons_inj, true_and, and_true,
    csvArray, strings_inj, object_pinField_inj, hysteria2Bandwidth_inj, hysteria2Masks_inj]
  exact and_assoc

theorem tlsSettings_inj : tlsSettings c = tlsSettings d ↔
    c.fingerprint = d.fingerprint ∧ usedPin c = usedPin d ∧
      commaParts c.alpn = commaParts d.alpn := by
  have alpn : object (if commaParts c.alpn = [] then [] else [("alpn", csvArray c.alpn)]) =
      object (if commaParts d.alpn = [] then [] else [("alpn", csvArray d.alpn)]) ↔
        commaParts c.alpn = commaParts d.alpn := by
    rw [← ite_not, ← ite_not (commaParts d.alpn = []), object_optional_singleton_inj, csvArray,
      csvArray, strings_inj]
    constructor
    · rintro ⟨both, same⟩
      by_cases none : commaParts c.alpn = []
      · rw [none, not_not.mp fun some => both.mpr some none]
      · exact same none
    · intro same
      rw [same]
      exact ⟨Iff.rfl, fun _ => rfl⟩
  have absent (e : ProxyConfig) :
      ∀ field ∈ if commaParts e.alpn = [] then [] else [("alpn", csvArray e.alpn)],
        txt field.1 ≠ txt "pinnedPeerCertSha256" := by
    rw [← ite_not]
    exact ne_of_mem_optional (by decide)
  simp only [tlsSettings, key.address, key.sni, key.host, List.cons_append, List.nil_append,
    object_cons_inj, true_and, Json.str.injEq]
  rw [object_pinField_append_inj (absent c) (absent d), alpn]

theorem securityFields_inj : object (securityFields c) = object (securityFields d) ↔
    securityBeyondKey c = securityBeyondKey d := by
  simp only [securityFields, securityBeyondKey, key.security]
  split_ifs
  · simp only [realitySettings, key.sni, key.publicKey, key.shortId, object_cons_inj, true_and,
      and_true, Json.str.injEq, List.cons.injEq]
  · simp only [tlsSettings_inj key, object_cons_inj, true_and, and_true, List.cons.injEq]
  · exact iff_of_true rfl rfl

theorem transportFields_append_inj (net : Text) :
    object (transportFields platform c net ++ securityFields c) =
        object (transportFields platform d net ++ securityFields d) ↔
      transportBeyondKey platform c net = transportBeyondKey platform d net ∧
        securityBeyondKey c = securityBeyondKey d := by
  have header : httpHeader c = httpHeader d := by
    simp only [httpHeader, key.path, key.host]
  rw [← securityFields_inj key]
  by_cases tcp : net = txt "tcp"
  · simp only [transportFields, transportBeyondKey, tcp, if_true, header]
    rw [object_optional_inj (ne_tcpSettings c) (ne_tcpSettings d)]
    by_cases left : equalsIgnoreCase platform c.headerType (txt "http") = true <;>
      by_cases right : equalsIgnoreCase platform d.headerType (txt "http") = true <;>
      simp [left, right]
  by_cases kcp : net = txt "kcp"
  · simp +decide only [transportFields, transportBeyondKey, kcp, if_true, if_false, key.path,
      List.cons_append, List.nil_append, object_cons_inj, Json.str.injEq, List.cons.injEq, and_true]
  by_cases xhttp : net = txt "xhttp"
  · have mode : object (fieldUnlessEmpty "mode" c.mode) = object (fieldUnlessEmpty "mode" d.mode) ↔
        c.mode = d.mode := by
      rw [fieldUnlessEmpty, fieldUnlessEmpty]
      split_ifs with left right right
      · simp [left, right]
      · simp [left, object, eq_comm, right]
      · simp [right, object, left]
      · simp [object_cons_inj]
    simp +decide only [transportFields, transportBeyondKey, xhttp, if_true, if_false, key.path,
      key.host, List.cons_append, List.nil_append, object_cons_inj, object_append_right_inj, mode,
      List.cons.injEq, and_true, true_and]
  by_cases grpc : net = txt "grpc"
  · have multi : (c.mode == txt "multi") = (d.mode == txt "multi") ↔
        (if c.mode = txt "multi" then [c.mode] else []) =
          if d.mode = txt "multi" then [d.mode] else [] := by
      by_cases left : c.mode = txt "multi" <;> by_cases right : d.mode = txt "multi" <;>
        simp [left, right]
    simp +decide only [transportFields, transportBeyondKey, grpc, if_true, if_false,
      key.serviceName, List.cons_append, List.nil_append, object_cons_inj, Json.bool.injEq, multi,
      and_true, true_and]
  · have same : transportFields platform c net = transportFields platform d net := by
      simp only [transportFields, tcp, kcp, xhttp, grpc, if_false, key.path, key.host]
    rw [same, object_append_right_inj]
    simp only [transportBeyondKey, tcp, kcp, xhttp, grpc, if_false, true_and]

theorem protocolSettings_eq : protocolSettings c = protocolSettings d := by
  simp only [protocolSettings, vnextSettings, serverSettings, key.protocol, key.address, key.port,
    key.uuid, key.password, key.method, key.encryption, key.flow, key.alterId]

/-- Configs with the same key make the same outbound exactly if they agree in what it takes from the
other fields. -/
theorem buildOutbound_inj : buildOutbound platform c = buildOutbound platform d ↔
    outboundBeyondKey platform c = outboundBeyondKey platform d := by
  simp only [buildOutbound, outboundBeyondKey, key.protocol]
  split_ifs
  · rw [buildWireguard_inj key]
    simp only [List.cons.injEq, and_true, ofInt_inj]
    exact and_congr_right fun _ => (List.map_inj_right fun _ _ => ofInt_inj.mp).symm
  · exact iff_of_true rfl rfl
  · rw [buildHysteria2_inj key]
    simp only [List.cons.injEq, and_true, ofInt_inj, and_assoc]
  · exact iff_of_true rfl rfl
  · simp only [buildStream, protocolSettings_eq key, key.network, List.cons_append,
      List.nil_append, object_cons_inj, transportFields_append_inj key, List.cons.injEq, and_true,
      true_and]

end

end GRoute.ConfigBuilder
