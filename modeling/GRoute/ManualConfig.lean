import GRoute.ConfigBuilder.Reading
import GRoute.ConfigBuilder.Security
import GRoute.ConfigStore
import GRoute.ProxyConfig.Texts

/-!
# The manual editor

`ManualConfigScreen` of `MainActivity.kt` and what its caller does with the config it saves. The
form offers no field for the encryption, the obfuscation or the transport of some protocols, and a
saved config gets fixed values there. A config that is opened and saved without a change builds the
same outbound exactly when it had those values before.
-/

namespace GRoute.ManualConfig

open Text Json ConfigBuilder

/-- The state of the screen, with the values it has for a new config. -/
structure Form where
  name : Text := []
  protocol : Text := txt "vless"
  address : Text := []
  port : Text := []
  uuid : Text := []
  password : Text := []
  method : Text := txt "aes-256-gcm"
  flow : Text := []
  network : Text := txt "tcp"
  security : Text := txt "none"
  sni : Text := []
  publicKey : Text := []
  shortId : Text := []
  path : Text := []
  host : Text := []
  serviceName : Text := []
  mode : Text := []
  alpn : Text := []
  fingerprint : Text := txt "chrome"
  allowInsecure : Bool := false
  pinnedCert : Text := []
  hyObfsPassword : Text := []
  hyUp : Text := []
  hyDown : Text := []

/-- The text of a number that the form shows only if it is positive. -/
def positiveText (z : ℤ) : Text := if z > 0 then ofInt z else []

/-- The state of the screen when it is opened. -/
def Form.open : Option ProxyConfig → Form
  | none => {}
  | some existing =>
    { name := existing.name
      protocol := existing.protocol
      address := existing.address
      port := positiveText existing.port
      uuid := existing.uuid
      password := existing.password
      method := ifEmpty existing.method (txt "aes-256-gcm")
      flow := existing.flow
      network := existing.network
      security := existing.security
      sni := existing.sni
      publicKey := existing.publicKey
      shortId := existing.shortId
      path := existing.path
      host := existing.host
      serviceName := existing.serviceName
      mode := existing.mode
      alpn := existing.alpn
      fingerprint := existing.fingerprint
      allowInsecure := existing.allowInsecure
      pinnedCert := existing.pinnedCertSha256
      hyObfsPassword := existing.hyObfsPassword
      hyUp := positiveText existing.hyUpMbps
      hyDown := positiveText existing.hyDownMbps }

namespace Form

variable (form : Form)

/-- The screen asks the server for its certificate when it opens. -/
def fetchesPin : Bool :=
  form.allowInsecure && !CertPin.isValid form.pinnedCert && !isBlank form.address

/-- The state after the screen was opened. `fetched` is what `CertPin.fetch` answers. -/
def launched (fetched : Option Text) : Form :=
  if form.fetchesPin then { form with pinnedCert := fetched.getD [] } else form

def savedNetwork : Text :=
  if form.protocol = txt "shadowsocks" then txt "tcp"
  else if form.protocol = txt "hysteria2" then txt "hysteria"
  else if form.protocol = txt "ikev2" then txt "ikev2"
  else form.network

def savedSecurity : Text :=
  if form.protocol = txt "shadowsocks" then txt "none"
  else if form.protocol = txt "hysteria2" then txt "tls"
  else if form.protocol = txt "ikev2" then txt "none"
  else form.security

/-- The copy of `base` that is saved. -/
def config (base : ProxyConfig) (port : ℤ) : ProxyConfig :=
  { base with
    name := ifBlank form.name (form.protocol ++ txt " " ++ form.address)
    protocol := form.protocol
    address := trim form.address
    port := port
    uuid := trim form.uuid
    password := trim form.password
    method := trim form.method
    encryption := if form.protocol = txt "vmess" then txt "auto" else txt "none"
    flow := trim form.flow
    network := form.savedNetwork
    security := form.savedSecurity
    sni := trim form.sni
    publicKey := trim form.publicKey
    shortId := trim form.shortId
    path := trim form.path
    host := trim form.host
    serviceName := trim form.serviceName
    mode := trim form.mode
    alpn := trim form.alpn
    fingerprint := trim form.fingerprint
    allowInsecure := form.allowInsecure
    pinnedCertSha256 := form.pinnedCert
    hyObfs := if isBlank form.hyObfsPassword then [] else txt "salamander"
    hyObfsPassword := trim form.hyObfsPassword
    hyUpMbps := (toIntOrNull form.hyUp).getD 0
    hyDownMbps := (toIntOrNull form.hyDown).getD 0 }

/-- The port that is saved, if the form has one. -/
def savedPort : Option ℤ :=
  if form.protocol = txt "ikev2" then some 500 else toIntOrNull form.port

end Form

/-- The message that the screen shows in place of saving. -/
inductive FormError
  /-- `err_address` -/
  | address
  /-- `err_port` -/
  | port
  /-- `err_uuid` -/
  | uuid
  /-- `err_password` -/
  | password
  deriving DecidableEq, Repr

/-- The save button of a config that is not locked. -/
def Form.save (form : Form) (base : ProxyConfig) : Except FormError ProxyConfig :=
  if isBlank form.address then .error .address
  else match form.savedPort.filter fun port => 1 ≤ port ∧ port ≤ 65535 with
    | none => .error .port
    | some port =>
      if (form.protocol = txt "vless" ∨ form.protocol = txt "vmess") ∧ isBlank form.uuid then
        .error .uuid
      else if form.protocol = txt "ikev2" ∧ isBlank form.uuid then .error .uuid
      else if (form.protocol = txt "trojan" ∨ form.protocol = txt "shadowsocks" ∨
          form.protocol = txt "hysteria2" ∨ form.protocol = txt "ikev2") ∧
          isBlank form.password then
        .error .password
      else .ok (form.config base port)

/-- The save button of the screen and its caller. Of a locked config only the name can change.
`fresh` is the id of a new config. -/
def submit (store : ConfigStore) (existing : Option ProxyConfig) (form : Form) (fresh : Text) :
    Except FormError ConfigStore :=
  match existing with
  | some existing =>
    if existing.locked then
      .ok (store.update { existing with name := ifBlank form.name existing.name })
    else (form.save existing).map store.update
  | none =>
    (form.save { name := [], protocol := [], address := [], port := 0, id := fresh }).map store.add

theorem save_eq_ok {form : Form} {base saved : ProxyConfig}
    (accepted : form.save base = .ok saved) :
    ∃ port, form.savedPort = some port ∧ saved = form.config base port := by
  rw [Form.save] at accepted
  split at accepted
  · cases accepted
  split at accepted
  · cases accepted
  next port isPort =>
    rw [Option.filter_eq_some_iff] at isPort
    refine ⟨port, isPort.1, ?_⟩
    split at accepted
    · cases accepted
    split at accepted
    · cases accepted
    split at accepted
    · cases accepted
    exact (Except.ok.inj accepted).symm

variable {platform : Platform} {c : ProxyConfig}

/-- What is saved of a config that was opened and not changed. -/
def resaved (c : ProxyConfig) (port : ℤ) : ProxyConfig :=
  { c with
    name := ifBlank c.name (c.protocol ++ txt " " ++ c.address)
    port := port
    method := ifEmpty c.method (txt "aes-256-gcm")
    encryption := if c.protocol = txt "vmess" then txt "auto" else txt "none"
    network := (Form.open c).savedNetwork
    security := (Form.open c).savedSecurity
    hyObfs := if isBlank c.hyObfsPassword then [] else txt "salamander"
    hyUpMbps := max 0 c.hyUpMbps
    hyDownMbps := max 0 c.hyDownMbps }

theorem toIntOrNull_positiveText {z : ℤ} (isInt : IsInt z) :
    toIntOrNull (positiveText z) = if z > 0 then some z else none := by
  rw [positiveText]
  split
  · exact toIntOrNull_ofInt isInt
  · rfl

theorem getD_toIntOrNull_positiveText {z : ℤ} (isInt : IsInt z) :
    (toIntOrNull (positiveText z)).getD 0 = max 0 z := by
  rw [toIntOrNull_positiveText isInt]
  split
  · next positive => exact (max_eq_right positive.le).symm
  · next notPositive => exact (max_eq_left (not_lt.mp notPositive)).symm

theorem config_open (trimmed : ∀ text ∈ c.contentTexts, Trimmed text) (ints : c.HasInts)
    (port : ℤ) : (Form.open c).config c port = resaved c port := by
  have kept (text : Text) (mem : text ∈ c.contentTexts) : trim text = text :=
    (trimmed text mem).trim_eq
  have method :
      trim (ifEmpty c.method (txt "aes-256-gcm")) = ifEmpty c.method (txt "aes-256-gcm") :=
    (trimmed_ifEmpty (trimmed _ (by simp [ProxyConfig.contentTexts]))
      (trimmed_of_all (by decide))).trim_eq
  simp only [ProxyConfig.contentTexts, List.forall_mem_cons] at kept
  simp only [Form.config, Form.open, resaved, kept, method,
    getD_toIntOrNull_positiveText ints.hyUpMbps, getD_toIntOrNull_positiveText ints.hyDownMbps]
  rfl

theorem savedPort_open (ints : c.HasInts) {port : ℤ} (isPort : (Form.open c).savedPort = some port)
    (notIkev2 : c.protocol ≠ txt "ikev2") : port = c.port := by
  rw [Form.savedPort, if_neg (by exact notIkev2)] at isPort
  rw [show toIntOrNull (Form.open c).port = _ from toIntOrNull_positiveText ints.port] at isPort
  split at isPort
  · exact (Option.some.inj isPort).symm
  · cases isPort

/-- The values that the form cannot show are those that it saves. -/
def Resavable (platform : Platform) (c : ProxyConfig) : Prop :=
  (c.protocol = txt "vless" → c.encryption = txt "none") ∧
  (c.protocol = txt "vmess" → c.encryption = [] ∨ c.encryption = txt "auto") ∧
  (c.protocol = txt "shadowsocks" → c.method ≠ [] ∧
    normalizeNetwork platform c.network = txt "tcp" ∧
    c.security ≠ txt "reality" ∧ c.security ≠ txt "tls") ∧
  (c.protocol = txt "hysteria2" → isBlank c.hyObfsPassword = true ∨ isBlank c.hyObfs = true ∨
    c.hyObfs = txt "salamander") ∧
  (c.protocol = txt "ikev2" → normalizeNetwork platform c.network = txt "ikev2" ∧
    c.security ≠ txt "reality" ∧ c.security ≠ txt "tls")

theorem hysteria2Bandwidth_resaved (c : ProxyConfig) (port : ℤ) :
    hysteria2Bandwidth (resaved c port) = hysteria2Bandwidth c := by
  have shown (key : String) (z : ℤ) :
      (if max 0 z > 0 then [(key, str (ofInt (max 0 z) ++ txt "mbps"))] else []) =
        if z > 0 then [(key, str (ofInt z ++ txt "mbps"))] else [] := by
    -- the form shows nothing for a number that the outbound leaves out, and saves 0
    rcases le_or_gt z 0 with notPositive | positive
    · rw [max_eq_left notPositive, if_neg (lt_irrefl 0), if_neg notPositive.not_gt]
    · rw [max_eq_right positive.le]
  exact congrArg₂ (· ++ ·) (shown "up" c.hyUpMbps) (shown "down" c.hyDownMbps)

theorem hysteria2Masks_resaved_iff (c : ProxyConfig) (port : ℤ) :
    object (hysteria2Masks (resaved c port)) = object (hysteria2Masks c) ↔
      isBlank c.hyObfsPassword = true ∨ isBlank c.hyObfs = true ∨ c.hyObfs = txt "salamander" := by
  by_cases noPassword : isBlank c.hyObfsPassword = true
  · simp [hysteria2Masks, resaved, noPassword]
  · have named : ifBlank (txt "salamander") (txt "salamander") = txt "salamander" := by decide
    have masks : object (hysteria2Masks (resaved c port)) = object (hysteria2Masks c) ↔
        txt "salamander" = ifBlank c.hyObfs (txt "salamander") := by
      simp only [hysteria2Masks, resaved, noPassword, if_false, Bool.false_eq_true, object_cons_inj,
        Json.arr.injEq, List.cons.injEq, Json.str.injEq, and_true, named]
    rw [masks, ifBlank]
    split
    · next noObfs => simp [noObfs]
    · next obfs => simp [obfs, noPassword, eq_comm]

theorem buildHysteria2_resaved_iff (c : ProxyConfig) :
    buildHysteria2 (resaved c c.port) = buildHysteria2 c ↔
      isBlank c.hyObfsPassword = true ∨ isBlank c.hyObfs = true ∨ c.hyObfs = txt "salamander" := by
  rw [← hysteria2Masks_resaved_iff c c.port, buildHysteria2, buildHysteria2,
    hysteria2Bandwidth_resaved]
  simp only [object_cons_inj, true_and, and_true]
  exact (and_iff_right ⟨rfl, rfl⟩).trans object_append_right_inj

theorem securityFields_eq_nil_iff :
    object (securityFields c) = object [] ↔
      c.security ≠ txt "reality" ∧ c.security ≠ txt "tls" := by
  rw [securityFields]
  split
  · next reality => simp [reality, object]
  split
  · next tls => simp [tls, object]
  · next reality tls => simp [reality, tls]

/-- The stream settings without security over a network that is its own normal form. -/
theorem buildStream_forced_iff {net : Text} (normal : normalizeNetwork platform net = net)
    {d : ProxyConfig} (network : d.network = net) (security : d.security = txt "none")
    (transport : transportFields platform d net = transportFields platform c net) :
    buildStream platform d = buildStream platform c ↔
      normalizeNetwork platform c.network = net ∧
        c.security ≠ txt "reality" ∧ c.security ≠ txt "tls" := by
  have noSecurity : securityFields d = [] := by
    rw [securityFields, security, if_neg (by decide), if_neg (by decide)]
  rw [← securityFields_eq_nil_iff, buildStream, buildStream, network, normal, noSecurity, transport,
    List.append_assoc, List.append_assoc, List.singleton_append, List.singleton_append,
    object_cons_inj, Json.str.injEq, eq_comm]
  apply and_congr_right
  intro isNet
  rw [isNet, object_append_right_inj, eq_comm]

theorem normalizeNetwork_ikev2 : normalizeNetwork platform (txt "ikev2") = txt "ikev2" := by
  have read : platform.casing.lowercase (trim (txt "ikev2")) = txt "ikev2" :=
    ConfigParser.lowercase_trim_of_lower platform (by decide) (by decide) (by decide)
  refine Eq.trans (ConfigParser.normalizeNetwork_of_notMem platform ?_) read
  rw [Option.getD_some, read]
  decide

theorem buildOutbound_resaved_of_isStream (isStream : IsStream c) {port : ℤ} :
    buildOutbound platform (resaved c port) = buildOutbound platform c ↔
      protocolSettings (resaved c port) = protocolSettings c ∧
        buildStream platform (resaved c port) = buildStream platform c := by
  have same : IsStream (resaved c port) := isStream
  rw [buildOutbound_of_isStream same, buildOutbound_of_isStream isStream]
  simp only [object_cons_inj, true_and, and_true]
  exact and_iff_right rfl

theorem buildStream_resaved (free : c.protocol ∉ [txt "shadowsocks", txt "hysteria2", txt "ikev2"])
    (port : ℤ) : buildStream platform (resaved c port) = buildStream platform c := by
  simp only [List.mem_cons, List.not_mem_nil, or_false, not_or] at free
  have network : (resaved c port).network = c.network := by
    simp [resaved, Form.savedNetwork, Form.open, free]
  have security : (resaved c port).security = c.security := by
    simp [resaved, Form.savedSecurity, Form.open, free]
  rw [buildStream, network]
  simp only [securityFields, security]
  rfl

theorem buildOutbound_resaved_ikev2_iff (ikev2 : c.protocol = txt "ikev2") (port : ℤ) :
    buildOutbound platform (resaved c port) = buildOutbound platform c ↔
      normalizeNetwork platform c.network = txt "ikev2" ∧
        c.security ≠ txt "reality" ∧ c.security ≠ txt "tls" := by
  have isStream : IsStream c := by
    rw [IsStream, ikev2]
    decide
  have settings : protocolSettings (resaved c port) = protocolSettings c := by
    simp +decide only [protocolSettings, resaved, ikev2, if_false]
  rw [buildOutbound_resaved_of_isStream isStream, settings, eq_self, true_and]
  apply buildStream_forced_iff normalizeNetwork_ikev2
  · simp +decide [resaved, Form.savedNetwork, Form.open, ikev2]
  · simp +decide [resaved, Form.savedSecurity, Form.open, ikev2]
  · rfl

theorem buildOutbound_resaved_shadowsocks_iff (shadowsocks : c.protocol = txt "shadowsocks") :
    buildOutbound platform (resaved c c.port) = buildOutbound platform c ↔
      c.method ≠ [] ∧ normalizeNetwork platform c.network = txt "tcp" ∧
        c.security ≠ txt "reality" ∧ c.security ≠ txt "tls" := by
  have isStream : IsStream c := by
    rw [IsStream, shadowsocks]
    decide
  rw [buildOutbound_resaved_of_isStream isStream]
  apply and_congr
  · have settings : protocolSettings (resaved c c.port) = protocolSettings c ↔
        ifEmpty c.method (txt "aes-256-gcm") = c.method := by
      simp +decide only [protocolSettings, resaved, shadowsocks, serverSettings, if_true, if_false,
        List.cons_append, List.nil_append, object_cons_inj, Json.arr.injEq, List.cons.injEq,
        Json.str.injEq, true_and, and_true]
    rw [settings, ifEmpty]
    split
    · next noMethod => simp +decide [noMethod]
    · next method => simp [method]
  · apply buildStream_forced_iff (ConfigParser.normalizeNetwork_canonical platform (by decide)).1
    · simp [resaved, Form.savedNetwork, Form.open, shadowsocks]
    · simp [resaved, Form.savedSecurity, Form.open, shadowsocks]
    · rfl

theorem protocolSettings_resaved_vless_iff (vless : c.protocol = txt "vless") :
    protocolSettings (resaved c c.port) = protocolSettings c ↔ c.encryption = txt "none" := by
  simp +decide only [protocolSettings, resaved, vless, vnextSettings, if_true, if_false,
    List.cons_append, List.nil_append, object_cons_inj, Json.arr.injEq, List.cons.injEq,
    Json.str.injEq, true_and, and_true]
  exact eq_comm

theorem protocolSettings_resaved_vmess_iff (vmess : c.protocol = txt "vmess") :
    protocolSettings (resaved c c.port) = protocolSettings c ↔
      c.encryption = [] ∨ c.encryption = txt "auto" := by
  have settings : protocolSettings (resaved c c.port) = protocolSettings c ↔
      txt "auto" = ifEmpty c.encryption (txt "auto") := by
    simp +decide only [protocolSettings, resaved, vmess, vnextSettings, if_true, if_false,
      List.cons_append, List.nil_append, object_cons_inj, Json.arr.injEq, List.cons.injEq,
      Json.str.injEq, true_and, and_true, ifEmpty_of_ne]
  rw [settings, ifEmpty]
  split
  · next noEncryption => simp [noEncryption]
  · next encryption => simp [encryption, eq_comm]

theorem buildOutbound_resaved_vnext_iff
    (vnext : c.protocol = txt "vless" ∨ c.protocol = txt "vmess") :
    buildOutbound platform (resaved c c.port) = buildOutbound platform c ↔
      protocolSettings (resaved c c.port) = protocolSettings c := by
  have isStream : IsStream c := by
    rw [IsStream]
    rcases vnext with vless | vmess
    · rw [vless]
      decide
    · rw [vmess]
      decide
  have stream : buildStream platform (resaved c c.port) = buildStream platform c := by
    apply buildStream_resaved
    rcases vnext with vless | vmess
    · rw [vless]
      decide
    · rw [vmess]
      decide
  rw [buildOutbound_resaved_of_isStream isStream, stream, eq_self, and_true]

theorem buildOutbound_resaved {c : ProxyConfig} (free : c.protocol ∉
      [txt "vless", txt "vmess", txt "shadowsocks", txt "hysteria2", txt "ikev2"]) :
    buildOutbound platform (resaved c c.port) = buildOutbound platform c := by
  simp only [List.mem_cons, List.not_mem_nil, or_false, not_or] at free
  rcases free with ⟨notVless, notVmess, notShadowsocks, notHysteria2, notIkev2⟩
  by_cases isStream : IsStream c
  · rw [buildOutbound_resaved_of_isStream isStream]
    constructor
    · have sameProtocol : (resaved c c.port).protocol = c.protocol := rfl
      simp only [protocolSettings, sameProtocol, notVless, notVmess, notShadowsocks, if_false]
      rfl
    · apply buildStream_resaved
      simp [notShadowsocks, notHysteria2, notIkev2]
  · simp only [IsStream, List.mem_cons, List.not_mem_nil, or_false, not_not] at isStream
    have sameProtocol : (resaved c c.port).protocol = c.protocol := rfl
    rcases isStream with wireguard | aether | hysteria2 | tor
    · simp only [buildOutbound, sameProtocol, wireguard, if_true]
      rfl
    · simp +decide only [buildOutbound, sameProtocol, aether, if_true, if_false]
    · exact absurd hysteria2 notHysteria2
    · simp +decide only [buildOutbound, sameProtocol, tor, if_true, if_false]

/-- What is saved builds the outbound of the config exactly when it had the values that the form
saves. -/
theorem buildOutbound_resaved_iff {port : ℤ} (isPort : c.protocol ≠ txt "ikev2" → port = c.port) :
    buildOutbound platform (resaved c port) = buildOutbound platform c ↔ Resavable platform c := by
  -- the port 500 that is saved for IKEv2 is not in its outbound, elsewhere the port is kept
  by_cases ikev2 : c.protocol = txt "ikev2"
  · rw [buildOutbound_resaved_ikev2_iff ikev2]
    simp +decide [Resavable, ikev2]
  rw [isPort ikev2]
  by_cases shadowsocks : c.protocol = txt "shadowsocks"
  · rw [buildOutbound_resaved_shadowsocks_iff shadowsocks]
    simp +decide [Resavable, shadowsocks]
  by_cases hysteria2 : c.protocol = txt "hysteria2"
  · have resavedHysteria2 : (resaved c c.port).protocol = txt "hysteria2" := hysteria2
    rw [buildOutbound_of_hysteria2 hysteria2, buildOutbound_of_hysteria2 resavedHysteria2,
      buildHysteria2_resaved_iff]
    simp +decide [Resavable, hysteria2]
  by_cases vless : c.protocol = txt "vless"
  · rw [buildOutbound_resaved_vnext_iff (.inl vless), protocolSettings_resaved_vless_iff vless]
    simp +decide [Resavable, vless]
  by_cases vmess : c.protocol = txt "vmess"
  · rw [buildOutbound_resaved_vnext_iff (.inr vmess), protocolSettings_resaved_vmess_iff vmess]
    simp +decide [Resavable, vmess]
  · apply iff_of_true
    · apply buildOutbound_resaved
      simp [ikev2, shadowsocks, hysteria2, vless, vmess]
    · simp [Resavable, ikev2, shadowsocks, hysteria2, vless, vmess]

/-- The store holds a config under the id that builds the outbound of the config. -/
def KeepsOutbound (platform : Platform) (store : ConfigStore) (c : ProxyConfig) : Prop :=
  ∃ stored, store.find c.id = some stored ∧
    buildOutbound platform stored = buildOutbound platform c

/-- A config that is opened in the editor and saved without a change keeps its outbound exactly
when it had the values that the form saves. -/
theorem keepsOutbound_iff (platform : Platform) {store after : ConfigStore} {c : ProxyConfig}
    (fetched : Option Text) (fresh : Text) (listed : store.find c.id = some c)
    (unlocked : c.locked = false) (ints : c.HasInts)
    (trimmed : ∀ text ∈ c.contentTexts, Trimmed text) (noFetch : (Form.open c).fetchesPin = false)
    (accepted : submit store c ((Form.open c).launched fetched) fresh = .ok after) :
    KeepsOutbound platform after c ↔ Resavable platform c := by
  simp only [submit, Form.launched, noFetch, unlocked, Bool.false_eq_true, if_false] at accepted
  cases saves : (Form.open c).save c with
  | error message =>
    rw [saves] at accepted
    cases accepted
  | ok saved =>
    rw [saves] at accepted
    have isAfter : store.update saved = after := Except.ok.inj accepted
    rcases save_eq_ok saves with ⟨port, isPort, rfl⟩
    rw [config_open trimmed ints] at isAfter
    have stored : after.find c.id = some (resaved c port) := by
      rw [← isAfter]
      exact ConfigStore.find_update listed unlocked
    rw [← buildOutbound_resaved_iff (savedPort_open ints isPort), KeepsOutbound, stored]
    constructor
    · rintro ⟨saved, found, same⟩
      rw [Option.some.inj found]
      exact same
    · intro same
      exact ⟨_, rfl, same⟩

/-- A VLESS config without encryption. -/
def plainServer : ProxyConfig where
  id := txt "1"
  name := txt "n"
  protocol := txt "vless"
  address := txt "h"
  port := 443
  uuid := txt "u"

/-- A VLESS config with encryption. -/
def encryptedServer : ProxyConfig :=
  { plainServer with encryption := txt "mlkem768x25519plus.native.0rtt.key" }

/-- The store with one config. -/
def storeOf (c : ProxyConfig) : ConfigStore where
  configs := [c]

theorem hasInts_plainServer : plainServer.HasInts := by
  constructor <;> exact ⟨by decide, by decide⟩

theorem keepsOutbound_plainServer :
    submit (storeOf plainServer) plainServer ((Form.open plainServer).launched none) [] =
        .ok (storeOf (resaved plainServer 443)) ∧
      KeepsOutbound .ascii (storeOf (resaved plainServer 443)) plainServer := by
  have visible : ∀ text ∈ plainServer.contentTexts,
      text.all (fun c => !isWhitespace c) = true := by decide +kernel
  have trimmed : ∀ text ∈ plainServer.contentTexts, Trimmed text :=
    fun text mem => trimmed_of_all (visible text mem)
  have accepted : submit (storeOf plainServer) plainServer
      ((Form.open plainServer).launched none) [] = .ok (storeOf (resaved plainServer 443)) := by
    decide +kernel
  have resavable : Resavable .ascii plainServer := by
    unfold Resavable
    decide +kernel
  exact ⟨accepted, (keepsOutbound_iff .ascii none [] rfl rfl hasInts_plainServer trimmed rfl
    accepted).mpr resavable⟩

/-- The encryption of a VLESS config is lost when the config is saved without a change. -/
theorem not_keepsOutbound_encryptedServer :
    (storeOf encryptedServer).find encryptedServer.id = some encryptedServer ∧
      encryptedServer.locked = false ∧ encryptedServer.HasInts ∧
      (∀ text ∈ encryptedServer.contentTexts, Trimmed text) ∧
      (Form.open encryptedServer).fetchesPin = false ∧
      submit (storeOf encryptedServer) encryptedServer
          ((Form.open encryptedServer).launched none) [] =
        .ok (storeOf (resaved encryptedServer 443)) ∧
      ¬KeepsOutbound .ascii (storeOf (resaved encryptedServer 443)) encryptedServer := by
  have visible : ∀ text ∈ encryptedServer.contentTexts,
      text.all (fun c => !isWhitespace c) = true := by decide +kernel
  have ints : encryptedServer.HasInts := by
    rcases hasInts_plainServer with ⟨port, alterId, mtu, hyUpMbps, hyDownMbps⟩
    exact ⟨port, alterId, mtu, hyUpMbps, hyDownMbps⟩
  refine ⟨rfl, rfl, ints, fun text mem => trimmed_of_all (visible text mem), rfl,
    by decide +kernel, ?_⟩
  rintro ⟨stored, found, same⟩
  have isStored : resaved encryptedServer 443 = stored := Option.some.inj found
  rw [← isStored] at same
  have resavable : Resavable .ascii encryptedServer :=
    (buildOutbound_resaved_iff fun _ => rfl).mp same
  exact absurd (resavable.1 rfl) (by decide +kernel)

end GRoute.ManualConfig
