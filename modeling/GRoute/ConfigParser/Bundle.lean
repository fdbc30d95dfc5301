import GRoute.ConfigParser
import GRoute.Foundation.JsonObject
import GRoute.Foundation.Lists

/-!
# Imported texts

`parseBundle` of `ConfigParser.kt` and the outbounds of Xray that it reads. A text is read as one
WireGuard config, as JSON or as lines of links, whichever comes first. The format is chosen for the
whole text, so the links on the lines of a text in one of the first two formats are not read at all.
-/

namespace GRoute.ConfigParser

open Text Json

variable (platform : Platform) (json : OrgObject)

/-- A value that is an object. -/
def asObject : Json → Option Json
  | .obj fields => some (.obj fields)
  | _ => none

/-- `optString(key)`. -/
def stringAt (o : Json) (key : String) : Text := o.optString (txt key) []

/-- `o?.optString(key).orEmpty()`. -/
def stringOrEmpty (o : Option Json) (key : String) : Text := (o.map (stringAt · key)).getD []

/-- `optJSONArray(key)`. -/
def arrayAt (o : Json) (key : String) : Option (List Json) := o.optArray (txt key)

/-- `optJSONArray(key)?.optJSONObject(0)`. -/
def firstObject (o : Json) (key : String) : Option Json :=
  (arrayAt o key).bind fun elements => elements.head?.bind asObject

/-- `optString(0)`. -/
def firstString (elements : List Json) : Text := (elements.head?.map toText).getD []

/-- The variables that the protocol's branch of `outboundToConfig` sets. -/
structure OutboundServer where
  address : Text
  port : ℤ
  uuid : Text := []
  password : Text := []
  method : Text := []
  encryption : Text := []
  flow : Text := []
  alterId : ℤ := 0

def outboundServer (protocol : Text) (settings : Json) : Option OutboundServer :=
  if protocol = txt "vless" ∨ protocol = txt "vmess" then
    (firstObject settings "vnext").map fun v =>
      let u := (firstObject v "users").getD (object [])
      { address := stringAt v "address"
        port := json.optInt v (txt "port") 0
        uuid := stringAt u "id"
        flow := stringAt u "flow"
        alterId := json.optInt u (txt "alterId") 0
        encryption :=
          if protocol = txt "vless" then ifEmpty (stringAt u "encryption") (txt "none")
          else ifEmpty (stringAt u "security") (txt "auto") }
  else if protocol = txt "trojan" ∨ protocol = txt "shadowsocks" ∨ protocol = txt "socks" ∨
      protocol = txt "http" then
    (firstObject settings "servers").map fun v =>
      let u := firstObject v "users"
      { address := stringAt v "address"
        port := json.optInt v (txt "port") 0
        password := ifEmpty (stringAt v "password") (stringOrEmpty u "pass")
        method := stringAt v "method"
        flow := stringAt v "flow"
        uuid := stringOrEmpty u "user" }
  else none

/-- The variables that the network's branch of `outboundToConfig` sets. -/
structure OutboundTransport where
  host : Text := []
  path : Text := []
  headerType : Text := []
  serviceName : Text := []

def outboundTransport (network : Text) (stream : Json) : OutboundTransport :=
  if network = txt "tcp" then
    let header := (stream.optObject "tcpSettings").bind (·.optObject "header")
    let req := header.bind (·.optObject "request")
    { headerType := normalizeHeaderType platform (header.map (stringAt · "type"))
      path := ((req.bind (arrayAt · "path")).map firstString).getD []
      host :=
        (((req.bind (·.optObject "headers")).bind (arrayAt · "Host")).map firstString).getD [] }
  else if network = txt "kcp" then
    let kcp := stream.optObject "kcpSettings"
    { headerType :=
        normalizeHeaderType platform ((kcp.bind (·.optObject "header")).map (stringAt · "type"))
      path := stringOrEmpty kcp "seed" }
  else if network = txt "ws" then
    let ws := stream.optObject "wsSettings"
    { path := stringOrEmpty ws "path"
      host := ifEmpty (stringOrEmpty (ws.bind (·.optObject "headers")) "Host")
        (stringOrEmpty ws "host") }
  else if network = txt "httpupgrade" then
    let hu := stream.optObject "httpupgradeSettings"
    { path := stringOrEmpty hu "path", host := stringOrEmpty hu "host" }
  else if network = txt "xhttp" then
    let xh := stream.optObject "xhttpSettings"
    { path := stringOrEmpty xh "path", host := stringOrEmpty xh "host" }
  else if network = txt "grpc" then
    let g := stream.optObject "grpcSettings"
    { serviceName := stringOrEmpty g "serviceName", host := stringOrEmpty g "authority" }
  else if network = txt "http" then
    let h := stream.optObject "httpSettings"
    { path := stringOrEmpty h "path"
      host := ((h.bind (arrayAt · "host")).map firstString).getD [] }
  else {}

/-- The protocols of outbounds that are no servers. -/
def localProtocols : List Text :=
  [txt "freedom", txt "blackhole", txt "dns", txt "tun", txt "loopback"]

def outboundToConfig (o : Json) (source : ConfigSource) (parentLabel id : Text) :
    Option ProxyConfig :=
  let protocol := platform.casing.lowercase (stringAt o "protocol")
  if protocol = [] then none
  else if protocol ∈ localProtocols then none
  else
    let settings := (o.optObject "settings").getD (object [])
    let stream := (o.optObject "streamSettings").getD (object [])
    let tag := stringAt o "tag"
    (outboundServer json protocol settings).bind fun server =>
      if server.address = [] ∨ server.port ≤ 0 then none
      else
        let network :=
          normalizeNetwork platform (some (ifEmpty (stringAt stream "network") (txt "tcp")))
        let security := ifEmpty (stringAt stream "security") (txt "none")
        let reality := stream.optObject "realitySettings"
        let sec := (stream.optObject "tlsSettings").or reality
        let transport := outboundTransport platform network stream
        let sni := stringOrEmpty sec "serverName"
        let alpn := ((sec.bind (arrayAt · "alpn")).map fun elements =>
          joinWith (unit ',') (elements.map toText)).getD []
        let name :=
          if parentLabel ≠ [] then parentLabel
          else if tag ≠ [] ∧ tag ≠ txt "proxy" then tag
          else if sni ≠ [] then sni
          else server.address ++ txt ":" ++ ofInt server.port
        some
          { name := name
            protocol := protocol
            address := server.address
            port := server.port
            uuid := server.uuid
            password := server.password
            method := server.method
            encryption := server.encryption
            flow := server.flow
            alterId := server.alterId
            network := network
            security := if reality.isSome then txt "reality" else security
            sni := sni
            alpn := alpn
            host := transport.host
            path := transport.path
            headerType := transport.headerType
            serviceName := transport.serviceName
            fingerprint := ifEmpty (stringOrEmpty sec "fingerprint") (txt "chrome")
            publicKey := stringOrEmpty reality "publicKey"
            shortId := stringOrEmpty reality "shortId"
            allowInsecure := (sec.map (json.optBoolean · (txt "allowInsecure") false)).getD false
            source := source
            id := id }

/-- The keys that name the outbounds of an object. -/
def labelKeys : List String := ["remarks", "remark", "name", "ps", "tag"]

def collect (o : Json) : List (Json × Text) :=
  let label := ((labelKeys.map (stringAt o)).find? (· ≠ [])).getD []
  match arrayAt o "outbounds" with
  | some elements => (elements.filterMap asObject).map fun node => (node, label)
  | none => [(o, [])]

/-- The outbounds of a text with their labels, and `none` where the text is no JSON. -/
def jsonNodes (text : Text) : Option (List (Json × Text)) :=
  let t := trim text
  if startsWith t (txt "[") then
    (json.parse t).map fun elements => (elements.filterMap asObject).flatMap collect
  else (json.parseObject t).map collect

/-- The id of the config of each node is `fresh` of the node's position. -/
def parseJsonOutbounds (text : Text) (source : ConfigSource) (fresh : ℕ → Text) :
    List ProxyConfig :=
  ((jsonNodes json text).getD []).zipIdx.filterMap fun (node, i) =>
    outboundToConfig platform json node.1 source node.2 (fresh i)

def isLineBreak (c : UInt16) : Bool := c == unit '\n' || c == unit '\r'

/-- `split('\n', '\r')`. -/
def bundleLines (text : Text) : List Text := text.splitOnP isLineBreak

/-- The texts that may be a WireGuard config. -/
def mentionsConf (text : Text) : Bool :=
  let lower := platform.casing.lowercase text
  containsText lower (txt "[interface]") && containsText lower (txt "[peer]")

def opensJson (text : Text) : Bool := startsWith text [unit '\x7b'] || startsWith text (txt "[")

def parseLinks (trimmed : Text) (source : ConfigSource) (fresh : ℕ → Text) : List ProxyConfig :=
  (((bundleLines trimmed).map trim).filter (· ≠ [])).zipIdx.filterMap fun (line, i) =>
    parse platform line source (fresh i)

/-- The config that the text is, if it is one for WireGuard. -/
def readConf (trimmed : Text) (source : ConfigSource) (fresh : ℕ → Text) : Option ProxyConfig :=
  if mentionsConf platform trimmed then parseWireguardConf platform trimmed source (fresh 0)
  else none

def readJson (trimmed : Text) (source : ConfigSource) (fresh : ℕ → Text) : List ProxyConfig :=
  if opensJson trimmed then parseJsonOutbounds platform json trimmed source fresh else []

def parseBundle (text : Text) (source : ConfigSource) (fresh : ℕ → Text) : List ProxyConfig :=
  let trimmed := trim text
  if trimmed = [] then []
  else
    match readConf platform trimmed source fresh with
    | some single => [single]
    | none =>
        let fromJson := readJson platform json trimmed source fresh
        if fromJson ≠ [] then fromJson else parseLinks platform trimmed source fresh

theorem trim_cons_of_isWhitespace {c : UInt16} (white : isWhitespace c = true) (s : Text) :
    trim (c :: s) = trim s := by
  rw [trim, List.dropWhile_cons_of_pos white, trim]

theorem trim_concat_of_isWhitespace {c : UInt16} (white : isWhitespace c = true) (s : Text) :
    trim (s ++ [c]) = trim s := by
  rw [trim, trim, List.dropWhile_append]
  split
  · next empty =>
      rw [List.isEmpty_iff.mp empty]
      simp [white]
  · rw [List.rdropWhile_concat_pos _ _ _ white]

/-- Every line with something on it has the same text as a line of the other text. -/
def LinesAmong (text other : Text) : Prop :=
  ∀ line ∈ bundleLines text, trim line ≠ [] → ∃ same ∈ bundleLines other, trim same = trim line

theorem linesAmong_refl (text : Text) : LinesAmong text text :=
  fun line mem _ => ⟨line, mem, rfl⟩

theorem LinesAmong.trans {first second third : Text} (left : LinesAmong first second)
    (right : LinesAmong second third) : LinesAmong first third := by
  intro line mem nonempty
  rcases left line mem nonempty with ⟨same, isLine, isSame⟩
  rcases right same isLine (isSame ▸ nonempty) with ⟨last, isLast, isSameLast⟩
  exact ⟨last, isLast, isSameLast.trans isSame⟩

theorem linesAmong_cons {c : UInt16} (white : isWhitespace c = true) (text : Text) :
    LinesAmong (c :: text) text := by
  intro line mem nonempty
  rw [bundleLines, List.splitOnP_cons_eq_if_modifyHead] at mem
  split at mem
  · rcases List.mem_cons.mp mem with rfl | later
    · exact absurd rfl nonempty
    · exact ⟨line, later, rfl⟩
  · cases shape : text.splitOnP isLineBreak with
    | nil => exact absurd shape (List.splitOnP_ne_nil _ _)
    | cons first others =>
        rw [shape, List.modifyHead_cons] at mem
        rcases List.mem_cons.mp mem with rfl | later
        · refine ⟨first, ?_, (trim_cons_of_isWhitespace white first).symm⟩
          rw [bundleLines, shape]
          exact List.mem_cons_self
        · refine ⟨line, ?_, rfl⟩
          rw [bundleLines, shape]
          exact List.mem_cons_of_mem _ later

/-- A unit that ends no line and stands at the end is added to one line. -/
theorem splitOnP_concat {c : UInt16} (inLine : isLineBreak c = false) (text : Text) :
    List.Forall₂ (fun longer line => longer = line ∨ longer = line ++ [c])
      ((text ++ [c]).splitOnP isLineBreak) (text.splitOnP isLineBreak) := by
  induction text with
  | nil =>
      rw [List.nil_append, List.splitOnP_cons_eq_if_modifyHead, if_neg (by simp [inLine]),
        List.splitOnP_nil]
      exact .cons (.inr rfl) .nil
  | cons first text ih =>
      rw [List.cons_append, List.splitOnP_cons_eq_if_modifyHead,
        List.splitOnP_cons_eq_if_modifyHead]
      generalize (text ++ [c]).splitOnP isLineBreak = longer at ih ⊢
      generalize text.splitOnP isLineBreak = lines at ih ⊢
      split
      · exact .cons (.inl rfl) ih
      · cases ih with
        | nil => exact .nil
        | cons heads others =>
            refine .cons ?_ others
            rcases heads with rfl | rfl
            · exact .inl rfl
            · exact .inr rfl

theorem linesAmong_concat {c : UInt16} (white : isWhitespace c = true) (text : Text) :
    LinesAmong (text ++ [c]) text := by
  intro line mem nonempty
  cases breaks : isLineBreak c with
  | true =>
      have split := List.splitOnP_append_cons text [] breaks
      rw [bundleLines, split, List.splitOnP_nil] at mem
      rcases List.mem_append.mp mem with earlier | last
      · exact ⟨line, earlier, rfl⟩
      · rw [List.mem_singleton.mp last] at nonempty
        exact absurd rfl nonempty
  | false =>
      rcases Lists.exists_of_forall₂ (splitOnP_concat breaks text) mem with
        ⟨same, isLine, rfl | rfl⟩
      · exact ⟨_, isLine, rfl⟩
      · exact ⟨same, isLine, (trim_concat_of_isWhitespace white same).symm⟩

/-- Trimming the text takes no line away. -/
theorem linesAmong_trim (text : Text) : LinesAmong text (trim text) := by
  have front : LinesAmong text (text.dropWhile isWhitespace) := by
    induction text with
    | nil => exact linesAmong_refl []
    | cons c text ih =>
        cases white : isWhitespace c with
        | true =>
            rw [List.dropWhile_cons_of_pos white]
            exact (linesAmong_cons white text).trans ih
        | false =>
            rw [List.dropWhile_cons_of_neg (by simp [white])]
            exact linesAmong_refl _
  refine front.trans ?_
  rw [trim]
  generalize text.dropWhile isWhitespace = text
  induction text using List.reverseRecOn with
  | nil => exact linesAmong_refl []
  | append_singleton text c ih =>
      cases white : isWhitespace c with
      | true =>
          rw [List.rdropWhile_concat_pos _ _ _ white]
          exact (linesAmong_concat white text).trans ih
      | false =>
          rw [List.rdropWhile_concat_neg _ _ _ (by simp [white])]
          exact linesAmong_refl _

/-- Two configs are the same, ids aside. -/
def SameButId (c d : ProxyConfig) : Prop := { c with id := [] } = { d with id := [] }

/-- Every line of the text that is a link by itself is among the configs. -/
def HoldsLinks (text : Text) (source : ConfigSource) (configs : List ProxyConfig) : Prop :=
  ∀ line ∈ bundleLines text, ∀ id c, parse platform line source id = some c →
    ∃ d ∈ configs, SameButId d c

variable {platform}

/-- The results are configs that are the same, ids aside. -/
def AgreeButId (left right : Option ProxyConfig) : Prop :=
  left.map (fun c => { c with id := [] }) = right.map (fun c => { c with id := [] })

theorem agreeButId_bind {α : Type} (o : Option α) {f g : α → Option ProxyConfig}
    (agree : ∀ a, AgreeButId (f a) (g a)) : AgreeButId (o.bind f) (o.bind g) := by
  cases o with
  | none => rfl
  | some a => exact agree a

theorem agreeButId_map {α : Type} (o : Option α) {f g : α → ProxyConfig}
    (agree : ∀ a, SameButId (f a) (g a)) : AgreeButId (o.map f) (o.map g) := by
  cases o with
  | none => rfl
  | some a => exact congrArg some (agree a)

theorem agreeButId_ite {p : Prop} [Decidable p] {left right left' right' : Option ProxyConfig}
    (holds : AgreeButId left right) (fails : AgreeButId left' right') :
    AgreeButId (if p then left else left') (if p then right else right') := by
  split
  · exact holds
  · exact fails

theorem parseVless_id (body : Text) (source : ConfigSource) (id other : Text) :
    AgreeButId (parseVless platform body source id) (parseVless platform body source other) :=
  agreeButId_bind _ fun _ => rfl

theorem parseVmess_id (body : Text) (source : ConfigSource) (id other : Text) :
    AgreeButId (parseVmess platform body source id) (parseVmess platform body source other) :=
  agreeButId_bind _ fun _ => agreeButId_bind _ fun _ => rfl

theorem parseTrojan_id (body : Text) (source : ConfigSource) (id other : Text) :
    AgreeButId (parseTrojan platform body source id) (parseTrojan platform body source other) :=
  agreeButId_bind _ fun _ => rfl

theorem parseHysteria2_id (body : Text) (source : ConfigSource) (id other : Text) :
    AgreeButId (parseHysteria2 platform body source id)
      (parseHysteria2 platform body source other) :=
  agreeButId_bind _ fun _ => rfl

theorem parseShadowsocks_id (body : Text) (source : ConfigSource) (id other : Text) :
    AgreeButId (parseShadowsocks platform body source id)
      (parseShadowsocks platform body source other) :=
  agreeButId_bind _ fun _ => rfl

theorem parseProxyUrl_id (body proto : Text) (source : ConfigSource) (id other : Text) :
    AgreeButId (parseProxyUrl body proto source id) (parseProxyUrl body proto source other) :=
  agreeButId_ite rfl (agreeButId_map _ fun _ => rfl)

theorem parseIkev2_id (body : Text) (source : ConfigSource) (id other : Text) :
    AgreeButId (parseIkev2 platform body source id) (parseIkev2 platform body source other) :=
  agreeButId_ite rfl (agreeButId_ite rfl (agreeButId_ite rfl rfl))

theorem parseWireguardUri_id (body : Text) (source : ConfigSource) (id other : Text) :
    AgreeButId (parseWireguardUri platform body source id)
      (parseWireguardUri platform body source other) :=
  agreeButId_ite rfl (agreeButId_ite rfl (agreeButId_map _ fun _ => rfl))

theorem parseWireguardConf_id (text : Text) (source : ConfigSource) (id other : Text) :
    AgreeButId (parseWireguardConf platform text source id)
      (parseWireguardConf platform text source other) :=
  agreeButId_ite rfl (agreeButId_ite rfl (agreeButId_map _ fun _ => rfl))

/-- What a link is read as depends on the id in the id only. -/
theorem parse_id (uri : Text) (source : ConfigSource) (id other : Text) :
    AgreeButId (parse platform uri source id) (parse platform uri source other) := by
  refine agreeButId_ite (agreeButId_bind _ fun _ => parseVless_id _ _ _ _) ?_
  refine agreeButId_ite (agreeButId_bind _ fun _ => parseVmess_id _ _ _ _) ?_
  refine agreeButId_ite (agreeButId_bind _ fun _ => parseTrojan_id _ _ _ _) ?_
  refine agreeButId_ite (agreeButId_bind _ fun _ => parseShadowsocks_id _ _ _ _) ?_
  refine agreeButId_ite (agreeButId_bind _ fun _ => parseProxyUrl_id _ _ _ _ _) ?_
  refine agreeButId_ite (agreeButId_bind _ fun _ => parseProxyUrl_id _ _ _ _ _) ?_
  refine agreeButId_ite (agreeButId_bind _ fun _ => parseProxyUrl_id _ _ _ _ _) ?_
  refine agreeButId_ite (agreeButId_bind _ fun _ => parseHysteria2_id _ _ _ _) ?_
  refine agreeButId_ite (agreeButId_bind _ fun _ => parseHysteria2_id _ _ _ _) ?_
  refine agreeButId_ite (agreeButId_bind _ fun _ => parseIkev2_id _ _ _ _) ?_
  refine agreeButId_ite (agreeButId_bind _ fun _ => parseWireguardUri_id _ _ _ _) ?_
  refine agreeButId_ite (agreeButId_bind _ fun _ => parseWireguardUri_id _ _ _ _) ?_
  exact agreeButId_ite (parseWireguardConf_id _ _ _ _) rfl

theorem parse_of_trim_eq {uri other : Text} (same : trim uri = trim other) (source : ConfigSource)
    (id : Text) : parse platform uri source id = parse platform other source id := by
  rw [parse, parse, same]

theorem parse_of_blank {line : Text} (blank : trim line = []) (source : ConfigSource) (id : Text) :
    parse platform line source id = none := by
  have lower : platform.casing.lowercase [] = [] := platform.casing.lowercase_nil
  simp +decide [parse, blank, lower]

variable {json} {text : Text} {source : ConfigSource} {fresh : ℕ → Text}

/-- The lines of the trimmed text give a config for every link of the text. -/
theorem holdsLinks_parseLinks :
    HoldsLinks platform text source (parseLinks platform (trim text) source fresh) := by
  intro line isLine id c accepted
  have nonempty : trim line ≠ [] := by
    intro blank
    rw [parse_of_blank blank] at accepted
    cases accepted
  rcases linesAmong_trim text line isLine nonempty with ⟨same, isSame, sameTrim⟩
  have listed : trim line ∈ ((bundleLines (trim text)).map trim).filter (· ≠ []) := by
    rw [List.mem_filter]
    exact ⟨List.mem_map.mpr ⟨same, isSame, sameTrim⟩, by simpa using nonempty⟩
  rcases List.mem_iff_getElem?.mp listed with ⟨i, atIndex⟩
  have agree : AgreeButId (parse platform (trim line) source (fresh i))
      (parse platform (trim line) source id) := parse_id _ _ _ _
  rw [parse_of_trim_eq (trim_trim line) source id, accepted] at agree
  rcases Option.map_eq_some_iff.mp agree with ⟨d, isRead, isSameConfig⟩
  refine ⟨d, ?_, isSameConfig⟩
  rw [parseLinks, List.mem_filterMap]
  exact ⟨(trim line, i), List.mem_zipIdx_iff_getElem?.mpr atIndex, isRead⟩

variable (platform json) in
/-- The text is not read as lines: it is a WireGuard config, or it is JSON with the outbound of a
server in it. -/
def InOtherFormat (text : Text) (source : ConfigSource) (fresh : ℕ → Text) : Prop :=
  readConf platform (trim text) source fresh ≠ none ∨
    readJson platform json (trim text) source fresh ≠ []

variable (platform) in
/-- A line of the text is a link by itself. -/
def HasLink (text : Text) (source : ConfigSource) : Prop :=
  ∃ line ∈ bundleLines text, ∃ id, parse platform line source id ≠ none

theorem holdsLinks_of_no_link (noLink : ¬HasLink platform text source)
    (configs : List ProxyConfig) : HoldsLinks platform text source configs := by
  intro line isLine id c accepted
  refine absurd ⟨line, isLine, id, ?_⟩ noLink
  rw [accepted]
  exact Option.some_ne_none c

/-- A text that is read as lines is read as those of the trimmed text. -/
theorem parseBundle_of_lines (isLines : ¬InOtherFormat platform json text source fresh) :
    parseBundle platform json text source fresh = parseLinks platform (trim text) source fresh := by
  rcases not_or.mp isLines with ⟨notConf, notJson⟩
  rw [not_not] at notConf notJson
  by_cases blank : trim text = []
  · rw [parseBundle, if_pos blank, blank]
    rfl
  · simp only [parseBundle, if_neg blank, notConf, notJson, ne_eq, not_true, if_false]

theorem parseBundle_of_conf {single : ProxyConfig}
    (isConf : readConf platform (trim text) source fresh = some single) :
    parseBundle platform json text source fresh = [] ∨
      parseBundle platform json text source fresh = [single] := by
  by_cases blank : trim text = []
  · exact .inl (if_pos blank)
  · right
    simp only [parseBundle, if_neg blank, isConf]

theorem protocol_of_readConf {single : ProxyConfig}
    (isConf : readConf platform (trim text) source fresh = some single) :
    single.protocol = txt "wireguard" := by
  rw [readConf] at isConf
  split at isConf
  · simp only [parseWireguardConf] at isConf
    split at isConf
    · cases isConf
    split at isConf
    · cases isConf
    · rcases Option.map_eq_some_iff.mp isConf with ⟨port, -, rfl⟩
      rfl
  · cases isConf

/-- A text loses no link if it is in neither of the other formats or no line of it is a link. In a
WireGuard config every link of another protocol is lost. -/
theorem holdsLinks_parseBundle (platform : Platform) (json : OrgObject) (text : Text)
    (source : ConfigSource) (fresh : ℕ → Text) :
    (¬InOtherFormat platform json text source fresh ∨ ¬HasLink platform text source →
        HoldsLinks platform text source (parseBundle platform json text source fresh)) ∧
      (readConf platform (trim text) source fresh ≠ none →
        ∀ line ∈ bundleLines text, ∀ id c, parse platform line source id = some c →
          c.protocol ≠ txt "wireguard" →
            ¬HoldsLinks platform text source (parseBundle platform json text source fresh)) := by
  constructor
  · rintro (isLines | noLink)
    · rw [parseBundle_of_lines isLines]
      exact holdsLinks_parseLinks
    · exact holdsLinks_of_no_link noLink _
  · intro isConf line isLine id c accepted otherProtocol holds
    rcases Option.ne_none_iff_exists'.mp isConf with ⟨single, isSingle⟩
    rcases holds line isLine id c accepted with ⟨d, isIn, same⟩
    apply otherProtocol
    rcases (parseBundle_of_conf isSingle :
      parseBundle platform json text source fresh = [] ∨ _) with empty | alone
    · rw [empty] at isIn
      cases isIn
    · rw [alone, List.mem_singleton] at isIn
      rw [← protocol_of_readConf isSingle, ← isIn]
      exact (congrArg ProxyConfig.protocol same).symm

/-- A WireGuard config with a link under it. -/
def confAndLink : Text :=
  txt "[Interface]\nPrivateKey=k\n[Peer]\nPublicKey=p\nEndpoint=h:1\nsocks://h:2"

theorem losesLink_confAndLink :
    ¬ HoldsLinks .ascii confAndLink .personal
      (parseBundle .ascii .strict confAndLink .personal fun _ => txt "1") := by
  have bundle : parseBundle .ascii .strict confAndLink .personal (fun _ => txt "1") =
      [{ name := txt "WireGuard h", protocol := txt "wireguard", address := txt "h", port := 1
         privateKey := txt "k", publicKey := txt "p", id := txt "1" }] := by decide +kernel
  have link : parse .ascii (txt "socks://h:2") .personal (txt "1") =
      some { name := txt "h:2", protocol := txt "socks", address := txt "h", port := 2
             id := txt "1" } := by decide +kernel
  intro holds
  rcases holds (txt "socks://h:2") (by decide +kernel) _ _ link with ⟨d, isIn, same⟩
  rw [bundle, List.mem_singleton] at isIn
  rw [isIn] at same
  exact absurd (congrArg ProxyConfig.port same) (by decide)

theorem linesFrom_of_noControl {text : Text} (plain : NoControl text) :
    linesFrom false text = [text] := by
  induction text with
  | nil => rfl
  | cons c text ih =>
      have first : 0x20 ≤ c.toNat := plain c List.mem_cons_self
      have notLf : c ≠ 10 := by
        rintro rfl
        exact absurd first (by decide)
      have notCr : c ≠ 13 := by
        rintro rfl
        exact absurd first (by decide)
      have others : NoControl text := fun d mem => plain d (List.mem_cons_of_mem _ mem)
      rw [linesFrom, if_neg notLf, if_neg notCr, ih others]

/-- One line opens a section or sets a value, and a config needs both. -/
theorem parseWireguardConf_of_noControl {text : Text} (plain : NoControl text)
    (source : ConfigSource) (id : Text) : parseWireguardConf platform text source id = none := by
  have noKey : (wireguardLine platform {} text).privateKey = [] := by
    have noSection : ([] : Text) ≠ txt "[interface]" ∧ ([] : Text) ≠ txt "[peer]" := by decide
    simp only [wireguardLine, if_neg noSection.1, if_neg noSection.2]
    split_ifs <;> rfl
  rw [parseWireguardConf, lines, linesFrom_of_noControl plain, List.foldl_cons, List.foldl_nil]
  exact if_pos (.inl noKey)

/-- A printed object is read as JSON, whatever stands in its texts. -/
theorem parseBundle_print {fields : List (Text × Json)} (printable : Printable (.obj fields))
    (found : (collect (.obj fields)).zipIdx.filterMap (fun (node, i) =>
      outboundToConfig platform json node.1 source node.2 (fresh i)) ≠ []) :
    parseBundle platform json (Json.obj fields).print source fresh =
      (collect (.obj fields)).zipIdx.filterMap fun (node, i) =>
        outboundToConfig platform json node.1 source node.2 (fresh i) := by
  have trimmed := (trimmed_print_obj fields).trim_eq
  have head : (Json.obj fields).print.head? = some (unit '\x7b') := by
    rw [print]
    rfl
  have opens : startsWith (Json.obj fields).print [unit '\x7b'] = true :=
    startsWith_singleton.mpr head
  have noArray : startsWith (Json.obj fields).print (txt "[") = false :=
    startsWith_eq_false (txt "[") opens (by decide) (by decide)
  have nonempty : (Json.obj fields).print ≠ [] := by
    intro empty
    rw [empty] at head
    cases head
  have noConf : readConf platform (Json.obj fields).print source fresh = none := by
    rw [readConf, parseWireguardConf_of_noControl (noControl_print printable), ite_self]
  have outbounds : readJson platform json (Json.obj fields).print source fresh =
      (collect (.obj fields)).zipIdx.filterMap fun (node, i) =>
        outboundToConfig platform json node.1 source node.2 (fresh i) := by
    rw [readJson, opensJson, opens, Bool.true_or, if_pos rfl, parseJsonOutbounds, jsonNodes]
    simp only [trimmed, noArray, Bool.false_eq_true, if_false, json.parseObject_print printable,
      Option.map_some, Option.getD_some]
  simp only [parseBundle, trimmed, if_neg nonempty, noConf, outbounds, if_pos found]

end GRoute.ConfigParser
