import GRoute.Foundation.Base64
import GRoute.Foundation.CaseMapping
import GRoute.Foundation.Json
import GRoute.ProxyConfig

/-!
# Share links to configs

`ConfigParser.kt`. A function whose body the source wraps in `try … catch` returns
`none` where the source returns `null`, whether by an exception or not. A `substring`
whose bounds a preceding test has established is written with `take` and `drop`; where
the bounds can fail, `substring` is kept, so that `indexOf` of an absent unit makes the
function fail as it does in the source.

The id of a config is random in the source, and a parameter here.
-/

namespace GRoute

open Text

/-- What the parser uses of the platform. -/
structure Platform where
  casing : CaseMapping
  json : OrgJson

/-- A platform that can be evaluated: it changes the case of ASCII letters only and reads
strict JSON. -/
def Platform.ascii : Platform where
  casing := .ascii
  json := .strict

namespace ConfigParser

variable (platform : Platform)

def normalizeNetwork (t : Option Text) : Text :=
  let v := platform.casing.lowercase (trim (t.getD []))
  if v = [] ∨ v = txt "raw" then txt "tcp"
  else if v = txt "mkcp" then txt "kcp"
  else if v = txt "websocket" then txt "ws"
  else if v = txt "h2" ∨ v = txt "http2" then txt "http"
  else if v = txt "splithttp" then txt "xhttp"
  else v

def normalizeHeaderType (t : Option Text) : Text :=
  let v := platform.casing.lowercase (trim (t.getD []))
  if v = txt "none" then [] else v

def formDecode (s : Text) : Text := (urlDecode s).getD s

def pctDecode (s : Text) : Text := (urlDecode (escapePlus s)).getD s

/-- `dec` of the source is the same function. -/
def dec (s : Text) : Text := (urlDecode s).getD s

/-- One round of the loop of `parseQuery`. -/
def queryStep (map : KeyMap) (part : Text) : KeyMap :=
  let eq := indexOf part (unit '=')
  if eq > 0 then
    let key := trim (part.take eq.toNat)
    if key ≠ [] then
      KeyMap.put platform.casing map key (formDecode (part.drop (eq.toNat + 1)))
    else map
  else map

def parseQuery (query : Text) : KeyMap :=
  if query = [] then [] else (split query (unit '&')).foldl (queryStep platform) []

/-- `p[key]`. -/
def lookup (p : KeyMap) (key : String) : Option Text := KeyMap.get platform.casing p (txt key)

/-- `p[key].orEmpty()`, and also `p[key] ?: ""`. -/
def lookupOrEmpty (p : KeyMap) (key : String) : Text := (lookup platform p key).getD []

/-- `in setOf("1", "true")`. -/
def isSet (s : Text) : Bool := s == txt "1" || s == txt "true"

/-- The text before the first occurrence of a unit, or all of it. -/
def upTo (s : Text) (c : UInt16) : Text :=
  let i := indexOf s c
  if i ≥ 0 then s.take i.toNat else s

/-- The text after the first occurrence of a unit, or nothing. -/
def after (s : Text) (c : UInt16) : Text :=
  let i := indexOf s c
  if i ≥ 0 then s.drop (i.toNat + 1) else []

def splitHostPort (raw : Text) : Option (Text × ℤ) := do
  let s := upTo (trim raw) (unit '/')
  if startsWith s (txt "[") then
    let close := indexOf s (unit ']')
    let address ← substring s 1 close
    let port ← toIntOrNull (trim (← substringFrom s (close + 2)))
    return (address, port)
  else
    let colon := lastIndexOf s (unit ':')
    let address ← substring s 0 colon
    let port ← toIntOrNull (trim (← substringFrom s (colon + 1)))
    return (address, port)

def splitUserHostPort (uhp : Text) : Option (Text × Text × ℤ) := do
  let at_ := lastIndexOf uhp (unit '@')
  let hp ← splitHostPort (← substringFrom uhp (at_ + 1))
  let user ← substring uhp 0 at_
  return (user, hp.1, hp.2)

/-- The text after the first `#`, decoded and trimmed, or the default. -/
def fragmentName (body default : Text) : Text :=
  let hash := indexOf body (unit '#')
  ifEmpty (if hash ≥ 0 then trim (formDecode (body.drop (hash.toNat + 1))) else []) default

/-- The name, the user, host and port, and the query of a link. -/
def splitUserUri (body default : Text) : Text × Text × KeyMap :=
  let main := upTo body (unit '#')
  (fragmentName body default, trim (upTo main (unit '?')),
    parseQuery platform (after main (unit '?')))

/-- `trimEnd('=')`. -/
def bareB64 (s : Text) : Text := s.rdropWhile (· == unit '=')

def paddedB64 (bare : Text) : Text :=
  if bare.length % 4 = 0 then bare
  else bare ++ List.replicate (4 - bare.length % 4) (unit '=')

/-- The blanks that `decodeB64` removes. -/
def isB64Blank (c : UInt16) : Bool :=
  c == unit '\n' || c == unit '\r' || c == unit ' ' || c == unit '\t'

/-- A decoding that is neither refused nor empty. -/
def nonemptyDecode (alphabet : Base64.Alphabet) (candidate : Text) : Option (List UInt8) :=
  (Base64.decode alphabet candidate).filter (· ≠ [])

def decodeB64 (input : Text) : Option (List UInt8) :=
  let s := (trim input).filter (!isB64Blank ·)
  if s = [] then none
  else
    let bare := bareB64 s
    [paddedB64 bare, bare, s].findSome? fun candidate =>
      [Base64.Alphabet.standard, .urlSafe].findSome? (nonemptyDecode · candidate)

def decodeB64Text (input : Text) : Option Text := (decodeB64 input).map decodeUtf8

/-- The fields that `parseVless` and `parseTrojan` fill in the same way. -/
def streamConfig (p : KeyMap) (name protocol address : Text) (port : ℤ) (defaultSecurity : Text)
    (source : ConfigSource) (id : Text) : ProxyConfig :=
  let network := normalizeNetwork platform (lookup platform p "type")
  { name := name
    protocol := protocol
    address := address
    port := port
    flow := lookupOrEmpty platform p "flow"
    network := network
    security := ifEmpty (lookupOrEmpty platform p "security") defaultSecurity
    sni := lookupOrEmpty platform p "sni"
    publicKey := lookupOrEmpty platform p "pbk"
    shortId := lookupOrEmpty platform p "sid"
    fingerprint := ifEmpty (lookupOrEmpty platform p "fp") (txt "chrome")
    allowInsecure :=
      isSet (((lookup platform p "allowInsecure").or (lookup platform p "insecure")).getD [])
    path := ifEmpty (lookupOrEmpty platform p "path") (lookupOrEmpty platform p "seed")
    host := lookupOrEmpty platform p "host"
    serviceName := ifEmpty (lookupOrEmpty platform p "serviceName")
      (if network = txt "grpc" then lookupOrEmpty platform p "path" else [])
    mode := lookupOrEmpty platform p "mode"
    alpn := lookupOrEmpty platform p "alpn"
    headerType := normalizeHeaderType platform (lookup platform p "headerType")
    source := source
    id := id }

def parseVless (body : Text) (source : ConfigSource) (id : Text) : Option ProxyConfig := do
  let (name, userHostPort, p) := splitUserUri platform body (txt "VLESS")
  let (uuid, address, port) ← splitUserHostPort userHostPort
  return { streamConfig platform p name (txt "vless") address port (txt "none") source id with
    uuid := pctDecode uuid
    encryption := ifEmpty (lookupOrEmpty platform p "encryption") (txt "none") }

def parseTrojan (body : Text) (source : ConfigSource) (id : Text) : Option ProxyConfig := do
  let (name, userHostPort, p) := splitUserUri platform body (txt "Trojan")
  let (password, address, port) ← splitUserHostPort userHostPort
  return { streamConfig platform p name (txt "trojan") address port (txt "tls") source id with
    password := pctDecode password }

/-- `(p[first] ?: p[second] ?: "").toIntOrNull() ?: 0`. -/
def lookupInt (p : KeyMap) (first second : String) : ℤ :=
  (toIntOrNull (((lookup platform p first).or (lookup platform p second)).getD [])).getD 0

def parseHysteria2 (body : Text) (source : ConfigSource) (id : Text) : Option ProxyConfig := do
  let (name, userHostPort, p) := splitUserUri platform body (txt "Hysteria2")
  let (password, address, port) ← splitUserHostPort userHostPort
  return {
    name := name
    protocol := txt "hysteria2"
    address := address
    port := port
    password := pctDecode password
    sni := ifEmpty (lookupOrEmpty platform p "sni") (lookupOrEmpty platform p "peer")
    host := lookupOrEmpty platform p "host"
    alpn := lookupOrEmpty platform p "alpn"
    security := txt "tls"
    hyObfs := lookupOrEmpty platform p "obfs"
    hyObfsPassword :=
      ifEmpty (lookupOrEmpty platform p "obfs-password") (lookupOrEmpty platform p "obfsParam")
    hyUpMbps := lookupInt platform p "upmbps" "up"
    hyDownMbps := lookupInt platform p "downmbps" "down"
    allowInsecure :=
      isSet (((lookup platform p "insecure").or (lookup platform p "allowInsecure")).getD [])
    source := source
    id := id }

def parseVmess (body : Text) (source : ConfigSource) (id : Text) : Option ProxyConfig := do
  let b := upTo (upTo body (unit '#')) (unit '?')
  let json ← decodeB64Text b
  let o ← platform.json.parse json
  let opt (key : String) : Text := o.optString (txt key) []
  let tls := opt "tls"
  let net := normalizeNetwork platform (some (o.optString (txt "net") (txt "tcp")))
  return {
    name := ifEmpty (opt "ps") (txt "VMess")
    protocol := txt "vmess"
    address := opt "add"
    port := (toIntOrNull (opt "port")).getD 0
    uuid := opt "id"
    alterId := (toIntOrNull (opt "aid")).getD 0
    encryption := ifEmpty (o.optString (txt "scy") (txt "auto")) (txt "auto")
    network := net
    security := if tls ≠ [] ∧ tls ≠ txt "none" then txt "tls" else txt "none"
    sni := opt "sni"
    fingerprint := ifEmpty (o.optString (txt "fp") (txt "chrome")) (txt "chrome")
    path := opt "path"
    host := opt "host"
    serviceName := if net = txt "grpc" then opt "path" else []
    mode := opt "mode"
    alpn := opt "alpn"
    headerType := normalizeHeaderType platform (some (opt "type"))
    source := source
    id := id }

/-- One round of the loop over the parts of the `plugin` parameter. -/
def pluginStep (opts : KeyMap) (part : Text) : KeyMap :=
  let eq := indexOf part (unit '=')
  if eq > 0 then
    KeyMap.put platform.casing opts (trim (part.take eq.toNat)) (trim (part.drop (eq.toNat + 1)))
  else if !isBlank part && opts.isEmpty then
    KeyMap.put platform.casing opts (txt "name") (trim part)
  else opts

def pluginOptions (plugin : Text) : KeyMap :=
  if plugin = [] then [] else (split plugin (unit ';')).foldl (pluginStep platform) []

/-- The method and the password on both sides of the first colon. -/
def splitMethodPassword (info : Text) : Option (Text × Text) := do
  let mc := indexOf info (unit ':')
  let method ← substring info 0 mc
  let password ← substringFrom info (mc + 1)
  return (method, password)

/-- The method, password, address and port of a Shadowsocks link without name and query. -/
def shadowsocksServer (main : Text) : Option (Text × Text × Text × ℤ) :=
  let at_ := lastIndexOf main (unit '@')
  if at_ ≥ 0 then do
    let rawUser := pctDecode (main.take at_.toNat)
    let info := match decodeB64Text rawUser with
      | some decoded => if decoded.contains (unit ':') then decoded else rawUser
      | none => rawUser
    let hp ← splitHostPort (main.drop (at_.toNat + 1))
    let mp ← splitMethodPassword info
    return (mp.1, mp.2, hp.1, hp.2)
  else do
    let decoded ← decodeB64Text (pctDecode main)
    let da := lastIndexOf decoded (unit '@')
    let credentials ← substring decoded 0 da
    let hp ← splitHostPort (← substringFrom decoded (da + 1))
    let mp ← splitMethodPassword credentials
    return (mp.1, mp.2, hp.1, hp.2)

/-- The transport that the parameters and the plugin of a Shadowsocks link select. -/
structure ShadowsocksTransport where
  network : Text
  headerType : Text
  host : Text
  path : Text
  security : Text

def shadowsocksTransport (p : KeyMap) : ShadowsocksTransport :=
  let opts := pluginOptions platform (lookupOrEmpty platform p "plugin")
  let pluginName := platform.casing.lowercase (lookupOrEmpty platform opts "name")
  let isSimpleObfs :=
    startsWith pluginName (txt "obfs-local") || startsWith pluginName (txt "simple-obfs")
  let isV2rayPlugin := startsWith pluginName (txt "v2ray-plugin")
  let obfsMode := platform.casing.lowercase (lookupOrEmpty platform opts "obfs")
  let network := normalizeNetwork platform (lookup platform p "type")
  let headerType := normalizeHeaderType platform (lookup platform p "headerType")
  let host := lookupOrEmpty platform p "host"
  let path := lookupOrEmpty platform p "path"
  let security := ifEmpty (lookupOrEmpty platform p "security") (txt "none")
  if isSimpleObfs && obfsMode == txt "http" then
    { network := txt "tcp"
      headerType := txt "http"
      host := ifEmpty host (lookupOrEmpty platform opts "obfs-host")
      path := ifEmpty path (lookupOrEmpty platform opts "obfs-uri")
      security := security }
  else if isV2rayPlugin then
    { network :=
        if KeyMap.containsKey platform.casing opts (txt "quic") then txt "quic" else txt "ws"
      headerType := headerType
      host := ifEmpty host (lookupOrEmpty platform opts "host")
      path := ifEmpty path (lookupOrEmpty platform opts "path")
      security :=
        if KeyMap.containsKey platform.casing opts (txt "tls") then txt "tls" else security }
  else ⟨network, headerType, host, path, security⟩

def parseShadowsocks (body : Text) (source : ConfigSource) (id : Text) : Option ProxyConfig := do
  let main := upTo body (unit '#')
  let p := parseQuery platform (after main (unit '?'))
  let (method, password, address, port) ← shadowsocksServer (trim (upTo main (unit '?')))
  let transport := shadowsocksTransport platform p
  return {
    name := fragmentName body (txt "Shadowsocks")
    protocol := txt "shadowsocks"
    address := address
    port := port
    method := method
    password := password
    network := ifEmpty transport.network (txt "tcp")
    headerType := transport.headerType
    host := transport.host
    path := transport.path
    security := transport.security
    sni := ifEmpty (lookupOrEmpty platform p "sni")
      (if transport.security = txt "tls" then transport.host else [])
    fingerprint := ifEmpty (lookupOrEmpty platform p "fp") (txt "chrome")
    allowInsecure :=
      isSet (((lookup platform p "allowInsecure").or (lookup platform p "insecure")).getD [])
    alpn := lookupOrEmpty platform p "alpn"
    source := source
    id := id }

def parseProxyUrl (body proto : Text) (source : ConfigSource) (id : Text) : Option ProxyConfig :=
  let hash := indexOf body (unit '#')
  let name := if hash ≥ 0 then dec (body.drop (hash.toNat + 1)) else []
  let main := upTo body (unit '#')
  let at_ := lastIndexOf main (unit '@')
  let cred := if at_ ≥ 0 then main.take at_.toNat else []
  let hostPart := if at_ ≥ 0 then main.drop (at_.toNat + 1) else main
  let user := dec (upTo cred (unit ':'))
  let pass := dec (after cred (unit ':'))
  let clean := upTo (upTo hostPart (unit '/')) (unit '?')
  let colon := lastIndexOf clean (unit ':')
  if colon ≤ 0 then none
  else
    let host := clean.take colon.toNat
    (toIntOrNull (clean.drop (colon.toNat + 1))).map fun port =>
      { name := if name ≠ [] then name else host ++ unit ':' :: ofInt port
        protocol := proto
        address := host
        port := port
        uuid := user
        password := pass
        source := source
        id := id }

/-- `IKE_ID_KEYS`. -/
def ikeIdKeys : List String :=
  ["remote_id", "remoteid", "sni", "identity", "leftid", "server_id", "serverid"]

def parseIkev2 (body : Text) (source : ConfigSource) (id : Text) : Option ProxyConfig :=
  let hash := indexOf body (unit '#')
  let label := if hash ≥ 0 then formDecode (body.drop (hash.toNat + 1)) else []
  let core := upTo body (unit '#')
  let params := parseQuery platform (after core (unit '?'))
  let main := upTo core (unit '?')
  let at_ := lastIndexOf main (unit '@')
  if at_ ≤ 0 then none
  else
    let creds := main.take at_.toNat
    let tail := trim (main.drop (at_.toNat + 1))
    let raw := trim (upTo tail (unit '/'))
    if raw = [] then none
    else
      let slash := indexOf tail (unit '/')
      let pathId :=
        if slash ≥ 0 then
          (trim (formDecode (tail.drop (slash.toNat + 1)))).rdropWhile (· == unit '/')
        else []
      let hp := splitHostPort raw
      let host := ifEmpty (trim ((hp.map Prod.fst).getD [])) raw
      let port := (hp.map Prod.snd).getD 500
      let colon := indexOf creds (unit ':')
      if colon ≤ 0 then none
      else
        let fromKey (key : String) : Option Text :=
          ((lookup platform params key).map fun value => trim (formDecode value)).filter (· ≠ [])
        let identity := ifEmpty pathId ((ikeIdKeys.findSome? fromKey).getD [])
        some {
          name := if isBlank label then host else label
          protocol := txt "ikev2"
          address := host
          port := port
          sni := identity
          uuid := formDecode (creds.take colon.toNat)
          password := formDecode (creds.drop (colon.toNat + 1))
          network := txt "ikev2"
          security := txt "none"
          source := source
          id := id }

/-- `trim('[', ']')`. -/
def trimBrackets (s : Text) : Text :=
  let isBracket (c : UInt16) : Bool := c == unit '[' || c == unit ']'
  (s.dropWhile isBracket).rdropWhile isBracket

/-- The lines of a text whose first line feed belongs to the carriage return before it, if
`afterReturn`. -/
def linesFrom (afterReturn : Bool) : Text → List Text
  | [] => [[]]
  | c :: rest =>
      if c = 10 then
        if afterReturn then linesFrom false rest else [] :: linesFrom false rest
      else if c = 13 then [] :: linesFrom true rest
      else
        match linesFrom false rest with
        | line :: others => (c :: line) :: others
        | [] => [[c]]

/-- `String.lines`. -/
def lines (text : Text) : List Text := linesFrom false text

/-- The variables of the loop of `parseWireguardConf`. -/
structure WireguardConf where
  section_ : Text := []
  privateKey : Text := []
  address : Text := []
  mtu : ℤ := 0
  publicKey : Text := []
  preShared : Text := []
  endpoint : Text := []
  reserved : Text := []
  label : Text := []

/-- One round of the loop of `parseWireguardConf`. -/
def wireguardLine (conf : WireguardConf) (raw : Text) : WireguardConf :=
  let line := trim (upTo raw (unit '#'))
  if line = [] then conf
  else if startsWith line (txt "[") && line.getLast? == some (unit ']') then
    { conf with section_ := platform.casing.lowercase line }
  else
    let eq := indexOf line (unit '=')
    if eq ≤ 0 then conf
    else
      let key := platform.casing.lowercase (trim (line.take eq.toNat))
      let value := trim (line.drop (eq.toNat + 1))
      if conf.section_ = txt "[interface]" then
        if key = txt "privatekey" then { conf with privateKey := value }
        else if key = txt "address" then { conf with address := value }
        else if key = txt "mtu" then { conf with mtu := (toIntOrNull value).getD 0 }
        else if key = txt "reserved" then { conf with reserved := value }
        else if key = txt "name" then { conf with label := value }
        else conf
      else if conf.section_ = txt "[peer]" then
        if key = txt "publickey" then { conf with publicKey := value }
        else if key = txt "presharedkey" then { conf with preShared := value }
        else if key = txt "endpoint" then { conf with endpoint := value }
        else conf
      else conf

def parseWireguardConf (text : Text) (source : ConfigSource) (id : Text) : Option ProxyConfig :=
  let conf := (lines text).foldl (wireguardLine platform) {}
  if conf.privateKey = [] ∨ conf.publicKey = [] ∨ conf.endpoint = [] then none
  else
    let colon := lastIndexOf conf.endpoint (unit ':')
    if colon ≤ 0 then none
    else
      let host := trimBrackets (conf.endpoint.take colon.toNat)
      (toIntOrNull (conf.endpoint.drop (colon.toNat + 1))).map fun port =>
        { name := if conf.label ≠ [] then conf.label else txt "WireGuard " ++ host
          protocol := txt "wireguard"
          address := host
          port := port
          privateKey := conf.privateKey
          publicKey := conf.publicKey
          password := conf.preShared
          localAddress := conf.address
          mtu := conf.mtu
          reserved := conf.reserved
          source := source
          id := id }

/-- The parameters of a WireGuard link, the latest first, under lower-cased keys. -/
def wireguardParams (query : Text) : List (Text × Text) :=
  (split query (unit '&')).foldl (fun params part =>
    let i := indexOf part (unit '=')
    if i > 0 then
      (platform.casing.lowercase (dec (part.take i.toNat)), dec (part.drop (i.toNat + 1))) :: params
    else params) []

def parseWireguardUri (body : Text) (source : ConfigSource) (id : Text) : Option ProxyConfig :=
  let hash := indexOf body (unit '#')
  let name := if hash ≥ 0 then dec (body.drop (hash.toNat + 1)) else []
  let main := upTo body (unit '#')
  let core := upTo main (unit '?')
  let params :=
    if unit '?' ∈ main then wireguardParams platform (after main (unit '?')) else []
  let param (key : String) : Option Text := params.lookup (txt key)
  let at_ := lastIndexOf core (unit '@')
  if at_ ≤ 0 then none
  else
    let key := dec (core.take at_.toNat)
    let hostPart := core.drop (at_.toNat + 1)
    let colon := lastIndexOf hostPart (unit ':')
    if colon ≤ 0 then none
    else
      let host := trimBrackets (hostPart.take colon.toNat)
      (toIntOrNull (hostPart.drop (colon.toNat + 1))).map fun port =>
        { name := if name ≠ [] then name else txt "WireGuard " ++ host
          protocol := txt "wireguard"
          address := host
          port := port
          privateKey := key
          publicKey := ((param "publickey").or (param "pubkey")).getD []
          password := (param "presharedkey").getD []
          localAddress := ((param "address").or (param "ip")).getD []
          mtu := ((param "mtu").bind toIntOrNull).getD 0
          reserved := (param "reserved").getD []
          source := source
          id := id }

def parse (uri : Text) (source : ConfigSource) (id : Text) : Option ProxyConfig :=
  let trimmed := trim uri
  let lower := platform.casing.lowercase trimmed
  if startsWith lower (txt "vless://") then
    (substringFrom trimmed 8).bind (parseVless platform · source id)
  else if startsWith lower (txt "vmess://") then
    (substringFrom trimmed 8).bind (parseVmess platform · source id)
  else if startsWith lower (txt "trojan://") then
    (substringFrom trimmed 9).bind (parseTrojan platform · source id)
  else if startsWith lower (txt "ss://") then
    (substringFrom trimmed 5).bind (parseShadowsocks platform · source id)
  else if startsWith lower (txt "socks5://") then
    (substringFrom trimmed 9).bind (parseProxyUrl · (txt "socks") source id)
  else if startsWith lower (txt "socks://") then
    (substringFrom trimmed 8).bind (parseProxyUrl · (txt "socks") source id)
  else if startsWith lower (txt "http://") then
    (substringFrom trimmed 7).bind (parseProxyUrl · (txt "http") source id)
  else if startsWith lower (txt "hysteria2://") then
    (substringFrom trimmed 12).bind (parseHysteria2 platform · source id)
  else if startsWith lower (txt "hy2://") then
    (substringFrom trimmed 6).bind (parseHysteria2 platform · source id)
  else if startsWith lower (txt "ikev2://") then
    (substringFrom trimmed 8).bind (parseIkev2 platform · source id)
  else if startsWith lower (txt "wireguard://") then
    (substringFrom trimmed 12).bind (parseWireguardUri platform · source id)
  else if startsWith lower (txt "wg://") then
    (substringFrom trimmed 5).bind (parseWireguardUri platform · source id)
  else if containsText lower (txt "[interface]") && containsText lower (txt "[peer]") then
    parseWireguardConf platform trimmed source id
  else none

end ConfigParser

end GRoute
