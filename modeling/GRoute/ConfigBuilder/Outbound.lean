import GRoute.ConfigParser

/-!
# Outbounds

The part of `ConfigBuilder.kt` that turns one config into an outbound of the core, with
`CertPin.isValid`. A field that the source puts under a condition is a list that the
condition leaves empty.
-/

namespace GRoute

open Text

namespace CertPin

def isHexDigit (c : UInt16) : Bool :=
  (unit '0' ≤ c && c ≤ unit '9') || (unit 'a' ≤ c && c ≤ unit 'f') || (unit 'A' ≤ c && c ≤ unit 'F')

/-- `HEX64`. -/
def isHex64 (s : Text) : Bool := s.length == 64 && s.all isHexDigit

def isValid (pin : Text) : Bool :=
  let parts := ((split pin (unit ',')).map fun part => replace (trim part) (unit ':') []).filter
    (· ≠ [])
  !parts.isEmpty && parts.all isHex64

end CertPin

namespace ConfigBuilder

open Json

variable (platform : Platform)

/-- `TorController.SOCKS_PORT`. -/
def torSocksPort : ℤ := 9150

/-- `TorController.BRIDGE_PORT`. -/
def torBridgePort : ℤ := 10627

/-- `AetherController.SOCKS_PORT`. -/
def aetherSocksPort : ℤ := 1819

/-- `Warp.WARP_ENDPOINT_HOST`. -/
def warpEndpointHost : Text := txt "162.159.192.1"

/-- `Warp.WARP_ENDPOINT_PORT`. -/
def warpEndpointPort : ℤ := 2408

def normalizeNetwork (n : Text) : Text := ConfigParser.normalizeNetwork platform (some n)

/-- `equals(other, ignoreCase = true)`. -/
def equalsIgnoreCase (s other : Text) : Bool :=
  platform.casing.foldKey s == platform.casing.foldKey other

/-- The parts of a list with commas, without blanks around them and without empty parts. -/
def commaParts (s : Text) : List Text := ((split s (unit ',')).map trim).filter (· ≠ [])

def csvArray (s : Text) : Json := strings (commaParts s)

def fieldUnlessEmpty (key : String) (value : Text) : List (String × Json) :=
  if value = [] then [] else [(key, str value)]

/-- The pin, if it is one. -/
def pinField (c : ProxyConfig) : List (String × Json) :=
  if CertPin.isValid c.pinnedCertSha256 then [("pinnedPeerCertSha256", str c.pinnedCertSha256)]
  else []

def httpHeader (c : ProxyConfig) : Json :=
  let headers := object (
    (if c.host = [] then [] else [("Host", csvArray c.host)]) ++
      [("User-Agent", arr [text ("Mozilla/5.0 (Windows NT 10.0; Win64; x64) AppleWebKit/537.36 " ++
          "(KHTML, like Gecko) Chrome/125.0.0.0 Safari/537.36")]),
        ("Accept-Encoding", arr [text "gzip, deflate"]),
        ("Connection", arr [text "keep-alive"]),
        ("Pragma", text "no-cache")])
  let request := object [("version", text "1.1"), ("method", text "GET"),
    ("path", csvArray (ifEmpty c.path (txt "/"))), ("headers", headers)]
  object [("type", text "http"), ("request", request)]

/-- The settings of the transport, under the name of the transport. -/
def transportFields (c : ProxyConfig) (net : Text) : List (String × Json) :=
  let path := str (ifEmpty c.path (txt "/"))
  if net = txt "tcp" then
    if equalsIgnoreCase platform c.headerType (txt "http") then
      [("tcpSettings", object [("header", httpHeader c)])]
    else []
  else if net = txt "kcp" then
    [("kcpSettings", object
      ([("header", object [("type", str (ifEmpty c.headerType (txt "none")))])] ++
        fieldUnlessEmpty "seed" c.path))]
  else if net = txt "ws" then
    [("wsSettings", object ([("path", path)] ++
      if c.host = [] then [] else [("headers", object [("Host", str c.host)])]))]
  else if net = txt "httpupgrade" then
    [("httpupgradeSettings", object ([("path", path)] ++ fieldUnlessEmpty "host" c.host))]
  else if net = txt "xhttp" then
    [("xhttpSettings", object ([("path", path)] ++ fieldUnlessEmpty "host" c.host ++
      fieldUnlessEmpty "mode" c.mode))]
  else if net = txt "grpc" then
    [("grpcSettings", object [("serviceName", str c.serviceName),
      ("multiMode", bool (c.mode == txt "multi"))])]
  else if net = txt "http" then
    [("httpSettings", object ([("path", path)] ++
      if c.host = [] then [] else [("host", csvArray c.host)]))]
  else []

def realitySettings (c : ProxyConfig) : Json :=
  object [("serverName", str c.sni), ("publicKey", str c.publicKey), ("shortId", str c.shortId),
    ("fingerprint", str c.fingerprint), ("spiderX", text "/")]

def tlsSettings (c : ProxyConfig) : Json :=
  let host := trim (ConfigParser.upTo c.host (unit ','))
  object ([("serverName", str (ifEmpty c.sni (ifEmpty host c.address))),
      ("fingerprint", str c.fingerprint)] ++ pinField c ++
    if commaParts c.alpn = [] then [] else [("alpn", csvArray c.alpn)])

/-- The security of the stream and its settings. -/
def securityFields (c : ProxyConfig) : List (String × Json) :=
  if c.security = txt "reality" then
    [("security", text "reality"), ("realitySettings", realitySettings c)]
  else if c.security = txt "tls" then
    [("security", text "tls"), ("tlsSettings", tlsSettings c)]
  else []

def buildStream (c : ProxyConfig) : Json :=
  let net := normalizeNetwork platform c.network
  object ([("network", str net)] ++ transportFields platform c net ++ securityFields c)

def localSocks (port : ℤ) : Json :=
  let server := object [("address", text "127.0.0.1"), ("port", int port)]
  object [("tag", text "proxy"), ("protocol", text "socks"),
    ("settings", object [("servers", arr [server])])]

def buildTor : Json := localSocks torSocksPort

def buildAether : Json := localSocks aetherSocksPort

/-- The name that the server of a Hysteria2 config has to present. -/
def hysteria2ServerName (c : ProxyConfig) : Text := ifBlank c.sni (ifBlank c.host c.address)

def hysteria2Bandwidth (c : ProxyConfig) : List (String × Json) :=
  (if c.hyUpMbps > 0 then [("up", str (ofInt c.hyUpMbps ++ txt "mbps"))] else []) ++
    if c.hyDownMbps > 0 then [("down", str (ofInt c.hyDownMbps ++ txt "mbps"))] else []

def hysteria2Masks (c : ProxyConfig) : List (String × Json) :=
  if isBlank c.hyObfsPassword then []
  else [("udpmasks", arr [object [("type", str (ifBlank c.hyObfs (txt "salamander"))),
    ("settings", object [("password", str c.hyObfsPassword)])]])]

def buildHysteria2 (c : ProxyConfig) : Json :=
  let settings := object [("version", int 2), ("address", str c.address), ("port", int c.port)]
  let tls := object ([("serverName", str (hysteria2ServerName c)),
    ("alpn", csvArray (ifBlank c.alpn (txt "h3")))] ++ pinField c)
  let hy := object ([("version", int 2), ("auth", str c.password), ("udpIdleTimeout", int 60)] ++
    hysteria2Bandwidth c)
  let stream := object ([("network", text "hysteria"), ("security", text "tls"),
    ("tlsSettings", tls), ("hysteriaSettings", hy)] ++ hysteria2Masks c)
  object [("tag", text "proxy"), ("protocol", text "hysteria"), ("settings", settings),
    ("streamSettings", stream)]

def buildWireguard (c : ProxyConfig) : Json :=
  let isWarpHost := equalsIgnoreCase platform c.address (txt "engage.cloudflareclient.com")
  let epAddress := if isWarpHost then warpEndpointHost else c.address
  let epPort := if isWarpHost then warpEndpointPort else c.port
  let peer := object [("publicKey", str c.publicKey),
    ("endpoint", str (epAddress ++ txt ":" ++ ofInt epPort)),
    ("allowedIPs", arr [text "0.0.0.0/0", text "::/0"])]
  let reserved := ((split c.reserved (unit ',')).map trim).filterMap toIntOrNull
  let settings := object ([("secretKey", str c.privateKey), ("address", csvArray c.localAddress),
      ("peers", arr [peer])] ++
    (if c.mtu > 0 then [("mtu", int c.mtu)] else []) ++
    (if reserved.length = 3 then [("reserved", arr (reserved.map int))] else []))
  object [("tag", text "proxy"), ("protocol", text "wireguard"), ("settings", settings)]

def vnextSettings (c : ProxyConfig) (user : List (String × Json)) : Json :=
  object [("vnext", arr [object [("address", str c.address), ("port", int c.port),
    ("users", arr [object ([("id", str c.uuid)] ++ user)])]])]

def serverSettings (c : ProxyConfig) (credentials : List (String × Json)) : Json :=
  object [("servers", arr [object ([("address", str c.address), ("port", int c.port)] ++
    credentials)])]

/-- The settings of the protocols that share the stream settings. -/
def protocolSettings (c : ProxyConfig) : Json :=
  if c.protocol = txt "vless" then
    vnextSettings c ([("encryption", str c.encryption)] ++ fieldUnlessEmpty "flow" c.flow)
  else if c.protocol = txt "vmess" then
    vnextSettings c [("alterId", int c.alterId),
      ("security", str (ifEmpty c.encryption (txt "auto")))]
  else if c.protocol = txt "trojan" then
    serverSettings c ([("password", str c.password)] ++ fieldUnlessEmpty "flow" c.flow)
  else if c.protocol = txt "shadowsocks" then
    serverSettings c [("method", str c.method), ("password", str c.password)]
  else if c.protocol = txt "http" ∨ c.protocol = txt "socks" then
    serverSettings c (
      if c.uuid ≠ [] ∨ c.password ≠ [] then
        [("users", arr [object [("user", str c.uuid), ("pass", str c.password)]])]
      else [])
  else object []

def buildOutbound (c : ProxyConfig) : Json :=
  if c.protocol = txt "wireguard" then buildWireguard platform c
  else if c.protocol = txt "aether" then buildAether
  else if c.protocol = txt "hysteria2" then buildHysteria2 c
  else if c.protocol = txt "tor" then buildTor
  else object [("tag", text "proxy"), ("protocol", str c.protocol),
    ("settings", protocolSettings c), ("streamSettings", buildStream platform c)]

variable {platform} in
theorem buildOutbound_of_hysteria2 {c : ProxyConfig} (hysteria2 : c.protocol = txt "hysteria2") :
    buildOutbound platform c = buildHysteria2 c := by
  rw [buildOutbound, hysteria2, if_neg (by decide), if_neg (by decide), if_pos rfl]

end ConfigBuilder

end GRoute
