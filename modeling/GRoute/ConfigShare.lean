import GRoute.Foundation.Base64
import GRoute.Foundation.FormCoding
import GRoute.Foundation.Json
import GRoute.ProxyConfig

/-!
# Configs to share links

`ConfigShare.kt`, without the QR code. A parameter that the source adds under a
condition is a list that the condition leaves empty.
-/

namespace GRoute.ConfigShare

open Text

/-- A query parameter. -/
abbrev Param := Text × Text

def enc (s : Text) : Text := urlEncode s

/-- `if (value.isNotEmpty()) params.add(key to value)`. -/
def unlessEmpty (key : String) (value : Text) : List Param :=
  if value = [] then [] else [(txt key, value)]

/-- `params.joinToString("&") { it.first + "=" + enc(it.second) }`. -/
def queryText (params : List Param) : Text :=
  joinWith (unit '&') (params.map fun param => param.1 ++ unit '=' :: enc param.2)

def hysteria2Params (c : ProxyConfig) : List Param :=
  unlessEmpty "sni" c.sni ++ unlessEmpty "alpn" c.alpn ++
    (if c.allowInsecure then [(txt "insecure", txt "1")] else []) ++
    (if c.hyObfsPassword = [] then []
      else [(txt "obfs", ifEmpty c.hyObfs (txt "salamander")),
        (txt "obfs-password", c.hyObfsPassword)]) ++
    (if c.hyUpMbps > 0 then [(txt "upmbps", ofInt c.hyUpMbps)] else []) ++
    (if c.hyDownMbps > 0 then [(txt "downmbps", ofInt c.hyDownMbps)] else [])

def hysteria2Link (c : ProxyConfig) : Text :=
  let query := queryText (hysteria2Params c)
  let host := if unit ':' ∈ c.address then unit '[' :: (c.address ++ [unit ']']) else c.address
  txt "hysteria2://" ++ enc c.password ++ txt "@" ++ host ++ txt ":" ++ ofInt c.port ++
    (if query = [] then [] else unit '?' :: query) ++ txt "#" ++ enc c.name

def userParams (c : ProxyConfig) (includeEncryption : Bool) : List Param :=
  [(txt "type", c.network), (txt "security", c.security)] ++
    (if includeEncryption then unlessEmpty "encryption" c.encryption else []) ++
    unlessEmpty "flow" c.flow ++ unlessEmpty "sni" c.sni ++ unlessEmpty "pbk" c.publicKey ++
    unlessEmpty "sid" c.shortId ++ unlessEmpty "fp" c.fingerprint ++ unlessEmpty "path" c.path ++
    unlessEmpty "host" c.host ++ unlessEmpty "serviceName" c.serviceName ++
    unlessEmpty "mode" c.mode ++ unlessEmpty "alpn" c.alpn ++ unlessEmpty "headerType" c.headerType

def userLink (scheme userInfo : Text) (c : ProxyConfig) (includeEncryption : Bool) : Text :=
  scheme ++ txt "://" ++ enc userInfo ++ txt "@" ++ c.address ++ txt ":" ++ ofInt c.port ++
    txt "?" ++ queryText (userParams c includeEncryption) ++ txt "#" ++ enc c.name

/-- The fields of the JSON object of a VMess link. -/
def vmessFields (c : ProxyConfig) : List (Text × Text) :=
  [(txt "v", txt "2"), (txt "ps", c.name), (txt "add", c.address), (txt "port", ofInt c.port),
    (txt "id", c.uuid), (txt "aid", ofInt c.alterId),
    (txt "scy", ifEmpty c.encryption (txt "auto")), (txt "net", c.network),
    (txt "type", ifEmpty c.headerType (txt "none")), (txt "host", c.host),
    (txt "path", c.path), (txt "tls", if c.security = txt "tls" then txt "tls" else []),
    (txt "sni", c.sni), (txt "fp", c.fingerprint)]

def vmessLink (c : ProxyConfig) : Text :=
  txt "vmess://" ++
    Base64.encodeToString .standard true (encodeUtf8 (Json.ofStrings (vmessFields c)).print)

def ssLink (c : ProxyConfig) : Text :=
  let userInfo :=
    Base64.encodeToString .urlSafe false (encodeUtf8 (c.method ++ txt ":" ++ c.password))
  txt "ss://" ++ userInfo ++ txt "@" ++ c.address ++ txt ":" ++ ofInt c.port ++ txt "#" ++
    enc c.name

def toLink (c : ProxyConfig) : Text :=
  if c.protocol = txt "vless" then userLink (txt "vless") c.uuid c true
  else if c.protocol = txt "trojan" then userLink (txt "trojan") c.password c false
  else if c.protocol = txt "vmess" then vmessLink c
  else if c.protocol = txt "shadowsocks" then ssLink c
  else if c.protocol = txt "hysteria2" then hysteria2Link c
  else []

end GRoute.ConfigShare
