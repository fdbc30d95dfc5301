import GRoute.ConfigBuilder.Hosts
import GRoute.ConfigBuilder.Outbound

/-!
# Core configurations

`ConfigBuilder.build`, by way of the tree of the JSON text that it returns. `mixedPort` is the
value of `MixedPort.value`.
-/

namespace GRoute.ConfigBuilder

open Text Json

/-- The arguments of `build` after the config, with the source's defaults. -/
structure BuildOptions where
  fragment : Bool := false
  splitRouting : Bool := false
  sniffing : Bool := false
  /-- A set, in the order of its iteration. -/
  sniffTypes : List Text := [txt "http", txt "tls", txt "quic"]
  fragmentPackets : Text := txt "tlshello"
  fragmentLength : Text := txt "10-20"
  fragmentInterval : Text := txt "10-20"
  mux : Bool := false
  muxConcurrency : ℤ := 8
  adBlock : Bool := false
  directOnly : Bool := false
  fakeDns : Bool := false
  encryptedDns : Bool := false
  torBase : Option ProxyConfig := none
  chainBase : Option ProxyConfig := none
  onionRouting : Bool := false
  coreLogLevel : Text := txt "warning"
  deriving DecidableEq, Repr

variable (platform : Platform) (mixedPort : ℤ) (config : ProxyConfig) (options : BuildOptions)

def onion : Bool := options.onionRouting && config.protocol != txt "tor"

def fake : Bool := options.fakeDns || onion config options

def dnsOn : Bool := fake config options || options.encryptedDns

/-- The base of the chain, if there is one other than the config itself. -/
def chained : Option ProxyConfig := options.chainBase.filter fun base => base.id ≠ config.id

/-- The base under Tor, which only a Tor config uses. -/
def torUnder : Option ProxyConfig := if config.protocol = txt "tor" then options.torBase else none

def dnsServers : List Json :=
  (if fake config options then [text "fakedns"] else []) ++
    (if options.encryptedDns then
      [text "https://1.1.1.1/dns-query", text "https://8.8.8.8/dns-query"]
    else []) ++
    [text "1.1.1.1", text "8.8.8.8"]

def dnsFields : List (String × Json) :=
  (if fake config options then
    [("fakedns", arr [object [("ipPool", text "198.18.0.0/15"), ("poolSize", int 65535)]])]
  else []) ++
    if dnsOn config options then
      [("dns", object [("servers", arr (dnsServers config options)),
        ("queryStrategy", text "UseIPv4")])]
    else []

/-- An element of a `LinkedHashSet` keeps its first place. -/
def addOnce (set : List Text) (element : Text) : List Text :=
  if element ∈ set then set else set ++ [element]

theorem mem_addOnce {set : List Text} {element type : Text} :
    type ∈ addOnce set element ↔ type ∈ set ∨ type = element := by
  rw [addOnce]
  split
  · next present =>
      constructor
      · exact .inl
      · rintro (old | rfl)
        · exact old
        · exact present
  · simp

def webTypes : List Text := [txt "http", txt "tls", txt "quic"]

def expandSniffTypes (types : List Text) : List Text :=
  let out := types.foldl (fun set t =>
    if t = txt "fakedns+others" then (txt "fakedns" :: webTypes).foldl addOnce set
    else addOnce set t) []
  if out = [] then [txt "http", txt "tls"] else out

def destOverride : List Text :=
  let types := if options.sniffing then expandSniffTypes options.sniffTypes else webTypes
  types ++
    (if fake config options && !types.contains (txt "fakedns") then [txt "fakedns"] else []) ++
    (if options.adBlock then webTypes.filter (!types.contains ·) else [])

def sniffingField (types : List Text) (routeOnly : Bool) : List (String × Json) :=
  [("sniffing", object [("enabled", bool true), ("destOverride", strings types),
    ("routeOnly", bool routeOnly)])]

def tunIn : Json :=
  object ([("tag", text "tun-in"), ("port", int 0), ("protocol", text "tun"),
      ("settings", object [("name", text "xray0"), ("MTU", int 1500)])] ++
    if options.splitRouting || options.sniffing || options.adBlock || fake config options then
      sniffingField (destOverride config options)
        (!options.adBlock && options.splitRouting && !options.sniffing)
    else [])

def socksIn : Json :=
  object ([("tag", text "socks-in"), ("port", int mixedPort), ("listen", text "127.0.0.1"),
      ("protocol", text "socks"), ("settings", object [("udp", bool true)])] ++
    if options.splitRouting || options.sniffing || options.adBlock then sniffingField webTypes false
    else [])

def torIn : Json :=
  object [("tag", text "tor-in"), ("port", int torBridgePort), ("listen", text "127.0.0.1"),
    ("protocol", text "socks"), ("settings", object [("udp", bool false)])]

def inbounds : List Json :=
  [tunIn config options, socksIn mixedPort options] ++
    if config.protocol == txt "tor" || onion config options then [torIn] else []

/-- `stream.put("sockopt", JSONObject().put("dialerProxy", tag))`. -/
def dialThrough (stream : Json) (tag : String) : Json :=
  stream.put "sockopt" (object [("dialerProxy", text tag)])

/-- The outbound dials through the chain, with stream settings made for it if it has none. -/
def chainOutbound (out : Json) : Json :=
  out.put "streamSettings"
    (dialThrough ((out.optObject "streamSettings").getD (object [])) "chain")

/-- The outbound dials through the fragmenter if it has stream settings. -/
def fragmentOutbound (out : Json) : Json :=
  match out.optObject "streamSettings" with
  | some stream => out.put "streamSettings" (dialThrough stream "fragment")
  | none => out

def muxOutbound (out : Json) : Json :=
  out.put "mux" (object [("enabled", bool true),
    ("concurrency", int (max 1 (min 128 options.muxConcurrency)))])

def proxyOutbound : Json :=
  let out := buildOutbound platform config
  let dialing :=
    if (chained config options).isSome then chainOutbound out
    else if options.fragment then fragmentOutbound out
    else out
  if options.mux then muxOutbound options dialing else dialing

def fragmentFreedom : Json :=
  object [("tag", text "fragment"), ("protocol", text "freedom"),
    ("settings", object [("fragment", object [
      ("packets", str (ifBlank options.fragmentPackets (txt "tlshello"))),
      ("length", str (ifBlank options.fragmentLength (txt "10-20"))),
      ("interval", str (ifBlank options.fragmentInterval (txt "10-20")))])])]

def directProxy : Json :=
  object [("tag", text "proxy"), ("protocol", text "freedom"),
    ("settings", object [("domainStrategy", text "UseIP")])]

def torOut : Json :=
  object [("tag", text "tor-out"), ("protocol", text "socks"),
    ("settings", object [("servers", arr [object [("address", text "127.0.0.1"),
      ("port", int torSocksPort)]])])]

/-- `buildOutbound(base).put("tag", tag)`. -/
def taggedOutbound (tag : String) (base : ProxyConfig) : Json :=
  (buildOutbound platform base).put "tag" (text tag)

/-- The outbounds after the first. -/
def laterOutbounds : List Json :=
  (if options.fragment then [fragmentFreedom options] else []) ++
    [object [("tag", text "direct"), ("protocol", text "freedom")],
      object [("tag", text "block"), ("protocol", text "blackhole")]] ++
    (if onion config options then [torOut] else []) ++
    (torUnder config options).toList.map (taggedOutbound platform "torbase") ++
    (chained config options).toList.map (taggedOutbound platform "chain") ++
    (if dnsOn config options then [object [("tag", text "dns-out"), ("protocol", text "dns")]]
    else [])

def outbounds : List Json :=
  (if options.directOnly then directProxy else proxyOutbound platform config options) ::
    laterOutbounds platform config options

def rule (conditions : List (String × Json)) (outboundTag : String) : Json :=
  object ([("type", text "field")] ++ conditions ++ [("outboundTag", text outboundTag)])

def domains (hosts : List String) : List Json := hosts.map fun host => text ("domain:" ++ host)

def rules : List Json :=
  (if onion config options then
    [rule [("domain", arr [text "regexp:\\.onion$"])] "tor-out"] else []) ++
    (if (torUnder config options).isSome then
      [rule [("inboundTag", arr [text "tor-in"])] "torbase"] else []) ++
    (if dnsOn config options then
      [rule [("port", int 53)] "dns-out", rule [("domain", arr (domains dohHosts))] "block"]
    else []) ++
    (if options.adBlock then
      [rule [("domain", arr ([text "geosite:category-ads-all", text "geosite:ads"] ++
          domains adHosts))] "block",
        rule [("network", text "udp"), ("port", text "443")] "block"]
    else []) ++
    (if options.splitRouting then
      [rule [("ip", arr [text "geoip:private", text "geoip:ir"])] "direct",
        rule [("domain", arr [text "geosite:category-ir"])] "direct"]
    else []) ++
    [rule [("inboundTag", arr [text "tun-in", text "socks-in"])] "proxy"]

/-- The object whose text `build` returns. -/
def buildRoot : Json :=
  object ([("log", object [("loglevel", str (ifBlank options.coreLogLevel (txt "warning")))])] ++
    dnsFields config options ++
    [("stats", object []),
      ("policy", object [("system", object [("statsOutboundUplink", bool true),
        ("statsOutboundDownlink", bool true)])]),
      ("inbounds", arr (inbounds mixedPort config options)),
      ("outbounds", arr (outbounds platform config options)),
      ("routing", object [("domainStrategy", text "AsIs"), ("rules", arr (rules config options))])])

def build : Text := (buildRoot platform mixedPort config options).print

end GRoute.ConfigBuilder
