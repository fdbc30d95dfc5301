import GRoute.Foundation.JsonReader
import GRoute.ProxyConfig

/-!
# Configs as JSON

`ProxyConfig.toJson` and `ProxyConfig.fromJson`. The id that the source draws for an object
without one is an argument.
-/

namespace GRoute

open Text

/-- `ConfigSource.name`. -/
def ConfigSource.name : ConfigSource → Text
  | personal => txt "PERSONAL"
  | community => txt "COMMUNITY"
  | premium => txt "PREMIUM"

/-- `ConfigSource.valueOf`, with `none` for its exception. -/
def ConfigSource.valueOf (name : Text) : Option ConfigSource :=
  [personal, community, premium].find? fun source => source.name = name

theorem ConfigSource.valueOf_name (source : ConfigSource) : valueOf source.name = some source := by
  cases source <;> decide

namespace ProxyConfig

def toJson (c : ProxyConfig) : Json :=
  .object [("id", .str c.id), ("name", .str c.name), ("protocol", .str c.protocol),
    ("address", .str c.address), ("port", .int c.port), ("uuid", .str c.uuid),
    ("password", .str c.password), ("method", .str c.method), ("alterId", .int c.alterId),
    ("encryption", .str c.encryption), ("flow", .str c.flow), ("network", .str c.network),
    ("security", .str c.security), ("sni", .str c.sni), ("publicKey", .str c.publicKey),
    ("shortId", .str c.shortId), ("fingerprint", .str c.fingerprint),
    ("path", .str c.path), ("host", .str c.host),
    ("serviceName", .str c.serviceName), ("mode", .str c.mode), ("alpn", .str c.alpn),
    ("source", .str c.source.name), ("headerType", .str c.headerType),
    ("subId", .str c.subId),
    ("privateKey", .str c.privateKey), ("localAddress", .str c.localAddress),
    ("mtu", .int c.mtu), ("reserved", .str c.reserved), ("locked", .bool c.locked),
    ("aetherMode", .str c.aetherMode), ("aetherScan", .str c.aetherScan),
    ("aetherNoise", .str c.aetherNoise), ("aetherHttp2", .bool c.aetherHttp2),
    ("aetherIpv6", .bool c.aetherIpv6),
    ("hyObfs", .str c.hyObfs), ("hyObfsPassword", .str c.hyObfsPassword),
    ("hyUpMbps", .int c.hyUpMbps), ("hyDownMbps", .int c.hyDownMbps),
    ("allowInsecure", .bool c.allowInsecure),
    ("pinnedCertSha256", .str c.pinnedCertSha256),
    ("torCountry", .str c.torCountry), ("torThroughVpn", .bool c.torThroughVpn),
    ("torBaseId", .str c.torBaseId), ("chainId", .str c.chainId)]

variable (json : OrgArray)

def fromJson (o : Json) (fresh : Text) : ProxyConfig where
  name := o.optString (txt "name") []
  protocol := o.optString (txt "protocol") []
  address := o.optString (txt "address") []
  port := json.optInt o (txt "port") 0
  uuid := o.optString (txt "uuid") []
  password := o.optString (txt "password") []
  method := o.optString (txt "method") []
  alterId := json.optInt o (txt "alterId") 0
  encryption := o.optString (txt "encryption") (txt "none")
  flow := o.optString (txt "flow") []
  network := o.optString (txt "network") (txt "tcp")
  security := o.optString (txt "security") (txt "none")
  sni := o.optString (txt "sni") []
  publicKey := o.optString (txt "publicKey") []
  shortId := o.optString (txt "shortId") []
  fingerprint := o.optString (txt "fingerprint") (txt "chrome")
  path := o.optString (txt "path") []
  host := o.optString (txt "host") []
  serviceName := o.optString (txt "serviceName") []
  mode := o.optString (txt "mode") []
  alpn := o.optString (txt "alpn") []
  headerType := o.optString (txt "headerType") []
  subId := o.optString (txt "subId") []
  privateKey := o.optString (txt "privateKey") []
  localAddress := o.optString (txt "localAddress") []
  mtu := json.optInt o (txt "mtu") 0
  reserved := o.optString (txt "reserved") []
  aetherMode := o.optString (txt "aetherMode") (txt "masque")
  aetherScan := o.optString (txt "aetherScan") (txt "balanced")
  aetherNoise := o.optString (txt "aetherNoise") []
  aetherHttp2 := json.optBoolean o (txt "aetherHttp2") false
  aetherIpv6 := json.optBoolean o (txt "aetherIpv6") false
  hyObfs := o.optString (txt "hyObfs") []
  hyObfsPassword := o.optString (txt "hyObfsPassword") []
  hyUpMbps := json.optInt o (txt "hyUpMbps") 0
  hyDownMbps := json.optInt o (txt "hyDownMbps") 0
  allowInsecure := json.optBoolean o (txt "allowInsecure") false
  pinnedCertSha256 := o.optString (txt "pinnedCertSha256") []
  torCountry := o.optString (txt "torCountry") []
  torThroughVpn := json.optBoolean o (txt "torThroughVpn") false
  torBaseId := o.optString (txt "torBaseId") []
  chainId := o.optString (txt "chainId") []
  source := (ConfigSource.valueOf (o.optString (txt "source") (txt "PERSONAL"))).getD .personal
  locked := json.optBoolean o (txt "locked") false
  id := o.optString (txt "id") fresh

/-- The `Int` fields hold 32-bit integers. -/
structure HasInts (c : ProxyConfig) : Prop where
  port : IsInt c.port
  alterId : IsInt c.alterId
  mtu : IsInt c.mtu
  hyUpMbps : IsInt c.hyUpMbps
  hyDownMbps : IsInt c.hyDownMbps

theorem hasInts_fromJson (o : Json) (fresh : Text) : HasInts (fromJson json o fresh) := by
  have zero : IsInt 0 := by
    rw [IsInt]
    norm_num
  exact ⟨json.isInt_optInt zero, json.isInt_optInt zero, json.isInt_optInt zero,
    json.isInt_optInt zero, json.isInt_optInt zero⟩

variable {c : ProxyConfig}

theorem printable_toJson (ints : HasInts c) : Json.Printable c.toJson := by
  refine .obj ?_ ?_
  · simp only [List.map_cons, List.map_nil]
    decide +kernel
  · simp only [List.map_cons, List.map_nil, List.forall_mem_cons]
    simp only [Json.Printable.str, Json.Printable.bool, Json.Printable.ofInt ints.port,
      Json.Printable.ofInt ints.alterId, Json.Printable.ofInt ints.mtu,
      Json.Printable.ofInt ints.hyUpMbps, Json.Printable.ofInt ints.hyDownMbps,
      List.not_mem_nil, IsEmpty.forall_iff, implies_true, and_self]

theorem fromJson_toJson (ints : HasInts c) (fresh : Text) : fromJson json c.toJson fresh = c := by
  simp +decide only [fromJson, toJson, Json.optString, OrgArray.optInt, OrgArray.optBoolean,
    Json.field?_object_cons, if_true, if_false, Option.bind_some, Json.toText,
    json.toInteger_int ints.port, json.toInteger_int ints.alterId, json.toInteger_int ints.mtu,
    json.toInteger_int ints.hyUpMbps, json.toInteger_int ints.hyDownMbps, json.toBoolean_bool,
    ConfigSource.valueOf_name, Option.getD_some]

end ProxyConfig

end GRoute
