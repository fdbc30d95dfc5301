import GRoute.Foundation.Text

/-!
# Configs

`ProxyConfig.kt`: the record that describes one server, with the source's defaults.
`Int` fields hold 32-bit values, which the functions that fill them guarantee.
-/

namespace GRoute

inductive ConfigSource
  | personal
  | community
  | premium
  deriving DecidableEq, Repr

/-- A server and how it is reached. -/
structure ProxyConfig where
  name : Text
  protocol : Text
  address : Text
  port : ℤ
  uuid : Text := []
  password : Text := []
  method : Text := []
  alterId : ℤ := 0
  encryption : Text := txt "none"
  flow : Text := []
  network : Text := txt "tcp"
  security : Text := txt "none"
  sni : Text := []
  publicKey : Text := []
  shortId : Text := []
  fingerprint : Text := txt "chrome"
  path : Text := []
  host : Text := []
  serviceName : Text := []
  mode : Text := []
  alpn : Text := []
  headerType : Text := []
  subId : Text := []
  privateKey : Text := []
  localAddress : Text := []
  mtu : ℤ := 0
  reserved : Text := []
  aetherMode : Text := txt "masque"
  aetherScan : Text := txt "balanced"
  aetherNoise : Text := []
  aetherHttp2 : Bool := true
  aetherIpv6 : Bool := false
  hyObfs : Text := []
  hyObfsPassword : Text := []
  hyUpMbps : ℤ := 0
  hyDownMbps : ℤ := 0
  allowInsecure : Bool := false
  pinnedCertSha256 : Text := []
  torCountry : Text := []
  torThroughVpn : Bool := false
  torBaseId : Text := []
  chainId : Text := []
  source : ConfigSource := .personal
  locked : Bool := false
  id : Text
  deriving DecidableEq, Repr

end GRoute
