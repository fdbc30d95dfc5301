import GRoute.ConfigStore

/-!
# Starting a tunnel

The four places of the app that start a tunnel: `MainActivity.proceedConnect`,
`QsTileService.startTunnel`, `GozarVpnService.switchTunnel` and
`AutoSelector.reconnectIfConnected`. Each of them reads the store, builds the
configuration of the core and starts the service with it, or does nothing.
-/

namespace GRoute

open Text ConfigBuilder

structure AetherSpec where
  mode : Text := txt "masque"
  scan : Text := txt "balanced"
  noise : Text := []
  http2 : Bool := false
  ipv6 : Bool := false
  deriving DecidableEq, Repr

namespace AetherSpec

def toJson (spec : AetherSpec) : Text :=
  (Json.object [("mode", .str spec.mode), ("scan", .str spec.scan), ("noise", .str spec.noise),
    ("http2", .bool spec.http2), ("ipv6", .bool spec.ipv6)]).print

/-- `AetherSpec.from`. -/
def ofConfig (config : ProxyConfig) : Option AetherSpec :=
  if config.protocol ≠ txt "aether" then none
  else some {
    mode := ifBlank config.aetherMode (txt "masque")
    scan := ifBlank config.aetherScan (txt "balanced")
    noise := config.aetherNoise
    http2 := config.aetherHttp2
    ipv6 := config.aetherIpv6 }

end AetherSpec

/-- The country and the mode in which Tor is launched. -/
def torExtra (config : ProxyConfig) : Text :=
  config.torCountry ++ txt "|" ++ if config.torThroughVpn then txt "1" else txt "0"

/-- The mode in which the service launches Tor for the extra `TOR`. -/
def Connect.launchesThroughVpn (tor : Text) : Bool :=
  (split tor (unit '|')).getD 1 (txt "0") == txt "1"

/-- What a start request hands to the service. -/
structure Launch where
  /-- The object whose text is the extra `CONFIG`. -/
  root : Json
  aether : Option Text
  tor : Option Text

/-- What becomes of a request to connect. -/
inductive Start
  | nothing
  /-- `IkeController` connects to the server of the config. -/
  | ike (config : ProxyConfig)
  | core (launch : Launch)

namespace Connect

variable (platform : Platform) (store : ConfigStore)

def mainOptions (config : ProxyConfig) : BuildOptions where
  fragment := store.settings.fragment
  splitRouting := store.settings.splitRouting
  sniffing := store.settings.sniffing
  sniffTypes := store.settings.sniffTypes
  mux := store.settings.mux
  muxConcurrency := store.settings.muxConcurrency
  adBlock := store.settings.adBlock
  fakeDns := store.settings.fakeDns
  encryptedDns := store.settings.encryptedDns
  torBase :=
    if config.protocol = txt "tor" ∧ config.torBaseId ≠ [] then store.find config.torBaseId
    else none
  chainBase := if config.chainId ≠ [] then store.find config.chainId else none
  onionRouting := store.settings.onionRouting
  coreLogLevel := store.settings.coreLogLevel

/-- `connected` says whether `VpnState` is `CONNECTED`. -/
def proceedConnect (mixedPort : ℤ) (connected : Bool) (config : ProxyConfig) : Start :=
  if connected then .nothing
  else if config.protocol = txt "ikev2" then .ike config
  else .core {
    root := buildRoot platform mixedPort config (mainOptions store config)
    aether := if config.protocol = txt "aether" then
        some (((AetherSpec.ofConfig config).map AetherSpec.toJson).getD [])
      else some []
    tor := if config.protocol = txt "tor" then some (torExtra config)
      else if store.settings.onionRouting then some (txt "|1")
      else none }

def sharedOptions : BuildOptions where
  fragment := store.settings.fragment
  splitRouting := store.settings.splitRouting
  sniffing := store.settings.sniffing
  sniffTypes := store.settings.sniffTypes
  adBlock := store.settings.adBlock
  fakeDns := store.settings.fakeDns
  encryptedDns := store.settings.encryptedDns
  onionRouting := store.settings.onionRouting

/-- The extras that the other places put. -/
def launch (mixedPort : ℤ) (config : ProxyConfig) (options : BuildOptions) : Launch where
  root := buildRoot platform mixedPort config options
  aether := (AetherSpec.ofConfig config).map AetherSpec.toJson
  tor := if config.protocol = txt "tor" then some (torExtra config) else none

/-- The config that the tile connects. -/
def tileConfig : Option ProxyConfig := store.selectedId.bind store.find

/-- `QsTileService.startTunnel`; `permitted` says whether `VpnService.prepare` gives `null`. -/
def startTunnel (mixedPort : ℤ) (permitted : Bool) : Start :=
  match tileConfig store with
  | none => .nothing
  | some config =>
      if !permitted then .nothing
      else .core (launch platform mixedPort config
        { sharedOptions store with coreLogLevel := store.settings.coreLogLevel })

/-- The service's own switch. It hands the Aether settings over as an object. -/
def switchTunnel (mixedPort : ℤ) (tearingDown : Bool) (config : ProxyConfig) : Start :=
  if tearingDown then .nothing
  else .core (launch platform mixedPort config (sharedOptions store))

def reconnectIfConnected (mixedPort : ℤ) (connected permitted : Bool) (config : ProxyConfig) :
    Start :=
  if !connected then .nothing
  else if !permitted then .nothing
  else .core (launch platform mixedPort config (sharedOptions store))

/-- A request to connect, with what it reads besides the store. -/
inductive Request
  | main (connected : Bool) (config : ProxyConfig)
  | tile (permitted : Bool)
  | switch (tearingDown : Bool) (config : ProxyConfig)
  | reconnect (connected permitted : Bool) (config : ProxyConfig)
  deriving DecidableEq, Repr

def start (mixedPort : ℤ) : Request → Start
  | .main connected config => proceedConnect platform store mixedPort connected config
  | .tile permitted => startTunnel platform store mixedPort permitted
  | .switch tearingDown config => switchTunnel platform store mixedPort tearingDown config
  | .reconnect connected permitted config =>
      reconnectIfConnected platform store mixedPort connected permitted config

/-- The config that a request connects. -/
def requested : Request → Option ProxyConfig
  | .main _ config | .switch _ config | .reconnect _ _ config => some config
  | .tile _ => tileConfig store

end Connect

end GRoute
