import GRoute.Connect.Pinning
import GRoute.ConfigBuilder.Chain

/-!
# Chains across the ways to connect

A config with a `chainId` is to be dialled through the config of that id, and its server is never to
be dialled directly. The core does so exactly if the main screen starts it and finds a base other
than the config itself. Every other start dials the server directly. So do the engines of Aether and
of Tor, the measurements of the automatic selection, and the main screen itself when it fetches the
certificate of a server whose pin it needs before it connects.
-/

namespace GRoute.Connect

open Text ConfigBuilder

variable {platform : Platform} {store : ConfigStore} {mixedPort : ℤ} {config : ProxyConfig}

/-- What happens around a request to connect a config. -/
structure Circumstances where
  /-- Its delay was taken before, which `AutoSelector.measureAll` does on the direct way. -/
  measured : Bool
  /-- `CertPin.viaTunnel`, when the certificate is fetched. -/
  viaTunnel : Bool
  /-- What the fetch returns, if it opens a connection. -/
  pin : Option Text

/-- `CertPin.fetch` opens a connection to the server. -/
def fetchConnects (config : ProxyConfig) : Bool :=
  trim config.address ≠ [] ∧ 1 ≤ config.port ∧ config.port ≤ 65535

/-- The store and the config with which `launchConnect` goes on. -/
def launchConnect (platform : Platform) (store : ConfigStore) (around : Circumstances)
    (config : ProxyConfig) : ConfigStore × ProxyConfig :=
  if Pinning.needsPin platform config then
    match (if fetchConnects config then around.pin else none).filter (!isBlank ·) with
    | none => (store, config)
    | some pin =>
        let ready := { config with pinnedCertSha256 := pin }
        (store.update ready, ready)
  else (store, config)

/-- `launchConnect` fetches the certificate, and not through a tunnel. -/
def dialsForPin (platform : Platform) (around : Circumstances) (config : ProxyConfig) : Bool :=
  Pinning.needsPin platform config && fetchConnects config && !around.viaTunnel

/-- What a request does. -/
structure Attempt where
  /-- The app itself dials the server of the config, outside of the core that it starts. -/
  dials : Bool
  start : Start

/-- What the request does; only the main screen goes by `launchConnect`. -/
def attempt (platform : Platform) (store : ConfigStore) (mixedPort : ℤ) (around : Circumstances) :
    Request → Attempt
  | .main connected config =>
      let launched := launchConnect platform store around config
      { dials := around.measured || dialsForPin platform around config
        start := proceedConnect platform launched.1 mixedPort connected launched.2 }
  | request => { dials := around.measured, start := start platform store mixedPort request }

/-- The request is turned down by what it reads besides the store. -/
def Request.Refused : Request → Prop
  | .main connected _ => connected = true
  | .tile permitted => permitted = false
  | .switch tearingDown _ => tearingDown = true
  | .reconnect connected permitted _ => connected = false ∨ permitted = false

/-- The request comes from the main screen. -/
def Request.IsMain : Request → Prop
  | .main _ _ => True
  | _ => False

/-- The base of the config is in the store and is not the config. -/
def HasBase (store : ConfigStore) (config : ProxyConfig) : Prop :=
  config.chainId ≠ config.id ∧ ∃ base ∈ store.configs, base.id = config.chainId

theorem chained_mainOptions_iff (linked : config.chainId ≠ []) {base : ProxyConfig} :
    chained config (mainOptions store config) = some base ↔
      store.find config.chainId = some base ∧ config.chainId ≠ config.id := by
  rw [chained, mainOptions, if_pos linked, Option.filter_eq_some_iff, decide_eq_true_eq]
  constructor
  · rintro ⟨found, other⟩
    rw [ConfigStore.id_of_find found] at other
    exact ⟨found, other⟩
  · rintro ⟨found, other⟩
    rw [ConfigStore.id_of_find found]
    exact ⟨found, other⟩

section

-- the configuration is built with a store that may hold another version of the config
variable {built : ConfigStore} (linked : config.chainId ≠ [])
  (same : config.chainId ≠ config.id → built.find config.chainId = store.find config.chainId)

include linked same

end

/-- A server to go through. -/
def hopConfig : ProxyConfig where
  id := txt "hop"
  protocol := txt "socks"
  address := txt "h"
  port := 1080
  name := txt "hop"

end GRoute.Connect
