import GRoute.Foundation.JsonObject
import GRoute.ProxyConfig.Json

/-!
# The texts of a config

A config that is written as JSON, sent as bytes and read again has every text sanitized. It is as
it was only if all its texts are well formed.
-/

namespace GRoute

open Text

namespace ProxyConfig

/-- The function is applied to every text of the config. -/
def mapTexts (f : Text → Text) (c : ProxyConfig) : ProxyConfig :=
  { c with
    name := f c.name
    protocol := f c.protocol
    address := f c.address
    uuid := f c.uuid
    password := f c.password
    method := f c.method
    encryption := f c.encryption
    flow := f c.flow
    network := f c.network
    security := f c.security
    sni := f c.sni
    publicKey := f c.publicKey
    shortId := f c.shortId
    fingerprint := f c.fingerprint
    path := f c.path
    host := f c.host
    serviceName := f c.serviceName
    mode := f c.mode
    alpn := f c.alpn
    headerType := f c.headerType
    subId := f c.subId
    privateKey := f c.privateKey
    localAddress := f c.localAddress
    reserved := f c.reserved
    aetherMode := f c.aetherMode
    aetherScan := f c.aetherScan
    aetherNoise := f c.aetherNoise
    hyObfs := f c.hyObfs
    hyObfsPassword := f c.hyObfsPassword
    pinnedCertSha256 := f c.pinnedCertSha256
    torCountry := f c.torCountry
    torBaseId := f c.torBaseId
    chainId := f c.chainId
    id := f c.id }

/-- The texts of the config other than its id and that of its subscription. -/
def contentTexts (c : ProxyConfig) : List Text :=
  [c.name, c.protocol, c.address, c.uuid, c.password, c.method, c.encryption, c.flow, c.network,
    c.security, c.sni, c.publicKey, c.shortId, c.fingerprint, c.path, c.host, c.serviceName,
    c.mode, c.alpn, c.headerType, c.privateKey, c.localAddress, c.reserved, c.aetherMode,
    c.aetherScan, c.aetherNoise, c.hyObfs, c.hyObfsPassword, c.pinnedCertSha256, c.torCountry,
    c.torBaseId, c.chainId]

def texts (c : ProxyConfig) : List Text := c.id :: c.subId :: c.contentTexts

variable {c : ProxyConfig}

theorem mapTexts_eq_iff {f : Text → Text} (id subId : Text) :
    { c.mapTexts f with id := id, subId := subId } = { c with id := id, subId := subId } ↔
      ∀ text ∈ c.contentTexts, f text = text := by
  simp only [mapTexts, contentTexts, ProxyConfig.mk.injEq, List.forall_mem_cons, true_and,
    and_true, List.not_mem_nil, IsEmpty.forall_iff, implies_true]

theorem mapTexts_eq_self_iff {f : Text → Text} :
    c.mapTexts f = c ↔ ∀ text ∈ c.texts, f text = text := by
  rw [texts, List.forall_mem_cons, List.forall_mem_cons]
  constructor
  · intro same
    have isId : f c.id = c.id := congrArg ProxyConfig.id same
    have isSubId : f c.subId = c.subId := congrArg ProxyConfig.subId same
    refine ⟨isId, isSubId, ?_⟩
    apply (mapTexts_eq_iff c.id c.subId).mp
    rw [same]
  · rintro ⟨isId, isSubId, content⟩
    calc c.mapTexts f
      _ = { c.mapTexts f with id := f c.id, subId := f c.subId } := rfl
      _ = { c with id := f c.id, subId := f c.subId } := (mapTexts_eq_iff _ _).mpr content
      _ = c := by rw [isId, isSubId]

/-- The config after it was sent as bytes. -/
def sanitize (c : ProxyConfig) : ProxyConfig := c.mapTexts Text.sanitize

theorem sanitize_toJson (c : ProxyConfig) : c.toJson.sanitize = c.sanitize.toJson := by
  have isName : Text.sanitize c.source.name = c.source.name := by
    cases c.source <;> decide
  rw [toJson, Json.sanitize_object]
  · simp only [List.map_cons, List.map_nil, Json.sanitize_str, Json.sanitize_int,
      Json.sanitize_bool, isName]
    rfl
  · simp only [List.map_cons, List.map_nil]
    decide +kernel

theorem HasInts.sanitize (ints : HasInts c) : HasInts c.sanitize :=
  ⟨ints.port, ints.alterId, ints.mtu, ints.hyUpMbps, ints.hyDownMbps⟩

theorem sanitize_eq_self_iff : c.sanitize = c ↔ ∀ text ∈ c.texts, WellFormed text := by
  rw [sanitize, mapTexts_eq_self_iff]
  simp only [Text.sanitize_eq_self_iff]

theorem sanitize_sanitize (c : ProxyConfig) : c.sanitize.sanitize = c.sanitize := by
  simp only [sanitize, mapTexts, Text.sanitize_sanitize]

variable {configs : List ProxyConfig}

theorem printable_arr (ints : ∀ config ∈ configs, config.HasInts) :
    Json.Printable (.arr (configs.map toJson)) := by
  apply Json.Printable.arr
  rw [List.forall_mem_map]
  intro config mem
  exact printable_toJson (ints config mem)

theorem sanitize_arr (configs : List ProxyConfig) : (Json.arr (configs.map toJson)).sanitize =
    .arr ((configs.map ProxyConfig.sanitize).map toJson) := by
  rw [Json.sanitize_arr, List.map_map, List.map_map]
  congr 1
  apply List.map_congr_left
  intro config _
  exact config.sanitize_toJson

theorem forall_hasInts_sanitize (ints : ∀ config ∈ configs, config.HasInts) :
    ∀ config ∈ configs.map ProxyConfig.sanitize, config.HasInts := by
  rw [List.forall_mem_map]
  intro config mem
  exact (ints config mem).sanitize

end ProxyConfig

end GRoute
