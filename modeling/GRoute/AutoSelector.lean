import GRoute.ConfigBuilder.ForTest
import GRoute.ConfigBuilder.Fragment
import GRoute.Connect.Agree

/-!
# Automatic selection

`AutoSelector.kt` measures every selectable config and picks the fastest. What it measures is built
by `buildForTest` without a base, so a chained config is measured on the direct way to its server,
which a connect does not take.
-/

namespace GRoute.AutoSelector

open Text Json Xray ConfigBuilder Connect

variable (platform : Platform)

def skipProtocols : List Text := [txt "tor", txt "aether"]

def selectable (all : List ProxyConfig) : List ProxyConfig :=
  all.filter fun config => platform.casing.lowercase (trim config.protocol) ∉ skipProtocols

/-- How the delay of a config is taken. -/
inductive Measurement
  | pingIke (address : Text)
  /-- `Gozarcore.measureDelay`, with the object whose text it is given. -/
  | measureDelay (root : Json)

/-- What `measureAll` does for one config. -/
def measurement (config : ProxyConfig) : Measurement :=
  if platform.casing.lowercase (trim config.protocol) = txt "ikev2" then .pingIke config.address
  else .measureDelay (testRoot platform config none)

/-- The store with the fragmenter and the multiplexer turned off. -/
def plainStore (store : ConfigStore) : ConfigStore :=
  { store with settings := { store.settings with fragment := false, mux := false } }

/-- The outbounds under the two tags are the same in both configurations. -/
def SamePath (left right : Json) : Prop :=
  ∀ tag ∈ [txt "proxy", txt "chain"],
    outboundNamed (outboundsOf left) tag = outboundNamed (outboundsOf right) tag

/-- The delay of the config is taken on the way that the main screen would connect it. -/
def MeasuresConnect (store : ConfigStore) (mixedPort : ℤ) (config : ProxyConfig) : Prop :=
  ∃ tested launch, measurement platform config = .measureDelay tested ∧
    proceedConnect platform (plainStore store) mixedPort false config = .core launch ∧
    SamePath tested launch.root

variable {platform} {store : ConfigStore} {mixedPort : ℤ} {config : ProxyConfig}

theorem outboundsOf_testRoot : outboundsOf (testRoot platform config none) =
    [buildOutbound platform config] := by
  apply elementsOf_of_field?
  simp +decide [testRoot, field?_object_cons]

theorem outboundNamed_testRoot_proxy :
    outboundNamed (outboundsOf (testRoot platform config none)) (txt "proxy") =
      some (buildOutbound platform config) := by
  rw [outboundsOf_testRoot]
  exact outboundNamed_cons_self (hasTag_buildOutbound config) []

theorem outboundNamed_testRoot_chain :
    outboundNamed (outboundsOf (testRoot platform config none)) (txt "chain") = none := by
  rw [outboundsOf_testRoot, outboundNamed_eq_none_iff, List.map_singleton, List.mem_singleton,
    (hasTag_buildOutbound config).stringOf_eq]
  decide

theorem samePath_testRoot_iff {options : BuildOptions} (throughProxy : options.directOnly = false)
    (noFragment : options.fragment = false) (noMux : options.mux = false) :
    SamePath (testRoot platform config none) (buildRoot platform mixedPort config options) ↔
      chained config options = none := by
  rw [SamePath, List.forall_mem_cons, List.forall_mem_singleton, outboundNamed_testRoot_proxy,
    outboundNamed_testRoot_chain, outboundNamed_proxy throughProxy]
  constructor
  · rintro ⟨sameProxy, -⟩
    -- the outbound of a chained config has a dialer, the one of the test has none
    by_contra isChained
    have dials : DialsThrough (proxyOutbound platform config options) "chain" :=
      dialsThrough_proxyOutbound_iff.mpr (Option.isSome_iff_ne_none.mpr isChained)
    rw [← Option.some.inj sameProxy] at dials
    exact not_dialsThrough_buildOutbound config "chain" dials
  · intro unchained
    constructor
    · simp [proxyOutbound, unchained, noFragment, noMux]
    · symm
      rw [outboundNamed_eq_none_iff, outboundsOf_buildRoot, chain_mem_tags_iff, unchained]
      decide

/-- The config has a base that a connect finds. -/
def IsChained (store : ConfigStore) (config : ProxyConfig) : Prop :=
  config.chainId ≠ [] ∧ HasBase store config

theorem chained_plainStore_eq_none_iff :
    chained config (mainOptions (plainStore store) config) = none ↔ ¬IsChained store config :=
  @chained_storedOptions_eq_none_iff (plainStore store) config

theorem protocol_ne_ikev2
    (notIke : platform.casing.lowercase (trim config.protocol) ≠ txt "ikev2") :
    config.protocol ≠ txt "ikev2" := by
  intro isIke
  apply notIke
  have trimmed : trim (txt "ikev2") = txt "ikev2" := by decide
  rw [isIke, trimmed, platform.casing.lowercase_ascii (by decide)]
  decide

theorem measuresConnect_iff (platform : Platform) (store : ConfigStore) (mixedPort : ℤ) :
    ∀ config ∈ selectable platform store.configs,
      platform.casing.lowercase (trim config.protocol) ≠ txt "ikev2" →
        (MeasuresConnect platform store mixedPort config ↔ ¬IsChained store config) := by
  intro config _ notIke
  have tested : measurement platform config = .measureDelay (testRoot platform config none) :=
    if_neg notIke
  have started : proceedConnect platform (plainStore store) mixedPort false config =
      .core (mainLaunch platform (plainStore store) mixedPort config) :=
    proceedConnect_eq (protocol_ne_ikev2 notIke)
  have same : SamePath (testRoot platform config none)
      (mainLaunch platform (plainStore store) mixedPort config).root ↔ ¬IsChained store config :=
    (samePath_testRoot_iff rfl rfl rfl).trans chained_plainStore_eq_none_iff
  rw [← same, MeasuresConnect, tested, started]
  constructor
  · rintro ⟨root, launch, isRoot, isLaunch, samePath⟩
    cases isRoot
    cases isLaunch
    exact samePath
  · intro samePath
    exact ⟨_, _, rfl, rfl, samePath⟩

/-- A store with a server and one that is reached through it. -/
def chainedStore (chainId : Text) : ConfigStore where
  configs := [entryServer, { exitServer with chainId := chainId }]

theorem measuresConnect_unchained :
    MeasuresConnect .ascii (chainedStore []) 0 exitServer := by
  refine (measuresConnect_iff .ascii (chainedStore []) 0 exitServer (by decide +kernel)
    (by decide +kernel)).mpr ?_
  rintro ⟨linked, -⟩
  exact linked rfl

/-- The delay to the server itself is measured, not the one through the base. -/
theorem not_measuresConnect_chained :
    { exitServer with chainId := txt "entry" } ∈
        selectable .ascii (chainedStore (txt "entry")).configs ∧
      ¬MeasuresConnect .ascii (chainedStore (txt "entry")) 0
        { exitServer with chainId := txt "entry" } := by
  refine ⟨by decide +kernel, ?_⟩
  rintro ⟨root, launch, isRoot, isLaunch, samePath⟩
  have tested : measurement .ascii { exitServer with chainId := txt "entry" } =
      .measureDelay _ := if_neg (by decide +kernel)
  have started : proceedConnect .ascii (plainStore (chainedStore (txt "entry"))) 0 false
      { exitServer with chainId := txt "entry" } = .core _ := proceedConnect_eq (by decide)
  cases tested.symm.trans isRoot
  cases started.symm.trans isLaunch
  exact absurd ((samePath_testRoot_iff rfl rfl rfl).mp samePath) (by decide +kernel)

end GRoute.AutoSelector
