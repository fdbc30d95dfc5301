import GRoute.Connect.Chain
import GRoute.ConfigBuilder.Closed

/-!
# Agreement of the ways to connect

The tile, the switch and the reconnect leave out arguments that the main screen passes,
and the main screen leaves out the settings of the fragmenter. They start the same tunnel,
with every stored setting in it, exactly if all that is left out has no effect.
-/

namespace GRoute.ConfigBuilder

open Text Json Xray

variable {platform : Platform} {config : ProxyConfig} {left right : BuildOptions}

/-- The options that decide about everything but ports, levels and outbounds are the same. -/
structure SameShape (left right : BuildOptions) : Prop where
  fragment : left.fragment = right.fragment
  splitRouting : left.splitRouting = right.splitRouting
  sniffing : left.sniffing = right.sniffing
  sniffTypes : left.sniffTypes = right.sniffTypes
  adBlock : left.adBlock = right.adBlock
  fakeDns : left.fakeDns = right.fakeDns
  encryptedDns : left.encryptedDns = right.encryptedDns
  onionRouting : left.onionRouting = right.onionRouting
  leftProxy : left.directOnly = false
  rightProxy : right.directOnly = false

theorem SameShape.onion (same : SameShape left right) : onion config left = onion config right := by
  rw [ConfigBuilder.onion, ConfigBuilder.onion, same.onionRouting]

theorem SameShape.fake (same : SameShape left right) : fake config left = fake config right := by
  rw [ConfigBuilder.fake, ConfigBuilder.fake, same.fakeDns, same.onion]

theorem SameShape.dnsOn (same : SameShape left right) : dnsOn config left = dnsOn config right := by
  rw [ConfigBuilder.dnsOn, ConfigBuilder.dnsOn, same.fake, same.encryptedDns]

theorem SameShape.dnsFields (same : SameShape left right) :
    dnsFields config left = dnsFields config right := by
  simp only [ConfigBuilder.dnsFields, dnsServers, same.fake, same.dnsOn, same.encryptedDns]

theorem SameShape.inbounds_iff (same : SameShape left right) {p q : ℤ} :
    inbounds p config left = inbounds q config right ↔ p = q := by
  have tun : tunIn config left = tunIn config right := by
    simp only [tunIn, destOverride, same.splitRouting, same.sniffing, same.sniffTypes, same.adBlock,
      same.fake]
  have socks (port : ℤ) : socksIn port left = socksIn port right := by
    simp only [socksIn, same.splitRouting, same.sniffing, same.adBlock]
  simp only [inbounds, tun, socks, same.onion]
  constructor
  · intro equal
    have heads : socksIn p right = socksIn q right := (List.cons.inj (List.cons.inj equal).2).1
    have port (number : ℤ) : (socksIn number right).field? (txt "port") = some (int number) := by
      simp +decide only [socksIn, List.cons_append, field?_object_cons, if_true, if_false]
    have ports : some (int p) = some (int q) := by
      rw [← port p, ← port q, heads]
    exact int_inj.mp (Option.some.inj ports)
  · rintro rfl
    rfl

theorem rules_congr (same : SameShape left right)
    (tor : (torUnder config left).isSome = (torUnder config right).isSome) :
    rules config left = rules config right := by
  simp only [rules, same.onion, same.dnsOn, same.adBlock, same.splitRouting, tor]

theorem field?_log_buildRoot (platform : Platform) (port : ℤ) (config : ProxyConfig)
    (options : BuildOptions) :
    (buildRoot platform port config options).field? (txt "log") =
      some (object [("loglevel", str (ifBlank options.coreLogLevel (txt "warning")))]) := by
  rw [buildRoot, field?_object_append, field?_object_append, field?_object_cons, if_pos rfl]
  rfl

theorem mem_tags_iff {options : BuildOptions} {tag : Text} :
    some tag ∈ (outbounds platform config options).map (stringOf · "tag") ↔
      ∃ present ∈ "proxy" :: laterTags config options, txt present = tag := by
  rw [map_stringOf_of_hasTag outbounds_tags, List.mem_map]
  simp only [Option.some.injEq]

theorem torbase_mem_tags_iff {options : BuildOptions} :
    some (txt "torbase") ∈ (outbounds platform config options).map (stringOf · "tag") ↔
      (torUnder config options).isSome = true := by
  rw [mem_tags_iff]
  constructor
  · rintro ⟨present, mem, same⟩
    rw [List.mem_cons, mem_laterTags] at mem
    rcases mem with rfl | ⟨-, rfl⟩ | rfl | rfl | ⟨-, rfl⟩ | ⟨under, rfl⟩ | ⟨-, rfl⟩ | ⟨-, rfl⟩
    case inr.inr.inr.inr.inr.inl => exact under
    all_goals exact absurd same (by decide)
  · intro under
    refine ⟨"torbase", ?_, rfl⟩
    rw [List.mem_cons, mem_laterTags]
    simp [under]

theorem chain_mem_tags_iff {options : BuildOptions} :
    some (txt "chain") ∈ (outbounds platform config options).map (stringOf · "tag") ↔
      (chained config options).isSome = true := by
  rw [mem_tags_iff]
  constructor
  · rintro ⟨present, mem, same⟩
    rw [List.mem_cons, mem_laterTags] at mem
    rcases mem with rfl | ⟨-, rfl⟩ | rfl | rfl | ⟨-, rfl⟩ | ⟨-, rfl⟩ | ⟨isChained, rfl⟩ | ⟨-, rfl⟩
    case inr.inr.inr.inr.inr.inr.inl => exact isChained
    all_goals exact absurd same (by decide)
  · intro isChained
    refine ⟨"chain", ?_, rfl⟩
    rw [List.mem_cons, mem_laterTags]
    simp [isChained]

theorem torUnder_of_outbounds_eq
    (equal : outbounds platform config left = outbounds platform config right) :
    (torUnder config left).isSome = (torUnder config right).isSome := by
  rw [Bool.eq_iff_iff, ← torbase_mem_tags_iff, ← torbase_mem_tags_iff, equal]

theorem chained_of_outbounds_eq
    (equal : outbounds platform config left = outbounds platform config right) :
    (chained config left).isSome = (chained config right).isSome := by
  rw [Bool.eq_iff_iff, ← chain_mem_tags_iff, ← chain_mem_tags_iff, equal]

theorem buildRoot_eq_iff (same : SameShape left right) {p q : ℤ} :
    buildRoot platform p config left = buildRoot platform q config right ↔
      p = q ∧ ifBlank left.coreLogLevel (txt "warning") =
        ifBlank right.coreLogLevel (txt "warning") ∧
        outbounds platform config left = outbounds platform config right := by
  constructor
  · intro equal
    have ins : inbounds p config left = inbounds q config right := by
      have parts := congrArg inboundsOf equal
      rwa [inboundsOf_buildRoot, inboundsOf_buildRoot] at parts
    have outs : outbounds platform config left = outbounds platform config right := by
      have parts := congrArg outboundsOf equal
      rwa [outboundsOf_buildRoot, outboundsOf_buildRoot] at parts
    have logs := field?_log_buildRoot platform p config left
    rw [equal, field?_log_buildRoot, Option.some.injEq] at logs
    have levels : ifBlank right.coreLogLevel (txt "warning") =
        ifBlank left.coreLogLevel (txt "warning") := by
      simpa [object] using logs
    exact ⟨same.inbounds_iff.mp ins, levels.symm, outs⟩
  · rintro ⟨ports, levels, outs⟩
    rw [buildRoot, buildRoot, levels, same.dnsFields, same.inbounds_iff.mpr ports, outs,
      rules_congr same (torUnder_of_outbounds_eq outs)]

theorem field?_mux_buildOutbound (c : ProxyConfig) :
    (buildOutbound platform c).field? (txt "mux") = none := by
  rw [buildOutbound]
  split_ifs
  · simp +decide only [buildWireguard, field?_object_cons, field?_object_nil, if_false]
  · decide
  · simp +decide only [buildHysteria2, field?_object_cons, field?_object_nil, if_false]
  · decide
  · simp +decide only [field?_object_cons, field?_object_nil, if_false]

theorem field?_mux_proxyOutbound (options : BuildOptions) :
    ((proxyOutbound platform config options).field? (txt "mux")).isSome = options.mux := by
  have dialing :
      (if (chained config options).isSome then chainOutbound (buildOutbound platform config)
      else if options.fragment then fragmentOutbound (buildOutbound platform config)
      else buildOutbound platform config).field? (txt "mux") = none := by
    rw [← field?_mux_buildOutbound config]
    split_ifs
    · exact field?_put_of_ne _ (by decide) _
    · rw [fragmentOutbound]
      split
      · exact field?_put_of_ne _ (by decide) _
      · rfl
    · rfl
  have isObj : ∃ fields, (if (chained config options).isSome then
      chainOutbound (buildOutbound platform config)
      else if options.fragment then fragmentOutbound (buildOutbound platform config)
      else buildOutbound platform config) = obj fields := by
    rcases buildOutbound_eq_obj platform config with ⟨fields, shape⟩
    rw [shape]
    split_ifs
    · exact ⟨_, rfl⟩
    · rw [fragmentOutbound]
      split
      · exact ⟨_, rfl⟩
      · exact ⟨_, rfl⟩
    · exact ⟨_, rfl⟩
  simp only [proxyOutbound]
  cases mux : options.mux with
  | false =>
      rw [if_neg (by simp), dialing]
      rfl
  | true =>
      rcases isObj with ⟨fields, shape⟩
      rw [if_pos rfl, muxOutbound, shape, field?_put_self]
      rfl

theorem mux_of_outbounds_eq (same : SameShape left right)
    (equal : outbounds platform config left = outbounds platform config right) :
    left.mux = right.mux := by
  have first : proxyOutbound platform config left = proxyOutbound platform config right := by
    have heads := (List.cons.inj equal).1
    rwa [same.leftProxy, same.rightProxy] at heads
  rw [← field?_mux_proxyOutbound left, first, field?_mux_proxyOutbound]

theorem fragmentFreedom_eq_iff :
    fragmentFreedom left = fragmentFreedom right ↔
      ifBlank left.fragmentPackets (txt "tlshello") =
          ifBlank right.fragmentPackets (txt "tlshello") ∧
        ifBlank left.fragmentLength (txt "10-20") = ifBlank right.fragmentLength (txt "10-20") ∧
        ifBlank left.fragmentInterval (txt "10-20") =
          ifBlank right.fragmentInterval (txt "10-20") := by
  simp [fragmentFreedom, object]

theorem fragmentFreedom_of_outbounds_eq (same : SameShape left right)
    (equal : outbounds platform config left = outbounds platform config right)
    (fragment : right.fragment = true) : fragmentFreedom left = fragmentFreedom right := by
  have rest := (List.cons.inj equal).2
  simp only [laterOutbounds, same.fragment, fragment, if_true, List.cons_append,
    List.append_assoc] at rest
  exact (List.cons.inj rest).1

theorem outbounds_congr (same : SameShape left right)
    (chain : chained config left = chained config right)
    (tor : torUnder config left = torUnder config right) (mux : left.mux = right.mux)
    (concurrency : right.mux = true → left.muxConcurrency = right.muxConcurrency)
    (freedom : right.fragment = true → fragmentFreedom left = fragmentFreedom right) :
    outbounds platform config left = outbounds platform config right := by
  have proxy : proxyOutbound platform config left = proxyOutbound platform config right := by
    simp only [proxyOutbound, chain, same.fragment, mux]
    split
    · next on => rw [muxOutbound, muxOutbound, concurrency on]
    · rfl
  have later : laterOutbounds platform config left = laterOutbounds platform config right := by
    simp only [laterOutbounds, same.fragment, same.onion, tor, chain, same.dnsOn]
    split
    · next on => rw [freedom on]
    · rfl
  rw [outbounds, outbounds, same.leftProxy, same.rightProxy, proxy, later]

end GRoute.ConfigBuilder

namespace GRoute.Connect

open Text ConfigBuilder

variable {platform : Platform} {store : ConfigStore} {config : ProxyConfig}

/-- The options with every stored setting. -/
def storedOptions (store : ConfigStore) (config : ProxyConfig) : BuildOptions :=
  { mainOptions store config with
    fragmentPackets := store.settings.fragmentPackets
    fragmentLength := store.settings.fragmentLength
    fragmentInterval := store.settings.fragmentInterval }

/-- The configuration that reflects every stored setting. -/
def storedRoot (platform : Platform) (store : ConfigStore) (config : ProxyConfig) : Json :=
  buildRoot platform store.settings.mixedPort config (storedOptions store config)

/-- The service reads the same from the extras; `AetherSpec.parse` reads a blank text as none. -/
def SameExtras (left right : Launch) : Prop :=
  left.aether.filter (!isBlank ·) = right.aether.filter (!isBlank ·) ∧ left.tor = right.tor

/-- Both start the core, with equal extras and the configuration of the stored settings. -/
def Agree (platform : Platform) (store : ConfigStore) (config : ProxyConfig) (other main : Start) :
    Prop :=
  ∃ left right, other = .core left ∧ main = .core right ∧ left.root = right.root ∧
    SameExtras left right ∧ left.root = storedRoot platform store config

/-- The config has a base for Tor that the main screen finds. -/
def FindsTorBase (store : ConfigStore) (config : ProxyConfig) : Prop :=
  config.protocol = txt "tor" ∧ config.torBaseId ≠ [] ∧
    ∃ base ∈ store.configs, base.id = config.torBaseId

def Request.IsTile : Request → Prop
  | .tile _ => True
  | _ => False

/-- The fragmenter is off, or its stored settings are the defaults of `build`. -/
def DefaultFragment (store : ConfigStore) : Prop :=
  store.settings.fragment = true →
    ifBlank store.settings.fragmentPackets (txt "tlshello") = txt "tlshello" ∧
    ifBlank store.settings.fragmentLength (txt "10-20") = txt "10-20" ∧
    ifBlank store.settings.fragmentInterval (txt "10-20") = txt "10-20"

/-- What is left out has no effect. -/
structure NothingLost (store : ConfigStore) (config : ProxyConfig) (request : Request)
    (port mainPort : ℤ) : Prop where
  port : port = store.settings.mixedPort
  mainPort : mainPort = store.settings.mixedPort
  mux : store.settings.mux = false
  chain : ¬(config.chainId ≠ [] ∧ HasBase store config)
  torBase : ¬FindsTorBase store config
  onion : config.protocol = txt "tor" ∨ store.settings.onionRouting = false
  level : request.IsTile ∨ ifBlank store.settings.coreLogLevel (txt "warning") = txt "warning"
  fragment : DefaultFragment store

theorem sameShape_main : SameShape (mainOptions store config) (storedOptions store config) := by
  constructor <;> rfl

theorem sameShape_shared (level : Text) :
    SameShape { sharedOptions store with coreLogLevel := level } (storedOptions store config) := by
  constructor <;> rfl

theorem chained_storedOptions_eq_none_iff :
    chained config (storedOptions store config) = none ↔
      ¬(config.chainId ≠ [] ∧ HasBase store config) := by
  by_cases linked : config.chainId = []
  · simp [chained, storedOptions, mainOptions, linked]
  · have some_iff : (∃ base, chained config (mainOptions store config) = some base) ↔
        HasBase store config := by
      simp only [chained_mainOptions_iff linked, exists_and_right, ConfigStore.exists_find_iff,
        HasBase]
      exact and_comm
    rw [← some_iff, and_iff_right linked]
    exact Option.eq_none_iff_forall_ne_some.trans (by simp [storedOptions, chained])

theorem torUnder_storedOptions_eq_none_iff :
    torUnder config (storedOptions store config) = none ↔ ¬FindsTorBase store config := by
  by_cases isTor : config.protocol = txt "tor"
  · by_cases noId : config.torBaseId = []
    · simp [torUnder, storedOptions, mainOptions, isTor, noId, FindsTorBase]
    · have shape : torUnder config (storedOptions store config) = store.find config.torBaseId := by
        simp [torUnder, storedOptions, mainOptions, isTor, noId]
      rw [shape, FindsTorBase, ← ConfigStore.exists_find_iff]
      simp [isTor, noId, Option.eq_none_iff_forall_ne_some]
  · simp [torUnder, isTor, FindsTorBase]

theorem fragmentFreedom_stored_iff {options : BuildOptions}
    (packets : options.fragmentPackets = txt "tlshello")
    (length : options.fragmentLength = txt "10-20")
    (interval : options.fragmentInterval = txt "10-20") :
    fragmentFreedom options = fragmentFreedom (storedOptions store config) ↔
      ifBlank store.settings.fragmentPackets (txt "tlshello") = txt "tlshello" ∧
      ifBlank store.settings.fragmentLength (txt "10-20") = txt "10-20" ∧
      ifBlank store.settings.fragmentInterval (txt "10-20") = txt "10-20" := by
  have packetsText : ifBlank (txt "tlshello") (txt "tlshello") = txt "tlshello" := by decide
  have rangeText : ifBlank (txt "10-20") (txt "10-20") = txt "10-20" := by decide
  rw [fragmentFreedom_eq_iff, packets, length, interval, packetsText, rangeText]
  simp only [storedOptions, eq_comm]

theorem root_main_iff {port : ℤ} :
    buildRoot platform port config (mainOptions store config) = storedRoot platform store config ↔
      port = store.settings.mixedPort ∧ DefaultFragment store := by
  rw [storedRoot, buildRoot_eq_iff sameShape_main]
  constructor
  · rintro ⟨ports, -, outs⟩
    refine ⟨ports, ?_⟩
    intro fragment
    exact (fragmentFreedom_stored_iff rfl rfl rfl).mp
      (fragmentFreedom_of_outbounds_eq sameShape_main outs fragment)
  · rintro ⟨ports, default⟩
    refine ⟨ports, rfl, outbounds_congr sameShape_main rfl rfl rfl (fun _ => rfl) ?_⟩
    intro fragment
    exact (fragmentFreedom_stored_iff rfl rfl rfl).mpr (default fragment)

theorem root_shared_iff {port : ℤ} (level : Text) :
    buildRoot platform port config { sharedOptions store with coreLogLevel := level } =
        storedRoot platform store config ↔
      port = store.settings.mixedPort ∧
        ifBlank level (txt "warning") = ifBlank store.settings.coreLogLevel (txt "warning") ∧
        store.settings.mux = false ∧ ¬(config.chainId ≠ [] ∧ HasBase store config) ∧
        ¬FindsTorBase store config ∧ DefaultFragment store := by
  have same : SameShape { sharedOptions store with coreLogLevel := level }
      (storedOptions store config) := sameShape_shared level
  have noTor : torUnder config { sharedOptions store with coreLogLevel := level } = none := by
    rw [torUnder]
    split <;> rfl
  rw [storedRoot, buildRoot_eq_iff same, ← chained_storedOptions_eq_none_iff,
    ← torUnder_storedOptions_eq_none_iff]
  constructor
  · rintro ⟨ports, levels, outs⟩
    have chain : (chained config (storedOptions store config)).isSome = false :=
      (chained_of_outbounds_eq outs).symm
    have tor : (torUnder config (storedOptions store config)).isSome = false := by
      rw [← torUnder_of_outbounds_eq outs, noTor]
      rfl
    refine ⟨ports, levels, (mux_of_outbounds_eq same outs).symm, ?_, ?_, ?_⟩
    · exact Option.isNone_iff_eq_none.mp (by simpa using chain)
    · exact Option.isNone_iff_eq_none.mp (by simpa using tor)
    · intro fragment
      exact (fragmentFreedom_stored_iff rfl rfl rfl).mp
        (fragmentFreedom_of_outbounds_eq same outs fragment)
  · rintro ⟨ports, levels, mux, chain, tor, default⟩
    refine ⟨ports, levels, outbounds_congr same chain.symm (noTor.trans tor.symm) mux.symm ?_ ?_⟩
    · intro on
      exact absurd (mux.symm.trans on) (by decide)
    · intro fragment
      exact (fragmentFreedom_stored_iff rfl rfl rfl).mpr (default fragment)

/-- What the main screen hands to the service. -/
def mainLaunch (platform : Platform) (store : ConfigStore) (mixedPort : ℤ) (config : ProxyConfig) :
    Launch where
  root := buildRoot platform mixedPort config (mainOptions store config)
  aether := if config.protocol = txt "aether" then
      some (((AetherSpec.ofConfig config).map AetherSpec.toJson).getD [])
    else some []
  tor := if config.protocol = txt "tor" then some (torExtra config)
    else if store.settings.onionRouting then some (txt "|1")
    else none

theorem proceedConnect_eq {mixedPort : ℤ} (notIke : config.protocol ≠ txt "ikev2") :
    proceedConnect platform store mixedPort false config =
      .core (mainLaunch platform store mixedPort config) := by
  rw [proceedConnect, if_neg Bool.false_ne_true, if_neg notIke]
  rfl

theorem sameExtras_main_iff {port mainPort : ℤ} {options : BuildOptions} :
    SameExtras (launch platform port config options) (mainLaunch platform store mainPort config) ↔
      config.protocol = txt "tor" ∨ store.settings.onionRouting = false := by
  have aether : (launch platform port config options).aether.filter (!isBlank ·) =
      (mainLaunch platform store mainPort config).aether.filter (!isBlank ·) := by
    by_cases isAether : config.protocol = txt "aether"
    · simp [launch, mainLaunch, AetherSpec.ofConfig, isAether]
    · simp only [launch, mainLaunch, AetherSpec.ofConfig, ne_eq, isAether, not_false_eq_true,
        if_true, if_false, Option.map_none]
      rfl
  rw [SameExtras, and_iff_right aether]
  by_cases isTor : config.protocol = txt "tor"
  · simp [launch, mainLaunch, isTor]
  · simp [launch, mainLaunch, isTor]

theorem agree_launch_iff {port mainPort : ℤ} {level : Text}
    (notIke : config.protocol ≠ txt "ikev2") :
    Agree platform store config
        (.core (launch platform port config { sharedOptions store with coreLogLevel := level }))
        (proceedConnect platform store mainPort false config) ↔
      (port = store.settings.mixedPort ∧
        ifBlank level (txt "warning") = ifBlank store.settings.coreLogLevel (txt "warning") ∧
        store.settings.mux = false ∧ ¬(config.chainId ≠ [] ∧ HasBase store config) ∧
        ¬FindsTorBase store config ∧ DefaultFragment store) ∧
      mainPort = store.settings.mixedPort ∧
      (config.protocol = txt "tor" ∨ store.settings.onionRouting = false) := by
  rw [proceedConnect_eq notIke]
  constructor
  · rintro ⟨left, right, ⟨⟩, ⟨⟩, roots, extras, stored⟩
    exact ⟨(root_shared_iff level).mp stored, (root_main_iff.mp (roots.symm.trans stored)).1,
      sameExtras_main_iff.mp extras⟩
  · rintro ⟨shared, isPort, onion⟩
    have stored : buildRoot platform port config
        { sharedOptions store with coreLogLevel := level } = storedRoot platform store config :=
      (root_shared_iff level).mpr shared
    have main : buildRoot platform mainPort config (mainOptions store config) =
        storedRoot platform store config := root_main_iff.mpr ⟨isPort, shared.2.2.2.2.2⟩
    exact ⟨_, _, rfl, rfl, stored.trans main.symm, sameExtras_main_iff.mpr onion, stored⟩

/-- Another way to connect agrees with the main screen and with the stored settings, exactly
if what it leaves out has no effect. -/
theorem agree_start_iff {request : Request} {port mainPort : ℤ} (notMain : ¬request.IsMain)
    (started : ¬request.Refused) (requests : requested store request = some config)
    (notIke : config.protocol ≠ txt "ikev2") :
    Agree platform store config (start platform store port request)
        (start platform store mainPort (.main false config)) ↔
      NothingLost store config request port mainPort := by
  have warning : ifBlank (txt "warning") (txt "warning") = txt "warning" := by decide
  have assembled (level : Text) (reads : ifBlank level (txt "warning") =
      ifBlank store.settings.coreLogLevel (txt "warning") ↔
        request.IsTile ∨ ifBlank store.settings.coreLogLevel (txt "warning") = txt "warning") :
      Agree platform store config
          (.core (launch platform port config { sharedOptions store with coreLogLevel := level }))
          (proceedConnect platform store mainPort false config) ↔
        NothingLost store config request port mainPort := by
    rw [agree_launch_iff notIke, reads]
    constructor
    · rintro ⟨⟨isPort, level, mux, chain, torBase, fragment⟩, isMainPort, onion⟩
      exact ⟨isPort, isMainPort, mux, chain, torBase, onion, level, fragment⟩
    · rintro ⟨isPort, isMainPort, mux, chain, torBase, onion, level, fragment⟩
      exact ⟨⟨isPort, level, mux, chain, torBase, fragment⟩, isMainPort, onion⟩
  cases request with
  | main connected other => exact absurd trivial notMain
  | tile permitted =>
      have selected : tileConfig store = some config := requests
      have isPermitted : permitted = true := by
        simpa [Request.Refused] using started
      subst isPermitted
      simp only [start, startTunnel, selected, Bool.not_true, Bool.false_eq_true, if_false]
      exact assembled _ (by simp [Request.IsTile])
  | switch tearingDown other =>
      cases requests
      have running : tearingDown = false := by
        simpa [Request.Refused] using started
      subst running
      apply assembled (txt "warning")
      rw [warning, eq_comm]
      simp [Request.IsTile]
  | reconnect connected permitted other =>
      cases requests
      have ready : connected = true ∧ permitted = true := by
        simpa [Request.Refused] using started
      rcases ready with ⟨rfl, rfl⟩
      apply assembled (txt "warning")
      rw [warning, eq_comm]
      simp [Request.IsTile]

/-- The tile connects the selected config. -/
def selectedStore (mux : Bool) : ConfigStore :=
  ConfigStore.run [.add hopConfig, .setSelectedId (some (txt "hop")), .set (.setMux mux)]

theorem agree_selectedStore :
    Agree .ascii (selectedStore false) hopConfig
      (start .ascii (selectedStore false) 10626 (.tile true))
      (start .ascii (selectedStore false) 10626 (.main false hopConfig)) :=
  (agree_start_iff id (by simp [Request.Refused]) rfl (by decide)).mpr
    { port := rfl
      mainPort := rfl
      mux := rfl
      chain := fun linked => linked.1 rfl
      torBase := fun finds => absurd finds.1 (by decide)
      onion := .inr rfl
      level := .inl trivial
      fragment := fun fragment => absurd fragment (by decide) }

/-- With multiplexing on, the tile builds an outbound without it. -/
theorem not_agree_selectedStore :
    ¬Agree .ascii (selectedStore true) hopConfig
      (start .ascii (selectedStore true) 10626 (.tile true))
      (start .ascii (selectedStore true) 10626 (.main false hopConfig)) := by
  intro agree
  have mux : (selectedStore true).settings.mux = false :=
    ((agree_launch_iff (by decide)).mp agree).1.2.2.1
  exact absurd mux (by decide)

end GRoute.Connect
