import GRoute.ConfigBuilder.Build

/-!
# The config store

The state that `ConfigStore.kt` holds in memory and its operations: the configs, the
subscriptions, the selected config and the settings that a connection depends on.
Identifiers and times that the source draws are arguments. Of `restoreSettings` the model
has the setters that it calls and whether it ends without an exception, not the object
from which it reads them. What is written to the preferences is not part of this state.
-/

namespace GRoute

open Text

structure Subscription where
  name : Text
  url : Text
  used : ℤ := 0
  total : ℤ := 0
  expire : ℤ := 0
  lastUpdated : ℤ := 0
  id : Text
  deriving DecidableEq, Repr

/-- The settings that a connection depends on. -/
structure Settings where
  fragment : Bool := false
  fragmentPackets : Text := txt "tlshello"
  fragmentLength : Text := txt "10-20"
  fragmentInterval : Text := txt "10-20"
  splitRouting : Bool := false
  sniffing : Bool := false
  sniffTypes : List Text := [txt "http", txt "tls", txt "quic"]
  coreLogLevel : Text := txt "warning"
  killSwitch : Bool := false
  mux : Bool := false
  muxConcurrency : ℤ := 8
  onionRouting : Bool := false
  encryptedDns : Bool := false
  fakeDns : Bool := false
  adBlock : Bool := false
  mixedPort : ℤ := 10626
  deriving DecidableEq, Repr

/-- The calls of the setters. -/
inductive Setting
  | setFragment (enabled : Bool)
  | setFragmentPackets (value : Text)
  | setFragmentLength (value : Text)
  | setFragmentInterval (value : Text)
  | setSplitRouting (enabled : Bool)
  | setSniffing (enabled : Bool)
  | toggleSniffType (type : Text)
  /-- The assignment that `restoreSettings` makes. -/
  | setSniffTypes (types : List Text)
  | setCoreLogLevel (level : Text)
  | setKillSwitch (enabled : Bool)
  | setMux (enabled : Bool)
  | setMuxConcurrency (value : ℤ)
  | setOnionRouting (enabled : Bool)
  | setEncryptedDns (enabled : Bool)
  | setFakeDns (enabled : Bool)
  | setAdBlock (enabled : Bool)
  | setMixedPort (port : ℤ)
  deriving DecidableEq, Repr

def Settings.set (settings : Settings) : Setting → Settings
  | .setFragment enabled => { settings with fragment := enabled }
  | .setFragmentPackets value => { settings with fragmentPackets := value }
  | .setFragmentLength value => { settings with fragmentLength := value }
  | .setFragmentInterval value => { settings with fragmentInterval := value }
  | .setSplitRouting enabled => { settings with splitRouting := enabled }
  | .setSniffing enabled => { settings with sniffing := enabled }
  | .toggleSniffType type =>
      { settings with
        sniffTypes :=
          if type ∈ settings.sniffTypes then settings.sniffTypes.filter (· ≠ type)
          else settings.sniffTypes ++ [type] }
  | .setSniffTypes types => { settings with sniffTypes := types }
  | .setCoreLogLevel level => { settings with coreLogLevel := level }
  | .setKillSwitch enabled => { settings with killSwitch := enabled }
  | .setMux enabled => { settings with mux := enabled }
  | .setMuxConcurrency value => { settings with muxConcurrency := max 1 (min 128 value) }
  | .setOnionRouting enabled => { settings with onionRouting := enabled }
  | .setEncryptedDns enabled => { settings with encryptedDns := enabled }
  | .setFakeDns enabled => { settings with fakeDns := enabled }
  | .setAdBlock enabled => { settings with adBlock := enabled }
  | .setMixedPort port => { settings with mixedPort := max 1024 (min 65535 port) }

/-- The store in memory. -/
structure ConfigStore where
  configs : List ProxyConfig := []
  subscriptions : List Subscription := []
  selectedId : Option Text := none
  aetherSeeded : Bool := false
  settings : Settings := {}
  deriving DecidableEq, Repr

namespace ConfigStore

variable (store : ConfigStore)

/-- `configs.value.find { it.id == id }`. -/
def find (id : Text) : Option ProxyConfig := store.configs.find? fun config => config.id = id

variable {store} in
theorem id_of_find {id : Text} {config : ProxyConfig} (found : store.find id = some config) :
    config.id = id := by
  have holds := List.find?_some found
  exact of_decide_eq_true holds

variable {store} in
theorem exists_find_iff {id : Text} :
    (∃ config, store.find id = some config) ↔ ∃ config ∈ store.configs, config.id = id := by
  rw [← Option.isSome_iff_exists, find, List.find?_isSome]
  simp only [decide_eq_true_eq]

def setSelectedId (id : Option Text) : ConfigStore := { store with selectedId := id }

def add (config : ProxyConfig) : ConfigStore := { store with configs := store.configs ++ [config] }

/-- `fresh` is the subscription that is made if there is none of that name. -/
def addToLocalSub (name : Text) (configs : List ProxyConfig) (fresh : Subscription) :
    ConfigStore :=
  if configs = [] then store
  else
    let existing := store.subscriptions.find? fun sub => sub.name = name ∧ isBlank sub.url
    let sub := existing.getD { fresh with name := name, url := [] }
    { store with
      subscriptions := store.subscriptions ++ if existing.isNone then [sub] else []
      configs := store.configs ++ configs.map fun config => { config with subId := sub.id } }

def update (config : ProxyConfig) : ConfigStore :=
  { store with
    configs := store.configs.map fun existing =>
      if existing.id ≠ config.id then existing
      else if existing.locked then { existing with name := config.name }
      else config }

variable {store} in
theorem mem_configs_update {config changed : ProxyConfig}
    (mem : config ∈ (store.update changed).configs) :
    config ∈ store.configs ∧ config.id ≠ changed.id ∨
      config.id = changed.id ∧ (config = changed ∨
        ∃ existing ∈ store.configs, existing.id = changed.id ∧ existing.locked = true) := by
  rcases List.mem_map.mp mem with ⟨existing, before, rfl⟩
  by_cases other : existing.id ≠ changed.id
  · rw [if_pos other]
    exact .inl ⟨before, other⟩
  · rw [if_neg other]
    have same := not_not.mp other
    by_cases locked : existing.locked = true
    · rw [if_pos locked]
      exact .inr ⟨same, .inr ⟨existing, before, same, locked⟩⟩
    · rw [if_neg locked]
      exact .inr ⟨rfl, .inl rfl⟩

variable {store} in
theorem find_update {config existing : ProxyConfig} (found : store.find config.id = some existing)
    (unlocked : existing.locked = false) :
    (store.update config).find config.id = some config := by
  have keepsId (other : ProxyConfig) : (if other.id ≠ config.id then other
      else if other.locked then { other with name := config.name } else config).id = config.id ↔
        other.id = config.id := by
    split_ifs <;> simp_all
  rw [find, update, List.find?_map]
  simp only [Function.comp_def, keepsId]
  rw [show store.configs.find? _ = some existing from found, Option.map_some,
    if_neg (not_not.mpr (id_of_find found)), unlocked, if_neg Bool.false_ne_true]

def addImported (imported : List ProxyConfig) : ConfigStore :=
  { store with configs := store.configs ++ imported }

def delete (id : Text) : ConfigStore :=
  { store with
    configs := store.configs.filter fun config => config.id ≠ id
    selectedId := if store.selectedId = some id then none else store.selectedId }

def defaultAether (id : Text) : ProxyConfig where
  id := id
  name := txt "Aether (MASQUE)"
  protocol := txt "aether"
  address := txt "127.0.0.1"
  port := ConfigBuilder.aetherSocksPort
  aetherMode := txt "masque"
  aetherScan := txt "balanced"
  aetherHttp2 := true
  source := .community

def seedDefaultAetherIfNeeded (id : Text) : ConfigStore :=
  if store.aetherSeeded then store
  else if store.configs.any fun config => config.protocol = txt "aether" then
    { store with aetherSeeded := true }
  else
    { store with
      aetherSeeded := true
      configs := store.configs ++ [defaultAether id]
      selectedId := if store.selectedId.getD [] = [] then some id else store.selectedId }

def sigOf (c : ProxyConfig) : Text :=
  joinWith (unit '|') [c.protocol, c.address, ofInt c.port, c.uuid, c.password]

/-- One round of the loop over the fetched configs. `oldBySig` maps a signature to the last
config that had it, and an entry is removed when it is used. -/
def tagFetched (subId : Text) (state : List (Text × ProxyConfig) × List ProxyConfig)
    (f : ProxyConfig) : List (Text × ProxyConfig) × List ProxyConfig :=
  let kept := (state.1.find? fun entry => entry.1 = sigOf f).map Prod.snd
  (state.1.filter fun entry => entry.1 ≠ sigOf f,
    state.2 ++ [{ f with subId := subId, id := (kept.map ProxyConfig.id).getD f.id }])

def upsertSubscription (sub : Subscription) (fetched : List ProxyConfig) : ConfigStore :=
  let old := store.configs.filter fun config => config.subId = sub.id
  let oldBySig := (old.map fun config => (sigOf config, config)).reverse
  let tagged := (fetched.foldl (tagFetched sub.id) (oldBySig, [])).2
  { store with
    configs := (store.configs.filter fun config => config.subId ≠ sub.id) ++ tagged
    subscriptions := (store.subscriptions.filter fun other => other.id ≠ sub.id) ++ [sub] }

def renameSubscription (id newName : Text) : ConfigStore :=
  { store with
    subscriptions := store.subscriptions.map fun sub =>
      if sub.id = id then { sub with name := newName } else sub }

def deleteConfigsByIds (ids : List Text) : ConfigStore :=
  if ids = [] then store
  else
    { store with
      configs := store.configs.filter fun config => config.id ∉ ids
      selectedId := store.selectedId.filter fun id => id ∉ ids }

def deleteAllConfigs : ConfigStore :=
  { store with configs := [], subscriptions := [], selectedId := none }

def deleteSubscription (id : Text) : ConfigStore :=
  { store with
    configs := store.configs.filter fun config => config.subId ≠ id
    subscriptions := store.subscriptions.filter fun sub => sub.id ≠ id }

/-- What `restoreSettings` does with the settings of a backup. -/
structure RestoredSettings where
  changes : List Setting
  completes : Bool
  /-- `settings.optString("selectedId")`. -/
  selectedId : Text
  deriving DecidableEq, Repr

/-- An exception in `restoreSettings` leaves the selected config as it was. -/
def restoreBackup (configs : List ProxyConfig) (subs : List Subscription)
    (restored : Option RestoredSettings) : ConfigStore :=
  let changes := (restored.map RestoredSettings.changes).getD []
  let wanted := (restored.map RestoredSettings.selectedId).getD []
  let completes := (restored.map RestoredSettings.completes).getD true
  { store with
    configs := configs
    subscriptions := subs
    settings := changes.foldl Settings.set store.settings
    selectedId :=
      if !completes then store.selectedId
      else if configs.any fun config => config.id = wanted then some wanted
      else configs.head?.map ProxyConfig.id }

end ConfigStore

/-- The operations of the store. -/
inductive StoreOp
  | setSelectedId (id : Option Text)
  | add (config : ProxyConfig)
  | addToLocalSub (name : Text) (configs : List ProxyConfig) (fresh : Subscription)
  | update (config : ProxyConfig)
  | addImported (imported : List ProxyConfig)
  | delete (id : Text)
  | seedDefaultAetherIfNeeded (id : Text)
  | upsertSubscription (sub : Subscription) (fetched : List ProxyConfig)
  | renameSubscription (id newName : Text)
  | deleteConfigsByIds (ids : List Text)
  | deleteAllConfigs
  | deleteSubscription (id : Text)
  | restoreBackup (configs : List ProxyConfig) (subs : List Subscription)
      (restored : Option ConfigStore.RestoredSettings)
  | set (setting : Setting)
  deriving DecidableEq, Repr

namespace ConfigStore

def step (store : ConfigStore) : StoreOp → ConfigStore
  | .setSelectedId id => store.setSelectedId id
  | .add config => store.add config
  | .addToLocalSub name configs fresh => store.addToLocalSub name configs fresh
  | .update config => store.update config
  | .addImported imported => store.addImported imported
  | .delete id => store.delete id
  | .seedDefaultAetherIfNeeded id => store.seedDefaultAetherIfNeeded id
  | .upsertSubscription sub fetched => store.upsertSubscription sub fetched
  | .renameSubscription id newName => store.renameSubscription id newName
  | .deleteConfigsByIds ids => store.deleteConfigsByIds ids
  | .deleteAllConfigs => store.deleteAllConfigs
  | .deleteSubscription id => store.deleteSubscription id
  | .restoreBackup configs subs restored => store.restoreBackup configs subs restored
  | .set setting => { store with settings := store.settings.set setting }

/-- The store after a sequence of operations on an empty one. -/
def run (ops : List StoreOp) : ConfigStore := ops.foldl step {}

end ConfigStore

end GRoute
