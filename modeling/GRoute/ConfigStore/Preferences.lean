import GRoute.ConfigStore
import GRoute.Foundation.Fields
import GRoute.Foundation.JsonObject

/-!
# Settings in backups

`settingsSnapshot`, `restoreSettings` and `restoreBackup` on all settings of `ConfigStore.kt`. A
snapshot has an entry for each of them but the log level. Restoring reads the entries one after
another, with accessors that throw if an entry is there and has the wrong type, and sets each
value before the next entry is read. The lists are replaced before the first entry is read, so
an exception leaves the store half restored.
-/

namespace GRoute

open Text

inductive ThemeMode
  | system
  | light
  | dark
  | amoled
  deriving DecidableEq, Repr

namespace ThemeMode

def name : ThemeMode → Text
  | system => txt "SYSTEM"
  | light => txt "LIGHT"
  | dark => txt "DARK"
  | amoled => txt "AMOLED"

/-- With `none` for the exception, as below. -/
def valueOf (name : Text) : Option ThemeMode :=
  [system, light, dark, amoled].find? fun mode => mode.name = name

theorem valueOf_name (mode : ThemeMode) : valueOf mode.name = some mode := by
  cases mode <;> decide

end ThemeMode

inductive Lang
  | en
  | fa
  deriving DecidableEq, Repr

namespace Lang

def name : Lang → Text
  | en => txt "EN"
  | fa => txt "FA"

def valueOf (name : Text) : Option Lang := [en, fa].find? fun lang => lang.name = name

theorem valueOf_name (lang : Lang) : valueOf lang.name = some lang := by
  cases lang <;> decide

end Lang

inductive PerAppMode
  | off
  | allowlist
  | blocklist
  deriving DecidableEq, Repr

namespace PerAppMode

def name : PerAppMode → Text
  | off => txt "OFF"
  | allowlist => txt "ALLOWLIST"
  | blocklist => txt "BLOCKLIST"

def valueOf (name : Text) : Option PerAppMode :=
  [off, allowlist, blocklist].find? fun mode => mode.name = name

theorem valueOf_name (mode : PerAppMode) : valueOf mode.name = some mode := by
  cases mode <;> decide

end PerAppMode

/-- With the language of a device that is not set to Persian. -/
structure Preferences extends Settings where
  globeStyle : Text := txt "filled"
  blockWhenOff : Bool := false
  sortMode : Text := txt "added"
  autoSelect : Bool := false
  autoRefreshHours : ℤ := 1
  themeMode : ThemeMode := .dark
  lang : Lang := .en
  perAppMode : PerAppMode := .off
  perAppList : List Text := []
  deriving DecidableEq, Repr

namespace Preferences

/-- The entries of a snapshot, but for the selected config. -/
inductive Key
  | fragment
  | fragmentPackets
  | fragmentLength
  | fragmentInterval
  | splitRouting
  | sniffing
  | sniffTypes
  | killSwitch
  | mux
  | muxConcurrency
  | globeStyle
  | blockWhenOff
  | onionRouting
  | encryptedDns
  | fakeDns
  | adBlock
  | mixedPort
  | sortMode
  | autoSelect
  | autoRefreshHours
  | themeMode
  | lang
  | perAppMode
  | perAppList
  deriving DecidableEq, Repr

/-- How an entry is written and read. -/
inductive Kind
  | bool
  | text
  | int
  | texts
  | themeMode
  | lang
  | perAppMode
  deriving DecidableEq, Repr

namespace Kind

def Value : Kind → Type
  | bool => Bool
  | text => Text
  | int => ℤ
  | texts => List Text
  | themeMode => ThemeMode
  | lang => Lang
  | perAppMode => PerAppMode

/-- Both lists have the same texts in them. -/
def SameSet (value other : List Text) : Prop := ∀ text, text ∈ value ↔ text ∈ other

/-- The values are the same, texts as the sets that they are in the source. -/
def Same : (kind : Kind) → kind.Value → kind.Value → Prop
  | texts, value, other => SameSet value other
  | bool, value, other | text, value, other | int, value, other | themeMode, value, other
  | lang, value, other | perAppMode, value, other => value = other

theorem same_refl (kind : Kind) (value : kind.Value) : kind.Same value value := by
  cases kind with
  | texts => exact fun _ => Iff.rfl
  | bool | text | int | themeMode | lang | perAppMode => exact rfl

def write : (kind : Kind) → kind.Value → Json
  | bool, value => Json.bool value
  | text, value => Json.str value
  | int, value => Json.int value
  | texts, value => Json.strings value
  | themeMode, value => Json.str (ThemeMode.name value)
  | lang, value => Json.str (Lang.name value)
  | perAppMode, value => Json.str (PerAppMode.name value)

/-- A name that is empty or unknown is passed over. -/
def readName {α : Type} (valueOf : Text → Option α) (o : Json) (name : Text) : Reading α :=
  let v := o.optString name []
  if v = [] then .absent
  else
    match valueOf v with
    | none => .absent
    | some value => .value value

/-- `if (o.has(name)) get(name)`, with an accessor that may throw. -/
def readPresent {α : Type} (accessor : Json → Option α) (o : Json) (name : Text) : Reading α :=
  match o.field? name with
  | none => .absent
  | some value => .ofOption (accessor value)

/-- `toSet` keeps the first of equal texts. -/
def readTexts (o : Json) (name : Text) : Reading (List Text) :=
  match o.optArray name with
  | none => .absent
  | some elements => .value (elements.map Json.toText).eraseDups

def read (json : OrgObject) : (kind : Kind) → Json → Text → Reading kind.Value
  | bool => readPresent json.toBoolean
  | text => readPresent fun value => some value.toText
  | int => readPresent json.toInteger
  | texts => readTexts
  | themeMode => readName ThemeMode.valueOf
  | lang => readName Lang.valueOf
  | perAppMode => readName PerAppMode.valueOf

end Kind

namespace Key

def kind : Key → Kind
  | fragment | splitRouting | sniffing | killSwitch | mux | blockWhenOff | onionRouting
  | encryptedDns | fakeDns | adBlock | autoSelect => .bool
  | fragmentPackets | fragmentLength | fragmentInterval | globeStyle | sortMode => .text
  | muxConcurrency | mixedPort | autoRefreshHours => .int
  | sniffTypes | perAppList => .texts
  | themeMode => .themeMode
  | lang => .lang
  | perAppMode => .perAppMode

@[reducible]
def Value (key : Key) : Type := key.kind.Value

def name : Key → String
  | fragment => "fragment"
  | fragmentPackets => "fragmentPackets"
  | fragmentLength => "fragmentLength"
  | fragmentInterval => "fragmentInterval"
  | splitRouting => "splitRouting"
  | sniffing => "sniffing"
  | sniffTypes => "sniffTypes"
  | killSwitch => "killSwitch"
  | mux => "mux"
  | muxConcurrency => "muxConcurrency"
  | globeStyle => "globeStyle"
  | blockWhenOff => "blockWhenOff"
  | onionRouting => "onionRouting"
  | encryptedDns => "encryptedDns"
  | fakeDns => "fakeDns"
  | adBlock => "adBlock"
  | mixedPort => "mixedPort"
  | sortMode => "sortMode"
  | autoSelect => "autoSelect"
  | autoRefreshHours => "autoRefreshHours"
  | themeMode => "themeMode"
  | lang => "lang"
  | perAppMode => "perAppMode"
  | perAppList => "perAppList"

/-- In the order in which they are written and read. -/
def all : List Key :=
  [fragment, fragmentPackets, fragmentLength, fragmentInterval, splitRouting, sniffing, sniffTypes,
    killSwitch, mux, muxConcurrency, globeStyle, blockWhenOff, onionRouting, encryptedDns, fakeDns,
    adBlock, mixedPort, sortMode, autoSelect, autoRefreshHours, themeMode, lang, perAppMode,
    perAppList]

theorem mem_all (key : Key) : key ∈ all := by
  cases key <;> decide

theorem nodup_all : all.Nodup := by decide

def coerceIn (low high value : ℤ) : ℤ := max low (min high value)

/-- `setMuxConcurrency` and `setMixedPort` bring their argument into its range. -/
def clamp : (key : Key) → key.Value → key.Value
  | muxConcurrency, value => coerceIn 1 128 value
  | mixedPort, value => coerceIn 1024 65535 value
  | fragment, value | fragmentPackets, value | fragmentLength, value | fragmentInterval, value
  | splitRouting, value | sniffing, value | sniffTypes, value | killSwitch, value | mux, value
  | globeStyle, value | blockWhenOff, value | onionRouting, value | encryptedDns, value
  | fakeDns, value | adBlock, value | sortMode, value | autoSelect, value
  | autoRefreshHours, value | themeMode, value | lang, value | perAppMode, value
  | perAppList, value => value

/-- The value that is set. -/
def read (json : OrgObject) (o : Json) (key : Key) : Reading key.Value :=
  (key.kind.read json o (txt key.name)).map key.clamp

end Key

def get (s : Preferences) : (key : Key) → key.Value
  | .fragment => s.fragment
  | .fragmentPackets => s.fragmentPackets
  | .fragmentLength => s.fragmentLength
  | .fragmentInterval => s.fragmentInterval
  | .splitRouting => s.splitRouting
  | .sniffing => s.sniffing
  | .sniffTypes => s.sniffTypes
  | .killSwitch => s.killSwitch
  | .mux => s.mux
  | .muxConcurrency => s.muxConcurrency
  | .globeStyle => s.globeStyle
  | .blockWhenOff => s.blockWhenOff
  | .onionRouting => s.onionRouting
  | .encryptedDns => s.encryptedDns
  | .fakeDns => s.fakeDns
  | .adBlock => s.adBlock
  | .mixedPort => s.mixedPort
  | .sortMode => s.sortMode
  | .autoSelect => s.autoSelect
  | .autoRefreshHours => s.autoRefreshHours
  | .themeMode => s.themeMode
  | .lang => s.lang
  | .perAppMode => s.perAppMode
  | .perAppList => s.perAppList

/-- What the setters do with a value that is in range. -/
def set : (key : Key) → key.Value → Preferences → Preferences
  | .fragment, value, s => { s with fragment := value }
  | .fragmentPackets, value, s => { s with fragmentPackets := value }
  | .fragmentLength, value, s => { s with fragmentLength := value }
  | .fragmentInterval, value, s => { s with fragmentInterval := value }
  | .splitRouting, value, s => { s with splitRouting := value }
  | .sniffing, value, s => { s with sniffing := value }
  | .sniffTypes, value, s => { s with sniffTypes := value }
  | .killSwitch, value, s => { s with killSwitch := value }
  | .mux, value, s => { s with mux := value }
  | .muxConcurrency, value, s => { s with muxConcurrency := value }
  | .globeStyle, value, s => { s with globeStyle := value }
  | .blockWhenOff, value, s => { s with blockWhenOff := value }
  | .onionRouting, value, s => { s with onionRouting := value }
  | .encryptedDns, value, s => { s with encryptedDns := value }
  | .fakeDns, value, s => { s with fakeDns := value }
  | .adBlock, value, s => { s with adBlock := value }
  | .mixedPort, value, s => { s with mixedPort := value }
  | .sortMode, value, s => { s with sortMode := value }
  | .autoSelect, value, s => { s with autoSelect := value }
  | .autoRefreshHours, value, s => { s with autoRefreshHours := value }
  | .themeMode, value, s => { s with themeMode := value }
  | .lang, value, s => { s with lang := value }
  | .perAppMode, value, s => { s with perAppMode := value }
  | .perAppList, value, s => { s with perAppList := value }

/-- The record with the given values. -/
def ofGet (coreLogLevel : Text) (value : (key : Key) → key.Value) : Preferences where
  fragment := value .fragment
  fragmentPackets := value .fragmentPackets
  fragmentLength := value .fragmentLength
  fragmentInterval := value .fragmentInterval
  splitRouting := value .splitRouting
  sniffing := value .sniffing
  sniffTypes := value .sniffTypes
  coreLogLevel := coreLogLevel
  killSwitch := value .killSwitch
  mux := value .mux
  muxConcurrency := value .muxConcurrency
  onionRouting := value .onionRouting
  encryptedDns := value .encryptedDns
  fakeDns := value .fakeDns
  adBlock := value .adBlock
  mixedPort := value .mixedPort
  globeStyle := value .globeStyle
  blockWhenOff := value .blockWhenOff
  sortMode := value .sortMode
  autoSelect := value .autoSelect
  autoRefreshHours := value .autoRefreshHours
  themeMode := value .themeMode
  lang := value .lang
  perAppMode := value .perAppMode
  perAppList := value .perAppList

theorem get_ofGet (coreLogLevel : Text) (value : (key : Key) → key.Value) :
    (ofGet coreLogLevel value).get = value := by
  funext key
  cases key <;> rfl

theorem set_eq_ofGet (key : Key) (value : key.Value) (s : Preferences) :
    set key value s = ofGet s.coreLogLevel (Function.update s.get key value) := by
  cases key <;> rfl

/-- The settings are independent of each other. -/
def fields : Fields Preferences Key.Value where
  get := get
  set := set
  get_set key value s := by rw [set_eq_ofGet, get_ofGet]
  set_get key s := by
    rw [set_eq_ofGet, Function.update_eq_self]
    rfl

/-- The flag says whether there was no exception. -/
def restoreSettings (json : OrgObject) (o : Json) (s : Preferences) : Preferences × Bool :=
  fields.assign (Key.read json o) Key.all s

end Preferences

/-- The store with all its settings. -/
structure FullStore where
  configs : List ProxyConfig := []
  subscriptions : List Subscription := []
  selectedId : Option Text := none
  aetherSeeded : Bool := false
  preferences : Preferences := {}
  deriving DecidableEq, Repr

namespace FullStore

variable (json : OrgObject) (store : FullStore)

def settingsSnapshot : Json :=
  .object (
    (Preferences.Key.all.map fun key => (key.name, key.kind.write (store.preferences.get key))) ++
      [("selectedId", .str (store.selectedId.getD []))])

/-- `settings?.let { restoreSettings(it) }`. -/
def restoreAnySettings (settings : Option Json) : Preferences × Bool :=
  match settings with
  | none => (store.preferences, true)
  | some o => Preferences.restoreSettings json o store.preferences

/-- The flag says whether there was no exception. -/
def restoreBackup (configs : List ProxyConfig) (subs : List Subscription) (settings : Option Json) :
    FullStore × Bool :=
  let restored := store.restoreAnySettings json settings
  let replaced := { store with
    configs := configs, subscriptions := subs, preferences := restored.1 }
  if restored.2 then
    let wanted := (settings.map fun o => o.optString (txt "selectedId") []).getD []
    ({ replaced with
      selectedId :=
        if configs.any fun config => config.id = wanted then some wanted
        else configs.head?.map ProxyConfig.id }, true)
  else (replaced, false)

def toConfigStore : ConfigStore where
  configs := store.configs
  subscriptions := store.subscriptions
  selectedId := store.selectedId
  aetherSeeded := store.aetherSeeded
  settings := store.preferences.toSettings

/-- The call of a setter, if a connection depends on the setting. -/
def toSetting : Sigma Preferences.Key.Value → Option Setting
  | ⟨.fragment, value⟩ => some (.setFragment value)
  | ⟨.fragmentPackets, value⟩ => some (.setFragmentPackets value)
  | ⟨.fragmentLength, value⟩ => some (.setFragmentLength value)
  | ⟨.fragmentInterval, value⟩ => some (.setFragmentInterval value)
  | ⟨.splitRouting, value⟩ => some (.setSplitRouting value)
  | ⟨.sniffing, value⟩ => some (.setSniffing value)
  | ⟨.sniffTypes, value⟩ => some (.setSniffTypes value)
  | ⟨.killSwitch, value⟩ => some (.setKillSwitch value)
  | ⟨.mux, value⟩ => some (.setMux value)
  | ⟨.muxConcurrency, value⟩ => some (.setMuxConcurrency value)
  | ⟨.onionRouting, value⟩ => some (.setOnionRouting value)
  | ⟨.encryptedDns, value⟩ => some (.setEncryptedDns value)
  | ⟨.fakeDns, value⟩ => some (.setFakeDns value)
  | ⟨.adBlock, value⟩ => some (.setAdBlock value)
  | ⟨.mixedPort, value⟩ => some (.setMixedPort value)
  | _ => none

def restored (o : Json) : ConfigStore.RestoredSettings where
  changes := (Fields.changes (Preferences.Key.read json o) Preferences.Key.all).filterMap toSetting
  completes := (store.restoreAnySettings json (some o)).2
  selectedId := o.optString (txt "selectedId") []

/-- A value that a setter has already brought into its range is set as it is. -/
theorem toSettings_set (key : Preferences.Key) (raw : key.Value) (s : Preferences) :
    (Preferences.set key (key.clamp raw) s).toSettings =
      (toSetting ⟨key, key.clamp raw⟩).elim s.toSettings s.toSettings.set := by
  have again (low high value : ℤ) : Preferences.Key.coerceIn low high value =
      max low (min high (Preferences.Key.coerceIn low high value)) := by
    rw [Preferences.Key.coerceIn]
    omega
  cases key with
  | muxConcurrency =>
      exact congrArg (fun value => { s.toSettings with muxConcurrency := value }) (again 1 128 raw)
  | mixedPort =>
      exact congrArg (fun value => { s.toSettings with mixedPort := value }) (again 1024 65535 raw)
  | _ => rfl

theorem toSettings_foldl {changes : List (Sigma Preferences.Key.Value)}
    (clamped : ∀ change ∈ changes, ∃ raw, change.2 = change.1.clamp raw) (s : Preferences) :
    (changes.foldl (fun s change => Preferences.set change.1 change.2 s) s).toSettings =
      (changes.filterMap toSetting).foldl Settings.set s.toSettings := by
  induction changes generalizing s with
  | nil => rfl
  | cons change rest ih =>
      rcases List.forall_mem_cons.mp clamped with ⟨⟨raw, isClamped⟩, clampedRest⟩
      rcases change with ⟨key, value⟩
      dsimp only at isClamped raw
      rw [isClamped, List.foldl_cons, ih clampedRest, toSettings_set, List.filterMap_cons]
      cases toSetting ⟨key, key.clamp raw⟩ with
      | none => rfl
      | some setting => rfl

theorem toSettings_restoreSettings (o : Json) (s : Preferences) :
    (Preferences.restoreSettings json o s).1.toSettings =
      ((Fields.changes (Preferences.Key.read json o) Preferences.Key.all).filterMap
        toSetting).foldl Settings.set s.toSettings := by
  rw [Preferences.restoreSettings, Fields.assign_eq_foldl]
  apply toSettings_foldl
  rintro ⟨key, value⟩ mem
  have reads := Fields.read_of_mem_changes mem
  rw [Preferences.Key.read] at reads
  cases raw : key.kind.read json o (txt key.name) with
  | absent => rw [raw] at reads; cases reads
  | throws => rw [raw] at reads; cases reads
  | value value =>
      rw [raw] at reads
      cases reads
      exact ⟨value, rfl⟩

variable {json} {store} {configs : List ProxyConfig} {subs : List Subscription}
  {settings : Option Json}

theorem restoreBackup_of_throws (throws : (store.restoreAnySettings json settings).2 = false) :
    store.restoreBackup json configs subs settings =
      ({ store with
        configs := configs
        subscriptions := subs
        preferences := (store.restoreAnySettings json settings).1 }, false) := by
  rw [restoreBackup, throws]
  rfl

theorem restoreBackup_of_completes (completes : (store.restoreAnySettings json settings).2 = true) :
    store.restoreBackup json configs subs settings =
      ({ store with
        configs := configs
        subscriptions := subs
        preferences := (store.restoreAnySettings json settings).1
        selectedId :=
          let wanted := (settings.map fun o => o.optString (txt "selectedId") []).getD []
          if configs.any fun config => config.id = wanted then some wanted
          else configs.head?.map ProxyConfig.id }, true) := by
  rw [restoreBackup, completes]
  rfl

/-- What the restored backup does to the settings on which a connection depends is an instance of
`ConfigStore.restoreBackup`. -/
theorem toConfigStore_restoreBackup :
    (store.restoreBackup json configs subs settings).1.toConfigStore =
      store.toConfigStore.restoreBackup configs subs (settings.map (store.restored json)) := by
  cases settings with
  | none => rfl
  | some o =>
      have sameSettings : (store.restoreAnySettings json (some o)).1.toSettings = _ :=
        toSettings_restoreSettings json o store.preferences
      have isFlag : (store.restored json o).completes =
          (store.restoreAnySettings json (some o)).2 := rfl
      rw [ConfigStore.restoreBackup, Option.map_some, Option.map_some, Option.map_some,
        Option.map_some, Option.getD_some, Option.getD_some, Option.getD_some, isFlag]
      cases flag : (store.restoreAnySettings json (some o)).2 with
      | true =>
          rw [restoreBackup_of_completes flag, toConfigStore, sameSettings]
          rfl
      | false =>
          rw [restoreBackup_of_throws flag, toConfigStore, sameSettings]
          rfl

/-- Nothing that the store holds has changed. The log level is no setting of a backup. -/
structure Unchanged (before after : FullStore) : Prop where
  configs : after.configs = before.configs
  subscriptions : after.subscriptions = before.subscriptions
  selectedId : after.selectedId = before.selectedId
  aetherSeeded : after.aetherSeeded = before.aetherSeeded
  coreLogLevel : after.preferences.coreLogLevel = before.preferences.coreLogLevel
  settings : ∀ key : Preferences.Key,
    key.kind.Same (after.preferences.get key) (before.preferences.get key)

variable (json store configs subs settings) in
/-- The backup is restored as a whole, or nothing changes. -/
def AllOrNothing : Prop :=
  (store.restoreBackup json configs subs settings).2 = true ∨
    Unchanged store (store.restoreBackup json configs subs settings).1

variable (json settings) in
/-- Every entry that is there has a value of its type. -/
def Readable : Prop :=
  ∀ o ∈ settings, ∀ key : Preferences.Key, key.read json o ≠ .throws

variable (json store configs subs settings) in
/-- The lists are those of the backup already, and so is every setting whose entry is read before
the first one that cannot be. -/
def AlreadyRestored : Prop :=
  configs = store.configs ∧ subs = store.subscriptions ∧
    ∀ o ∈ settings, Preferences.fields.Agrees (Preferences.Key.read json o)
      (fun key => key.kind.Same) store.preferences Preferences.Key.all

theorem completes_restoreAnySettings_iff :
    (store.restoreAnySettings json settings).2 = true ↔ Readable json settings := by
  cases settings with
  | none => simp [restoreAnySettings, Readable]
  | some o =>
      rw [restoreAnySettings, Preferences.restoreSettings, Fields.completes_assign_iff, Readable]
      constructor
      · intro readable other same key
        cases same
        exact readable key key.mem_all
      · intro readable key _
        exact readable o rfl key

theorem coreLogLevel_restoreAnySettings :
    (store.restoreAnySettings json settings).1.coreLogLevel = store.preferences.coreLogLevel := by
  cases settings with
  | none => rfl
  | some o =>
      rw [restoreAnySettings, Preferences.restoreSettings, Fields.assign_eq_foldl]
      generalize Fields.changes (Preferences.Key.read json o) Preferences.Key.all = changes
      generalize store.preferences = s
      induction changes generalizing s with
      | nil => rfl
      | cons change rest ih =>
          rw [List.foldl_cons, ih]
          exact congrArg (fun s => s.toSettings.coreLogLevel) (Preferences.set_eq_ofGet _ _ s)

theorem same_restoreAnySettings_iff :
    (∀ key : Preferences.Key, key.kind.Same
        ((store.restoreAnySettings json settings).1.get key) (store.preferences.get key)) ↔
      ∀ o ∈ settings, Preferences.fields.Agrees (Preferences.Key.read json o)
        (fun key => key.kind.Same) store.preferences Preferences.Key.all := by
  have refl (key : Preferences.Key) (value : key.Value) : key.kind.Same value value :=
    key.kind.same_refl value
  cases settings with
  | none => exact iff_of_true (fun key => refl key _) (by simp)
  | some o =>
      simp only [Option.mem_some, forall_eq']
      change (∀ key : Preferences.Key, key.kind.Same (Preferences.fields.get
        (Preferences.fields.assign (Preferences.Key.read json o) _ _).1 key)
        (Preferences.fields.get store.preferences key)) ↔ _
      exact Fields.same_assign_iff refl Preferences.Key.nodup_all

theorem alreadyRestored_of_throws (throws : (store.restoreAnySettings json settings).2 = false) :
    Unchanged store (store.restoreBackup json configs subs settings).1 ↔
      AlreadyRestored json store configs subs settings := by
  rw [restoreBackup_of_throws throws, AlreadyRestored, ← same_restoreAnySettings_iff]
  constructor
  · intro unchanged
    exact ⟨unchanged.configs, unchanged.subscriptions, unchanged.settings⟩
  · rintro ⟨sameConfigs, sameSubs, sameSettings⟩
    exact ⟨sameConfigs, sameSubs, rfl, rfl, coreLogLevel_restoreAnySettings, sameSettings⟩

/-- A restore is all or nothing exactly if every entry can be read, or the lists and all entries
before the first that cannot be are those of the store already. -/
theorem allOrNothing_iff : AllOrNothing json store configs subs settings ↔
    Readable json settings ∨ AlreadyRestored json store configs subs settings := by
  have completes : (store.restoreAnySettings json settings).2 = true ↔ Readable json settings :=
    completes_restoreAnySettings_iff
  rw [AllOrNothing, ← completes]
  cases flag : (store.restoreAnySettings json settings).2 with
  | true => simp [restoreBackup_of_completes flag]
  | false =>
      rw [alreadyRestored_of_throws flag, restoreBackup_of_throws flag]

/-- A store with one subscription. -/
def subscribed : FullStore where
  subscriptions := [{ name := txt "Mine", url := txt "https://192.0.2.1/sub", id := txt "s" }]

/-- The first entry is a number instead of a truth value. The subscription is lost. -/
theorem not_allOrNothing_subscribed :
    ¬ AllOrNothing .strict subscribed [] [] (some (.object [("fragment", .int 1)])) := by
  rintro (completes | unchanged)
  · exact absurd completes (by decide)
  · exact absurd unchanged.subscriptions (by decide)

end FullStore

end GRoute
