import GRoute.ConfigFile.Import
import GRoute.ConfigStore.Preferences
import GRoute.Foundation.Lists

/-!
# Restored backups

`encodeBackup`, `decodeBackup` and `restoreBackup` together, from the store of one device to that
of another. Every text is sanitized on the way and every setting is brought into the range of its
setter. So a store is restored exactly if all its texts are well formed and its settings are in
range, whatever the other device had before.
-/

namespace GRoute

open Text

namespace Preferences.Kind

/-- The value after it was sent as bytes. -/
def sanitize : (kind : Kind) → kind.Value → kind.Value
  | text, value => Text.sanitize value
  | texts, value => List.map Text.sanitize value
  | bool, value | int, value | themeMode, value | lang, value | perAppMode, value => value

/-- The value that is read of one that was written. -/
def asRead : (kind : Kind) → kind.Value → kind.Value
  | texts, value => List.eraseDups (α := Text) value
  | bool, value | text, value | int, value | themeMode, value | lang, value
  | perAppMode, value => value

/-- An `Int` holds a 32-bit integer. -/
def Valid : (kind : Kind) → kind.Value → Prop
  | int, value => IsInt value
  | _, _ => True

/-- The texts in a value. -/
def textsOf : (kind : Kind) → kind.Value → List Text
  | text, value => [value]
  | texts, value => value
  | _, _ => []

variable {json : OrgObject} {o : Json} {name : Text}

theorem sanitize_write (kind : Kind) (value : kind.Value) :
    (kind.write value).sanitize = kind.write (kind.sanitize value) := by
  cases kind with
  | bool => exact Json.sanitize_bool value
  | text => exact Json.sanitize_str value
  | int => exact Json.sanitize_int value
  | texts => exact Json.sanitize_strings value
  | themeMode =>
      have plain (mode : ThemeMode) : (Json.str mode.name).sanitize = .str mode.name := by
        rw [Json.sanitize_str]
        cases mode <;> rfl
      exact plain value
  | lang =>
      have plain (lang : Lang) : (Json.str lang.name).sanitize = .str lang.name := by
        rw [Json.sanitize_str]
        cases lang <;> rfl
      exact plain value
  | perAppMode =>
      have plain (mode : PerAppMode) : (Json.str mode.name).sanitize = .str mode.name := by
        rw [Json.sanitize_str]
        cases mode <;> rfl
      exact plain value

theorem printable_write (kind : Kind) {value : kind.Value} (valid : kind.Valid value) :
    Json.Printable (kind.write value) := by
  cases kind with
  | bool => exact .bool _
  | int => exact .ofInt valid
  | texts =>
      apply Json.Printable.arr
      intro element mem
      rcases List.mem_map.mp mem with ⟨text, -, rfl⟩
      exact .str text
  | text | themeMode | lang | perAppMode => exact .str _

theorem valid_sanitize (kind : Kind) {value : kind.Value} (valid : kind.Valid value) :
    kind.Valid (kind.sanitize value) := by
  cases kind with
  | int => exact valid
  | _ => trivial

theorem readPresent_of_field? {α : Type} {accessor : Json → Option α} {written : Json} {value : α}
    (found : o.field? name = some written) (isValue : accessor written = some value) :
    readPresent accessor o name = .value value := by
  rw [readPresent, found]
  dsimp only
  rw [isValue, Reading.ofOption]

theorem readTexts_of_strings {texts : List Text} (found : o.field? name = some (.strings texts)) :
    readTexts o name = .value texts.eraseDups := by
  have elements : o.optArray name = some (texts.map Json.str) := by
    rw [Json.optArray, found, Json.strings]
  have same : (texts.map Json.str).map Json.toText = texts := by
    rw [List.map_map]
    exact List.map_id texts
  rw [readTexts, elements]
  dsimp only
  rw [same]

theorem readName_of_name {α : Type} {valueOf : Text → Option α} {written : Text} {value : α}
    (found : o.field? name = some (.str written)) (nonempty : written ≠ [])
    (isValue : valueOf written = some value) : readName valueOf o name = .value value := by
  have reads : o.optString name [] = written := by
    rw [Json.optString, found]
    rfl
  simp only [readName, reads, if_neg nonempty, isValue]

/-- What is read of an entry that was written. -/
theorem read_write (kind : Kind) {value : kind.Value} (valid : kind.Valid value)
    (found : o.field? name = some (kind.write value)) :
    kind.read json o name = .value (kind.asRead value) := by
  cases kind with
  | bool => exact readPresent_of_field? found (json.toBoolean_bool value)
  | text => exact readPresent_of_field? found rfl
  | int => exact readPresent_of_field? found (json.toInteger_int valid)
  | texts => exact readTexts_of_strings found
  | themeMode =>
      have nonempty (mode : ThemeMode) : mode.name ≠ [] := by cases mode <;> decide
      exact readName_of_name found (nonempty value) (ThemeMode.valueOf_name value)
  | lang =>
      have nonempty (lang : Lang) : lang.name ≠ [] := by cases lang <;> decide
      exact readName_of_name found (nonempty value) (Lang.valueOf_name value)
  | perAppMode =>
      have nonempty (mode : PerAppMode) : mode.name ≠ [] := by cases mode <;> decide
      exact readName_of_name found (nonempty value) (PerAppMode.valueOf_name value)

end Preferences.Kind

/-- The entries are equal, arrays as sets. -/
def SameEntry : Json → Json → Prop
  | .arr elements, .arr others => ∀ element, element ∈ elements ↔ element ∈ others
  | entry, other => entry = other

def SameObject : Json → Json → Prop
  | .obj fields, .obj others =>
      List.Forall₂ (fun field other => field.1 = other.1 ∧ SameEntry field.2 other.2) fields others
  | _, _ => False

namespace Preferences

/-- The snapshot of settings with the given values. -/
def snapshotOf (value : (key : Key) → key.Value) (selected : Text) : Json :=
  .object ((Key.all.map fun key => (key.name, key.kind.write (value key))) ++
    [("selectedId", .str selected)])

variable {json : OrgObject} {value other : (key : Key) → key.Value} {selected wanted : Text}

theorem nodup_names (value : (key : Key) → key.Value) (selected : Text) :
    (((Key.all.map fun key => (key.name, key.kind.write (value key))) ++
      [("selectedId", Json.str selected)]).map fun field => txt field.1).Nodup := by
  rw [List.map_append, List.map_map]
  show ((Key.all.map fun key => txt key.name) ++ [txt "selectedId"]).Nodup
  decide

theorem field?_snapshotOf (key : Key) :
    (snapshotOf value selected).field? (txt key.name) = some (key.kind.write (value key)) := by
  apply Json.field?_object_of_mem (nodup_names value selected)
  apply List.mem_append_left
  exact List.mem_map.mpr ⟨key, key.mem_all, rfl⟩

theorem optString_snapshotOf_selectedId :
    (snapshotOf value selected).optString (txt "selectedId") [] = selected := by
  have found : (snapshotOf value selected).field? (txt "selectedId") = some (.str selected) := by
    apply Json.field?_object_of_mem (nodup_names value selected)
    exact List.mem_append_right _ List.mem_cons_self
  rw [Json.optString, found]
  rfl

theorem sanitize_snapshotOf : (snapshotOf value selected).sanitize =
    snapshotOf (fun key => key.kind.sanitize (value key)) (Text.sanitize selected) := by
  have plain : ∀ name ∈ Key.all.map Key.name ++ ["selectedId"], WellFormed (txt name) := by
    decide
  rw [snapshotOf, Json.sanitize_object]
  · rw [List.map_append, List.map_map, List.map_singleton, Json.sanitize_str]
    unfold snapshotOf
    congr 2
    apply List.map_congr_left
    intro key _
    exact congrArg (Prod.mk key.name) (Kind.sanitize_write key.kind (value key))
  · rw [List.map_append, List.map_map]
    exact plain

theorem printable_snapshotOf (valid : ∀ key : Key, key.kind.Valid (value key)) :
    Json.Printable (snapshotOf value selected) := by
  refine .obj ?_ ?_
  · rw [List.map_map]
    exact nodup_names value selected
  · intro field mem
    rcases List.mem_map.mp mem with ⟨entry, isEntry, rfl⟩
    rcases List.mem_append.mp isEntry with setting | isSelected
    · rcases List.mem_map.mp setting with ⟨key, -, rfl⟩
      exact Kind.printable_write key.kind (valid key)
    · rw [List.mem_singleton.mp isSelected]
      exact .str selected

theorem read_snapshotOf (valid : ∀ key : Key, key.kind.Valid (value key)) (key : Key) :
    key.read json (snapshotOf value selected) =
      .value (key.clamp (key.kind.asRead (value key))) := by
  rw [Key.read, Kind.read_write key.kind (valid key) (field?_snapshotOf key)]
  rfl

variable (json) in
/-- What is left of the settings that a device had is nothing. -/
theorem restoreSettings_snapshotOf (valid : ∀ key : Key, key.kind.Valid (value key))
    (selected : Text) (s : Preferences) :
    (restoreSettings json (snapshotOf value selected) s).2 = true ∧
      (restoreSettings json (snapshotOf value selected) s).1.get =
        fun key => key.clamp (key.kind.asRead (value key)) := by
  have readable : ∀ key ∈ Key.all, key.read json (snapshotOf value selected) ≠ .throws := by
    intro key _ throws
    rw [read_snapshotOf valid] at throws
    cases throws
  refine ⟨Fields.completes_assign_iff.mpr readable, ?_⟩
  funext key
  show fields.get (fields.assign _ Key.all s).1 key = _
  exact Fields.get_assign_of_mem Key.nodup_all readable key.mem_all (read_snapshotOf valid key)

theorem sameObject_snapshotOf_iff :
    SameObject (snapshotOf value selected) (snapshotOf other wanted) ↔
      (∀ key : Key, SameEntry (key.kind.write (value key)) (key.kind.write (other key))) ∧
        selected = wanted := by
  have entries : List.Forall₂ (fun field other => field.1 = other.1 ∧ SameEntry field.2 other.2)
      (Key.all.map fun key => (txt key.name, key.kind.write (value key)))
      (Key.all.map fun key => (txt key.name, key.kind.write (other key))) ↔
        ∀ key : Key, SameEntry (key.kind.write (value key)) (key.kind.write (other key)) := by
    rw [List.forall₂_map_left_iff, List.forall₂_map_right_iff, List.forall₂_same]
    constructor
    · intro each key
      exact (each key key.mem_all).2
    · intro each key _
      exact ⟨rfl, each key⟩
  rw [snapshotOf, snapshotOf, Json.object, Json.object, SameObject, List.map_append,
    List.map_append, List.map_map, List.map_map, List.map_singleton, List.map_singleton,
    ← List.forall₂_reverse_iff, List.reverse_append, List.reverse_append, List.reverse_singleton,
    List.reverse_singleton, List.singleton_append, List.singleton_append, List.forall₂_cons,
    List.forall₂_reverse_iff]
  constructor
  · rintro ⟨⟨-, sameSelected⟩, each⟩
    exact ⟨entries.mp each, Json.str.inj sameSelected⟩
  · rintro ⟨each, rfl⟩
    exact ⟨⟨rfl, rfl⟩, entries.mpr each⟩

theorem sameEntry_texts_iff {texts : List Text} :
    SameEntry (.strings (texts.map Text.sanitize).eraseDups) (.strings texts) ↔
      ∀ text ∈ texts, WellFormed text := by
  constructor
  · intro same text mem
    have isElement := (same (.str text)).mpr (List.mem_map_of_mem mem)
    rcases List.mem_map.mp isElement with ⟨copy, isCopy, isText⟩
    rcases List.mem_map.mp (List.mem_eraseDups.mp isCopy) with ⟨original, -, rfl⟩
    rw [← Json.str.inj isText]
    exact wellFormed_sanitize original
  · intro wellFormed
    have sameTexts : texts.map Text.sanitize = texts := by
      refine Eq.trans (List.map_congr_left ?_) (List.map_id texts)
      intro text mem
      exact sanitize_eq_self_iff.mpr (wellFormed text mem)
    rw [sameTexts]
    intro element
    simp only [List.mem_map, List.mem_eraseDups]

theorem Kind.sameEntry_iff (kind : Kind) (value : kind.Value) :
    SameEntry (kind.write (kind.asRead (kind.sanitize value))) (kind.write value) ↔
      ∀ text ∈ kind.textsOf value, WellFormed text := by
  cases kind with
  | text =>
      have same (written : Text) : SameEntry (.str (Text.sanitize written)) (.str written) ↔
          ∀ text ∈ [written], WellFormed text := by
        rw [List.forall_mem_singleton, ← sanitize_eq_self_iff]
        exact iff_of_eq (Json.str.injEq _ _)
      exact same value
  | texts => exact sameEntry_texts_iff
  | bool | int | themeMode | lang | perAppMode =>
      exact ⟨fun _ _ mem => (nomatch mem), fun _ => rfl⟩

/-- The setting comes back as it was. -/
def Keeps (key : Key) (value : key.Value) : Prop :=
  (∀ text ∈ key.kind.textsOf value, WellFormed text) ∧ key.clamp value = value

theorem keeps_iff (key : Key) (value : key.Value) : Keeps key value ↔
    SameEntry (key.kind.write (key.clamp (key.kind.asRead (key.kind.sanitize value))))
      (key.kind.write value) := by
  have inRange (low high z : ℤ) : SameEntry (.int (Key.coerceIn low high z)) (.int z) ↔
      (∀ text ∈ ([] : List Text), WellFormed text) ∧ Key.coerceIn low high z = z := by
    rw [and_iff_right (fun _ mem => (nomatch mem))]
    exact Json.int_inj
  cases key with
  | muxConcurrency => exact (inRange 1 128 value).symm
  | mixedPort => exact (inRange 1024 65535 value).symm
  | _ =>
      constructor
      · intro keeps
        exact (Kind.sameEntry_iff _ value).mpr keeps.1
      · intro same
        exact ⟨(Kind.sameEntry_iff _ value).mp same, rfl⟩

end Preferences

namespace ConfigFile

variable {cipher : Cipher Text} {cert : Option Text} {json : OrgObject} {draws : Draws}
  {freshConfig freshSub : ℕ → Text} {password : Option Text} {original device : FullStore}

theorem subsFrom_toJson {subs : List Subscription} (longs : ∀ sub ∈ subs, sub.HasLongs) :
    ((subs.map Subscription.toJson).mapIdx fun i o => Subscription.fromJson json o (freshSub i)) =
      subs := by
  apply List.ext_getElem
  · simp
  · intro i _ inRange
    simp only [List.getElem_mapIdx, List.getElem_map]
    exact Subscription.fromJson_toJson json (longs _ (List.getElem_mem inRange)) _

theorem decodeBackup_of_openFile {bytes : List UInt8} {configs : List ProxyConfig}
    {subs : List Subscription} {fields : List (Text × Json)}
    (opened : openFile cipher cert json bytes password =
      .ok (backupRoot configs subs (.obj fields)))
    (ints : ∀ config ∈ configs, config.HasInts) (longs : ∀ sub ∈ subs, sub.HasLongs) :
    decodeBackup cipher cert json bytes password freshConfig freshSub =
      .ok ⟨configs, subs, some (.obj fields)⟩ := by
  rcases field?_backupRoot_rest configs subs (.obj fields) with ⟨isKind, isSubs, isSettings⟩
  have kind : (backupRoot configs subs (.obj fields)).optString (txt "kind") [] = txt "backup" := by
    rw [Json.optString, isKind]
    rfl
  have configElements : (backupRoot configs subs (.obj fields)).optArray (txt "configs") =
      some (configs.map ProxyConfig.toJson) := by
    rw [Json.optArray, field?_backupRoot.1, configArray]
  have subElements : (backupRoot configs subs (.obj fields)).optArray (txt "subs") =
      some (subs.map Subscription.toJson) := by
    rw [Json.optArray, isSubs]
  have settings : (backupRoot configs subs (.obj fields)).optObject "settings" =
      some (.obj fields) := by
    rw [Json.optObject, isSettings]
  have objects : ((configs.map ProxyConfig.toJson).all ConfigStore.isObject &&
      (subs.map Subscription.toJson).all ConfigStore.isObject) = true := by
    rw [List.all_map, List.all_map, Bool.and_eq_true, List.all_eq_true, List.all_eq_true]
    exact ⟨fun _ _ => rfl, fun _ _ => rfl⟩
  simp only [decodeBackup, opened, bind, Except.bind, kind, configElements, subElements,
    Option.getD_some, objects, settings, if_true, ConfigStore.configsFrom_toJson ints,
    subsFrom_toJson longs, ne_eq, not_true_eq_false, if_false]

theorem decodeBackup_encodeBackup {configs : List ProxyConfig} {subs : List Subscription}
    {fields : List (Text × Json)} (ints : ∀ config ∈ configs, config.HasInts)
    (longs : ∀ sub ∈ subs, sub.HasLongs) (printable : Json.Printable (.obj fields))
    (sanitized : Json.Printable (Json.obj fields).sanitize) :
    decodeBackup cipher cert json
        (encodeBackup cipher cert draws configs subs (.obj fields) password) password freshConfig
        freshSub =
      .ok ⟨configs.map ProxyConfig.sanitize, subs.map Subscription.sanitize,
        some (Json.obj fields).sanitize⟩ := by
  rw [Json.sanitize_obj]
  apply decodeBackup_of_openFile _ (ProxyConfig.forall_hasInts_sanitize ints)
    (hasLongs_sanitize longs)
  rw [← Json.sanitize_obj]
  exact openFile_encodeBackup ints longs printable sanitized (fun _ => rfl)

/-- The stores are equal in what a backup captures. -/
structure SameStore (store other : FullStore) : Prop where
  configs : store.configs = other.configs
  subscriptions : store.subscriptions = other.subscriptions
  selectedId : store.selectedId = other.selectedId
  settingsSnapshot : SameObject store.settingsSnapshot other.settingsSnapshot

variable (cipher cert json draws freshConfig freshSub password original device) in
/-- The backup of the original store, restored on a device. -/
def Restores : Prop :=
  ∃ backup restored,
    decodeBackup cipher cert json
        (encodeBackup cipher cert draws original.configs original.subscriptions
          original.settingsSnapshot password) password freshConfig freshSub = .ok backup ∧
      device.restoreBackup json backup.configs backup.subs backup.settings = (restored, true) ∧
      SameStore restored original

/-- The numbers of the store are those of their types in the source. -/
structure HasNumbers (store : FullStore) : Prop where
  configs : ∀ config ∈ store.configs, config.HasInts
  subscriptions : ∀ sub ∈ store.subscriptions, sub.HasLongs
  preferences : ∀ key : Preferences.Key, key.kind.Valid (store.preferences.get key)

/-- All texts are well formed and all settings in the range of their setters. -/
structure Portable (store : FullStore) : Prop where
  configs : ∀ config ∈ store.configs, ∀ text ∈ config.texts, WellFormed text
  subscriptions : ∀ sub ∈ store.subscriptions,
    WellFormed sub.id ∧ WellFormed sub.name ∧ WellFormed sub.url
  preferences : ∀ key : Preferences.Key, Preferences.Keeps key (store.preferences.get key)

/-- The settings that a device has afterwards. -/
def restoredPreferences (original : FullStore) (key : Preferences.Key) : key.Value :=
  key.clamp (key.kind.asRead (key.kind.sanitize (original.preferences.get key)))

theorem HasNumbers.valid (numbers : HasNumbers original) (key : Preferences.Key) :
    key.kind.Valid (key.kind.sanitize (original.preferences.get key)) :=
  Preferences.Kind.valid_sanitize key.kind (numbers.preferences key)

theorem sanitize_settingsSnapshot : original.settingsSnapshot.sanitize =
    Preferences.snapshotOf (fun key => key.kind.sanitize (original.preferences.get key))
      (sanitize (original.selectedId.getD [])) := Preferences.sanitize_snapshotOf

variable (json) in
/-- The backup of the original store, as it is decoded. -/
theorem exists_restored (numbers : HasNumbers original) (device : FullStore) :
    ∃ restored, device.restoreBackup json (original.configs.map ProxyConfig.sanitize)
        (original.subscriptions.map Subscription.sanitize)
        (some original.settingsSnapshot.sanitize) = (restored, true) ∧
      restored.configs = original.configs.map ProxyConfig.sanitize ∧
      restored.subscriptions = original.subscriptions.map Subscription.sanitize ∧
      restored.preferences.get = restoredPreferences original ∧
      (sanitize (original.selectedId.getD []) ∈ restored.configs.map ProxyConfig.id →
        restored.selectedId = some (sanitize (original.selectedId.getD []))) := by
  rcases Preferences.restoreSettings_snapshotOf json numbers.valid
    (sanitize (original.selectedId.getD [])) device.preferences with ⟨completes, values⟩
  rw [sanitize_settingsSnapshot]
  refine ⟨_, FullStore.restoreBackup_of_completes completes, rfl, rfl, values, ?_⟩
  intro mem
  dsimp only
  rw [Option.map_some, Option.getD_some, Preferences.optString_snapshotOf_selectedId]
  apply if_pos
  rcases List.mem_map.mp mem with ⟨config, isConfig, isId⟩
  exact List.any_eq_true.mpr ⟨config, isConfig, decide_eq_true isId⟩

theorem map_sanitize_configs_iff {configs : List ProxyConfig} :
    configs.map ProxyConfig.sanitize = configs ↔
      ∀ config ∈ configs, ∀ text ∈ config.texts, WellFormed text := by
  simp only [Lists.map_eq_self_iff, ProxyConfig.sanitize, ProxyConfig.mapTexts_eq_self_iff,
    sanitize_eq_self_iff]

theorem map_sanitize_subs_iff {subs : List Subscription} :
    subs.map Subscription.sanitize = subs ↔
      ∀ sub ∈ subs, WellFormed sub.id ∧ WellFormed sub.name ∧ WellFormed sub.url := by
  simp only [Lists.map_eq_self_iff, Subscription.sanitize_eq_self_iff]

variable (cipher cert json draws freshConfig freshSub password) in
theorem decodeBackup_snapshot (numbers : HasNumbers original) :
    decodeBackup cipher cert json
        (encodeBackup cipher cert draws original.configs original.subscriptions
          original.settingsSnapshot password) password freshConfig freshSub =
      .ok ⟨original.configs.map ProxyConfig.sanitize,
        original.subscriptions.map Subscription.sanitize,
        some original.settingsSnapshot.sanitize⟩ := by
  have printable : Json.Printable original.settingsSnapshot :=
    Preferences.printable_snapshotOf numbers.preferences
  have sanitized : Json.Printable original.settingsSnapshot.sanitize := by
    rw [sanitize_settingsSnapshot]
    exact Preferences.printable_snapshotOf numbers.valid
  exact decodeBackup_encodeBackup numbers.configs numbers.subscriptions printable sanitized

theorem portable_of_sameStore {restored : FullStore} (same : SameStore restored original)
    (configs : restored.configs = original.configs.map ProxyConfig.sanitize)
    (subscriptions : restored.subscriptions = original.subscriptions.map Subscription.sanitize)
    (values : restored.preferences.get = restoredPreferences original) : Portable original := by
  have snapshot := (Preferences.sameObject_snapshotOf_iff.mp same.settingsSnapshot).1
  rw [values] at snapshot
  refine ⟨map_sanitize_configs_iff.mp ?_, map_sanitize_subs_iff.mp ?_, ?_⟩
  · rw [← configs, same.configs]
  · rw [← subscriptions, same.subscriptions]
  · intro key
    exact (Preferences.keeps_iff key _).mpr (snapshot key)

theorem portable_of_restores (numbers : HasNumbers original)
    (restores : Restores cipher cert json draws freshConfig freshSub password original device) :
    Portable original := by
  rcases restores with ⟨backup, restored, decoded, isRestored, same⟩
  rcases exists_restored json numbers device with ⟨copy, isCopy, configs, subs, values, -⟩
  rw [decodeBackup_snapshot _ _ _ _ _ _ _ numbers] at decoded
  cases decoded
  rw [isCopy] at isRestored
  cases isRestored
  exact portable_of_sameStore same configs subs values

theorem restores_iff (numbers : HasNumbers original)
    (selected : ∃ config ∈ original.configs, original.selectedId = some config.id) :
    Restores cipher cert json draws freshConfig freshSub password original device ↔
      Portable original := by
  refine ⟨portable_of_restores numbers, ?_⟩
  intro portable
  rcases exists_restored json numbers device with ⟨copy, isCopy, configs, subs, values, isSelected⟩
  rw [map_sanitize_configs_iff.mpr portable.configs] at configs
  rw [map_sanitize_subs_iff.mpr portable.subscriptions] at subs
  rcases selected with ⟨config, isConfig, isId⟩
  have wellFormed : WellFormed config.id := portable.configs config isConfig _ List.mem_cons_self
  have sameId : sanitize (original.selectedId.getD []) = config.id := by
    rw [isId, Option.getD_some, sanitize_eq_self_iff.mpr wellFormed]
  have sameSelected : copy.selectedId = original.selectedId := by
    rw [isSelected, sameId, isId]
    rw [sameId, configs]
    exact List.mem_map_of_mem isConfig
  refine ⟨_, copy, decodeBackup_snapshot _ _ _ _ _ _ _ numbers, isCopy, configs, subs, sameSelected,
    Preferences.sameObject_snapshotOf_iff.mpr ⟨?_, by rw [sameSelected]⟩⟩
  intro key
  rw [values]
  exact (Preferences.keeps_iff key _).mp (portable.preferences key)

def sampleStore (name : Text) : FullStore where
  configs := [sampleConfig name (txt "a")]
  selectedId := some (txt "a")

theorem hasNumbers_sampleStore (name : Text) : HasNumbers (sampleStore name) := by
  refine ⟨?_, fun _ mem => (nomatch mem), ?_⟩
  · intro config mem
    rw [List.mem_singleton.mp mem]
    exact hasInts_sampleConfig _ _
  · have inRange (key : Preferences.Key) : key.kind.Valid (Preferences.get {} key) := by
      cases key with
      | muxConcurrency => exact (by norm_num [IsInt] : IsInt 8)
      | mixedPort => exact (by norm_num [IsInt] : IsInt 10626)
      | autoRefreshHours => exact (by norm_num [IsInt] : IsInt 1)
      | _ => trivial
    exact inRange

theorem restores_sampleStore :
    Restores sampleCipher none .strict sampleDraws (fun _ => []) (fun _ => []) none
      (sampleStore (txt "A")) FullStore.subscribed := by
  have selected : ∃ config ∈ (sampleStore (txt "A")).configs,
      (sampleStore (txt "A")).selectedId = some config.id := ⟨_, List.mem_cons_self, rfl⟩
  refine (restores_iff (hasNumbers_sampleStore _) selected).mpr ⟨?_, fun _ mem => (nomatch mem), ?_⟩
  · decide
  · intro key
    cases key <;> exact ⟨by decide, rfl⟩

/-- The name is half of a surrogate pair. -/
theorem not_restores_halfPair :
    ¬ Restores sampleCipher none .strict sampleDraws (fun _ => []) (fun _ => []) none
      (sampleStore [0xD800]) {} := by
  intro restores
  have portable := portable_of_restores (hasNumbers_sampleStore _) restores
  have wellFormed := portable.configs _ List.mem_cons_self [0xD800] (by decide)
  revert wellFormed
  decide

end ConfigFile

end GRoute
