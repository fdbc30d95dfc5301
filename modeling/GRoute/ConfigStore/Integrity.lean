import GRoute.ConfigStore.Upsert

/-!
# Integrity of the store

The ids of the configs are distinct, so are those of the subscriptions, and every config
belongs to no subscription or to one that is there. This holds in every store that is
reached from the empty one, if ids that are drawn never repeat and a backup is one of such
a store.
-/

namespace GRoute.ConfigStore

open Text

/-- No id is used twice, and no config has a subscription that is not there. -/
structure Integrity (store : ConfigStore) : Prop where
  configIds : (store.configs.map ProxyConfig.id).Nodup
  subscriptionIds : (store.subscriptions.map Subscription.id).Nodup
  linked : ∀ config ∈ store.configs, config.subId = [] ∨
    ∃ sub ∈ store.subscriptions, sub.id = config.subId

/-- The configs are newly parsed: their ids are drawn now and they belong to no subscription. -/
def NewConfigs (used : List Text) (configs : List ProxyConfig) : Prop :=
  (configs.map ProxyConfig.id).Nodup ∧ ∀ config ∈ configs, config.id ∉ used ∧ config.subId = []

/-- The ids that an operation draws. -/
def drawn : StoreOp → List Text
  | .add config => [config.id]
  | .addToLocalSub _ configs fresh => configs.map ProxyConfig.id ++ [fresh.id]
  | .addImported imported => imported.map ProxyConfig.id
  | .seedDefaultAetherIfNeeded id => [id]
  | .upsertSubscription sub fetched => sub.id :: fetched.map ProxyConfig.id
  | _ => []

/-- The operation is called as the app calls it, after the given ids were drawn. -/
def Admissible (used : List Text) (store : ConfigStore) : StoreOp → Prop
  | .add config => NewConfigs used [config]
  | .addToLocalSub _ configs fresh => NewConfigs (fresh.id :: used) configs ∧ fresh.id ∉ used
  | .update config => ∀ existing ∈ store.configs, existing.id = config.id →
      config.subId = existing.subId
  | .addImported imported => NewConfigs used imported
  | .seedDefaultAetherIfNeeded id => id ∉ used
  | .upsertSubscription sub fetched => NewConfigs used fetched ∧
      (sub.id ∉ used ∨ ∃ existing ∈ store.subscriptions, existing.id = sub.id)
  | .restoreBackup _ _ _ => False
  | _ => True

/-- The stores that are reached after the given ids were drawn, on any device. A backup keeps
the ids and the subscriptions of the configs of the store that it was taken from. -/
inductive Reachable : List Text → ConfigStore → Prop
  | empty : Reachable [] {}
  | elsewhere {used : List Text} {store : ConfigStore} (ids : List Text)
      (reachable : Reachable used store) : Reachable (ids ++ used) store
  | step {used : List Text} {store : ConfigStore} (op : StoreOp) (reachable : Reachable used store)
      (admissible : Admissible used store op) : Reachable (drawn op ++ used) (store.step op)
  | restore {used sourceUsed : List Text} {store source : ConfigStore}
      {configs : List ProxyConfig} {subs : List Subscription} (restored : Option RestoredSettings)
      (reachable : Reachable used store) (taken : Reachable sourceUsed source)
      (before : sourceUsed ⊆ used)
      (sameConfigs : configs.map (fun config => (config.id, config.subId)) =
        source.configs.map fun config => (config.id, config.subId))
      (sameSubs : subs.map Subscription.id = source.subscriptions.map Subscription.id) :
      Reachable used (store.restoreBackup configs subs restored)

/-- A store with integrity whose ids are all among those that were drawn. -/
structure Sound (used : List Text) (store : ConfigStore) : Prop extends Integrity store where
  configsDrawn : ∀ config ∈ store.configs, config.id ∈ used
  subscriptionsDrawn : ∀ sub ∈ store.subscriptions, sub.id ∈ used

variable {used : List Text} {store : ConfigStore}

theorem Sound.empty : Sound [] {} where
  configIds := List.nodup_nil
  subscriptionIds := List.nodup_nil
  linked := by simp
  configsDrawn := by simp
  subscriptionsDrawn := by simp

theorem Sound.mono {more : List Text} (sound : Sound used store) (subset : used ⊆ more) :
    Sound more store where
  toIntegrity := sound.toIntegrity
  configsDrawn := fun config mem => subset (sound.configsDrawn config mem)
  subscriptionsDrawn := fun sub mem => subset (sound.subscriptionsDrawn sub mem)

/-- Configs and subscriptions that are left out leave a sound store if the configs that stay
do not belong to a subscription that goes. -/
theorem Sound.sublist {other : ConfigStore} (sound : Sound used store)
    (configs : other.configs.Sublist store.configs)
    (subs : other.subscriptions.Sublist store.subscriptions)
    (stays : ∀ config ∈ other.configs, ∀ sub ∈ store.subscriptions, sub.id = config.subId →
      sub ∈ other.subscriptions) : Sound used other where
  configIds := sound.configIds.sublist (configs.map _)
  subscriptionIds := sound.subscriptionIds.sublist (subs.map _)
  linked := by
    intro config mem
    rcases sound.linked config (configs.subset mem) with none | ⟨sub, isSub, same⟩
    · exact .inl none
    · exact .inr ⟨sub, stays config mem sub isSub same, same⟩
  configsDrawn := fun config mem => sound.configsDrawn config (configs.subset mem)
  subscriptionsDrawn := fun sub mem => sound.subscriptionsDrawn sub (subs.subset mem)

/-- New configs are added, under a subscription that is there or under none. -/
theorem Sound.append {configs : List ProxyConfig} {other : ConfigStore} (sound : Sound used store)
    (ids : (configs.map ProxyConfig.id).Nodup) (fresh : ∀ config ∈ configs, config.id ∉ used)
    (isConfigs : other.configs = store.configs ++ configs)
    (isSubs : other.subscriptions = store.subscriptions)
    (linked : ∀ config ∈ configs, config.subId = [] ∨
      ∃ sub ∈ store.subscriptions, sub.id = config.subId) :
    Sound (configs.map ProxyConfig.id ++ used) other where
  configIds := by
    rw [isConfigs, List.map_append, List.nodup_append]
    refine ⟨sound.configIds, ids, ?_⟩
    rintro id inOld other inNew rfl
    rcases List.mem_map.mp inOld with ⟨old, isOld, rfl⟩
    rcases List.mem_map.mp inNew with ⟨new, isNew, same⟩
    exact fresh new isNew (same ▸ sound.configsDrawn old isOld)
  subscriptionIds := by
    rw [isSubs]
    exact sound.subscriptionIds
  linked := by
    rw [isConfigs, isSubs]
    intro config mem
    rcases List.mem_append.mp mem with inOld | inNew
    · exact sound.linked config inOld
    · exact linked config inNew
  configsDrawn := by
    rw [isConfigs]
    intro config mem
    rcases List.mem_append.mp mem with inOld | inNew
    · exact List.mem_append_right _ (sound.configsDrawn config inOld)
    · exact List.mem_append_left _ (List.mem_map_of_mem inNew)
  subscriptionsDrawn := by
    rw [isSubs]
    intro sub mem
    exact List.mem_append_right _ (sound.subscriptionsDrawn sub mem)

/-- A new subscription is added. -/
theorem Sound.subscribe (sound : Sound used store) (sub : Subscription) (fresh : sub.id ∉ used) :
    Sound (sub.id :: used) { store with subscriptions := store.subscriptions ++ [sub] } where
  configIds := sound.configIds
  subscriptionIds := by
    rw [List.map_append, List.nodup_append]
    refine ⟨sound.subscriptionIds, List.nodup_singleton _, ?_⟩
    rintro id inOld other inNew rfl
    rcases List.mem_map.mp inOld with ⟨old, isOld, rfl⟩
    exact fresh (List.mem_singleton.mp inNew ▸ sound.subscriptionsDrawn old isOld)
  linked := by
    intro config mem
    rcases sound.linked config mem with none | ⟨existing, isSub, same⟩
    · exact .inl none
    · exact .inr ⟨existing, List.mem_append_left _ isSub, same⟩
  configsDrawn := fun config mem => List.mem_cons_of_mem _ (sound.configsDrawn config mem)
  subscriptionsDrawn := by
    intro existing mem
    rcases List.mem_append.mp mem with inOld | inNew
    · exact List.mem_cons_of_mem _ (sound.subscriptionsDrawn existing inOld)
    · rw [List.mem_singleton.mp inNew]
      exact List.mem_cons_self

/-- Nothing but the ids and the subscriptions of the configs counts. -/
theorem Sound.congr {other : ConfigStore} (sound : Sound used store)
    (configs : other.configs.map (fun config => (config.id, config.subId)) =
      store.configs.map fun config => (config.id, config.subId))
    (subs : other.subscriptions.map Subscription.id = store.subscriptions.map Subscription.id) :
    Sound used other := by
  have ids : other.configs.map ProxyConfig.id = store.configs.map ProxyConfig.id := by
    have firsts := congrArg (List.map Prod.fst) configs
    rwa [List.map_map, List.map_map] at firsts
  have twin {config : ProxyConfig} (mem : config ∈ other.configs) :
      ∃ old ∈ store.configs, old.id = config.id ∧ old.subId = config.subId := by
    have inPairs : (config.id, config.subId) ∈
        other.configs.map fun config => (config.id, config.subId) := List.mem_map_of_mem mem
    rw [configs, List.mem_map] at inPairs
    rcases inPairs with ⟨old, isOld, same⟩
    exact ⟨old, isOld, Prod.mk.inj same⟩
  have subTwin {id : Text} :
      (∃ sub ∈ other.subscriptions, sub.id = id) ↔ ∃ sub ∈ store.subscriptions, sub.id = id := by
    rw [← List.mem_map, ← List.mem_map, subs]
  refine
    ⟨⟨by rw [ids]; exact sound.configIds, by rw [subs]; exact sound.subscriptionIds, ?_⟩, ?_, ?_⟩
  · intro config mem
    rcases twin mem with ⟨old, isOld, -, sameSub⟩
    rw [subTwin, ← sameSub]
    exact sound.linked old isOld
  · intro config mem
    rcases twin mem with ⟨old, isOld, sameId, -⟩
    rw [← sameId]
    exact sound.configsDrawn old isOld
  · intro sub mem
    rcases subTwin.mp ⟨sub, mem, rfl⟩ with ⟨old, isOld, same⟩
    rw [← same]
    exact sound.subscriptionsDrawn old isOld

theorem map_id_withSub (configs : List ProxyConfig) (subId : Text) :
    (configs.map fun config => { config with subId := subId }).map ProxyConfig.id =
      configs.map ProxyConfig.id := by
  rw [List.map_map]
  rfl

/-- New configs are added under a subscription that is there. -/
theorem Sound.appendTo {configs : List ProxyConfig} {other : ConfigStore} {sub : Subscription}
    (sound : Sound used store) (new : NewConfigs used configs) (isSub : sub ∈ store.subscriptions)
    (isConfigs : other.configs =
      store.configs ++ configs.map fun config => { config with subId := sub.id })
    (isSubs : other.subscriptions = store.subscriptions) :
    Sound (configs.map ProxyConfig.id ++ used) other := by
  rw [← map_id_withSub configs sub.id]
  refine sound.append ?_ ?_ isConfigs isSubs ?_
  · rw [map_id_withSub]
    exact new.1
  · rw [List.forall_mem_map]
    intro config mem
    exact (new.2 config mem).1
  · rw [List.forall_mem_map]
    intro config _
    exact .inr ⟨sub, isSub, rfl⟩

theorem Sound.addToLocalSub {name : Text} {configs : List ProxyConfig} {fresh : Subscription}
    (sound : Sound used store) (new : NewConfigs (fresh.id :: used) configs)
    (freshId : fresh.id ∉ used) :
    Sound (configs.map ProxyConfig.id ++ fresh.id :: used)
      (store.addToLocalSub name configs fresh) := by
  rw [ConfigStore.addToLocalSub]
  split
  · exact sound.mono (List.subset_append_of_subset_right _ (List.subset_cons_self _ _))
  · cases found : store.subscriptions.find? fun sub => sub.name = name ∧ isBlank sub.url with
    | some sub =>
        refine (sound.mono (List.subset_cons_self fresh.id used)).appendTo new
          (List.mem_of_find?_eq_some found) rfl ?_
        exact List.append_nil _
    | none =>
        have subscribed : Sound (fresh.id :: used) { store with
            subscriptions := store.subscriptions ++ [{ fresh with name := name, url := [] }] } :=
          sound.subscribe { fresh with name := name, url := [] } freshId
        exact subscribed.appendTo new (List.mem_append_right _ (List.mem_singleton_self _)) rfl rfl

theorem Sound.update {config : ProxyConfig} (sound : Sound used store)
    (keeps : ∀ existing ∈ store.configs, existing.id = config.id →
      config.subId = existing.subId) : Sound used (store.update config) := by
  refine sound.congr ?_ rfl
  rw [ConfigStore.update, List.map_map]
  apply List.map_congr_left
  intro existing mem
  simp only [Function.comp_apply]
  split_ifs with other locked
  · rfl
  · rfl
  · rw [keeps existing mem (not_not.mp other), not_not.mp other]

theorem Sound.renameSubscription (sound : Sound used store) (id newName : Text) :
    Sound used (store.renameSubscription id newName) := by
  refine sound.congr rfl ?_
  rw [ConfigStore.renameSubscription, List.map_map]
  apply List.map_congr_left
  intro sub _
  simp only [Function.comp_apply]
  split_ifs <;> rfl

theorem Sound.seedDefaultAetherIfNeeded {id : Text} (sound : Sound used store)
    (fresh : id ∉ used) : Sound (id :: used) (store.seedDefaultAetherIfNeeded id) := by
  have more : used ⊆ id :: used := List.subset_cons_self _ _
  rw [ConfigStore.seedDefaultAetherIfNeeded]
  split
  · exact sound.mono more
  · split
    · exact (sound.mono more).congr rfl rfl
    · have ids : ([defaultAether id].map ProxyConfig.id).Nodup := List.nodup_singleton _
      refine sound.append ids ?_ rfl rfl ?_
      · intro config mem
        rw [List.mem_singleton.mp mem]
        exact fresh
      · intro config mem
        rw [List.mem_singleton.mp mem]
        exact .inl rfl

theorem Sound.deleteSubscription (sound : Sound used store) (id : Text) :
    Sound used (store.deleteSubscription id) := by
  apply sound.sublist List.filter_sublist List.filter_sublist
  intro config mem sub isSub same
  have other : config.subId ≠ id := by
    simpa using List.of_mem_filter mem
  exact List.mem_filter.mpr ⟨isSub, by simpa [same] using other⟩

/-- An id that a refreshed config gets is new or was in its subscription. -/
theorem id_assigned_cases {subId : Text} {earlier later fetched : List ProxyConfig}
    {f : ProxyConfig} (split : fetched = earlier ++ f :: later) :
    (∃ old ∈ store.configsOf subId,
      (assigned (store.configsOf subId) subId earlier f).id = old.id) ∨
      ∃ new ∈ fetched, (assigned (store.configsOf subId) subId earlier f).id = new.id := by
  rcases id_assigned (store.configsOf subId) earlier f with ⟨old, isOld, isId⟩ | ⟨-, isId⟩
  · exact .inl ⟨old, (keptFor_eq_some isOld).2.1, isId⟩
  · refine .inr ⟨f, ?_, isId⟩
    rw [split]
    simp

theorem Sound.configIds_upsert {sub : Subscription} {fetched : List ProxyConfig}
    (sound : Sound used store) (new : NewConfigs used fetched) :
    ((store.upsertSubscription sub fetched).configs.map ProxyConfig.id).Nodup := by
  have freshId {f config : ProxyConfig} (isNew : f ∈ fetched) (isOld : config ∈ store.configs) :
      f.id ≠ config.id := by
    intro same
    exact (new.2 f isNew).1 (same ▸ sound.configsDrawn config isOld)
  have tagged : ((retag (store.configsOf sub.id) sub.id [] fetched).map ProxyConfig.id).Nodup := by
    apply nodup_retag _ new.1
    · intro f isNew config isOld
      exact freshId isNew (mem_configsOf.mp isOld).1
    · exact sound.configIds.sublist (List.filter_sublist.map _)
  rw [configs_upsertSubscription, List.map_append, List.nodup_append]
  refine ⟨sound.configIds.sublist (List.filter_sublist.map _), tagged, ?_⟩
  rintro id inKept other inTagged rfl
  rcases List.mem_map.mp inKept with ⟨config, isKept, rfl⟩
  rcases List.mem_map.mp inTagged with ⟨refreshed, isRefreshed, same⟩
  rcases mem_retag.mp isRefreshed with ⟨earlier, f, later, split, rfl⟩
  have kept : config ∈ store.configs ∧ config.subId ≠ sub.id := by
    simpa using isKept
  rcases id_assigned_cases split with ⟨old, isOld, isId⟩ | ⟨g, isNew, isId⟩
  · rcases mem_configsOf.mp isOld with ⟨oldMem, oldSub⟩
    have equal : old = config :=
      List.inj_on_of_nodup_map sound.configIds oldMem kept.1 (isId.symm.trans same)
    exact kept.2 (equal ▸ oldSub)
  · exact freshId isNew kept.1 (isId.symm.trans same)

theorem Sound.upsertSubscription {sub : Subscription} {fetched : List ProxyConfig}
    (sound : Sound used store) (new : NewConfigs used fetched) :
    Sound (sub.id :: (fetched.map ProxyConfig.id ++ used))
      (store.upsertSubscription sub fetched) where
  configIds := sound.configIds_upsert new
  subscriptionIds := by
    rw [ConfigStore.upsertSubscription, List.map_append, List.nodup_append]
    refine ⟨sound.subscriptionIds.sublist (List.filter_sublist.map _), List.nodup_singleton _, ?_⟩
    rintro id inOld other inNew rfl
    rcases List.mem_map.mp inOld with ⟨old, isOld, rfl⟩
    have differs : old.id ≠ sub.id := by
      simpa using List.of_mem_filter isOld
    exact differs (List.mem_singleton.mp inNew)
  linked := by
    intro config mem
    rcases mem_configs_upsert.mp mem with ⟨isOld, otherSub⟩ | ⟨earlier, f, later, -, rfl⟩
    · rcases sound.linked config isOld with none | ⟨existing, isSub, same⟩
      · exact .inl none
      · exact .inr ⟨existing, mem_subscriptions_upsert.mpr (.inl ⟨isSub, same ▸ otherSub⟩), same⟩
    · exact .inr ⟨sub, mem_subscriptions_upsert.mpr (.inr rfl), rfl⟩
  configsDrawn := by
    intro config mem
    rcases mem_configs_upsert.mp mem with ⟨isOld, -⟩ | ⟨earlier, f, later, split, rfl⟩
    · simp [sound.configsDrawn config isOld]
    · rcases id_assigned_cases split with ⟨old, isOld, isId⟩ | ⟨g, isNew, isId⟩
      · rw [isId]
        simp [sound.configsDrawn old (mem_configsOf.mp isOld).1]
      · rw [isId]
        exact List.mem_cons_of_mem _ (List.mem_append_left _ (List.mem_map_of_mem isNew))
  subscriptionsDrawn := by
    intro other mem
    rcases mem_subscriptions_upsert.mp mem with ⟨isOld, -⟩ | rfl
    · simp [sound.subscriptionsDrawn other isOld]
    · exact List.mem_cons_self

theorem Sound.step {op : StoreOp} (sound : Sound used store)
    (admissible : Admissible used store op) : Sound (drawn op ++ used) (store.step op) := by
  cases op with
  | setSelectedId id => exact sound.congr rfl rfl
  | add config =>
      refine sound.append admissible.1 (fun new mem => (admissible.2 new mem).1) rfl rfl ?_
      intro new mem
      exact .inl (admissible.2 new mem).2
  | addToLocalSub name configs fresh =>
      rw [drawn, List.append_assoc]
      exact sound.addToLocalSub admissible.1 admissible.2
  | update config => exact sound.update admissible
  | addImported imported =>
      refine sound.append admissible.1 (fun new mem => (admissible.2 new mem).1) rfl rfl ?_
      intro new mem
      exact .inl (admissible.2 new mem).2
  | delete id =>
      refine sound.sublist List.filter_sublist (List.Sublist.refl _) ?_
      intro config _ sub isSub _
      exact isSub
  | seedDefaultAetherIfNeeded id => exact sound.seedDefaultAetherIfNeeded admissible
  | upsertSubscription sub fetched => exact sound.upsertSubscription admissible.1
  | renameSubscription id newName => exact sound.renameSubscription id newName
  | deleteConfigsByIds ids =>
      rw [ConfigStore.step, deleteConfigsByIds]
      split
      · exact sound
      · refine sound.sublist List.filter_sublist (List.Sublist.refl _) ?_
        intro config _ sub isSub _
        exact isSub
  | deleteAllConfigs =>
      refine sound.sublist (List.nil_sublist _) (List.nil_sublist _) ?_
      intro config mem
      cases mem
  | deleteSubscription id => exact sound.deleteSubscription id
  | restoreBackup configs subs restored => exact absurd admissible id
  | set setting => exact sound.congr rfl rfl

theorem Reachable.sound (reachable : Reachable used store) : Sound used store := by
  induction reachable with
  | empty =>
      exact Sound.empty
  | elsewhere ids _ ih => exact ih.mono (List.subset_append_right ids _)
  | step op _ admissible ih => exact ih.step admissible
  | restore restored _ _ before sameConfigs sameSubs _ ihSource =>
      exact (ihSource.mono before).congr sameConfigs sameSubs

theorem integrity_of_reachable (reachable : Reachable used store) : Integrity store :=
  reachable.sound.toIntegrity

/-- A subscription is added and refreshed, and its config keeps its id. -/
theorem integrity_refreshed :
    Integrity
      ((({} : ConfigStore).step (.upsertSubscription listedSub [listedConfig (txt "1")])).step
        (.upsertSubscription listedSub [listedConfig (txt "2")])) := by
  have added : Reachable [txt "sub", txt "1"]
      (({} : ConfigStore).step (.upsertSubscription listedSub [listedConfig (txt "1")])) :=
    Reachable.empty.step (.upsertSubscription listedSub [listedConfig (txt "1")])
      ⟨⟨by decide, by decide⟩, .inl (by decide)⟩
  have refreshed := added.step (.upsertSubscription listedSub [listedConfig (txt "2")])
    ⟨⟨by decide, by decide⟩, .inr ⟨listedSub, by decide, rfl⟩⟩
  exact integrity_of_reachable refreshed

end GRoute.ConfigStore
