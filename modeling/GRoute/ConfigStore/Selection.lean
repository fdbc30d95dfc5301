import GRoute.ConfigStore.Upsert
import GRoute.Foundation.Transition

/-!
# The selected config

The operations that remove or replace configs and whether the selected id still names one of
those that are there.
-/

namespace GRoute.ConfigStore

open Text Transition

variable {store : ConfigStore}

/-- The id is that of a config that is there. -/
def IsPresent (store : ConfigStore) (id : Text) : Prop := ∃ config ∈ store.configs, config.id = id

/-- The selected id, if any, is that of a config that is there. -/
def Selected (store : ConfigStore) : Prop := ∀ id, store.selectedId = some id → store.IsPresent id

/-- Only a config that is there is ever selected. -/
def SelectsPresent (store : ConfigStore) : StoreOp → Prop
  | .setSelectedId (some id) => store.IsPresent id
  | _ => True

/-- A config outside the subscription has the id. -/
def IsOutside (store : ConfigStore) (subId id : Text) : Prop :=
  ∃ config ∈ store.configs, config.id = id ∧ config.subId ≠ subId

/-- One of the fetched configs gets the id. -/
def Brings (store : ConfigStore) (subId : Text) (fetched : List ProxyConfig) (id : Text) : Prop :=
  ∃ earlier f later, fetched = earlier ++ f :: later ∧
    TakesId (store.configsOf subId) earlier f id

/-- What the operations that replace configs without a look at the selected id need. -/
def SparesSelected (store : ConfigStore) : StoreOp → Prop
  | .deleteSubscription id => ∀ selected, store.selectedId = some selected →
      store.IsOutside id selected
  | .upsertSubscription sub fetched => ∀ selected, store.selectedId = some selected →
      store.IsOutside sub.id selected ∨ store.Brings sub.id fetched selected
  | .restoreBackup configs _ restored => (restored.map RestoredSettings.completes).getD true ∨
      ∀ selected, store.selectedId = some selected → ∃ config ∈ configs, config.id = selected
  | _ => True

theorem IsPresent.mono {other : ConfigStore} {id : Text} (isPresent : store.IsPresent id)
    (subset : store.configs ⊆ other.configs) : other.IsPresent id := by
  rcases isPresent with ⟨config, mem, isId⟩
  exact ⟨config, subset mem, isId⟩

/-- Configs are added and the selected id stays. -/
theorem Selected.mono {other : ConfigStore} (selected : store.Selected)
    (subset : store.configs ⊆ other.configs) (same : other.selectedId = store.selectedId) :
    other.Selected := by
  intro id isSelected
  exact (selected id (same ▸ isSelected)).mono subset

theorem isPresent_deleteSubscription {id selected : Text} :
    (store.deleteSubscription id).IsPresent selected ↔ store.IsOutside id selected := by
  simp [IsPresent, IsOutside, deleteSubscription, and_assoc, and_comm]

theorem isPresent_upsertSubscription {sub : Subscription} {fetched : List ProxyConfig}
    {selected : Text} : (store.upsertSubscription sub fetched).IsPresent selected ↔
      store.IsOutside sub.id selected ∨ store.Brings sub.id fetched selected := by
  constructor
  · rintro ⟨config, mem, isId⟩
    rcases mem_configs_upsert.mp mem with ⟨isOld, outside⟩ | ⟨earlier, f, later, split, rfl⟩
    · exact .inl ⟨config, isOld, isId, outside⟩
    · exact .inr ⟨earlier, f, later, split, id_assigned_eq_iff.mp isId⟩
  · rintro (⟨config, isOld, isId, outside⟩ | ⟨earlier, f, later, split, takes⟩)
    · exact ⟨config, mem_configs_upsert.mpr (.inl ⟨isOld, outside⟩), isId⟩
    · exact ⟨_, mem_configs_upsert.mpr (.inr ⟨earlier, f, later, split, rfl⟩),
        id_assigned_eq_iff.mpr takes⟩

theorem selected_restoreBackup_iff {configs : List ProxyConfig} {subs : List Subscription}
    {restored : Option RestoredSettings} : (store.restoreBackup configs subs restored).Selected ↔
      (restored.map RestoredSettings.completes).getD true ∨
        ∀ selected, store.selectedId = some selected →
          ∃ config ∈ configs, config.id = selected := by
  cases completes : (restored.map RestoredSettings.completes).getD true with
  | false => simp [Selected, IsPresent, restoreBackup, completes]
  | true =>
      simp only [true_or, iff_true]
      intro id isSelected
      simp only [restoreBackup, completes, Bool.not_true, Bool.false_eq_true,
        if_false] at isSelected
      split at isSelected
      next there =>
        cases isSelected
        simpa [IsPresent, restoreBackup] using there
      next =>
        rcases Option.map_eq_some_iff.mp isSelected with ⟨config, isHead, isId⟩
        exact ⟨config, List.mem_of_head? isHead, isId⟩

/-- The selected id stays good exactly if the operation spares it. -/
theorem selected_step_iff {op : StoreOp} (selected : store.Selected)
    (present : store.SelectsPresent op) : (store.step op).Selected ↔ store.SparesSelected op := by
  cases op with
  | deleteSubscription id =>
      exact forall_congr' fun _ => imp_congr_right fun _ => isPresent_deleteSubscription
  | upsertSubscription sub fetched =>
      exact forall_congr' fun _ => imp_congr_right fun _ => isPresent_upsertSubscription
  | restoreBackup configs subs restored => exact selected_restoreBackup_iff
  | setSelectedId id =>
      refine iff_of_true ?_ trivial
      rintro selected rfl
      exact present
  | add config =>
      exact iff_of_true (selected.mono (List.subset_append_left _ _) rfl) trivial
  | addToLocalSub name configs fresh =>
      refine iff_of_true ?_ trivial
      rw [step, addToLocalSub]
      split
      · exact selected
      · exact selected.mono (List.subset_append_left _ _) rfl
  | update config =>
      refine iff_of_true ?_ trivial
      intro id isSelected
      rcases selected id isSelected with ⟨existing, mem, rfl⟩
      refine ⟨_, List.mem_map_of_mem mem, ?_⟩
      split_ifs with other locked
      · rfl
      · rfl
      · exact (not_not.mp other).symm
  | addImported imported =>
      exact iff_of_true (selected.mono (List.subset_append_left _ _) rfl) trivial
  | delete id =>
      refine iff_of_true ?_ trivial
      intro selectedId isSelected
      simp only [step, delete] at isSelected
      split at isSelected
      · cases isSelected
      next other =>
        rcases selected selectedId isSelected with ⟨config, mem, rfl⟩
        refine ⟨config, List.mem_filter.mpr ⟨mem, decide_eq_true ?_⟩, rfl⟩
        rintro rfl
        exact other isSelected
  | seedDefaultAetherIfNeeded id =>
      refine iff_of_true ?_ trivial
      rw [step, seedDefaultAetherIfNeeded]
      split
      · exact selected
      · split
        · exact selected
        · intro selectedId isSelected
          simp only at isSelected
          split at isSelected
          · cases isSelected
            exact ⟨defaultAether id, List.mem_append_right _ (List.mem_singleton_self _), rfl⟩
          · exact (selected selectedId isSelected).mono (List.subset_append_left _ _)
  | renameSubscription id newName => exact iff_of_true selected trivial
  | deleteConfigsByIds ids =>
      refine iff_of_true ?_ trivial
      rw [step, deleteConfigsByIds]
      split
      · exact selected
      · intro id isSelected
        rcases Option.filter_eq_some_iff.mp isSelected with ⟨wasSelected, spared⟩
        rcases selected id wasSelected with ⟨config, mem, rfl⟩
        exact ⟨config, List.mem_filter.mpr ⟨mem, spared⟩, rfl⟩
  | deleteAllConfigs =>
      refine iff_of_true ?_ trivial
      intro id isSelected
      cases isSelected
  | set setting => exact iff_of_true selected trivial

theorem selected_of_reaches
    (reached : Reaches (fun store op => some (step store op))
      (fun store op => store.SelectsPresent op ∧ store.SparesSelected op) {} store) :
    store.Selected := by
  apply reached.invariant
  · intro id isSelected
    cases isSelected
  · rintro state next op selected ⟨present, spares⟩ taken
    cases taken
    exact (selected_step_iff selected present).mpr spares

/-- The store with a subscription whose config is selected. -/
def selectedStore : ConfigStore :=
  (({} : ConfigStore).upsertSubscription listedSub [listedConfig (txt "1")]).setSelectedId
    (some (txt "1"))

theorem reaches_selected {Allowed : ConfigStore → StoreOp → Prop}
    (mayAdd : Allowed {} (.upsertSubscription listedSub [listedConfig (txt "1")]))
    (maySelect : Allowed (({} : ConfigStore).upsertSubscription listedSub [listedConfig (txt "1")])
      (.setSelectedId (some (txt "1")))) :
    Reaches (fun store op => some (step store op)) Allowed {} selectedStore :=
  (Reaches.refl.tail _ mayAdd rfl).tail _ maySelect rfl

/-- The config takes over its id when the subscription is refreshed. -/
theorem selected_refreshed :
    (selectedStore.upsertSubscription listedSub [listedConfig (txt "2")]).Selected := by
  have reached : Reaches (fun store op => some (step store op))
      (fun store op => store.SelectsPresent op ∧ store.SparesSelected op) {} selectedStore := by
    apply reaches_selected
    · refine ⟨trivial, ?_⟩
      intro id isSelected
      cases isSelected
    · exact ⟨⟨_, List.mem_singleton_self _, rfl⟩, trivial⟩
  refine selected_of_reaches
    (reached.tail (.upsertSubscription listedSub [listedConfig (txt "2")]) ⟨trivial, ?_⟩ rfl)
  intro id isSelected
  cases isSelected
  refine .inr ⟨[], listedConfig (txt "2"), [], rfl, .inl ⟨List.not_mem_nil, ?_⟩⟩
  exact ⟨{ listedConfig (txt "1") with subId := txt "sub" }, by decide, rfl⟩

/-- The subscription of the selected config is deleted. -/
theorem dangling_deleteSubscription :
    Reaches (fun store op => some (step store op)) SelectsPresent {}
        (selectedStore.deleteSubscription (txt "sub")) ∧
      ¬ (selectedStore.deleteSubscription (txt "sub")).Selected := by
  constructor
  · refine (reaches_selected trivial ?_).tail (.deleteSubscription (txt "sub")) trivial rfl
    exact ⟨_, List.mem_singleton_self _, rfl⟩
  · intro selected
    rcases selected (txt "1") rfl with ⟨config, mem, -⟩
    have none : (selectedStore.deleteSubscription (txt "sub")).configs = [] := by decide
    rw [none] at mem
    cases mem

end GRoute.ConfigStore
