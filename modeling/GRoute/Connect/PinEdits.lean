import GRoute.Connect.Pinning

/-!
# Edits during a pin fetch

`launchConnect` captures a config, waits for the certificate of its server and then puts the whole
captured config with the pin back into the store. What operations have made of the config in the
meantime is overwritten. The edits of a run are all there in the end exactly if no write back finds
the config changed.
-/

namespace GRoute

open Text Transition

def withoutPin (c : ProxyConfig) : ProxyConfig := { c with pinnedCertSha256 := [] }

namespace ConfigStore

/-- The store without the pins of its configs. -/
def unpinned (store : ConfigStore) : ConfigStore :=
  { store with configs := store.configs.map withoutPin }

variable {store : ConfigStore}

theorem withoutPin_comp_withoutPin : withoutPin ∘ withoutPin = withoutPin := rfl

theorem unpinned_unpinned : store.unpinned.unpinned = store.unpinned := by
  simp only [unpinned, List.map_map, withoutPin_comp_withoutPin]

theorem map_filter_withoutPin {keep : ProxyConfig → Bool}
    (blind : ∀ config, keep (withoutPin config) = keep config) (configs : List ProxyConfig) :
    ((configs.map withoutPin).filter keep).map withoutPin =
      (configs.filter keep).map withoutPin := by
  rw [List.filter_map, List.map_map, withoutPin_comp_withoutPin]
  congr 1
  exact List.filter_congr fun config _ => blind config

/-- Signatures and ids are all that a refresh takes from the old configs. -/
theorem retag_map_withoutPin {old before fetched : List ProxyConfig} {subId : Text} :
    retag (old.map withoutPin) subId before fetched = retag old subId before fetched := by
  have kept (sig : Text) : lastWithSig (old.map withoutPin) sig =
      (lastWithSig old sig).map withoutPin := by
    rw [lastWithSig, ← List.map_reverse, List.find?_map]
    rfl
  induction fetched generalizing before with
  | nil => rfl
  | cons f rest ih =>
      have same : assigned (old.map withoutPin) subId before f = assigned old subId before f := by
        rw [assigned, assigned, keptFor, keptFor, kept]
        split
        · rfl
        · rw [Option.map_map]
          rfl
      rw [retag, retag, same, ih]

/-- No operation reads a pin. -/
theorem unpinned_step (op : StoreOp) :
    (store.unpinned.step op).unpinned = (store.step op).unpinned := by
  cases op with
  | setSelectedId id => exact congrArg (setSelectedId · id) unpinned_unpinned
  | add config => simp [step, add, unpinned, withoutPin_comp_withoutPin]
  | addToLocalSub name configs fresh =>
      by_cases empty : configs = []
      · simp [step, addToLocalSub, unpinned, withoutPin_comp_withoutPin, empty]
      · simp [step, addToLocalSub, unpinned, withoutPin_comp_withoutPin, empty]
  | update config =>
      simp only [step, update, unpinned, List.map_map]
      congr 1
      apply List.map_congr_left
      intro existing _
      rw [Function.comp_apply, Function.comp_apply, Function.comp_apply]
      change withoutPin (if existing.id ≠ config.id then withoutPin existing
        else if existing.locked then { withoutPin existing with name := config.name }
        else config) = _
      split_ifs <;> rfl
  | addImported imported => simp [step, addImported, unpinned, withoutPin_comp_withoutPin]
  | delete id =>
      simp only [step, delete, unpinned]
      congr 1
      exact map_filter_withoutPin (fun _ => rfl) _
  | seedDefaultAetherIfNeeded id =>
      have any : (store.configs.map withoutPin).any (fun config => config.protocol = txt "aether") =
          store.configs.any fun config => config.protocol = txt "aether" := by
        rw [List.any_map]
        rfl
      simp only [step, seedDefaultAetherIfNeeded, unpinned, any]
      split
      · exact unpinned_unpinned
      · split
        · simp [withoutPin_comp_withoutPin]
        · congr 1
          simp [withoutPin_comp_withoutPin]
  | upsertSubscription sub fetched =>
      have old : store.unpinned.configsOf sub.id = (store.configsOf sub.id).map withoutPin := by
        rw [configsOf, configsOf, unpinned, List.filter_map]
        rfl
      have configs : (store.unpinned.upsertSubscription sub fetched).configs.map withoutPin =
          (store.upsertSubscription sub fetched).configs.map withoutPin := by
        rw [configs_upsertSubscription, configs_upsertSubscription, List.map_append,
          List.map_append, old, retag_map_withoutPin]
        congr 1
        exact map_filter_withoutPin (fun _ => rfl) _
      exact congrArg (fun configs : List ProxyConfig =>
        { store.upsertSubscription sub fetched with configs := configs }) configs
  | renameSubscription id newName =>
      exact congrArg (renameSubscription · id newName) unpinned_unpinned
  | deleteConfigsByIds ids =>
      simp only [step, deleteConfigsByIds, unpinned]
      split
      · exact unpinned_unpinned
      · congr 1
        exact map_filter_withoutPin (fun _ => rfl) _
  | deleteAllConfigs => rfl
  | deleteSubscription id =>
      simp only [step, deleteSubscription, unpinned]
      congr 1
      exact map_filter_withoutPin (fun _ => rfl) _
  | restoreBackup configs subs restored => rfl
  | set setting => simp [step, unpinned, withoutPin_comp_withoutPin]

/-- The config may be put back over the stored one without a loss. -/
def StillAs (existing captured : ProxyConfig) : Prop :=
  if existing.locked then existing.name = captured.name
  else withoutPin existing = withoutPin captured

/-- To put a config back with a pin changes nothing else if every config of its id is as it was. -/
theorem unpinned_update_iff {captured : ProxyConfig} {pin : Text} :
    (store.update { captured with pinnedCertSha256 := pin }).unpinned = store.unpinned ↔
      ∀ existing ∈ store.configs, existing.id = captured.id → StillAs existing captured := by
  have configs :
      (store.update { captured with pinnedCertSha256 := pin }).unpinned = store.unpinned ↔
      (store.update { captured with pinnedCertSha256 := pin }).configs.map withoutPin =
        store.configs.map withoutPin := by
    constructor
    · exact congrArg ConfigStore.configs
    · exact congrArg fun configs => { store with configs := configs }
  rw [configs, update, List.map_map, List.map_inj_left]
  apply forall₂_congr
  intro existing _
  rw [Function.comp_apply]
  by_cases same : existing.id = captured.id
  · rw [if_neg (not_not_intro same), forall_prop_of_true same, StillAs]
    by_cases locked : existing.locked = true
    · rw [if_pos locked, if_pos locked]
      constructor
      · intro sameName
        exact (congrArg ProxyConfig.name sameName).symm
      · intro sameName
        rw [← sameName]
    · rw [if_neg locked, if_neg locked]
      exact eq_comm
  · rw [if_pos same]
    exact iff_of_true rfl fun isId => absurd isId same

end ConfigStore

namespace Pinning

variable (platform : Platform)

def editedBy (store : ConfigStore) : Event → ConfigStore
  | .store op => store.step op
  | _ => store

/-- What the operations among the events make of the store. -/
def edited (store : ConfigStore) (events : List Event) : ConfigStore := events.foldl editedBy store

/-- At every moment of the run, every field of every config but its pin is as the operations on the
store have made it. -/
def KeepsEdits (store : ConfigStore) (events : List Event) : Prop :=
  ∀ before, before <+: events → ∀ s, run (step platform) { store := store } before = some s →
    s.store.unpinned = (edited store before).unpinned

/-- The captured config is written back over configs that are still as they were. -/
def UpToDate (s : Pinning) (index : ℕ) (pin : Option Text) : Prop :=
  ∀ captured ∈ s.fetching[index]?, ∀ hash ∈ pin, isBlank hash = false →
    ∀ existing ∈ s.store.configs, existing.id = captured.id →
      ConfigStore.StillAs existing captured

/-- Every write back of the run is up to date when it happens. -/
def WritesUpToDate (store : ConfigStore) (events : List Event) : Prop :=
  ∀ before index pin, before ++ [.fetched index pin] <+: events →
    ∀ s, run (step platform) { store := store } before = some s → s.UpToDate index pin

variable {platform} {s next : Pinning}

theorem store_of_no_write {event : Event} (taken : step platform s event = some next)
    (noFetch : ∀ index pin, event ≠ .fetched index pin) : next.store = editedBy s.store event := by
  cases event with
  | tap id =>
      rcases Option.map_eq_some_iff.mp taken with ⟨config, -, rfl⟩
      rfl
  | launchConnect index =>
      rcases Option.bind_eq_some_iff.mp taken with ⟨config, -, taken⟩
      split at taken <;> cases taken <;> rfl
  | fetched index pin => exact absurd rfl (noFetch index pin)
  | store op =>
      cases taken
      rfl

theorem unpinned_fetched_iff {index : ℕ} {pin : Option Text}
    (taken : step platform s (.fetched index pin) = some next) :
    next.store.unpinned = s.store.unpinned ↔ s.UpToDate index pin := by
  rcases Option.bind_eq_some_iff.mp taken with ⟨captured, found, taken⟩
  have upToDate : s.UpToDate index pin ↔ ∀ hash, pin.filter (!isBlank ·) = some hash →
      ∀ existing ∈ s.store.configs, existing.id = captured.id →
        ConfigStore.StillAs existing captured := by
    simp only [UpToDate, found, Option.mem_def, Option.some.injEq, forall_eq',
      Option.filter_eq_some_iff, Bool.not_eq_true', and_imp]
  rw [upToDate]
  split at taken
  · next noPin =>
      cases taken
      apply iff_of_true rfl
      intro hash isHash
      cases noPin.symm.trans isHash
  · next hash isHash =>
      cases taken
      rw [isHash]
      have written : ((({ s with
          fetching := s.fetching.eraseIdx index
          store := s.store.update { captured with pinnedCertSha256 := hash } } :
          Pinning).proceedLaunch { captured with pinnedCertSha256 := hash }).trustNow
            { captured with pinnedCertSha256 := hash } hash).store =
          s.store.update { captured with pinnedCertSha256 := hash } := by
        rw [trustNow]
        split <;> rfl
      rw [written, ConfigStore.unpinned_update_iff]
      simp only [Option.some.injEq, forall_eq']

/-- The write back has a state to start from when the captured config is there. -/
theorem exists_step_fetched (platform : Platform) {index : ℕ} (pin : Option Text)
    {captured : ProxyConfig} (found : s.fetching[index]? = some captured) :
    ∃ next, step platform s (.fetched index pin) = some next := by
  simp only [step, found]
  split <;> exact ⟨_, rfl⟩

theorem edited_concat (store : ConfigStore) (before : List Event) (event : Event) :
    edited store (before ++ [event]) = editedBy (edited store before) event := by
  rw [edited, edited, List.foldl_append, List.foldl_cons, List.foldl_nil]

/-- Operations keep two stores equal but for their pins. -/
theorem unpinned_editedBy {left right : ConfigStore} (same : left.unpinned = right.unpinned)
    (event : Event) : (editedBy left event).unpinned = (editedBy right event).unpinned := by
  cases event with
  | store op =>
      rw [editedBy, editedBy, ← ConfigStore.unpinned_step, same, ConfigStore.unpinned_step]
  | _ => exact same

/-- One step keeps the edits if a write back is up to date. -/
theorem keepsEdits_step {store : ConfigStore} {event : Event}
    (same : s.store.unpinned = store.unpinned)
    (upToDate : ∀ index pin, event = .fetched index pin → s.UpToDate index pin)
    (taken : step platform s event = some next) :
    next.store.unpinned = (editedBy store event).unpinned := by
  by_cases isFetch : ∃ index pin, event = .fetched index pin
  · rcases isFetch with ⟨index, pin, rfl⟩
    exact ((unpinned_fetched_iff taken).mpr (upToDate index pin rfl)).trans same
  · have noFetch : ∀ index pin, event ≠ .fetched index pin :=
      fun index pin isEvent => isFetch ⟨index, pin, isEvent⟩
    rw [store_of_no_write taken noFetch]
    exact unpinned_editedBy same event

theorem keepsEdits_iff (platform : Platform) (store : ConfigStore) (events : List Event) :
    KeepsEdits platform store events ↔ WritesUpToDate platform store events := by
  constructor
  · intro keeps before index pin isPrefix s reached captured found
    have beforeSame := keeps before ((List.prefix_append _ _).trans isPrefix) s reached
    rcases exists_step_fetched platform pin found with ⟨next, taken⟩
    have afterSame := keeps _ isPrefix next (run_concat_eq_some.mpr ⟨s, reached, taken⟩)
    rw [edited_concat] at afterSame
    exact (unpinned_fetched_iff taken).mp (afterSame.trans beforeSame.symm) captured found
  · intro upToDate before isPrefix
    induction before using List.reverseRecOn with
    | nil =>
        intro s reached
        cases reached
        rfl
    | append_singleton before event ih =>
        intro next reached
        rcases run_concat_eq_some.mp reached with ⟨s, reachedBefore, taken⟩
        have same := ih ((List.prefix_append _ _).trans isPrefix) s reachedBefore
        rw [edited_concat]
        apply keepsEdits_step same _ taken
        rintro index pin rfl
        exact upToDate before index pin isPrefix s reachedBefore

/-- The user renames a config while its certificate is fetched. -/
def renamedMeanwhile : List Event :=
  [.tap (txt "a"), .launchConnect 0, .store (.update { tlsConfig false with name := txt "B" }),
    .fetched 0 (some (hashOf '1'))]

theorem not_keepsEdits_renamedMeanwhile :
    ¬KeepsEdits .ascii { configs := [tlsConfig false] } renamedMeanwhile := by
  intro keeps
  have ends : run (step .ascii) { store := { configs := [tlsConfig false] } } renamedMeanwhile =
      some { store := { configs := [{ tlsConfig false with pinnedCertSha256 := hashOf '1' }] }
             trusted := [(txt "a", hashOf '1')]
             launched := [({ tlsConfig false with pinnedCertSha256 := hashOf '1' }, none)] } := by
    decide +kernel
  exact absurd (keeps _ (List.prefix_refl _) _ ends) (by decide +kernel)

end Pinning

end GRoute
