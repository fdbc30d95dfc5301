import GRoute.ConfigStore
import Mathlib.Data.List.Nodup

/-!
# Refreshing a subscription

`upsertSubscription` walks the fetched configs. A config takes over the id of the last
config of the subscription with its signature, unless an earlier fetched config has the
same signature. With that, one lemma says which configs any operation brings into the list.
-/

namespace GRoute.ConfigStore

open Text

variable {store : ConfigStore} {subId : Text}

/-- The configs of a subscription. -/
def configsOf (store : ConfigStore) (subId : Text) : List ProxyConfig :=
  store.configs.filter fun config => config.subId = subId

/-- The last of the configs with the signature. -/
def lastWithSig (old : List ProxyConfig) (sig : Text) : Option ProxyConfig :=
  old.reverse.find? fun config => sigOf config = sig

/-- The config whose id a fetched config takes over, after those before it. -/
def keptFor (old before : List ProxyConfig) (f : ProxyConfig) : Option ProxyConfig :=
  if sigOf f ∈ before.map sigOf then none else lastWithSig old (sigOf f)

/-- What becomes of a fetched config, after those before it. -/
def assigned (old : List ProxyConfig) (subId : Text) (before : List ProxyConfig)
    (f : ProxyConfig) : ProxyConfig :=
  { f with subId := subId, id := ((keptFor old before f).map ProxyConfig.id).getD f.id }

def retag (old : List ProxyConfig) (subId : Text) (before : List ProxyConfig) :
    List ProxyConfig → List ProxyConfig
  | [] => []
  | f :: rest => assigned old subId before f :: retag old subId (before ++ [f]) rest

/-- The entries whose signature none of the given configs has. -/
def unused (old before : List ProxyConfig) : List (Text × ProxyConfig) :=
  ((old.map fun config => (sigOf config, config)).reverse).filter
    fun entry => entry.1 ∉ before.map sigOf

theorem find?_unused (old before : List ProxyConfig) (f : ProxyConfig) :
    ((unused old before).find? fun entry => entry.1 = sigOf f).map Prod.snd =
      keptFor old before f := by
  rw [unused, List.find?_filter, keptFor]
  simp only [decide_eq_true_eq]
  by_cases earlier : sigOf f ∈ before.map sigOf
  · have absent (entry : Text × ProxyConfig) :
        decide (entry.1 ∉ before.map sigOf ∧ entry.1 = sigOf f) = false := by
      apply decide_eq_false
      rintro ⟨notEarlier, same⟩
      exact notEarlier (same ▸ earlier)
    simp only [absent, if_pos earlier]
    rw [List.find?_eq_none.mpr (by simp)]
    rfl
  · have same (entry : Text × ProxyConfig) :
        decide (entry.1 ∉ before.map sigOf ∧ entry.1 = sigOf f) = decide (entry.1 = sigOf f) := by
      apply decide_eq_decide.mpr
      constructor
      · rintro ⟨-, isSig⟩
        exact isSig
      · intro isSig
        exact ⟨isSig ▸ earlier, isSig⟩
    simp only [same, if_neg earlier]
    rw [lastWithSig, ← List.map_reverse, List.find?_map, Option.map_map]
    simp only [Function.comp_def]
    exact Option.map_id'

theorem tagFetched_unused (old before out : List ProxyConfig) (f : ProxyConfig) :
    tagFetched subId (unused old before, out) f =
      (unused old (before ++ [f]), out ++ [assigned old subId before f]) := by
  have rest : (unused old before).filter (fun entry => entry.1 ≠ sigOf f) =
      unused old (before ++ [f]) := by
    rw [unused, unused, List.filter_filter]
    apply List.filter_congr
    intro entry _
    simp [and_comm]
  simp only [tagFetched, find?_unused, rest]
  rfl

theorem foldl_tagFetched (old before out fetched : List ProxyConfig) :
    (fetched.foldl (tagFetched subId) (unused old before, out)).2 =
      out ++ retag old subId before fetched := by
  induction fetched generalizing before out with
  | nil => simp [retag]
  | cons f rest ih =>
      rw [List.foldl_cons, tagFetched_unused, ih, retag]
      simp

/-- The configs of the other subscriptions stay, those of this one are the fetched ones. -/
theorem configs_upsertSubscription (sub : Subscription) (fetched : List ProxyConfig) :
    (store.upsertSubscription sub fetched).configs =
      (store.configs.filter fun config => config.subId ≠ sub.id) ++
        retag (store.configsOf sub.id) sub.id [] fetched := by
  have start : (((store.configsOf sub.id).map fun config => (sigOf config, config)).reverse) =
      unused (store.configsOf sub.id) [] := by
    simp [unused]
  have tagged : (fetched.foldl (tagFetched sub.id) (unused (store.configsOf sub.id) [], [])).2 =
      [] ++ retag (store.configsOf sub.id) sub.id [] fetched := foldl_tagFetched _ _ _ _
  rw [← start] at tagged
  simp only [upsertSubscription]
  rw [← configsOf, tagged]
  rfl

theorem length_retag (old before fetched : List ProxyConfig) :
    (retag old subId before fetched).length = fetched.length := by
  induction fetched generalizing before with
  | nil => rfl
  | cons f rest ih => rw [retag, List.length_cons, List.length_cons, ih]

/-- The fetched configs and what becomes of them. -/
theorem mem_zip_retag {old before fetched : List ProxyConfig} {f config : ProxyConfig} :
    (f, config) ∈ fetched.zip (retag old subId before fetched) ↔
      ∃ earlier later, fetched = earlier ++ f :: later ∧
        config = assigned old subId (before ++ earlier) f := by
  induction fetched generalizing before with
  | nil => simp [retag]
  | cons first rest ih =>
      rw [retag, List.zip_cons_cons, List.mem_cons, ih, Prod.mk.injEq]
      constructor
      · rintro (⟨rfl, isFirst⟩ | ⟨earlier, later, rfl, isConfig⟩)
        · exact ⟨[], rest, rfl, by rw [List.append_nil]; exact isFirst⟩
        · exact ⟨first :: earlier, later, rfl, by simpa using isConfig⟩
      · rintro ⟨earlier, later, split, isConfig⟩
        cases earlier with
        | nil =>
            rcases List.cons.inj split with ⟨rfl, rfl⟩
            rw [List.append_nil] at isConfig
            exact .inl ⟨rfl, isConfig⟩
        | cons head earlier =>
            rcases List.cons.inj split with ⟨rfl, rfl⟩
            exact .inr ⟨earlier, later, rfl, by simpa using isConfig⟩

theorem mem_retag {old before fetched : List ProxyConfig} {config : ProxyConfig} :
    config ∈ retag old subId before fetched ↔
      ∃ earlier f later, fetched = earlier ++ f :: later ∧
        config = assigned old subId (before ++ earlier) f := by
  have shorter : (retag old subId before fetched).length ≤ fetched.length :=
    (length_retag old before fetched).le
  rw [← List.map_snd_zip shorter, List.mem_map]
  constructor
  · rintro ⟨⟨f, other⟩, isPair, rfl⟩
    rcases mem_zip_retag.mp isPair with ⟨earlier, later, split, isConfig⟩
    exact ⟨earlier, f, later, split, isConfig⟩
  · rintro ⟨earlier, f, later, split, isConfig⟩
    exact ⟨(f, config), mem_zip_retag.mpr ⟨earlier, later, split, isConfig⟩, rfl⟩

theorem mem_configs_upsert {sub : Subscription} {fetched : List ProxyConfig}
    {config : ProxyConfig} :
    config ∈ (store.upsertSubscription sub fetched).configs ↔
      (config ∈ store.configs ∧ config.subId ≠ sub.id) ∨
        ∃ earlier f later, fetched = earlier ++ f :: later ∧
          config = assigned (store.configsOf sub.id) sub.id earlier f := by
  rw [configs_upsertSubscription, List.mem_append, List.mem_filter, mem_retag]
  simp only [decide_eq_true_eq, List.nil_append]

theorem mem_subscriptions_upsert {sub other : Subscription} {fetched : List ProxyConfig} :
    other ∈ (store.upsertSubscription sub fetched).subscriptions ↔
      (other ∈ store.subscriptions ∧ other.id ≠ sub.id) ∨ other = sub := by
  simp [upsertSubscription]

theorem mem_configsOf {config : ProxyConfig} :
    config ∈ store.configsOf subId ↔ config ∈ store.configs ∧ config.subId = subId := by
  simp [configsOf]

theorem keptFor_eq_some {old before : List ProxyConfig} {f kept : ProxyConfig}
    (isKept : keptFor old before f = some kept) :
    sigOf f ∉ before.map sigOf ∧ kept ∈ old ∧ sigOf kept = sigOf f := by
  rw [keptFor] at isKept
  split_ifs at isKept with earlier
  refine ⟨earlier, ?_, ?_⟩
  · exact List.mem_reverse.mp (List.mem_of_find?_eq_some isKept)
  · simpa using List.find?_some isKept

/-- A refreshed config has the id of an old config with its signature, or its own. -/
theorem id_assigned (old before : List ProxyConfig) (f : ProxyConfig) :
    (∃ kept, keptFor old before f = some kept ∧ (assigned old subId before f).id = kept.id) ∨
      keptFor old before f = none ∧ (assigned old subId before f).id = f.id := by
  cases isKept : keptFor old before f with
  | none => exact .inr ⟨rfl, by simp [assigned, isKept]⟩
  | some kept => exact .inl ⟨kept, rfl, by simp [assigned, isKept]⟩

/-- A fetched config gets the id after those before it: that of the last old config with its
signature if it is the first with it, and its own otherwise. -/
def TakesId (old earlier : List ProxyConfig) (f : ProxyConfig) (id : Text) : Prop :=
  (sigOf f ∉ earlier.map sigOf ∧ ∃ kept, lastWithSig old (sigOf f) = some kept ∧ kept.id = id) ∨
    (sigOf f ∈ earlier.map sigOf ∨ lastWithSig old (sigOf f) = none) ∧ f.id = id

theorem id_assigned_eq_iff {old earlier : List ProxyConfig} {f : ProxyConfig} {id : Text} :
    (assigned old subId earlier f).id = id ↔ TakesId old earlier f id := by
  rw [assigned, TakesId, keptFor]
  by_cases again : sigOf f ∈ earlier.map sigOf
  · rw [if_pos again]
    simp [again]
  · rw [if_neg again]
    cases lastWithSig old (sigOf f) with
    | none => simp [again]
    | some kept => simp [again]

/-- No id is given twice: a signature is used up by the first config that has it. -/
theorem nodup_retag {old before fetched : List ProxyConfig}
    (oldIds : (old.map ProxyConfig.id).Nodup) (newIds : (fetched.map ProxyConfig.id).Nodup)
    (apart : ∀ f ∈ fetched, ∀ config ∈ old, f.id ≠ config.id) :
    ((retag old subId before fetched).map ProxyConfig.id).Nodup := by
  induction fetched generalizing before with
  | nil => exact List.nodup_nil
  | cons f rest ih =>
      rw [List.map_cons, List.nodup_cons] at newIds
      rw [retag, List.map_cons, List.nodup_cons]
      refine ⟨?_, ih newIds.2 fun g mem => apart g (List.mem_cons_of_mem _ mem)⟩
      intro again
      rcases List.mem_map.mp again with ⟨config, isConfig, same⟩
      rcases mem_retag.mp isConfig with ⟨earlier, g, later, split, rfl⟩
      have gMem : g ∈ rest := by
        rw [split]
        simp
      rcases (id_assigned old before f : _ ∨ _ ∧ (assigned old subId before f).id = f.id) with
          ⟨kept, isKept, isId⟩ | ⟨-, isId⟩ <;>
        rcases (id_assigned old (before ++ [f] ++ earlier) g :
            _ ∨ _ ∧ (assigned old subId (before ++ [f] ++ earlier) g).id = g.id) with
          ⟨other, isOther, isOtherId⟩ | ⟨-, isOtherId⟩ <;>
        rw [isId, isOtherId] at same
      · rcases keptFor_eq_some isKept with ⟨-, keptMem, keptSig⟩
        rcases keptFor_eq_some isOther with ⟨unusedSig, otherMem, otherSig⟩
        have equal : other = kept := List.inj_on_of_nodup_map oldIds otherMem keptMem same
        apply unusedSig
        rw [← otherSig, equal, keptSig]
        simp
      · exact apart g (List.mem_cons_of_mem _ gMem) kept (keptFor_eq_some isKept).2.1 same
      · exact apart f List.mem_cons_self other (keptFor_eq_some isOther).2.1 same.symm
      · exact newIds.1 (same ▸ List.mem_map_of_mem gMem)

/-- The operation puts the config into the list, or puts it there again under another name. -/
def Enters (store : ConfigStore) : StoreOp → ProxyConfig → Prop
  | .add given, config => config = given
  | .update given, config =>
      ∃ existing ∈ store.configs, existing.id = given.id ∧
        config = if existing.locked then { existing with name := given.name } else given
  | .addToLocalSub _ given _, config =>
      ∃ original ∈ given, ∃ subId, config = { original with subId := subId }
  | .addImported imported, config => config ∈ imported
  | .seedDefaultAetherIfNeeded id, config => config = defaultAether id
  | .upsertSubscription sub fetched, config =>
      ∃ earlier f later, fetched = earlier ++ f :: later ∧
        config = assigned (store.configsOf sub.id) sub.id earlier f
  | .restoreBackup configs _ _, config => config ∈ configs
  | _, _ => False

theorem mem_configs_step {op : StoreOp} {config : ProxyConfig}
    (mem : config ∈ (store.step op).configs) : config ∈ store.configs ∨ Enters store op config := by
  cases op with
  | add given =>
      rcases List.mem_append.mp mem with before | new
      · exact .inl before
      · exact .inr (List.mem_singleton.mp new)
  | update given =>
      rcases List.mem_map.mp mem with ⟨existing, before, rfl⟩
      split
      · exact .inl before
      · next other => exact .inr ⟨existing, before, not_not.mp other, rfl⟩
  | addToLocalSub name given fresh =>
      by_cases empty : given = []
      · rw [step, addToLocalSub, if_pos empty] at mem
        exact .inl mem
      · rw [step, addToLocalSub, if_neg empty] at mem
        rcases List.mem_append.mp mem with before | new
        · exact .inl before
        · rcases List.mem_map.mp new with ⟨original, isGiven, rfl⟩
          exact .inr ⟨original, isGiven, _, rfl⟩
  | addImported imported => exact List.mem_append.mp mem
  | seedDefaultAetherIfNeeded id =>
      rw [step, seedDefaultAetherIfNeeded] at mem
      split at mem
      · exact .inl mem
      · split at mem
        · exact .inl mem
        · rcases List.mem_append.mp mem with before | new
          · exact .inl before
          · exact .inr (List.mem_singleton.mp new)
  | upsertSubscription sub fetched =>
      rcases mem_configs_upsert.mp mem with ⟨before, -⟩ | new
      · exact .inl before
      · exact .inr new
  | delete id => exact .inl (List.mem_of_mem_filter mem)
  | deleteSubscription id => exact .inl (List.mem_of_mem_filter mem)
  | deleteConfigsByIds ids =>
      rw [step, deleteConfigsByIds] at mem
      split at mem
      · exact .inl mem
      · exact .inl (List.mem_of_mem_filter mem)
  | deleteAllConfigs => cases mem
  | restoreBackup configs subs restored => exact .inr mem
  | setSelectedId id => exact .inl mem
  | renameSubscription id newName => exact .inl mem
  | set setting => exact .inl mem

def listedSub : Subscription where
  name := txt "list"
  url := txt "https://list.example"
  id := txt "sub"

def listedConfig (id : Text) : ProxyConfig where
  name := txt "server"
  protocol := txt "trojan"
  address := txt "server.example"
  port := 443
  password := txt "secret"
  id := id

end GRoute.ConfigStore
