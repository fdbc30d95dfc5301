import GRoute.ConfigStore.Upsert

/-!
# A refresh that brings nothing new

When the list of a subscription has not changed, the fetched configs are the stored ones under
fresh ids. Each of them gets its old id back by its signature. An entry of the table is used once
and holds the last config of its signature, so two configs with one signature do not get their ids
back.
-/

namespace GRoute.ConfigStore

open Text

variable {store : ConfigStore} {subId : Text}

/-- Both configs are the same server, whatever their ids and subscriptions. -/
def SameContent (f config : ProxyConfig) : Prop :=
  { f with id := config.id, subId := config.subId } = config

theorem SameContent.sigOf_eq {f config : ProxyConfig} (same : SameContent f config) :
    sigOf f = sigOf config := by
  rw [← same]
  rfl

/-- The fetched list has the contents of the configs of the subscription, in order, under fresh
ids. -/
structure ListsSame (store : ConfigStore) (sub : Subscription) (fetched : List ProxyConfig) :
    Prop where
  contents : List.Forall₂ SameContent fetched (store.configsOf sub.id)
  fresh : ∀ f ∈ fetched, ∀ config ∈ store.configs, f.id ≠ config.id
  distinct : (fetched.map ProxyConfig.id).Nodup

/-- After the refresh the configs of the subscription have their ids, and an id that denoted one of
them denotes the same one. -/
structure ChangesNothing (store : ConfigStore) (sub : Subscription) (fetched : List ProxyConfig) :
    Prop where
  ids : (store.upsertSubscription sub fetched).configsOf sub.id = store.configsOf sub.id
  denotes : ∀ id config, store.find id = some config → config.subId = sub.id →
    (store.upsertSubscription sub fetched).find id = some config

theorem configsOf_upsertSubscription (sub : Subscription) (fetched : List ProxyConfig) :
    (store.upsertSubscription sub fetched).configsOf sub.id =
      retag (store.configsOf sub.id) sub.id [] fetched := by
  rw [configsOf, configs_upsertSubscription, List.filter_append, List.filter_filter]
  have others : store.configs.filter (fun config => decide (config.subId = sub.id) &&
      decide (config.subId ≠ sub.id)) = [] := by
    simp
  have own : ∀ config ∈ retag (store.configsOf sub.id) sub.id [] fetched,
      decide (config.subId = sub.id) = true := by
    intro config mem
    rcases mem_retag.mp mem with ⟨earlier, f, later, -, rfl⟩
    exact decide_eq_true rfl
  rw [others, List.nil_append]
  exact List.filter_eq_self.mpr own

/-- With distinct signatures the table has one entry for each config. -/
theorem lastWithSig_of_nodup {old : List ProxyConfig} (sigs : (old.map sigOf).Nodup)
    {config : ProxyConfig} (mem : config ∈ old) : lastWithSig old (sigOf config) = some config := by
  have found : (lastWithSig old (sigOf config)).isSome := by
    rw [lastWithSig, List.find?_isSome]
    exact ⟨config, List.mem_reverse.mpr mem, decide_eq_true rfl⟩
  rcases Option.isSome_iff_exists.mp found with ⟨last, isLast⟩
  have sameSig : sigOf last = sigOf config := by simpa using List.find?_some isLast
  have lastMem : last ∈ old := List.mem_reverse.mp (List.mem_of_find?_eq_some isLast)
  rw [isLast, List.inj_on_of_nodup_map sigs lastMem mem sameSig]

/-- Every config gets its own id back if the signatures are distinct. -/
theorem retag_of_nodup {old before fetched after : List ProxyConfig}
    (own : ∀ config ∈ old, config.subId = subId) (sigs : (old.map sigOf).Nodup)
    (contents : List.Forall₂ SameContent fetched after) (mem : ∀ config ∈ after, config ∈ old)
    (fresh : (before.map sigOf ++ after.map sigOf).Nodup) :
    retag old subId before fetched = after := by
  induction contents generalizing before with
  | nil => rfl
  | @cons f config restFetched restAfter same _ ih =>
      have isOld : config ∈ old := mem config List.mem_cons_self
      have unusedSig : sigOf f ∉ before.map sigOf := by
        intro again
        rw [same.sigOf_eq] at again
        exact (List.nodup_append.mp fresh).2.2 _ again _ (by simp) rfl
      have isConfig : assigned old subId before f = config := by
        rw [assigned, keptFor, if_neg unusedSig, same.sigOf_eq, lastWithSig_of_nodup sigs isOld,
          ← own config isOld]
        exact same
      have restFresh : ((before ++ [f]).map sigOf ++ restAfter.map sigOf).Nodup := by
        simpa [same.sigOf_eq] using fresh
      rw [retag, isConfig,
        ih (fun other isLater => mem other (List.mem_cons_of_mem _ isLater)) restFresh]

/-- A config whose signature an earlier one has keeps its fresh id. -/
theorem nodup_sigOf_of_retag {old before fetched : List ProxyConfig}
    (known : ∀ config ∈ retag old subId before fetched, ∃ kept ∈ old, kept.id = config.id)
    (fresh : ∀ f ∈ fetched, ∀ config ∈ old, f.id ≠ config.id) :
    (fetched.map sigOf).Nodup ∧ ∀ f ∈ fetched, sigOf f ∉ before.map sigOf := by
  induction fetched generalizing before with
  | nil => simp
  | cons f rest ih =>
      rw [retag, List.forall_mem_cons] at known
      rcases known with ⟨⟨kept, keptMem, sameId⟩, knownRest⟩
      have notUsed : sigOf f ∉ before.map sigOf := by
        intro again
        rw [assigned, keptFor, if_pos again] at sameId
        exact fresh f List.mem_cons_self kept keptMem sameId.symm
      rcases ih knownRest (fun g mem => fresh g (List.mem_cons_of_mem _ mem)) with
        ⟨restSigs, restNotUsed⟩
      simp only [List.map_append, List.map_singleton, List.mem_append, List.mem_singleton,
        not_or] at restNotUsed
      constructor
      · rw [List.map_cons, List.nodup_cons]
        refine ⟨?_, restSigs⟩
        intro again
        rcases List.mem_map.mp again with ⟨g, mem, sameSig⟩
        exact (restNotUsed g mem).2 sameSig
      · rw [List.forall_mem_cons]
        exact ⟨notUsed, fun g mem => (restNotUsed g mem).1⟩

theorem map_sigOf_of_forall₂ {fetched after : List ProxyConfig}
    (contents : List.Forall₂ SameContent fetched after) : fetched.map sigOf = after.map sigOf := by
  induction contents with
  | nil => rfl
  | cons same _ ih => rw [List.map_cons, List.map_cons, same.sigOf_eq, ih]

theorem configsOf_upsert_iff {sub : Subscription} {fetched : List ProxyConfig}
    (lists : ListsSame store sub fetched) :
    (store.upsertSubscription sub fetched).configsOf sub.id = store.configsOf sub.id ↔
      ((store.configsOf sub.id).map sigOf).Nodup := by
  have inStore {config : ProxyConfig} (mem : config ∈ store.configsOf sub.id) :
      config ∈ store.configs := (mem_configsOf.mp mem).1
  rw [configsOf_upsertSubscription]
  constructor
  · intro same
    have known : ∀ config ∈ retag (store.configsOf sub.id) sub.id [] fetched,
        ∃ kept ∈ store.configsOf sub.id, kept.id = config.id := by
      rw [same]
      exact fun config mem => ⟨config, mem, rfl⟩
    rw [← map_sigOf_of_forall₂ lists.contents]
    exact (nodup_sigOf_of_retag known fun f isFetched config mem =>
      lists.fresh f isFetched config (inStore mem)).1
  · intro sigs
    apply retag_of_nodup (fun config mem => (mem_configsOf.mp mem).2) sigs lists.contents
    · exact fun config mem => mem
    · simpa using sigs

/-- The configs of the subscription come after all others. -/
theorem find_upsertSubscription {sub : Subscription} {fetched : List ProxyConfig} (id : Text) :
    (store.upsertSubscription sub fetched).find id =
      ((store.configs.filter fun config => config.subId ≠ sub.id).find? fun config =>
        config.id = id).or
        (((store.upsertSubscription sub fetched).configsOf sub.id).find? fun config =>
          config.id = id) := by
  rw [configsOf_upsertSubscription, find, configs_upsertSubscription, List.find?_append]

/-- What an id denotes is denoted by it in every part of the list that it is in. -/
theorem find?_filter_of_find? {configs : List ProxyConfig} {config : ProxyConfig}
    {isId isPart : ProxyConfig → Bool} (found : configs.find? isId = some config)
    (part : isPart config = true) : (configs.filter isPart).find? isId = some config := by
  rw [List.find?_eq_some_iff_append] at found ⊢
  rcases found with ⟨denoted, earlier, later, rfl, others⟩
  refine ⟨denoted, earlier.filter isPart, later.filter isPart, ?_, ?_⟩
  · rw [List.filter_append, List.filter_cons_of_pos part]
  · exact fun other mem => others other (List.mem_of_mem_filter mem)

/-- The signatures of the subscription are distinct, and an id that denotes one of its configs is
not the id of a config elsewhere. -/
structure Rematches (store : ConfigStore) (sub : Subscription) : Prop where
  sigs : ((store.configsOf sub.id).map sigOf).Nodup
  apart : ∀ id config, store.find id = some config → config.subId = sub.id →
    ∀ other ∈ store.configs, other.id = id → other.subId = sub.id

/-- Given that the configs have their ids, one that an id denoted is found again unless a config
elsewhere has the id too. -/
theorem find_upsert_iff {sub : Subscription} {fetched : List ProxyConfig} {id : Text}
    {config : ProxyConfig}
    (ids : (store.upsertSubscription sub fetched).configsOf sub.id = store.configsOf sub.id)
    (found : store.find id = some config) (own : config.subId = sub.id) :
    (store.upsertSubscription sub fetched).find id = some config ↔
      ∀ other ∈ store.configs, other.id = id → other.subId = sub.id := by
  have inOwn : ((store.configsOf sub.id).find? fun config => config.id = id) = some config :=
    find?_filter_of_find? found (decide_eq_true own)
  rw [find_upsertSubscription, ids, inOwn]
  constructor
  · intro same other mem isId
    by_contra elsewhere
    have isSome : ((store.configs.filter fun config => config.subId ≠ sub.id).find? fun config =>
        config.id = id).isSome := by
      rw [List.find?_isSome]
      exact ⟨other, List.mem_filter.mpr ⟨mem, decide_eq_true elsewhere⟩, decide_eq_true isId⟩
    rcases Option.isSome_iff_exists.mp isSome with ⟨first, isFirst⟩
    have outside := List.of_mem_filter (List.mem_of_find?_eq_some isFirst)
    rw [isFirst, Option.some_or, Option.some.injEq] at same
    rw [same] at outside
    exact of_decide_eq_true outside own
  · intro apart
    rw [List.find?_eq_none.mpr, Option.none_or]
    intro other mem isId
    rw [List.mem_filter] at mem
    exact of_decide_eq_true mem.2 (apart other mem.1 (of_decide_eq_true isId))

theorem changesNothing_iff (store : ConfigStore) (sub : Subscription) (fetched : List ProxyConfig)
    (lists : ListsSame store sub fetched) :
    ChangesNothing store sub fetched ↔ Rematches store sub := by
  constructor
  · rintro ⟨ids, denotes⟩
    refine ⟨(configsOf_upsert_iff lists).mp ids, fun id config found own => ?_⟩
    exact (find_upsert_iff ids found own).mp (denotes id config found own)
  · rintro ⟨sigs, apart⟩
    have ids := (configsOf_upsert_iff lists).mpr sigs
    refine ⟨ids, fun id config found own => ?_⟩
    exact (find_upsert_iff ids found own).mpr (apart id config found own)

/-- The configs of a subscription reach one server over two paths. -/
def pathConfig (id path : Text) : ProxyConfig :=
  { listedConfig id with network := txt "ws", path := path, subId := listedSub.id }

def pathStore (second : Text) : ConfigStore where
  configs := [pathConfig (txt "1") (txt "/a"),
    { pathConfig (txt "2") (txt "/b") with password := second }]
  subscriptions := [listedSub]

/-- The same configs with new ids. -/
def pathFetched (second : Text) : List ProxyConfig :=
  [pathConfig (txt "3") (txt "/a"), { pathConfig (txt "4") (txt "/b") with password := second }]

theorem listsSame_pathStore (second : Text) :
    ListsSame (pathStore second) listedSub (pathFetched second) where
  contents := .cons rfl (.cons rfl .nil)
  fresh := by
    simp +decide [pathFetched, pathStore, pathConfig, listedConfig]
  distinct := by
    simp +decide [pathFetched, pathConfig, listedConfig]

theorem changesNothing_pathStore :
    ChangesNothing (pathStore (txt "other")) listedSub (pathFetched (txt "other")) := by
  refine (changesNothing_iff _ _ _ (listsSame_pathStore (txt "other"))).mpr ⟨by decide +kernel, ?_⟩
  intro id config _ _ other mem _
  simp only [pathStore, List.mem_cons, List.not_mem_nil, or_false] at mem
  rcases mem with rfl | rfl <;> rfl

/-- The first config gets the id of the second, and the second a fresh one. -/
theorem not_changesNothing_pathStore :
    ListsSame (pathStore (txt "secret")) listedSub (pathFetched (txt "secret")) ∧
      ¬ChangesNothing (pathStore (txt "secret")) listedSub (pathFetched (txt "secret")) := by
  refine ⟨listsSame_pathStore (txt "secret"), ?_⟩
  rintro ⟨ids, -⟩
  exact absurd ids (by decide +kernel)

end GRoute.ConfigStore
