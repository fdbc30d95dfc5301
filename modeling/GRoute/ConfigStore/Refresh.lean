import GRoute.ConfigStore.Upsert

/-!
# Subscription refreshes

A refresh reads the record of a subscription, waits for the network and then puts the record
back with what it fetched. `SubscriptionRefresher.refreshStale`, the refresh of a subscription
on the config screen and `FreeConfigs.refresh` all do so. Anything can happen to the store
between the two steps.
-/

namespace GRoute.ConfigStore

open Text

/-- The header `subscription-userinfo`. -/
structure UserInfo where
  used : ℤ
  total : ℤ
  expire : ℤ
  deriving DecidableEq, Repr

/-- What a refresh brings. A refresh of the free configs has no user info. -/
structure FetchResult where
  configs : List ProxyConfig
  userInfo : Option UserInfo := none
  deriving DecidableEq, Repr

/-- What makes a refresh. -/
inductive Refresher
  /-- With `autoRefreshHours` and the current time. -/
  | timer (hours now : ℤ)
  | manual
  | freeConfigs
  deriving DecidableEq, Repr

/-- `FreeConfigs.SOURCE_URL`. -/
def sourceUrl : Text := txt "https://t.me/s/ConfigsHUB"

/-- The records that a refresher can read. -/
def captures (store : ConfigStore) : Refresher → List Subscription
  | .timer hours now =>
      if hours ≤ 0 then []
      else store.subscriptions.filter fun sub => sub.lastUpdated ≤ now - hours * 3600000
  | .manual => store.subscriptions.filter fun sub => sub.url ≠ sourceUrl
  | .freeConfigs => (store.subscriptions.find? fun sub => sub.url = sourceUrl).toList

/-- The record that is put back. -/
def refreshed (sub : Subscription) (info : Option UserInfo) (now : ℤ) : Subscription :=
  { sub with
    used := (info.map UserInfo.used).getD sub.used
    total := (info.map UserInfo.total).getD sub.total
    expire := (info.map UserInfo.expire).getD sub.expire
    lastUpdated := now }

/-- The timer ignores an empty result, and a fetch that fails leaves nothing to put. -/
def puts : Refresher → Option FetchResult → Option FetchResult
  | .timer _ _, some result => if result.configs = [] then none else some result
  | _, result => result

def finishRefresh (store : ConfigStore) (refresher : Refresher) (sub : Subscription)
    (result : Option FetchResult) (now : ℤ) : ConfigStore :=
  match puts refresher result with
  | some result => store.upsertSubscription (refreshed sub result.userInfo now) result.configs
  | none => store

/-- A refresh whose record was read and the operations on the store since. -/
structure Refresh where
  start : ConfigStore
  refresher : Refresher
  sub : Subscription
  captured : sub ∈ captures start refresher
  between : List StoreOp

namespace Refresh

variable (refresh : Refresh)

/-- The store when the result arrives. -/
def before : ConfigStore := refresh.between.foldl step refresh.start

def after (result : Option FetchResult) (now : ℤ) : ConfigStore :=
  refresh.before.finishRefresh refresh.refresher refresh.sub result now

/-- The subscription, which was there when its record was read, was deleted since. -/
def Deleted : Prop := ∀ other ∈ refresh.before.subscriptions, other.id ≠ refresh.sub.id

/-- The subscription was renamed since and has that name. -/
def Renamed (name : Text) : Prop :=
  .renameSubscription refresh.sub.id name ∈ refresh.between ∧
    ∃ current ∈ refresh.before.subscriptions, current.id = refresh.sub.id ∧ current.name = name

/-- A deleted subscription stays deleted with its configs, and a new name stays. -/
def RespectsEdits (result : Option FetchResult) (now : ℤ) : Prop :=
  (refresh.Deleted →
    (∀ other ∈ (refresh.after result now).subscriptions, other.id ≠ refresh.sub.id) ∧
      ∀ config ∈ (refresh.after result now).configs, config.subId = refresh.sub.id →
        config ∈ refresh.before.configs) ∧
    ∀ name, refresh.Renamed name →
      ∃ current ∈ (refresh.after result now).subscriptions,
        current.id = refresh.sub.id ∧ current.name = name

variable {refresh}

theorem after_of_puts_none {result : Option FetchResult} {now : ℤ}
    (nothing : puts refresh.refresher result = none) :
    refresh.after result now = refresh.before := by
  simp only [after, finishRefresh, nothing]

/-- The record that was read is the one of its id in the end, with the name that it had. -/
theorem mem_after_iff {result : Option FetchResult} {put : FetchResult} {now : ℤ}
    {other : Subscription} (isPut : puts refresh.refresher result = some put) :
    (other ∈ (refresh.after result now).subscriptions ∧ other.id = refresh.sub.id) ↔
      other = refreshed refresh.sub put.userInfo now := by
  simp only [after, finishRefresh, isPut, mem_subscriptions_upsert]
  constructor
  · rintro ⟨⟨-, differs⟩ | isRecord, same⟩
    · exact absurd same differs
    · exact isRecord
  · rintro rfl
    exact ⟨.inr rfl, rfl⟩

theorem respectsEdits_iff (refresh : Refresh) (result : Option FetchResult) (now : ℤ) :
    refresh.RespectsEdits result now ↔
      puts refresh.refresher result = none ∨
        ¬ refresh.Deleted ∧ ∀ name, refresh.Renamed name → name = refresh.sub.name := by
  cases isPut : puts refresh.refresher result with
  | none =>
      refine iff_of_true ?_ (.inl rfl)
      rw [RespectsEdits, after_of_puts_none isPut]
      exact ⟨fun deleted => ⟨deleted, fun _ mem _ => mem⟩, fun _ renamed => renamed.2⟩
  | some put =>
      have back := (mem_after_iff isPut).mpr (rfl : refreshed refresh.sub put.userInfo now = _)
      simp only [reduceCtorEq, false_or]
      constructor
      · rintro ⟨staysDeleted, staysRenamed⟩
        refine ⟨fun deleted => (staysDeleted deleted).1 _ back.1 back.2, ?_⟩
        intro name renamed
        rcases staysRenamed name renamed with ⟨current, mem, isId, rfl⟩
        rw [(mem_after_iff isPut).mp ⟨mem, isId⟩]
        rfl
      · rintro ⟨notDeleted, sameName⟩
        refine ⟨fun deleted => absurd deleted notDeleted, ?_⟩
        intro name renamed
        rw [sameName name renamed]
        exact ⟨_, back.1, rfl, rfl⟩

/-- The subscription is deleted while its refresh waits. -/
def deletedMeanwhile : Refresh where
  start := { subscriptions := [listedSub] }
  refresher := .manual
  sub := listedSub
  captured := by decide
  between := [.deleteSubscription (txt "sub")]

theorem not_respectsEdits_deletedMeanwhile :
    ¬ deletedMeanwhile.RespectsEdits (some { configs := [listedConfig (txt "1")] }) 0 := by
  rintro ⟨staysDeleted, -⟩
  have deleted : deletedMeanwhile.Deleted := by
    rw [Deleted]
    decide
  exact (staysDeleted deleted).1 (refreshed listedSub none 0) (by decide) rfl

end Refresh

/-- The fetched configs and the configs that they become. -/
def refreshedPairs (store : ConfigStore) (sub : Subscription) (fetched : List ProxyConfig) :
    List (ProxyConfig × ProxyConfig) :=
  fetched.zip ((store.upsertSubscription sub fetched).configs.drop
    (store.configs.filter fun config => config.subId ≠ sub.id).length)

/-- A config of the subscription that keeps its id keeps its chain, its Tor base and its pinned
certificate if the fetched config sets none. -/
def KeepsAttached (store : ConfigStore) (sub : Subscription) (fetched : List ProxyConfig) : Prop :=
  ∀ old ∈ store.configsOf sub.id, ∀ pair ∈ store.refreshedPairs sub fetched,
    pair.2.id = old.id →
      (pair.1.chainId = [] → pair.2.chainId = old.chainId) ∧
        (pair.1.torBaseId = [] → pair.2.torBaseId = old.torBaseId) ∧
        (pair.1.pinnedCertSha256 = [] → pair.2.pinnedCertSha256 = old.pinnedCertSha256)

/-- Nothing is attached to the config that the fetched config does not set. -/
def NothingAttached (old f : ProxyConfig) : Prop :=
  (f.chainId = [] → old.chainId = []) ∧ (f.torBaseId = [] → old.torBaseId = []) ∧
    (f.pinnedCertSha256 = [] → old.pinnedCertSha256 = [])

variable {store : ConfigStore}

theorem mem_refreshedPairs {sub : Subscription} {fetched : List ProxyConfig} {f new : ProxyConfig} :
    (f, new) ∈ store.refreshedPairs sub fetched ↔
      ∃ earlier later, fetched = earlier ++ f :: later ∧
        new = assigned (store.configsOf sub.id) sub.id earlier f := by
  rw [refreshedPairs, configs_upsertSubscription, List.drop_left, mem_zip_retag]
  simp only [List.nil_append]

theorem keepsAttached_iff (store : ConfigStore) (sub : Subscription) (fetched : List ProxyConfig) :
    store.KeepsAttached sub fetched ↔
      ∀ old ∈ store.configsOf sub.id, ∀ earlier f later, fetched = earlier ++ f :: later →
        TakesId (store.configsOf sub.id) earlier f old.id → NothingAttached old f := by
  constructor
  · intro keeps old isOld earlier f later split takes
    have isPair : (f, assigned (store.configsOf sub.id) sub.id earlier f) ∈
        store.refreshedPairs sub fetched :=
      mem_refreshedPairs.mpr ⟨earlier, later, split, rfl⟩
    rcases keeps old isOld _ isPair (id_assigned_eq_iff.mpr takes) with ⟨chain, torBase, pinned⟩
    exact ⟨fun unset => (chain unset).symm.trans unset,
      fun unset => (torBase unset).symm.trans unset, fun unset => (pinned unset).symm.trans unset⟩
  · rintro nothing old isOld ⟨f, new⟩ isPair sameId
    rcases mem_refreshedPairs.mp isPair with ⟨earlier, later, split, rfl⟩
    have attached := nothing old isOld earlier f later split (id_assigned_eq_iff.mp sameId)
    rcases attached with ⟨chain, torBase, pinned⟩
    exact ⟨fun unset => unset.trans (chain unset).symm,
      fun unset => unset.trans (torBase unset).symm, fun unset => unset.trans (pinned unset).symm⟩

/-- The user pins a certificate and a refresh fetches the same server. -/
theorem not_keepsAttached_pinned :
    ¬ KeepsAttached
      { configs := [{ listedConfig (txt "1") with
          subId := txt "sub", chainId := txt "hop", pinnedCertSha256 := txt "ab12" }]
        subscriptions := [listedSub] }
      listedSub [listedConfig (txt "2")] := by
  intro keeps
  have kept := keeps _ (List.mem_singleton_self _) _ (List.mem_singleton_self _) rfl
  exact absurd (kept.2.2 rfl) (by decide)

end GRoute.ConfigStore
