import GRoute.ConfigBuilder.BeyondKey
import GRoute.ConfigStore.Upsert
import GRoute.Foundation.Repeats

/-!
# Removing duplicates

`ConfigStore.duplicateIds` and its use. The loop collects the ids of the configs that stand after
one with the same key. If the ids are distinct, deleting them leaves the first config of every key.
The key leaves out fields that the outbound depends on, so what is deleted need not be a duplicate.
It is one if configs with the same key agree in what the outbound takes from the other fields.
-/

namespace GRoute.ConfigStore

open Text ConfigBuilder

variable (platform : Platform)

def duplicateKeyParts (c : ProxyConfig) : List Text :=
  [c.protocol, platform.casing.lowercase (trim c.address), ofInt c.port,
    c.uuid, c.password, c.method, c.encryption, c.flow,
    ofInt c.alterId, c.network, c.security, c.sni,
    c.path, c.host, c.publicKey, c.shortId, c.serviceName,
    c.privateKey, c.localAddress, c.torCountry, c.aetherMode]

def duplicateKey (c : ProxyConfig) : Text := joinWith 0 (duplicateKeyParts platform c)

/-- One round of the loop of `duplicateIds`, with the keys seen and the ids found so far. -/
def duplicateStep (state : List Text × List Text) (c : ProxyConfig) : List Text × List Text :=
  if duplicateKey platform c ∈ state.1 then (state.1, addOnce state.2 c.id)
  else (duplicateKey platform c :: state.1, state.2)

def duplicateIds (store : ConfigStore) : List Text :=
  (store.configs.foldl (duplicateStep platform) ([], [])).2

/-- `deleteConfigsByIds(duplicateIds())`. -/
def purge (store : ConfigStore) : ConfigStore :=
  store.deleteConfigsByIds (duplicateIds platform store)

variable {platform} {store : ConfigStore}

theorem mem_foldl_duplicateStep {configs : List ProxyConfig} {seen found : List Text} {id : Text} :
    id ∈ (configs.foldl (duplicateStep platform) (seen, found)).2 ↔
      id ∈ found ∨ ∃ config, config.id = id ∧
        (RepeatedIn (duplicateKey platform) configs config ∨
          config ∈ configs ∧ duplicateKey platform config ∈ seen) := by
  induction configs generalizing seen found with
  | nil => simp
  | cons first rest ih =>
      rw [List.foldl_cons, duplicateStep]
      by_cases again : duplicateKey platform first ∈ seen
      · rw [if_pos again, ih, mem_addOnce]
        simp only [repeatedIn_cons, List.mem_cons]
        constructor
        · rintro ((old | rfl) | ⟨config, isId, repeated | ⟨mem, isSeen⟩⟩)
          · exact .inl old
          · exact .inr ⟨first, rfl, .inr ⟨.inl rfl, again⟩⟩
          · exact .inr ⟨config, isId, .inl (.inl repeated)⟩
          · exact .inr ⟨config, isId, .inr ⟨.inr mem, isSeen⟩⟩
        · rintro (old | ⟨config, isId, (repeated | ⟨same, mem⟩) | ⟨rfl | mem, isSeen⟩⟩)
          · exact .inl (.inl old)
          · exact .inr ⟨config, isId, .inl repeated⟩
          · exact .inr ⟨config, isId, .inr ⟨mem, same ▸ again⟩⟩
          · exact .inl (.inr isId.symm)
          · exact .inr ⟨config, isId, .inr ⟨mem, isSeen⟩⟩
      · rw [if_neg again, ih]
        simp only [repeatedIn_cons, List.mem_cons]
        constructor
        · rintro (old | ⟨config, isId, repeated | ⟨mem, same | isSeen⟩⟩)
          · exact .inl old
          · exact .inr ⟨config, isId, .inl (.inl repeated)⟩
          · exact .inr ⟨config, isId, .inl (.inr ⟨same.symm, mem⟩)⟩
          · exact .inr ⟨config, isId, .inr ⟨.inr mem, isSeen⟩⟩
        · rintro (old | ⟨config, isId, (repeated | ⟨same, mem⟩) | ⟨rfl | mem, isSeen⟩⟩)
          · exact .inl old
          · exact .inr ⟨config, isId, .inl repeated⟩
          · exact .inr ⟨config, isId, .inr ⟨mem, .inl same.symm⟩⟩
          · exact absurd isSeen again
          · exact .inr ⟨config, isId, .inr ⟨mem, .inr isSeen⟩⟩

theorem mem_duplicateIds {id : Text} :
    id ∈ duplicateIds platform store ↔
      ∃ config, config.id = id ∧ RepeatedIn (duplicateKey platform) store.configs config := by
  rw [duplicateIds, mem_foldl_duplicateStep]
  simp

theorem configs_deleteConfigsByIds (ids : List Text) :
    (store.deleteConfigsByIds ids).configs =
      store.configs.filter fun config => config.id ∉ ids := by
  rw [deleteConfigsByIds]
  split
  · next empty => simp [empty]
  · rfl

/-- The store after the purge has the first config of every key, in their order. -/
structure PurgedExactly (platform : Platform) (store : ConfigStore) : Prop where
  firsts : (purge platform store).configs =
    store.configs.filter fun config => FirstIn (duplicateKey platform) store.configs config
  one : ∀ config ∈ store.configs, ∃! kept, kept ∈ (purge platform store).configs ∧
    duplicateKey platform kept = duplicateKey platform config
  none : duplicateIds platform (purge platform store) = []
  idempotent : purge platform (purge platform store) = purge platform store

section

variable (distinct : (store.configs.map ProxyConfig.id).Nodup)

include distinct

/-- The id of a repeated config tells which one it is. -/
theorem notMem_duplicateIds_iff {config : ProxyConfig} (mem : config ∈ store.configs) :
    config.id ∉ duplicateIds platform store ↔
      FirstIn (duplicateKey platform) store.configs config := by
  rw [mem_duplicateIds, ← not_repeatedIn_iff (List.Nodup.of_map _ distinct) mem]
  apply not_congr
  constructor
  · rintro ⟨other, same, repeated⟩
    rw [← List.inj_on_of_nodup_map distinct repeated.mem mem same]
    exact repeated
  · intro repeated
    exact ⟨config, rfl, repeated⟩

theorem configs_purge : (purge platform store).configs =
    store.configs.filter fun config => FirstIn (duplicateKey platform) store.configs config := by
  rw [purge, configs_deleteConfigsByIds]
  apply List.filter_congr
  intro config mem
  exact decide_eq_decide.mpr (notMem_duplicateIds_iff distinct mem)

theorem mem_configs_purge_iff_firstIn {config : ProxyConfig} :
    config ∈ (purge platform store).configs ↔
      FirstIn (duplicateKey platform) store.configs config := by
  rw [configs_purge distinct, List.mem_filter, decide_eq_true_eq]
  exact and_iff_right_of_imp FirstIn.mem

theorem duplicateIds_purge : duplicateIds platform (purge platform store) = [] := by
  rw [List.eq_nil_iff_forall_not_mem]
  intro id isDuplicate
  rcases mem_duplicateIds.mp isDuplicate with ⟨config, -, repeated⟩
  apply not_repeatedIn_of_sublist (List.Nodup.of_map _ distinct) _ _ repeated
  · rw [configs_purge distinct]
    exact List.filter_sublist
  · exact fun kept => (mem_configs_purge_iff_firstIn distinct).mp

end

theorem purgedExactly (platform : Platform) (store : ConfigStore)
    (distinct : (store.configs.map ProxyConfig.id).Nodup) : PurgedExactly platform store where
  firsts := configs_purge distinct
  one := by
    intro config mem
    rcases (exists_firstIn mem : ∃ first, FirstIn (duplicateKey platform) _ first ∧ _) with
      ⟨first, isFirst, same⟩
    refine ⟨first, ⟨(mem_configs_purge_iff_firstIn distinct).mpr isFirst, same⟩, ?_⟩
    rintro other ⟨isKept, otherSame⟩
    have otherFirst := (mem_configs_purge_iff_firstIn distinct).mp isKept
    exact otherFirst.eq isFirst (otherSame.trans same.symm)
  none := duplicateIds_purge distinct
  idempotent := by
    rw [purge, duplicateIds_purge distinct, deleteConfigsByIds, if_pos rfl]

/-- Two configs of the same server, and one of another. -/
def twiceListed : ConfigStore where
  configs := [listedConfig (txt "1"),
    { listedConfig (txt "2") with address := txt "other.example" },
    { listedConfig (txt "3") with name := txt "again" }]

theorem purgedExactly_twiceListed : PurgedExactly .ascii twiceListed ∧
    duplicateIds .ascii twiceListed = [txt "3"] :=
  ⟨purgedExactly .ascii twiceListed (by decide +kernel), by decide +kernel⟩

/-- The config with its address in the form in which addresses are compared. -/
def comparable (platform : Platform) (c : ProxyConfig) : ProxyConfig :=
  { c with address := platform.casing.lowercase (trim c.address) }

/-- Both configs make the same outbound, apart from case and blanks of the address, and have the
same chain and the same base for Tor. -/
def SameServer (platform : Platform) (c d : ProxyConfig) : Prop :=
  buildOutbound platform (comparable platform c) = buildOutbound platform (comparable platform d) ∧
    c.chainId = d.chainId ∧ c.torBaseId = d.torBaseId

/-- Every config that the purge removes leaves one for the same server behind. -/
def LosesNoServer (platform : Platform) (store : ConfigStore) : Prop :=
  ∀ config ∈ store.configs, config ∉ (purge platform store).configs →
    ∃ kept ∈ (purge platform store).configs, SameServer platform kept config

/-- The configs agree in what the outbound, the chain and the base for Tor take from the fields that
are not in the key. -/
structure AgreesBeyondKey (platform : Platform) (c d : ProxyConfig) : Prop where
  outbound : outboundBeyondKey platform c = outboundBeyondKey platform d
  chain : c.chainId = d.chainId
  torBase : c.torBaseId = d.torBaseId

instance (platform : Platform) (c d : ProxyConfig) : Decidable (AgreesBeyondKey platform c d) :=
  decidable_of_iff (outboundBeyondKey platform c = outboundBeyondKey platform d ∧
      c.chainId = d.chainId ∧ c.torBaseId = d.torBaseId)
    ⟨fun ⟨outbound, chain, torBase⟩ => ⟨outbound, chain, torBase⟩,
      fun agrees => ⟨agrees.outbound, agrees.chain, agrees.torBase⟩⟩

/-- The parts of the key have the fields that an outbound depends on. -/
theorem sameKeyFields_of_parts {c d : ProxyConfig}
    (parts : duplicateKeyParts platform c = duplicateKeyParts platform d) :
    SameKeyFields (comparable platform c) (comparable platform d) := by
  simp only [duplicateKeyParts, List.cons.injEq, and_true, Json.ofInt_inj] at parts
  rcases parts with ⟨protocol, address, port, uuid, password, method, encryption, flow, alterId,
    network, security, sni, path, host, publicKey, shortId, serviceName, privateKey, localAddress,
    -, -⟩
  exact ⟨protocol, address, port, uuid, password, method, encryption, flow, alterId, network,
    security, sni, path, host, publicKey, shortId, serviceName, privateKey, localAddress⟩

/-- Configs with the same parts of the key are of one server exactly if they agree beyond it. -/
theorem sameServer_iff_of_parts {c d : ProxyConfig}
    (parts : duplicateKeyParts platform c = duplicateKeyParts platform d) :
    SameServer platform c d ↔ AgreesBeyondKey platform c d := by
  rw [SameServer, buildOutbound_inj (sameKeyFields_of_parts parts)]
  constructor
  · rintro ⟨outbound, chain, torBase⟩
    exact ⟨outbound, chain, torBase⟩
  · rintro ⟨outbound, chain, torBase⟩
    exact ⟨outbound, chain, torBase⟩

theorem duplicateKeyParts_eq {c d : ProxyConfig}
    (noNul : ∀ part ∈ duplicateKeyParts platform c, 0 ∉ part)
    (noNul' : ∀ part ∈ duplicateKeyParts platform d, 0 ∉ part)
    (same : duplicateKey platform c = duplicateKey platform d) :
    duplicateKeyParts platform c = duplicateKeyParts platform d := by
  rw [← split_joinWith noNul (List.cons_ne_nil _ _), ← split_joinWith noNul' (List.cons_ne_nil _ _)]
  exact congrArg (split · 0) same

/-- If the ids are distinct and no part of a key has its separator in it, configs with the same key
are of one server exactly if they agree beyond it, and if they all do, no server is lost. -/
theorem losesNoServer_of_agreesBeyondKey (platform : Platform) (store : ConfigStore)
    (distinct : (store.configs.map ProxyConfig.id).Nodup)
    (noNul : ∀ config ∈ store.configs, ∀ part ∈ duplicateKeyParts platform config, 0 ∉ part) :
    (∀ c ∈ store.configs, ∀ d ∈ store.configs,
        duplicateKey platform c = duplicateKey platform d →
          (SameServer platform c d ↔ AgreesBeyondKey platform c d)) ∧
      ((∀ c ∈ store.configs, ∀ d ∈ store.configs,
          duplicateKey platform c = duplicateKey platform d → AgreesBeyondKey platform c d) →
        LosesNoServer platform store) := by
  have pairs : ∀ c ∈ store.configs, ∀ d ∈ store.configs,
      duplicateKey platform c = duplicateKey platform d →
        (SameServer platform c d ↔ AgreesBeyondKey platform c d) := by
    intro c cMem d dMem same
    exact sameServer_iff_of_parts (duplicateKeyParts_eq (noNul c cMem) (noNul d dMem) same)
  refine ⟨pairs, ?_⟩
  intro agree config mem _
  -- the first config with the key stays
  rcases (exists_firstIn mem : ∃ first, FirstIn (duplicateKey platform) _ first ∧ _) with
    ⟨kept, isFirst, same⟩
  refine ⟨kept, (mem_configs_purge_iff_firstIn distinct).mpr isFirst, ?_⟩
  exact (pairs kept isFirst.mem config mem same).mpr (agree kept isFirst.mem config mem same)

theorem losesNoServer_twiceListed :
    LosesNoServer .ascii twiceListed ∧ duplicateIds .ascii twiceListed ≠ [] :=
  ⟨(losesNoServer_of_agreesBeyondKey .ascii twiceListed (by decide +kernel)
    (by decide +kernel)).2 (by decide +kernel), by decide +kernel⟩

/-- A Hysteria2 config whose traffic is obfuscated with the password. -/
def obfuscated (id password : Text) : ProxyConfig :=
  { listedConfig id with protocol := txt "hysteria2", hyObfsPassword := password }

def obfuscatedTwice : ConfigStore where
  configs := [obfuscated (txt "1") (txt "old"), obfuscated (txt "2") (txt "new")]

theorem not_losesNoServer_obfuscatedTwice : ¬LosesNoServer .ascii obfuscatedTwice := by
  intro safe
  have left : (purge .ascii obfuscatedTwice).configs = [obfuscated (txt "1") (txt "old")] := by
    decide +kernel
  rcases safe (obfuscated (txt "2") (txt "new")) (by decide) (by rw [left]; decide) with
    ⟨kept, isKept, sameOutbound, -⟩
  rw [left, List.mem_singleton] at isKept
  rw [isKept] at sameOutbound
  exact absurd (congrArg Json.print sameOutbound) (by decide +kernel)

end GRoute.ConfigStore
