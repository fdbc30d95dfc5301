import GRoute.ConfigBuilder.Pin
import GRoute.ConfigStore.Upsert
import GRoute.Connect
import GRoute.Foundation.Transition

/-!
# Trust on first use

`MainActivity.launchConnect` fetches the hash of the server's certificate for a TLS config that
allows insecure servers and has no valid pin, stores it as the pin and connects with it. From then
on the config is to be connected with that pin only, until the user edits or deletes it.

A tap captures a config of the store. It may be launched much later, after a pick or a switch,
and the fetch takes its time too. Which hash an id is trusted with and what was trusted when a
config was launched are recorded beside the state, and no step depends on them.
-/

namespace GRoute

open Text ConfigBuilder Transition

/-- The connect with the config builds an outbound that asks for the certificate. -/
def UsesPin (config : ProxyConfig) (pin : Text) : Prop :=
  config.protocol ≠ txt "ikev2" ∧ Pins config pin

instance (config : ProxyConfig) (pin : Text) : Decidable (UsesPin config pin) :=
  inferInstanceAs (Decidable (_ ∧ _))

/-- Whatever the store holds then, the core is started with a first outbound that has the pin. -/
def BuildsPinned (platform : Platform) (config : ProxyConfig) (pin : Text) : Prop :=
  ∀ store mixedPort, ∃ launch out,
    Connect.proceedConnect platform store mixedPort false config = .core launch ∧
      (Xray.outboundsOf launch.root).head? = some out ∧ pinOf out = some (.str pin)

theorem buildsPinned_iff {platform : Platform} {config : ProxyConfig} {pin : Text} :
    BuildsPinned platform config pin ↔ UsesPin config pin := by
  have first (store : ConfigStore) (mixedPort : ℤ) : (Xray.outboundsOf (buildRoot platform mixedPort
      config (Connect.mainOptions store config))).head? =
        some (proxyOutbound platform config (Connect.mainOptions store config)) := by
    rw [outboundsOf_buildRoot]
    rfl
  constructor
  · intro builds
    rcases builds {} 0 with ⟨launch, out, started, isFirst, pinned⟩
    have notIke : config.protocol ≠ txt "ikev2" := by
      intro isIke
      rw [Connect.proceedConnect, if_neg Bool.false_ne_true, if_pos isIke] at started
      cases started
    rw [Connect.proceedConnect, if_neg Bool.false_ne_true, if_neg notIke] at started
    cases started
    rw [first] at isFirst
    cases isFirst
    exact ⟨notIke, (pins_iff _).mp pinned⟩
  · rintro ⟨notIke, pins⟩ store mixedPort
    have started : Connect.proceedConnect platform store mixedPort false config = _ :=
      (if_neg Bool.false_ne_true).trans (if_neg notIke)
    exact ⟨_, _, started, first store mixedPort, (pins_iff _).mpr pins⟩

/-- The store, and the connects that are under way. -/
structure Pinning where
  store : ConfigStore := {}
  /-- The configs for which `launchConnect` will be called. -/
  waiting : List ProxyConfig := []
  /-- The configs for which a certificate is being fetched. -/
  fetching : List ProxyConfig := []
  /-- The hashes that were fetched and used, by the id of the config. -/
  trusted : List (Text × Text) := []
  /-- The configs that were launched, with the hash that was trusted for their id before. -/
  launched : List (ProxyConfig × Option Text) := []
  deriving DecidableEq, Repr

namespace Pinning

variable (platform : Platform) (s : Pinning)

def trust (id : Text) : Option Text :=
  (s.trusted.find? fun entry => entry.1 = id).map Prod.snd

def needsPin (config : ProxyConfig) : Bool :=
  config.allowInsecure && !CertPin.isValid config.pinnedCertSha256 &&
    readSecurity platform config = txt "tls"

def proceedLaunch (config : ProxyConfig) : Pinning :=
  { s with launched := s.launched ++ [(config, s.trust config.id)] }

/-- The hash is now trusted, if it is used and the first one. -/
def trustNow (config : ProxyConfig) (pin : Text) : Pinning :=
  if UsesPin config pin ∧ s.trust config.id = none then
    { s with trusted := (config.id, pin) :: s.trusted }
  else s

/-- The user edits or deletes the config with the id. -/
def forgets (store : ConfigStore) : StoreOp → Text → Bool
  | .update config, id => config.id = id
  | .delete deleted, id => deleted = id
  | .deleteConfigsByIds ids, id => id ∈ ids
  | .deleteAllConfigs, _ => true
  | .deleteSubscription sub, id =>
      store.configs.any fun config => config.id = id ∧ config.subId = sub
  | _, _ => false

inductive Event
  /-- The user chooses the config with the id on the main screen. -/
  | tap (id : Text)
  | launchConnect (index : ℕ)
  /-- `CertPin.fetch` returns. -/
  | fetched (index : ℕ) (pin : Option Text)
  | store (op : StoreOp)
  deriving DecidableEq, Repr

def step : Event → Option Pinning
  | .tap id => (s.store.find id).map fun config => { s with waiting := s.waiting ++ [config] }
  | .launchConnect index => do
      let config ← s.waiting[index]?
      let s := { s with waiting := s.waiting.eraseIdx index }
      if needsPin platform config then some { s with fetching := s.fetching ++ [config] }
      else some (s.proceedLaunch config)
  | .fetched index pin => do
      let config ← s.fetching[index]?
      let s := { s with fetching := s.fetching.eraseIdx index }
      match pin.filter (!isBlank ·) with
      | none => some (s.proceedLaunch config)
      | some pin =>
          let ready := { config with pinnedCertSha256 := pin }
          some (({ s with store := s.store.update ready }.proceedLaunch ready).trustNow ready pin)
  | .store op => some { s with
      store := s.store.step op
      trusted := s.trusted.filter fun entry => !forgets s.store op entry.1 }

/-- Every connect to an id with a trusted hash was made with that hash. -/
def HoldsTrust : Prop :=
  ∀ entry ∈ s.launched, ∀ pin, entry.2 = some pin → BuildsPinned platform entry.1 pin

/-- The config is connected with the hash that is trusted for its id. -/
def Respects (config : ProxyConfig) : Prop :=
  ∀ pin, s.trust config.id = some pin → UsesPin config pin

/-- The configs that an operation brings respect the trusted hashes. -/
def KeepsPins : StoreOp → Prop
  | .add config => s.Respects config
  | .addToLocalSub _ configs _ | .addImported configs | .restoreBackup configs _ _ =>
      ∀ config ∈ configs, s.Respects config
  | .upsertSubscription sub fetched => ∀ earlier f later id, fetched = earlier ++ f :: later →
      ConfigStore.TakesId (s.store.configsOf sub.id) earlier f id →
        ∀ pin, s.trust id = some pin → UsesPin f pin
  | .seedDefaultAetherIfNeeded id => s.trust id = none
  | _ => True

/-- A hash is used only if the stored config is not locked and no other connect to it is on its
way, and operations bring no config that would be connected without the trusted hash. -/
def KeepsTrust : Event → Prop
  | .tap _ | .launchConnect _ => True
  | .fetched index pin => ∀ config ∈ s.fetching[index]?, ∀ hash ∈ pin,
      UsesPin { config with pinnedCertSha256 := hash } hash →
        (∀ existing ∈ s.store.configs, existing.id = config.id → existing.locked = false) ∧
        ∀ other ∈ s.waiting ++ s.fetching.eraseIdx index, other.id ≠ config.id
  | .store op => s.KeepsPins op

/-- What is launched, now or later, uses the hash that is trusted. -/
structure Trusts : Prop where
  stored : ∀ config ∈ s.store.configs, s.Respects config
  waiting : ∀ config ∈ s.waiting, s.Respects config
  fetching : ∀ config ∈ s.fetching, s.trust config.id = none
  launched : ∀ entry ∈ s.launched, ∀ pin, entry.2 = some pin → UsesPin entry.1 pin

variable {platform} {s} {next : Pinning} {config : ProxyConfig} {id pin : Text}

theorem Trusts.holdsTrust (trusts : s.Trusts) : s.HoldsTrust platform := by
  intro entry mem pin isTrusted
  exact buildsPinned_iff.mpr (trusts.launched entry mem pin isTrusted)

theorem Trusts.proceedLaunch (trusts : s.Trusts) (respects : s.Respects config) :
    (s.proceedLaunch config).Trusts := by
  refine ⟨trusts.stored, trusts.waiting, trusts.fetching, ?_⟩
  intro entry mem pin isTrusted
  rcases List.mem_append.mp mem with before | now
  · exact trusts.launched entry before pin isTrusted
  · rw [List.mem_singleton.mp now] at isTrusted ⊢
    exact respects pin isTrusted

theorem trust_storeStep (op : StoreOp) :
    ({ s with
      store := s.store.step op
      trusted := s.trusted.filter fun entry => !forgets s.store op entry.1 } : Pinning).trust id =
        if forgets s.store op id then none else s.trust id := by
  rw [trust, trust, List.find?_filter]
  by_cases forgotten : forgets s.store op id
  · rw [if_pos forgotten, Option.map_eq_none_iff, List.find?_eq_none]
    rintro entry - found
    rcases of_decide_eq_true found with ⟨kept, same⟩
    rw [of_decide_eq_true same, forgotten] at kept
    cases kept
  · rw [if_neg forgotten]
    congr 2
    funext entry
    apply decide_eq_decide.mpr
    rw [decide_eq_true_eq]
    apply and_iff_right_of_imp
    rintro rfl
    rw [eq_false_of_ne_true forgotten, Bool.not_false]

theorem usesPin_of_mem_storeStep (trusts : s.Trusts) {op : StoreOp} (keeps : s.KeepsPins op)
    (mem : config ∈ (s.store.step op).configs) (kept : forgets s.store op config.id = false)
    (isTrusted : s.trust config.id = some pin) : UsesPin config pin := by
  rcases ConfigStore.mem_configs_step mem with before | enters
  · exact trusts.stored config before pin isTrusted
  cases op with
  | add added =>
      rw [show config = added from enters] at isTrusted ⊢
      exact keeps pin isTrusted
  | addToLocalSub name configs fresh =>
      rcases enters with ⟨added, isAdded, subId, rfl⟩
      exact keeps added isAdded pin isTrusted
  | update changed =>
      rcases enters with ⟨existing, -, same, rfl⟩
      apply absurd (of_decide_eq_false kept)
      split
      · exact not_not_intro same.symm
      · exact not_not_intro rfl
  | addImported imported => exact keeps config enters pin isTrusted
  | seedDefaultAetherIfNeeded fresh =>
      rw [show config = ConfigStore.defaultAether fresh from enters] at isTrusted
      cases keeps.symm.trans isTrusted
  | upsertSubscription sub fetched =>
      rcases enters with ⟨earlier, f, later, split, rfl⟩
      exact keeps earlier f later _ split (ConfigStore.id_assigned_eq_iff.mp rfl) pin isTrusted
  | restoreBackup configs subs restored => exact keeps config enters pin isTrusted
  | _ => cases enters

theorem Trusts.storeStep (trusts : s.Trusts) {op : StoreOp} (keeps : s.KeepsPins op) :
    ({ s with
      store := s.store.step op
      trusted := s.trusted.filter fun entry => !forgets s.store op entry.1 } : Pinning).Trusts := by
  constructor
  · intro config mem pin isTrusted
    rw [trust_storeStep, Option.ite_none_left_eq_some] at isTrusted
    rcases isTrusted with ⟨kept, isTrusted⟩
    exact usesPin_of_mem_storeStep trusts keeps mem (eq_false_of_ne_true kept) isTrusted
  · intro config mem pin isTrusted
    rw [trust_storeStep, Option.ite_none_left_eq_some] at isTrusted
    exact trusts.waiting config mem pin isTrusted.2
  · intro config mem
    rw [trust_storeStep, trusts.fetching config mem, ite_self]
  · exact trusts.launched

/-- A config for which a hash is trusted has a pin already. -/
theorem trust_eq_none_of_needsPin (respects : s.Respects config)
    (needs : needsPin platform config = true) : s.trust config.id = none := by
  rw [Option.eq_none_iff_forall_ne_some]
  intro pin isTrusted
  rcases respects pin isTrusted with ⟨-, -, rfl, isValid⟩
  rw [needsPin, isValid] at needs
  simp at needs

theorem Trusts.launchConnect (trusts : s.Trusts) {index : ℕ}
    (taken : step platform s (.launchConnect index) = some next) : next.Trusts := by
  rcases Option.bind_eq_some_iff.mp taken with ⟨config, found, taken⟩
  have respects := trusts.waiting config (List.mem_of_getElem? found)
  have fewer : ({ s with waiting := s.waiting.eraseIdx index } : Pinning).Trusts :=
    ⟨trusts.stored, fun other mem => trusts.waiting other (List.mem_of_mem_eraseIdx mem),
      trusts.fetching, trusts.launched⟩
  split at taken
  · next needs =>
      cases taken
      refine ⟨trusts.stored, fewer.waiting, ?_, trusts.launched⟩
      intro other mem
      rcases List.mem_append.mp mem with before | new
      · exact trusts.fetching other before
      · rw [List.mem_singleton.mp new]
        exact trust_eq_none_of_needsPin respects needs
  · cases taken
    exact fewer.proceedLaunch respects

theorem trust_cons : ({ s with trusted := (config.id, pin) :: s.trusted } : Pinning).trust id =
    if config.id = id then some pin else s.trust id := by
  rw [trust, List.find?_cons]
  by_cases same : config.id = id
  · rw [if_pos same, decide_eq_true same, Option.map_some]
  · rw [if_neg same, decide_eq_false same, trust]

/-- A hash may be trusted if no config is left that would be connected without it. -/
theorem Trusts.trustNow (trusts : s.Trusts) (alone : UsesPin config pin →
      (∀ stored ∈ s.store.configs, stored.id = config.id → stored = config) ∧
        ∀ other ∈ s.waiting ++ s.fetching, other.id ≠ config.id) :
    (s.trustNow config pin).Trusts := by
  rw [Pinning.trustNow]
  split
  · next first =>
      rcases alone first.1 with ⟨same, others⟩
      constructor
      · intro stored mem hash isTrusted
        rw [trust_cons] at isTrusted
        split at isTrusted
        · next isId =>
            cases isTrusted
            rw [same stored mem isId.symm]
            exact first.1
        · exact trusts.stored stored mem hash isTrusted
      · intro other mem hash isTrusted
        have isOther := others other (List.mem_append_left _ mem)
        rw [trust_cons, if_neg isOther.symm] at isTrusted
        exact trusts.waiting other mem hash isTrusted
      · intro other mem
        have isOther := others other (List.mem_append_right _ mem)
        rw [trust_cons, if_neg isOther.symm]
        exact trusts.fetching other mem
      · exact trusts.launched
  · exact trusts

/-- The stored pin is that of the config that is launched, for any config but a locked one. -/
theorem Trusts.pinStored (trusts : s.Trusts) (untrusted : s.trust config.id = none) :
    ({ s with store := s.store.update config } : Pinning).Trusts := by
  refine ⟨?_, trusts.waiting, trusts.fetching, trusts.launched⟩
  intro stored mem pin isTrusted
  rcases ConfigStore.mem_configs_update mem with ⟨before, -⟩ | ⟨same, -⟩
  · exact trusts.stored stored before pin isTrusted
  · rw [same] at isTrusted
    cases untrusted.symm.trans isTrusted

theorem Trusts.fetched (trusts : s.Trusts) {index : ℕ} {pin : Option Text}
    (keeps : s.KeepsTrust (.fetched index pin))
    (taken : step platform s (.fetched index pin) = some next) : next.Trusts := by
  rcases Option.bind_eq_some_iff.mp taken with ⟨config, found, taken⟩
  have untrusted := trusts.fetching config (List.mem_of_getElem? found)
  have fewer : ({ s with fetching := s.fetching.eraseIdx index } : Pinning).Trusts :=
    ⟨trusts.stored, trusts.waiting,
      fun other mem => trusts.fetching other (List.mem_of_mem_eraseIdx mem), trusts.launched⟩
  have respects (hash : Text) : s.Respects { config with pinnedCertSha256 := hash } := by
    intro pin isTrusted
    cases untrusted.symm.trans isTrusted
  split at taken
  · cases taken
    exact fewer.proceedLaunch (respects config.pinnedCertSha256)
  · next hash isHash =>
      cases taken
      have stillUntrusted : s.trust { config with pinnedCertSha256 := hash }.id = none := untrusted
      apply ((fewer.pinStored stillUntrusted).proceedLaunch (respects hash)).trustNow
      intro uses
      have isPin := (Option.filter_eq_some_iff.mp isHash).1
      rcases keeps config found hash isPin uses with ⟨free, others⟩
      refine ⟨?_, others⟩
      intro stored mem same
      rcases ConfigStore.mem_configs_update mem with ⟨-, other⟩ | ⟨-, isReady | isLocked⟩
      · exact absurd same other
      · exact isReady
      · rcases isLocked with ⟨existing, before, isId, locked⟩
        rw [free existing before isId] at locked
        cases locked

theorem Trusts.step (trusts : s.Trusts) {event : Event} (keeps : s.KeepsTrust event)
    (taken : step platform s event = some next) : next.Trusts := by
  cases event with
  | tap id =>
      rcases Option.map_eq_some_iff.mp taken with ⟨config, found, rfl⟩
      refine ⟨trusts.stored, ?_, trusts.fetching, trusts.launched⟩
      intro other mem
      rcases List.mem_append.mp mem with before | new
      · exact trusts.waiting other before
      · rw [List.mem_singleton.mp new]
        exact trusts.stored config (List.mem_of_find?_eq_some found)
  | launchConnect index => exact trusts.launchConnect taken
  | fetched index pin => exact trusts.fetched keeps taken
  | store op =>
      cases taken
      exact trusts.storeStep keeps

theorem trusts_initial (store : ConfigStore) : Trusts { store := store } := by
  constructor
  · intro config _ pin isTrusted
    rw [trust, List.find?_nil] at isTrusted
    cases isTrusted
  · intro config mem
    cases mem
  · intro config mem
    cases mem
  · intro entry mem
    cases mem

/-- Every history from any store keeps to the hashes that were trusted. -/
theorem holdsTrust_of_reaches {store : ConfigStore}
    (reached : Reaches (Pinning.step platform) KeepsTrust { store := store } s) :
    s.HoldsTrust platform := by
  have trusts : s.Trusts := by
    apply reached.invariant (trusts_initial store)
    intro state next event trusts keeps taken
    exact trusts.step keeps taken
  exact trusts.holdsTrust

def tlsConfig (locked : Bool) : ProxyConfig where
  name := txt "A"
  protocol := txt "vless"
  address := txt "192.0.2.1"
  port := 443
  security := txt "tls"
  allowInsecure := true
  locked := locked
  id := txt "a"

/-- A hash of 64 equal digits. -/
def hashOf (digit : Char) : Text := List.replicate 64 (unit digit)

/-- The hash is fetched once, and the second connect finds it in the store. -/
theorem holdsTrust_unlocked : ∃ s : Pinning,
    Reaches (Pinning.step .ascii) KeepsTrust { store := { configs := [tlsConfig false] } } s ∧
      ({ tlsConfig false with pinnedCertSha256 := hashOf '1' }, some (hashOf '1')) ∈ s.launched ∧
      s.HoldsTrust .ascii := by
  let pinned := { tlsConfig false with pinnedCertSha256 := hashOf '1' }
  let fetching : Pinning :=
    { store := { configs := [tlsConfig false] }, fetching := [tlsConfig false] }
  let trusting : Pinning :=
    { store := { configs := [pinned] }, trusted := [(txt "a", hashOf '1')]
      launched := [(pinned, none)] }
  let s : Pinning := { trusting with launched := [(pinned, none), (pinned, some (hashOf '1'))] }
  have first : Reaches (Pinning.step .ascii) KeepsTrust
      { store := { configs := [tlsConfig false] } } fetching := by
    refine (Reaches.refl.tail (.tap (txt "a")) trivial rfl).tail (.launchConnect 0) trivial ?_
    decide +kernel
  have second : Reaches (Pinning.step .ascii) KeepsTrust
      { store := { configs := [tlsConfig false] } } trusting := by
    refine first.tail (.fetched 0 (some (hashOf '1'))) ?_ (by decide +kernel)
    simp only [KeepsTrust]
    decide +kernel
  have reached : Reaches (Pinning.step .ascii) KeepsTrust
      { store := { configs := [tlsConfig false] } } s := by
    refine (second.tail (Event.tap (txt "a")) trivial rfl).tail (.launchConnect 0) trivial ?_
    decide +kernel
  exact ⟨s, reached, List.mem_cons_of_mem _ List.mem_cons_self, holdsTrust_of_reaches reached⟩

def lockedTwice : List Event :=
  [.tap (txt "a"), .launchConnect 0, .fetched 0 (some (hashOf '1')),
    .tap (txt "a"), .launchConnect 0, .fetched 0 (some (hashOf '2'))]

/-- The pin of a locked config is not stored, and the next connect fetches another one. -/
theorem not_holdsTrust_locked : ∃ s : Pinning,
    Reaches (Pinning.step .ascii) (fun _ _ => True) { store := { configs := [tlsConfig true] } } s ∧
      ¬ s.HoldsTrust .ascii := by
  let s : Pinning := {
    store := { configs := [tlsConfig true] }
    trusted := [(txt "a", hashOf '1')]
    launched := [({ tlsConfig true with pinnedCertSha256 := hashOf '1' }, none),
      ({ tlsConfig true with pinnedCertSha256 := hashOf '2' }, some (hashOf '1'))] }
  have ends : run (guarded (Pinning.step .ascii) fun _ _ => True)
      { store := { configs := [tlsConfig true] } } lockedTwice = some s := by
    decide +kernel
  refine ⟨s, reaches_of_run ends, ?_⟩
  intro holds
  have builds := holds _ (List.mem_cons_of_mem _ List.mem_cons_self) _ rfl
  exact absurd (buildsPinned_iff.mp builds) (by decide +kernel)

end Pinning

end GRoute
