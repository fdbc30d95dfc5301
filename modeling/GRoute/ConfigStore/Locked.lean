import GRoute.ConfigFile.Import
import GRoute.ConfigStore.Lifetime

/-!
# Locked configs

A config that `decode` has locked is in no subscription, so that only `update` and
`upsertSubscription` could replace it. The first keeps all of a locked config but its name, and the
second replaces the configs of one subscription. A config without a subscription has an empty
`subId`, and a subscription whose id is empty takes all of these over, the locked ones too. A file
may write half of a surrogate pair as an escape, and a list with it is not found again as it was
encrypted. Without these two, no run changes a locked config.
-/

namespace GRoute.ConfigStore

open Text Transition

/-- The configs agree but for the name. -/
def SameButName (config kept : ProxyConfig) : Prop := kept = { config with name := kept.name }

theorem SameButName.refl (config : ProxyConfig) : SameButName config config := rfl

/-- A locked config stays as it is but for the name, or it is removed and nothing new has its
id. -/
def KeepsLocked (before after : List ProxyConfig) : Prop :=
  ∀ config ∈ before, config.locked = true →
    (∃ kept ∈ after, SameButName config kept) ∨
      ∀ other ∈ after, other.id = config.id → other ∈ before

/-- Locked configs are in no subscription. -/
def LockedLocal (configs : List ProxyConfig) : Prop :=
  ∀ config ∈ configs, config.locked = true → config.subId = []

variable {store : ConfigStore} {before after : List ProxyConfig}

theorem keepsLocked_of_subset (subset : after ⊆ before) : KeepsLocked before after := by
  intro config _ _
  right
  intro other mem _
  exact subset mem

theorem keepsLocked_of_superset (superset : before ⊆ after) : KeepsLocked before after := by
  intro config mem _
  exact .inl ⟨config, superset mem, .refl config⟩

theorem keepsLocked_update (config : ProxyConfig) :
    KeepsLocked store.configs (store.update config).configs := by
  intro existing mem locked
  left
  refine ⟨_, List.mem_map_of_mem mem, ?_⟩
  rw [if_pos locked]
  split_ifs
  · exact .refl existing
  · rfl

/-- A subscription with an id has none of the locked configs. -/
theorem keepsLocked_upsertSubscription {sub : Subscription} (fetched : List ProxyConfig)
    (lockedLocal : LockedLocal store.configs) (hasId : sub.id ≠ []) :
    KeepsLocked store.configs (store.upsertSubscription sub fetched).configs := by
  intro config mem locked
  left
  refine ⟨config, mem_configs_upsert.mpr (.inl ⟨mem, ?_⟩), .refl config⟩
  rw [lockedLocal config mem locked]
  exact Ne.symm hasId

/-- The argument of the operation adds no locked config, unless it is imported. -/
def AddsUnlocked (store : ConfigStore) : StoreOp → Prop
  | .add config => config.locked = false
  | .addToLocalSub _ given _ => ∀ config ∈ given, config.locked = false
  | .upsertSubscription _ fetched => ∀ config ∈ fetched, config.locked = false
  | .update config =>
      config.locked = true →
        ∀ existing ∈ store.configs, existing.id = config.id → existing.locked = true
  | .restoreBackup _ _ _ => False
  | _ => True

/-- A subscription that is fetched has an id. -/
def HasId : StoreOp → Prop
  | .upsertSubscription sub _ => sub.id ≠ []
  | _ => True

theorem keepsLocked_step {op : StoreOp} (lockedLocal : LockedLocal store.configs)
    (unlocked : AddsUnlocked store op) (hasId : HasId op) :
    KeepsLocked store.configs (store.step op).configs := by
  cases op with
  | upsertSubscription sub fetched =>
      exact keepsLocked_upsertSubscription fetched lockedLocal hasId
  | restoreBackup configs subs restored => exact absurd unlocked id
  | update config => exact keepsLocked_update config
  | add config => exact keepsLocked_of_superset (List.subset_append_left _ _)
  | addImported imported => exact keepsLocked_of_superset (List.subset_append_left _ _)
  | addToLocalSub name given fresh =>
      apply keepsLocked_of_superset
      rw [step, addToLocalSub]
      split
      · exact List.Subset.refl _
      · exact List.subset_append_left _ _
  | seedDefaultAetherIfNeeded id =>
      apply keepsLocked_of_superset
      rw [step, seedDefaultAetherIfNeeded]
      split
      · exact List.Subset.refl _
      · split
        · exact List.Subset.refl _
        · exact List.subset_append_left _ _
  | deleteConfigsByIds ids =>
      apply keepsLocked_of_subset
      rw [step, deleteConfigsByIds]
      split
      · exact List.Subset.refl _
      · exact List.filter_subset_self _
  | delete id => exact keepsLocked_of_subset (List.filter_subset_self _)
  | deleteSubscription id => exact keepsLocked_of_subset (List.filter_subset_self _)
  | deleteAllConfigs => exact keepsLocked_of_subset (List.nil_subset _)
  | setSelectedId id => exact keepsLocked_of_subset (List.Subset.refl _)
  | renameSubscription id newName => exact keepsLocked_of_subset (List.Subset.refl _)
  | set setting => exact keepsLocked_of_subset (List.Subset.refl _)

theorem subId_of_decode {cipher : Cipher Text} {cert : Option Text} {json : OrgObject}
    {bytes : List UInt8} {password : Option Text} {fresh : ℕ → Text}
    {imported : List ProxyConfig}
    (decoded : ConfigFile.decode cipher cert json bytes password fresh = .ok imported) :
    ∀ config ∈ imported, config.subId = [] := by
  rw [ConfigFile.decode] at decoded
  cases opened : ConfigFile.openFile cipher cert json bytes password with
  | error error =>
      rw [opened] at decoded
      cases decoded
  | ok root =>
      rw [opened] at decoded
      simp only [bind, Except.bind] at decoded
      split at decoded
      · cases decoded
      · split at decoded
        · cases decoded
          intro config mem
          rcases List.mem_mapIdx.mp mem with ⟨i, inRange, rfl⟩
          rfl
        · cases decoded

/-- An older list has the config, perhaps under another name, or nothing with its id. -/
def Spared (config : ProxyConfig) (list : List ProxyConfig) : Prop :=
  (∃ kept ∈ list, SameButName config kept) ∨ ∀ other ∈ list, other.id ≠ config.id

namespace Life

section Guards

variable (crypto : Crypto) (keys : KeyCipher) (json : OrgObject) (cipher : Cipher Text)
  (cert : Option Text)

/-- No list of the store has the id, as for one that is drawn at random. -/
structure Unused (life : Life) (id : Text) : Prop where
  memory : ∀ config ∈ life.memory.configs, config.id ≠ id
  queued : ∀ list, .configs list ∈ life.queue → ∀ config ∈ list, config.id ≠ id
  stored : ∀ list, Holds crypto (configCodec json) life.configs list →
    ∀ config ∈ list, config.id ≠ id

/-- The configs of a file, with new ids. -/
def Decoded (life : Life) (imported : List ProxyConfig) : Prop :=
  (∃ bytes password fresh,
    ConfigFile.decode cipher cert json bytes password fresh = .ok imported) ∧
      ∀ config ∈ imported, life.Unused crypto json config.id

/-- Locked configs enter only through `decode`, no backup is restored, and a list that is stored as
it is does not pass for an encrypted one, which the tag of AES/GCM sees to. -/
def LocksByDecode (life : Life) : Event → Prop
  | .op op =>
      ValidOp op ∧ AddsUnlocked life.memory op ∧
        ∀ imported, op = .addImported imported →
          (∀ config ∈ imported, config.locked = false) ∨
            life.Decoded keys.crypto json cipher cert imported
  | .write nonce => ∀ write, life.queue.head? = some write → nonce = none →
      keys.crypto.decrypt (writtenText json write) = none
  | .restart _ => True

/-- A subscription that is fetched has an id, and a list that is written is well formed. -/
def Proper (life : Life) : Event → Prop
  | .op op => HasId op
  | .write _ => ∀ write, life.queue.head? = some write → WellFormed (writtenText json write)
  | .restart _ => True

/-- The steps of a run that keeps the locked configs. -/
def Allowed (life : Life) (event : Event) : Prop :=
  life.LocksByDecode keys json cipher cert event ∧ life.Proper json event

end Guards

variable {crypto : Crypto} {keys : KeyCipher} {json : OrgObject} {cipher : Cipher Text}
  {cert : Option Text} {life next : Life} {held : Stored}

/-- The list is stored or will be. -/
def Pending (life : Life) (held : Stored) (list : List ProxyConfig) : Prop :=
  list = held.configs ∨ .configs list ∈ life.queue

/-- No list of the store could bring back a locked config in another form. -/
structure Guarded (crypto : Crypto) (json : OrgObject) (life : Life) (held : Stored) : Prop
    extends Stores crypto json life held where
  inMemory : LockedLocal life.memory.configs
  pending : ∀ list, life.Pending held list → LockedLocal list
  spared : ∀ config ∈ life.memory.configs, config.locked = true →
    ∀ list, life.Pending held list → Spared config list

theorem guarded_empty : Guarded crypto json {} ⟨[], []⟩ where
  toStores := stores_empty
  inMemory := by simp [LockedLocal]
  pending := by simp [Pending, LockedLocal]
  spared := by simp

theorem not_locked_of_unlocked {config : ProxyConfig} (unlocked : config.locked = false) :
    ¬ config.locked = true := by
  rw [unlocked]
  exact Bool.false_ne_true

/-- A locked config was there before, perhaps under another name, or is imported. -/
theorem locked_cases {op : StoreOp} {config : ProxyConfig}
    (locks : life.LocksByDecode keys json cipher cert (.op op))
    (mem : config ∈ (life.memory.step op).configs) (locked : config.locked = true) :
    (∃ existing ∈ life.memory.configs, existing.locked = true ∧
      ∃ name, config = { existing with name := name }) ∨
      ∃ imported, config ∈ imported ∧ life.Decoded keys.crypto json cipher cert imported := by
  rcases locks with ⟨-, unlocked, imports⟩
  rcases mem_configs_step mem with before | enters
  · exact .inl ⟨config, before, locked, config.name, rfl⟩
  cases op with
  | addImported imported =>
      rcases imports imported rfl with open' | decoded
      · exact absurd locked (not_locked_of_unlocked (open' config enters))
      · exact .inr ⟨imported, enters, decoded⟩
  | update given =>
      rcases enters with ⟨existing, before, sameId, rfl⟩
      by_cases isLocked : existing.locked = true
      · rw [if_pos isLocked]
        exact .inl ⟨existing, before, isLocked, given.name, rfl⟩
      · rw [if_neg isLocked] at locked
        exact absurd (unlocked locked existing before sameId) isLocked
  | add given =>
      rw [show config = given from enters] at locked
      exact absurd locked (not_locked_of_unlocked unlocked)
  | addToLocalSub name given fresh =>
      rcases enters with ⟨original, isGiven, subId, rfl⟩
      exact absurd locked (not_locked_of_unlocked (unlocked original isGiven))
  | seedDefaultAetherIfNeeded id =>
      rw [show config = defaultAether id from enters] at locked
      cases locked
  | upsertSubscription sub fetched =>
      rcases enters with ⟨earlier, f, later, rfl, rfl⟩
      exact absurd locked (not_locked_of_unlocked (unlocked f (by simp)))
  | restoreBackup configs subs restored => exact absurd unlocked id
  | _ => cases enters

theorem Guarded.op (guarded : Guarded keys.crypto json life held) {op : StoreOp}
    (locks : life.LocksByDecode keys json cipher cert (.op op)) :
    Guarded keys.crypto json (life.operate op) held := by
  have local' : LockedLocal (life.memory.step op).configs := by
    intro config mem locked
    rcases locked_cases locks mem locked with ⟨existing, before, isLocked, name, rfl⟩ |
      ⟨imported, isImported, ⟨bytes, password, fresh, decoded⟩, -⟩
    · exact guarded.inMemory existing before isLocked
    · exact subId_of_decode decoded config isImported
  -- A list is pending from before, or it is the new list of the memory.
  have pending_cases {list : List ProxyConfig}
      (pending : list = held.configs ∨ Write.configs list ∈ life.queue ++ writes life.memory op) :
      life.Pending held list ∨ list = (life.memory.step op).configs := by
    rcases pending with isHeld | queued
    · exact .inl (.inl isHeld)
    · rcases List.mem_append.mp queued with before | new
      · exact .inl (.inr before)
      · rcases mem_writes new with isConfigs | isSubscriptions
        · cases isConfigs
          exact .inr rfl
        · cases isSubscriptions
  refine ⟨guarded.toStores.op locks.1, local', ?_, ?_⟩
  · intro list pending
    rcases pending_cases pending with before | rfl
    · exact guarded.pending list before
    · exact local'
  · intro config mem locked list pending
    rcases pending_cases pending with older | rfl
    · rcases locked_cases locks mem locked with ⟨existing, before, isLocked, name, rfl⟩ |
        ⟨imported, isImported, -, unused⟩
      · exact guarded.spared existing before isLocked list older
      · right
        rcases older with rfl | queued
        · exact (unused config isImported).stored held.configs guarded.configs
        · exact (unused config isImported).queued list queued
    · exact .inl ⟨config, mem, .refl config⟩

theorem Guarded.write {first : Write} {rest : List Write} (guarded : Guarded crypto json life held)
    (queue : life.queue = first :: rest) {nonce : Option Nonce}
    (carried : Carried crypto nonce (writtenText json first)) :
    Guarded crypto json { life.carryOut crypto json nonce first with queue := rest }
      (held.write first) := by
  have older {list : List ProxyConfig}
      (pending : list = (held.write first).configs ∨ Write.configs list ∈ rest) :
      life.Pending held list := by
    rw [Pending, queue]
    rcases pending with isHeld | queued
    · cases first with
      | configs value => exact .inr (isHeld ▸ List.mem_cons_self)
      | subscriptions value => exact .inl isHeld
    · exact .inr (List.mem_cons_of_mem first queued)
  have memory (write : Write) : (life.carryOut crypto json nonce write).memory = life.memory := by
    cases write <;> rfl
  refine ⟨guarded.toStores.write queue carried, ?_, ?_, ?_⟩
  · rw [memory]
    exact guarded.inMemory
  · intro list pending
    exact guarded.pending list (older pending)
  · intro config mem locked list pending
    rw [memory] at mem
    exact guarded.spared config mem locked list (older pending)

theorem configs_restart (opening : Opening) : (life.restart crypto json opening).memory.configs =
    loadConfigs crypto json.toOrgArray opening.works opening.configIds life.configs := rfl

theorem Guarded.restart (guarded : Guarded crypto json life held) (opening : Opening) :
    Guarded crypto json (life.restart crypto json opening) held := by
  have isHeld {list : List ProxyConfig}
      (pending : (life.restart crypto json opening).Pending held list) : list = held.configs := by
    rcases pending with isHeld | queued
    · exact isHeld
    · cases queued
  have held_of_mem {config : ProxyConfig}
      (mem : config ∈ (life.restart crypto json opening).memory.configs) :
      config ∈ held.configs := guarded.configs.mem_of_mem_loadList mem
  refine ⟨guarded.toStores.restart opening, ?_, ?_, ?_⟩
  · intro config mem
    exact guarded.pending held.configs (.inl rfl) config (held_of_mem mem)
  · intro list pending
    rw [isHeld pending]
    exact guarded.pending held.configs (.inl rfl)
  · intro config mem _ list pending
    rw [isHeld pending]
    exact .inl ⟨config, held_of_mem mem, .refl config⟩

/-- Some lists are held that guard the locked configs. -/
def Watched (crypto : Crypto) (json : OrgObject) (life : Life) : Prop :=
  ∃ held, Guarded crypto json life held

/-- A well-formed list is carried by the cipher of the key store. -/
theorem carried_of_allowed {nonce : Option Nonce} {first : Write} {rest : List Write}
    (queue : life.queue = first :: rest)
    (allowed : life.Allowed keys json cipher cert (.write nonce)) :
    Carried keys.crypto nonce (writtenText json first) where
  opens drawn := by
    have wellFormed : WellFormed (writtenText json first) :=
      allowed.2 first (by rw [queue, List.head?_cons])
    rw [keys.decrypt_encrypt, Text.sanitize_eq_self_iff.mpr wellFormed]
  closed drawn := startsLikeJson_encrypt keys drawn _
  rejected plain := allowed.1 first (by rw [queue, List.head?_cons]) plain

theorem watched_step {event : Event} (watched : Watched keys.crypto json life)
    (allowed : life.Allowed keys json cipher cert event)
    (taken : life.step keys.crypto json event = some next) : Watched keys.crypto json next := by
  rcases watched with ⟨held, guarded⟩
  rcases step_cases taken with ⟨op, rfl, rfl⟩ | ⟨nonce, first, rest, rfl, queue, rfl⟩ |
    ⟨opening, rfl, rfl⟩
  · exact ⟨held, guarded.op allowed.1⟩
  · exact ⟨held.write first, guarded.write queue (carried_of_allowed queue allowed)⟩
  · exact ⟨held, guarded.restart opening⟩

/-- What was not written is lost, but a stored list has the locked config or nothing of it. -/
theorem Guarded.keepsLocked_restart (guarded : Guarded crypto json life held) (opening : Opening) :
    KeepsLocked life.memory.configs (life.restart crypto json opening).memory.configs := by
  intro config mem locked
  rcases guarded.configs.loadList_cases with loads | empty
  · rw [Life.restart, loadConfigs_eq, loads]
    rcases guarded.spared config mem locked held.configs (.inl rfl) with kept | absent
    · exact .inl kept
    · right
      intro other isHeld sameId
      exact absurd sameId (absent other isHeld)
  · rw [Life.restart, loadConfigs_eq, empty]
    right
    intro other isNone
    cases isNone

/-- In every state of every run, the next step keeps the locked configs as they are. -/
theorem keepsLocked_of_reaches {event : Event}
    (reached : Reaches (step keys.crypto json) (Allowed keys json cipher cert) {} life)
    (allowed : life.Allowed keys json cipher cert event)
    (taken : life.step keys.crypto json event = some next) :
    KeepsLocked life.memory.configs next.memory.configs := by
  have watched : Watched keys.crypto json life :=
    reached.invariant ⟨_, guarded_empty⟩ fun _ => watched_step
  rcases watched with ⟨held, guarded⟩
  rcases step_cases taken with ⟨op, rfl, rfl⟩ | ⟨nonce, first, rest, rfl, queue, rfl⟩ |
    ⟨opening, rfl, rfl⟩
  · exact keepsLocked_step guarded.inMemory allowed.1.2.1 allowed.2
  · apply keepsLocked_of_subset
    cases first <;> exact List.Subset.refl _
  · exact guarded.keepsLocked_restart opening

open ConfigFile (sampleCipher sampleDraws sampleConfig)

/-- The cipher of the key store in the runs below. -/
def sampleKeys : KeyCipher := .transparent

/-- The premise of the runs below. -/
def SampleLocks : Life → Event → Prop := LocksByDecode sampleKeys .strict sampleCipher none

/-- A new store that has imported the configs. -/
def importedLife (imported : List ProxyConfig) : Life where
  memory := ConfigStore.step {} (.addImported imported)
  queue := writes {} (.addImported imported)

theorem sampleLocks_addImported {config : ProxyConfig} {bytes : List UInt8} {fresh : ℕ → Text}
    (ints : config.HasInts)
    (decoded : ConfigFile.decode sampleCipher none .strict bytes none fresh = .ok [config]) :
    SampleLocks {} (.op (.addImported [config])) := by
  have unused : Unused sampleKeys.crypto .strict {} config.id := by
    refine ⟨by simp, by simp, ?_⟩
    rintro list ⟨-, ⟨-, rfl⟩ | ⟨nonce, -, isSome⟩⟩
    · simp
    · cases isSome
  refine ⟨?_, trivial, ?_⟩
  · rw [ValidOp, List.forall_mem_singleton]
    exact ints
  · rintro imported ⟨rfl⟩
    refine .inr ⟨⟨bytes, none, fresh, decoded⟩, ?_⟩
    rw [List.forall_mem_singleton]
    exact unused

/-- A config that a file shared with a lock. -/
def lockedCopy : ProxyConfig :=
  { sampleConfig (txt "A") (txt "copy") with locked := true, source := .community }

theorem hasInts_lockedCopy : lockedCopy.HasInts :=
  { ConfigFile.hasInts_sampleConfig (txt "A") (txt "copy") with }

/-- What a file of one config, shared with a lock, is imported as. -/
theorem decode_lockedCopy :
    ConfigFile.decode sampleCipher none .strict
        (ConfigFile.encode sampleCipher none sampleDraws [sampleConfig (txt "A") (txt "a")] none
          true) none (fun _ => txt "copy") = .ok [lockedCopy] := by
  have ints : ∀ config ∈ [sampleConfig (txt "A") (txt "a")], config.HasInts := by
    rw [List.forall_mem_singleton]
    exact ConfigFile.hasInts_sampleConfig _ _
  have copy : ConfigFile.copies true (fun _ => txt "copy") [sampleConfig (txt "A") (txt "a")] =
      [lockedCopy] := by decide +kernel
  rw [ConfigFile.decode_encode ints (fun _ => rfl), copy]

theorem sampleLocks_lockedCopy : SampleLocks {} (.op (.addImported [lockedCopy])) :=
  sampleLocks_addImported hasInts_lockedCopy decode_lockedCopy

/-- An edit of the locked config. -/
def edited : StoreOp := .update (sampleConfig (txt "B") (txt "copy"))

theorem keepsLocked_edited :
    KeepsLocked (importedLife [lockedCopy]).memory.configs
      ((importedLife [lockedCopy]).memory.step edited).configs := by
  have reached : Reaches (step sampleKeys.crypto .strict)
      (Allowed sampleKeys .strict sampleCipher none) {} (importedLife [lockedCopy]) :=
    .tail (.op (.addImported [lockedCopy])) .refl ⟨sampleLocks_lockedCopy, trivial⟩ rfl
  have locks : SampleLocks (importedLife [lockedCopy]) (.op edited) := by
    refine ⟨ConfigFile.hasInts_sampleConfig _ _, ?_, ?_⟩
    · intro locked
      cases locked
    · intro imported isImport
      cases isImport
  exact keepsLocked_of_reaches reached ⟨locks, trivial⟩ rfl

/-- A subscription without an id whose one config has the signature of the locked one. -/
def takenOver : StoreOp :=
  .upsertSubscription { name := txt "S", url := txt "https://s", id := [] }
    [sampleConfig (txt "B") (txt "b")]

theorem sampleLocks_takenOver : SampleLocks (importedLife [lockedCopy]) (.op takenOver) := by
  refine ⟨⟨?_, ?_⟩, ?_, ?_⟩
  · constructor <;> norm_num [Json.IsLong]
  · rw [List.forall_mem_singleton]
    exact ConfigFile.hasInts_sampleConfig _ _
  · rw [takenOver, AddsUnlocked, List.forall_mem_singleton]
    rfl
  · intro imported isImport
    cases isImport

/-- A locked config is altered if another one has its id afterwards. -/
theorem not_keepsLocked_of_singleton {config other : ProxyConfig} (locked : config.locked = true)
    (sameId : other.id = config.id) (altered : ¬ SameButName config other) :
    ¬ KeepsLocked [config] [other] := by
  intro keeps
  rcases keeps config List.mem_cons_self locked with ⟨kept, mem, same⟩ | only
  · rw [List.mem_singleton.mp mem] at same
    exact altered same
  · have isConfig := List.mem_singleton.mp (only other List.mem_cons_self sameId)
    rw [isConfig] at altered
    exact altered (.refl config)

/-- The text of a file with half of a surrogate pair, which is written as an escape. -/
def halfText : Text := txt "\x7b\x22configs\x22:[\x7b\x22path\x22:\x22\\ud800\x22\x7d]\x7d"

/-- The file, sealed without a password. -/
def halfFile : List UInt8 :=
  ConfigFile.asciiBytes ConfigFile.magic ++ ConfigFile.flags none none ::
    (sampleDraws.salt ++ (sampleDraws.iv ++ sampleCipher.encrypt
      (ConfigFile.deriveKey sampleCipher none sampleDraws.salt none) sampleDraws.iv
      (encodeUtf8 halfText)))

/-- What it is imported as. -/
def halfCopy : ProxyConfig :=
  ConfigFile.imported (ProxyConfig.fromJson .strict (.obj [(txt "path", .str [0xD800])]) [])
    (txt "copy") true

theorem decode_halfFile :
    ConfigFile.decode sampleCipher none .strict halfFile none (fun _ => txt "copy") =
      .ok [halfCopy] := by
  decide +kernel

theorem hasInts_halfCopy : halfCopy.HasInts :=
  { ProxyConfig.hasInts_fromJson .strict (.obj [(txt "path", .str [0xD800])]) [] with }

/-- The import has been written. -/
def halfLife : Life :=
  { (importedLife [halfCopy]).carryOut sampleKeys.crypto .strict (some default)
      (.configs [halfCopy]) with queue := [] }

theorem reaches_halfLife :
    Reaches (step sampleKeys.crypto .strict) SampleLocks {} halfLife := by
  have imported : Reaches (step sampleKeys.crypto .strict) SampleLocks {}
      (importedLife [halfCopy]) :=
    .tail (.op (.addImported [halfCopy])) .refl
      (sampleLocks_addImported hasInts_halfCopy decode_halfFile) rfl
  refine .tail (.write (some default)) imported ?_ rfl
  intro write _ isNone
  cases isNone

/-- The process that reads it. -/
def reopened : Opening := ⟨true, none, none, fun _ => [], fun _ => []⟩

theorem configs_reopened : (halfLife.restart sampleKeys.crypto .strict reopened).memory.configs =
    [halfCopy.sanitize] := by
  have ints : ∀ config ∈ [halfCopy], config.HasInts := by
    rw [List.forall_mem_singleton]
    exact hasInts_halfCopy
  have stored : halfLife.configs =
      some (sealedText sampleKeys.crypto (some default) (configsText [halfCopy])) := rfl
  have works : reopened.works = true := rfl
  rw [configs_restart, stored, works, loadConfigs_encrypt ints, List.map_singleton]

/-- A subscription without an id puts an open config in the place of the locked one, and a new
process finds a question mark in the path of another. -/
theorem not_keepsLocked_takenOver :
    (Reaches (step sampleKeys.crypto .strict) SampleLocks {} (importedLife [lockedCopy]) ∧
      SampleLocks (importedLife [lockedCopy]) (.op takenOver) ∧
      ¬ KeepsLocked (importedLife [lockedCopy]).memory.configs
        ((importedLife [lockedCopy]).memory.step takenOver).configs) ∧
    Reaches (step sampleKeys.crypto .strict) SampleLocks {} halfLife ∧
      SampleLocks halfLife (.restart reopened) ∧
      ¬ KeepsLocked halfLife.memory.configs
        (halfLife.restart sampleKeys.crypto .strict reopened).memory.configs := by
  refine ⟨⟨?_, sampleLocks_takenOver, ?_⟩, reaches_halfLife, trivial, ?_⟩
  · exact .tail (.op (.addImported [lockedCopy])) .refl sampleLocks_lockedCopy rfl
  · have after : ((importedLife [lockedCopy]).memory.step takenOver).configs =
        [sampleConfig (txt "B") (txt "copy")] := by decide +kernel
    have isLocked : lockedCopy.locked = true := rfl
    rw [after]
    refine not_keepsLocked_of_singleton isLocked rfl ?_
    intro same
    exact absurd (congrArg ProxyConfig.locked same) (by decide)
  · have isLocked : halfCopy.locked = true := rfl
    rw [configs_reopened]
    refine not_keepsLocked_of_singleton isLocked (by decide +kernel) ?_
    intro same
    exact absurd (congrArg ProxyConfig.path same) (by decide +kernel)

end Life

end GRoute.ConfigStore
