import GRoute.ConfigFile
import GRoute.ConfigStore.Startup

/-!
# The lifetime of the store

The lists of the store over any number of processes. An operation queues a write for every list that
it changes, one thread carries the writes out in order, and a new process reads what is stored. A
blob is a text, which `putSecret` encrypts if the key store lets it and which `readSecret` encrypts
later if it was stored as it is. What a list needs of the cipher to be found again is said of its
text, and an ideal cipher gives it to every list.
-/

namespace GRoute.ConfigStore

open Text Transition

/-- How the elements of a list are written and read. -/
structure Codec (α : Type) where
  toJson : α → Json
  /-- The text is the id for an object that has none. -/
  fromJson : Json → Text → α
  Valid : α → Prop
  isObject_toJson (a : α) : isObject (toJson a) = true
  printable {a : α} (valid : Valid a) : Json.Printable (toJson a)
  fromJson_toJson {a : α} (valid : Valid a) (fresh : Text) : fromJson (toJson a) fresh = a

/-- `ProxyConfig.toJson` and `ProxyConfig.fromJson`. -/
def configCodec (json : OrgObject) : Codec ProxyConfig where
  toJson := ProxyConfig.toJson
  fromJson := ProxyConfig.fromJson json.toOrgArray
  Valid := ProxyConfig.HasInts
  isObject_toJson _ := rfl
  printable := ProxyConfig.printable_toJson
  fromJson_toJson := ProxyConfig.fromJson_toJson json.toOrgArray

/-- `Subscription.toJson` and `Subscription.fromJson`. -/
def subscriptionCodec (json : OrgObject) : Codec Subscription where
  toJson := Subscription.toJson
  fromJson := Subscription.fromJson json
  Valid := Subscription.HasLongs
  isObject_toJson _ := rfl
  printable := Subscription.printable_toJson
  fromJson_toJson := Subscription.fromJson_toJson json

section Lists

variable {α : Type} (crypto : Crypto) (json : OrgObject) (codec : Codec α)

/-- The text of the array. -/
def listText (list : List α) : Text := (Json.arr (list.map codec.toJson)).print

/-- The body that `loadConfigs` and `loadSubscriptions` share. -/
def loadList (works : Bool) (fresh : ℕ → Text) (stored : Option Text) : List α :=
  match (readSecret crypto works stored).bind json.parse with
  | some elements =>
      if elements.all isObject then elements.mapIdx fun i o => codec.fromJson o (fresh i) else []
  | none => []

theorem loadConfigs_eq (works : Bool) (fresh : ℕ → Text) (stored : Option Text) :
    loadConfigs crypto json.toOrgArray works fresh stored =
      loadList crypto json (configCodec json) works fresh stored := rfl

/-- `loadSubscriptions`. -/
def loadSubscriptions (works : Bool) (fresh : ℕ → Text) (stored : Option Text) :
    List Subscription :=
  loadList crypto json (subscriptionCodec json) works fresh stored

/-- The cipher gives the text back, what is encrypted does not start like JSON, and the text does
not pass for an encrypted one if it is stored as it is. -/
structure Carried (nonce : Option Nonce) (text : Text) : Prop where
  opens (drawn : Nonce) : crypto.decrypt (crypto.encrypt drawn text) = some text
  closed (drawn : Nonce) : startsLikeJson (crypto.encrypt drawn text) = false
  rejected (plain : nonce = none) : crypto.decrypt text = none

/-- The blob is the text of the list, encrypted or not, or there is none and the list is empty. -/
def Holds (stored : Option Text) (list : List α) : Prop :=
  (∀ a ∈ list, codec.Valid a) ∧
    (stored = none ∧ list = [] ∨
      ∃ nonce, Carried crypto nonce (listText codec list) ∧
        stored = some (sealedText crypto nonce (listText codec list)))

variable {crypto json codec} {works : Bool} {fresh : ℕ → Text} {stored : Option Text}
  {list : List α}

theorem startsLikeJson_listText (list : List α) : startsLikeJson (listText codec list) := by
  have white : isWhitespace (unit '[') = false := by decide
  simp [startsLikeJson, listText, Json.print, white]

/-- What was stored is read, unless it is encrypted and the key store fails. -/
theorem readSecret_sealedText {nonce : Option Nonce} {text : Text}
    (carried : Carried crypto nonce text) (starts : startsLikeJson text) :
    readSecret crypto works (some (sealedText crypto nonce text)) =
      if works ∨ nonce = none then some text else none := by
  cases nonce with
  | none => cases works <;> simp [readSecret, sealedText, decryptNow, carried.rejected rfl, starts]
  | some nonce =>
      cases works <;>
        simp [readSecret, sealedText, decryptNow, carried.opens nonce, carried.closed nonce]

theorem loadList_of_readSecret (valid : ∀ a ∈ list, codec.Valid a)
    (reads : readSecret crypto works stored = some (listText codec list)) :
    loadList crypto json codec works fresh stored = list := by
  have parses : json.parse (listText codec list) = some (list.map codec.toJson) := by
    apply json.parse_print
    rw [List.forall_mem_map]
    intro a mem
    exact codec.printable (valid a mem)
  have objects : (list.map codec.toJson).all isObject := by
    rw [List.all_map, List.all_eq_true]
    intro a _
    exact codec.isObject_toJson a
  rw [loadList, reads, Option.bind_some, parses]
  simp only [objects, if_true]
  apply List.ext_getElem
  · simp
  · intro i _ inRange
    simp only [List.getElem_mapIdx, List.getElem_map]
    exact codec.fromJson_toJson (valid _ (List.getElem_mem inRange)) _

/-- A process that can decrypt loads what is held, whatever ids it draws. -/
theorem Holds.loadList_eq (holds : Holds crypto codec stored list) :
    loadList crypto json codec true fresh stored = list := by
  rcases holds with ⟨valid, ⟨rfl, rfl⟩ | ⟨nonce, carried, rfl⟩⟩
  · rfl
  · apply loadList_of_readSecret valid
    rw [readSecret_sealedText carried (startsLikeJson_listText list), if_pos (.inl rfl)]

/-- Any process loads what is held or nothing. -/
theorem Holds.loadList_cases (holds : Holds crypto codec stored list) :
    loadList crypto json codec works fresh stored = list ∨
      loadList crypto json codec works fresh stored = [] := by
  rcases holds with ⟨valid, ⟨rfl, rfl⟩ | ⟨nonce, carried, rfl⟩⟩
  · exact .inl rfl
  · have reads : readSecret crypto works (some (sealedText crypto nonce (listText codec list))) =
        if works ∨ nonce = none then some (listText codec list) else none :=
      readSecret_sealedText carried (startsLikeJson_listText list)
    by_cases readable : works ∨ nonce = none
    · rw [if_pos readable] at reads
      exact .inl (loadList_of_readSecret valid reads)
    · rw [if_neg readable] at reads
      right
      rw [loadList, reads]
      rfl

theorem Holds.mem_of_mem_loadList (holds : Holds crypto codec stored list) {a : α}
    (mem : a ∈ loadList crypto json codec works fresh stored) : a ∈ list := by
  rcases holds.loadList_cases with isList | empty
  · rw [isList] at mem
    exact mem
  · rw [empty] at mem
    cases mem

/-- The migration changes how the list is stored and not the list. -/
theorem Holds.migrated (holds : Holds crypto codec stored list) (nonce : Option Nonce) :
    Holds crypto codec (migrated crypto works nonce stored) list := by
  rcases holds with ⟨valid, ⟨rfl, rfl⟩ | ⟨before, carried, rfl⟩⟩
  · exact ⟨valid, .inl ⟨rfl, rfl⟩⟩
  · refine ⟨valid, .inr ?_⟩
    rw [ConfigStore.migrated, Option.map_some]
    cases before with
    | none =>
        split_ifs
        · exact ⟨nonce, { carried with rejected := fun _ => carried.rejected rfl }, rfl⟩
        · exact ⟨none, carried, rfl⟩
    | some before =>
        have notBare : ¬ ((decryptNow crypto works (sealedText crypto (some before)
            (listText codec list))).isNone ∧
              startsLikeJson (sealedText crypto (some before) (listText codec list)) = true) := by
          rintro ⟨-, starts⟩
          rw [sealedText, Option.map_some, Option.getD_some, carried.closed] at starts
          cases starts
        rw [if_neg notBare]
        exact ⟨some before, carried, rfl⟩

end Lists

/-- The writes that an operation queues: a list that it changes is written. -/
def writes (memory : ConfigStore) (op : StoreOp) : List Write :=
  let configs := Write.configs (memory.step op).configs
  let subscriptions := Write.subscriptions (memory.step op).subscriptions
  match op with
  | .setSelectedId _ | .set _ => []
  | .add _ | .update _ | .delete _ => [configs]
  | .addImported imported => if imported = [] then [] else [configs]
  | .deleteConfigsByIds ids => if ids = [] then [] else [configs]
  | .seedDefaultAetherIfNeeded _ =>
      if memory.aetherSeeded then []
      else if memory.configs.any fun config => config.protocol = txt "aether" then []
      else [configs]
  | .renameSubscription _ _ => [subscriptions]
  | .addToLocalSub _ given _ => if given = [] then [] else [configs, subscriptions]
  | .upsertSubscription _ _ | .deleteAllConfigs | .deleteSubscription _ | .restoreBackup _ _ _ =>
      [configs, subscriptions]

/-- The store of the running process, what is stored, and the writes that are not yet done. -/
structure Life where
  memory : ConfigStore := {}
  configs : Option Text := none
  subscriptions : Option Text := none
  queue : List Write := []

/-- What a new process meets and draws: whether the key store lets it decrypt, the nonces of
the migration, if the encryption succeeds, and ids. -/
structure Opening where
  works : Bool
  configsNonce : Option Nonce
  subscriptionsNonce : Option Nonce
  configIds : ℕ → Text
  subscriptionIds : ℕ → Text

namespace Life

variable (crypto : Crypto) (json : OrgObject)

/-- The text of the list that is written. -/
def writtenText : Write → Text
  | .configs value => listText (configCodec json) value
  | .subscriptions value => listText (subscriptionCodec json) value

/-- A write is carried out, with a nonce if the encryption succeeds. -/
def carryOut (life : Life) (nonce : Option Nonce) : Write → Life
  | .configs value =>
      { life with configs := some (sealedText crypto nonce (listText (configCodec json) value)) }
  | .subscriptions value =>
      { life with
        subscriptions := some (sealedText crypto nonce (listText (subscriptionCodec json) value)) }

/-- A new process that has loaded the lists. What was not written is lost, and the other
preferences are kept on their own. -/
def restart (life : Life) (opening : Opening) : Life where
  memory := { life.memory with
    configs := loadConfigs crypto json.toOrgArray opening.works opening.configIds life.configs
    subscriptions :=
      loadSubscriptions crypto json opening.works opening.subscriptionIds life.subscriptions }
  configs := migrated crypto opening.works opening.configsNonce life.configs
  subscriptions := migrated crypto opening.works opening.subscriptionsNonce life.subscriptions
  queue := []

/-- An operation, and the writes that it queues. -/
def operate (life : Life) (op : StoreOp) : Life :=
  { life with
    memory := life.memory.step op
    queue := life.queue ++ writes life.memory op }

/-- What may happen next. -/
inductive Event
  | op (op : StoreOp)
  | write (nonce : Option Nonce)
  | restart (opening : Opening)

/-- There is nothing to write if the queue is empty. -/
def step (life : Life) : Event → Option Life
  | .op op => some (life.operate op)
  | .write nonce =>
      match life.queue with
      | [] => none
      | first :: rest => some { life.carryOut crypto json nonce first with queue := rest }
  | .restart opening => some (life.restart crypto json opening)

variable {crypto json}

theorem step_cases {life next : Life} {event : Event}
    (taken : life.step crypto json event = some next) :
    (∃ op, event = .op op ∧ next = life.operate op) ∨
      (∃ nonce first rest, event = .write nonce ∧ life.queue = first :: rest ∧
        next = { life.carryOut crypto json nonce first with queue := rest }) ∨
      ∃ opening, event = .restart opening ∧ next = life.restart crypto json opening := by
  cases event with
  | op op =>
      cases taken
      exact .inl ⟨op, rfl, rfl⟩
  | write nonce =>
      rw [step] at taken
      split at taken
      · cases taken
      · next first rest queue =>
          cases taken
          exact .inr (.inl ⟨nonce, first, rest, rfl, queue, rfl⟩)
  | restart opening =>
      cases taken
      exact .inr (.inr ⟨opening, rfl, rfl⟩)

end Life

/-- The lists of the store. -/
def lists (store : ConfigStore) : Stored := ⟨store.configs, store.subscriptions⟩

/-- Every list that an operation changes is written. -/
theorem settled_writes (store : ConfigStore) (op : StoreOp) :
    settled Stored.write store.lists (writes store op) = (store.step op).lists := by
  cases op with
  | seedDefaultAetherIfNeeded id =>
      simp only [writes, step, seedDefaultAetherIfNeeded]
      split_ifs <;> rfl
  | addImported imported =>
      simp only [writes]
      split_ifs with empty
      · simp [settled, lists, step, addImported, empty]
      · rfl
  | addToLocalSub name given fresh =>
      simp only [writes]
      split_ifs with empty
      · simp [settled, lists, step, addToLocalSub, empty]
      · rfl
  | deleteConfigsByIds ids =>
      simp only [writes]
      split_ifs with empty
      · simp [settled, lists, step, deleteConfigsByIds, empty]
      · simp [settled, Stored.write, lists, step, deleteConfigsByIds, empty]
  | _ => rfl

/-- A subscription was there, perhaps under another name, or is an argument. -/
theorem mem_subscriptions_step {store : ConfigStore} {op : StoreOp} {sub : Subscription}
    (mem : sub ∈ (store.step op).subscriptions) :
    (∃ existing ∈ store.subscriptions, ∃ name, sub = { existing with name := name }) ∨
      (∃ name given fresh, op = .addToLocalSub name given fresh ∧
        sub = { fresh with name := name, url := [] }) ∨
      (∃ fetched, op = .upsertSubscription sub fetched) ∨
      ∃ configs subs restored, op = .restoreBackup configs subs restored ∧ sub ∈ subs := by
  have kept (before : sub ∈ store.subscriptions) :
      ∃ existing ∈ store.subscriptions, ∃ name, sub = { existing with name := name } :=
    ⟨sub, before, sub.name, rfl⟩
  cases op with
  | addToLocalSub name given fresh =>
      simp only [step, addToLocalSub] at mem
      split_ifs at mem with empty new
      · exact .inl (kept mem)
      · rcases List.mem_append.mp mem with before | isNew
        · exact .inl (kept before)
        · rw [Option.isNone_iff_eq_none.mp new, List.mem_singleton] at isNew
          exact .inr (.inl ⟨name, given, fresh, rfl, isNew⟩)
      · rw [List.append_nil] at mem
        exact .inl (kept mem)
  | upsertSubscription other fetched =>
      rcases mem_subscriptions_upsert.mp mem with ⟨before, -⟩ | rfl
      · exact .inl (kept before)
      · exact .inr (.inr (.inl ⟨fetched, rfl⟩))
  | renameSubscription id newName =>
      rcases List.mem_map.mp mem with ⟨existing, before, rfl⟩
      split_ifs
      · exact .inl ⟨existing, before, newName, rfl⟩
      · exact .inl ⟨existing, before, existing.name, rfl⟩
  | restoreBackup configs subs restored =>
      exact .inr (.inr (.inr ⟨configs, subs, restored, rfl, mem⟩))
  | deleteSubscription id => exact .inl (kept (List.mem_of_mem_filter mem))
  | deleteAllConfigs => cases mem
  | seedDefaultAetherIfNeeded id =>
      simp only [step, seedDefaultAetherIfNeeded] at mem
      split_ifs at mem <;> exact .inl (kept mem)
  | deleteConfigsByIds ids =>
      simp only [step, deleteConfigsByIds] at mem
      split_ifs at mem <;> exact .inl (kept mem)
  | _ => exact .inl (kept mem)

/-- The numbers in the arguments are those of the types of the source. -/
def ValidOp : StoreOp → Prop
  | .add config | .update config => config.HasInts
  | .addToLocalSub _ configs fresh => (∀ config ∈ configs, config.HasInts) ∧ fresh.HasLongs
  | .addImported imported => ∀ config ∈ imported, config.HasInts
  | .upsertSubscription sub fetched => sub.HasLongs ∧ ∀ config ∈ fetched, config.HasInts
  | .restoreBackup configs subs _ =>
      (∀ config ∈ configs, config.HasInts) ∧ ∀ sub ∈ subs, sub.HasLongs
  | _ => True

/-- The numbers of the lists are those of the types of the source. -/
def ValidLists (lists : Stored) : Prop :=
  (∀ config ∈ lists.configs, config.HasInts) ∧ ∀ sub ∈ lists.subscriptions, sub.HasLongs

theorem hasInts_defaultAether (id : Text) : (defaultAether id).HasInts := by
  constructor <;> norm_num [IsInt, defaultAether, ConfigBuilder.aetherSocksPort]

theorem hasInts_of_enters {store : ConfigStore} {op : StoreOp} {config : ProxyConfig}
    (valid : ∀ existing ∈ store.configs, existing.HasInts) (validOp : ValidOp op)
    (enters : Enters store op config) : config.HasInts := by
  cases op with
  | add given =>
      rw [show config = given from enters]
      exact validOp
  | update given =>
      rcases enters with ⟨existing, before, -, rfl⟩
      split
      · exact { valid existing before with }
      · exact validOp
  | addToLocalSub name given fresh =>
      rcases enters with ⟨original, isGiven, subId, rfl⟩
      exact { validOp.1 original isGiven with }
  | addImported imported => exact validOp config enters
  | seedDefaultAetherIfNeeded id =>
      rw [show config = defaultAether id from enters]
      exact hasInts_defaultAether id
  | upsertSubscription sub fetched =>
      rcases enters with ⟨earlier, f, later, rfl, rfl⟩
      exact { validOp.2 f (by simp) with }
  | restoreBackup configs subs restored => exact validOp.1 config enters
  | _ => cases enters

theorem validLists_step {store : ConfigStore} {op : StoreOp} (valid : ValidLists store.lists)
    (validOp : ValidOp op) : ValidLists (store.step op).lists := by
  constructor
  · intro config mem
    rcases mem_configs_step mem with before | enters
    · exact valid.1 config before
    · exact hasInts_of_enters valid.1 validOp enters
  · intro sub mem
    rcases mem_subscriptions_step mem with ⟨existing, before, name, rfl⟩ |
      ⟨name, given, fresh, rfl, rfl⟩ | ⟨fetched, rfl⟩ | ⟨configs, subs, restored, rfl, isGiven⟩
    · exact { valid.2 existing before with }
    · exact { validOp.2 with }
    · exact validOp.1
    · exact validOp.2 sub isGiven

/-- The same of a list that is written. -/
def ValidWrite : Write → Prop
  | .configs value => ∀ config ∈ value, config.HasInts
  | .subscriptions value => ∀ sub ∈ value, sub.HasLongs

theorem mem_writes {store : ConfigStore} {op : StoreOp} {write : Write}
    (mem : write ∈ writes store op) :
    write = .configs (store.step op).configs ∨
      write = .subscriptions (store.step op).subscriptions := by
  have both : writes store op ⊆
      [.configs (store.step op).configs, .subscriptions (store.step op).subscriptions] := by
    cases op <;> simp only [writes] <;> (try split_ifs) <;> simp
  simpa using both mem

theorem validWrite_of_mem {store : ConfigStore} {op : StoreOp} {write : Write}
    (valid : ValidLists (store.step op).lists) (mem : write ∈ writes store op) :
    ValidWrite write := by
  rcases mem_writes mem with rfl | rfl
  · exact valid.1
  · exact valid.2

namespace Life

variable {crypto : Crypto} {json : OrgObject} {life next : Life} {held : Stored}

/-- The blobs hold the lists, and all values are those of the types of the source. -/
structure Stores (crypto : Crypto) (json : OrgObject) (life : Life) (held : Stored) : Prop where
  configs : Holds crypto (configCodec json) life.configs held.configs
  subscriptions : Holds crypto (subscriptionCodec json) life.subscriptions held.subscriptions
  queued : ∀ write ∈ life.queue, ValidWrite write
  memory : ValidLists life.memory.lists

theorem stores_empty : Stores crypto json {} ⟨[], []⟩ where
  configs := ⟨by simp, .inl ⟨rfl, rfl⟩⟩
  subscriptions := ⟨by simp, .inl ⟨rfl, rfl⟩⟩
  queued := by simp
  memory := ⟨by simp [lists], by simp [lists]⟩

theorem Stores.op (stores : Stores crypto json life held) {op : StoreOp} (valid : ValidOp op) :
    Stores crypto json (life.operate op) held where
  configs := stores.configs
  subscriptions := stores.subscriptions
  queued := by
    intro write mem
    rcases List.mem_append.mp mem with before | new
    · exact stores.queued write before
    · exact validWrite_of_mem (validLists_step stores.memory valid) new
  memory := validLists_step stores.memory valid

theorem Stores.write {first : Write} {rest : List Write} (stores : Stores crypto json life held)
    (queue : life.queue = first :: rest) {nonce : Option Nonce}
    (carried : Carried crypto nonce (writtenText json first)) :
    Stores crypto json { life.carryOut crypto json nonce first with queue := rest }
      (held.write first) := by
  have validFirst : ValidWrite first := stores.queued first (queue ▸ List.mem_cons_self)
  have queued : ∀ write ∈ rest, ValidWrite write := by
    intro write mem
    exact stores.queued write (queue ▸ List.mem_cons_of_mem first mem)
  cases first with
  | configs value =>
      exact ⟨⟨validFirst, .inr ⟨nonce, carried, rfl⟩⟩, stores.subscriptions, queued, stores.memory⟩
  | subscriptions value =>
      exact ⟨stores.configs, ⟨validFirst, .inr ⟨nonce, carried, rfl⟩⟩, queued, stores.memory⟩

/-- A process that cannot decrypt begins with empty lists, and nothing that is held is lost. -/
theorem Stores.restart (stores : Stores crypto json life held) (opening : Opening) :
    Stores crypto json (life.restart crypto json opening) held where
  configs := stores.configs.migrated _
  subscriptions := stores.subscriptions.migrated _
  queued := by
    intro write mem
    cases mem
  memory := by
    constructor
    · intro config mem
      exact stores.configs.1 config (stores.configs.mem_of_mem_loadList mem)
    · intro sub mem
      exact stores.subscriptions.1 sub (stores.subscriptions.mem_of_mem_loadList mem)

/-- What is held becomes the lists of the memory when the queue is carried out. -/
structure Sound (crypto : Crypto) (json : OrgObject) (life : Life) (held : Stored) : Prop
    extends Stores crypto json life held where
  settles : settled Stored.write held life.queue = life.memory.lists

theorem Sound.op (sound : Sound crypto json life held) {op : StoreOp} (valid : ValidOp op) :
    Sound crypto json (life.operate op) held where
  toStores := sound.toStores.op valid
  settles := by
    rw [operate, settled_append, sound.settles, settled_writes]

theorem Sound.write {first : Write} {rest : List Write} (sound : Sound crypto json life held)
    (queue : life.queue = first :: rest) {nonce : Option Nonce}
    (carried : Carried crypto nonce (writtenText json first)) :
    Sound crypto json { life.carryOut crypto json nonce first with queue := rest }
      (held.write first) where
  toStores := sound.toStores.write queue carried
  settles := by
    have settles : settled Stored.write held (first :: rest) = life.memory.lists :=
      queue ▸ sound.settles
    cases first with
    | configs value => exact settles
    | subscriptions value => exact settles

/-- A process that can decrypt finds what is held, and the migration keeps it. -/
theorem Sound.restart (sound : Sound crypto json life held) {opening : Opening}
    (works : opening.works = true) :
    Sound crypto json (life.restart crypto json opening) held where
  toStores := sound.toStores.restart opening
  settles := by
    rw [Life.restart, lists, loadConfigs_eq, loadSubscriptions, works, sound.configs.loadList_eq,
      sound.subscriptions.loadList_eq]
    rfl

/-- The values are those of the types of the source, and the key store lets a process decrypt. -/
def Decrypts (_ : Life) : Event → Prop
  | .op op => ValidOp op
  | .write _ => True
  | .restart opening => opening.works = true

/-- Some lists are held that the memory will agree with. -/
def Recoverable (crypto : Crypto) (json : OrgObject) (life : Life) : Prop :=
  ∃ held, Sound crypto json life held

theorem Sound.lists_eq (sound : Sound crypto json life held) (drained : life.queue = []) :
    life.memory.lists = held := by
  rw [← sound.settles, drained, settled_nil]

theorem Sound.lists_foldl (sound : Sound crypto json life held) (drained : life.queue = [])
    {openings : List Opening} (works : ∀ opening ∈ openings, opening.works = true) :
    (openings.foldl (Life.restart crypto json) life).memory.lists = held := by
  induction openings generalizing life with
  | nil => exact sound.lists_eq drained
  | cons opening openings ih =>
      rw [List.forall_mem_cons] at works
      exact ih (sound.restart works.1) rfl works.2

end Life

/-- A cipher whose `decrypt` inverts `encrypt` and rejects every other text. -/
structure IdealCrypto extends Crypto where
  decrypt_encrypt (nonce : Nonce) (plain : Text) : decrypt (encrypt nonce plain) = some plain
  rejects {raw : Text} (foreign : ∀ nonce plain, raw ≠ encrypt nonce plain) : decrypt raw = none
  /-- The text is Base64. -/
  closed (nonce : Nonce) (plain : Text) : startsLikeJson (encrypt nonce plain) = false

namespace IdealCrypto

/-- A cipher that puts a letter before the text. -/
def lettered : IdealCrypto where
  encrypt _ plain := unit 'e' :: plain
  decrypt
    | [] => none
    | c :: plain => if c = unit 'e' then some plain else none
  decrypt_encrypt _ _ := rfl
  rejects {raw} foreign := by
    cases raw with
    | nil => rfl
    | cons c plain =>
        refine if_neg ?_
        rintro rfl
        exact foreign default plain rfl
  closed _ plain := by
    have visible : isWhitespace (unit 'e') = false := by decide
    simp +decide [startsLikeJson, visible]

/-- Such a cipher carries every text that starts like JSON. -/
theorem carried (crypto : IdealCrypto) {text : Text} (starts : startsLikeJson text)
    (nonce : Option Nonce) : Carried crypto.toCrypto nonce text where
  opens drawn := crypto.decrypt_encrypt drawn text
  closed drawn := crypto.closed drawn text
  rejected _ := by
    apply crypto.rejects
    rintro drawn plain rfl
    rw [crypto.closed] at starts
    cases starts

end IdealCrypto

namespace Life

variable {crypto : IdealCrypto} {json : OrgObject} {life next : Life} {held : Stored}

theorem startsLikeJson_writtenText (write : Write) : startsLikeJson (writtenText json write) := by
  cases write with
  | configs value => exact startsLikeJson_listText value
  | subscriptions value => exact startsLikeJson_listText value

theorem recoverable_step {event : Event} (recoverable : Recoverable crypto.toCrypto json life)
    (decrypts : Decrypts life event) (taken : life.step crypto.toCrypto json event = some next) :
    Recoverable crypto.toCrypto json next := by
  rcases recoverable with ⟨held, sound⟩
  rcases step_cases taken with ⟨op, rfl, rfl⟩ | ⟨nonce, first, rest, rfl, queue, rfl⟩ |
    ⟨opening, rfl, rfl⟩
  · exact ⟨held, sound.op decrypts⟩
  · have carried : Carried crypto.toCrypto nonce (writtenText json first) :=
      crypto.carried (startsLikeJson_writtenText first) nonce
    exact ⟨held.write first, sound.write queue carried⟩
  · exact ⟨held, sound.restart decrypts⟩

/-- Once the queue is drained, every later process has the lists of the memory. -/
theorem lists_restarts (reached : Reaches (step crypto.toCrypto json) Decrypts {} life)
    (drained : life.queue = []) {openings : List Opening}
    (works : ∀ opening ∈ openings, opening.works = true) :
    (openings.foldl (restart crypto.toCrypto json) life).memory.lists = life.memory.lists := by
  have recoverable : Recoverable crypto.toCrypto json life :=
    reached.invariant ⟨_, stores_empty, rfl⟩ fun _ => recoverable_step
  rcases recoverable with ⟨held, sound⟩
  rw [sound.lists_eq drained]
  exact sound.lists_foldl drained works

/-- Any lists, restored from a backup and written with these nonces. -/
def written (crypto : Crypto) (json : OrgObject) (lists : Stored)
    (configsNonce subscriptionsNonce : Option Nonce) : Life where
  memory := ConfigStore.step {} (.restoreBackup lists.configs lists.subscriptions none)
  configs := some (sealedText crypto configsNonce (listText (configCodec json) lists.configs))
  subscriptions := some
    (sealedText crypto subscriptionsNonce (listText (subscriptionCodec json) lists.subscriptions))

theorem reaches_written {crypto : Crypto} {lists : Stored} (valid : ValidLists lists)
    (configsNonce subscriptionsNonce : Option Nonce) :
    Reaches (step crypto json) Decrypts {}
      (written crypto json lists configsNonce subscriptionsNonce) := by
  have restored : Reaches (step crypto json) Decrypts {} _ :=
    .tail (.op (.restoreBackup lists.configs lists.subscriptions none)) .refl valid rfl
  have wroteConfigs : Reaches (step crypto json) Decrypts {} _ :=
    .tail (.write configsNonce) restored trivial rfl
  exact .tail (.write subscriptionsNonce) wroteConfigs trivial rfl

/-- One config and one subscription. -/
def sampleLists : Stored :=
  ⟨[defaultAether (txt "a")], [{ name := txt "S", url := txt "https://s", id := txt "s" }]⟩

theorem validLists_sampleLists : ValidLists sampleLists := by
  constructor
  · simp only [sampleLists, List.mem_singleton, forall_eq]
    exact hasInts_defaultAether (txt "a")
  · simp only [sampleLists, List.mem_singleton, forall_eq]
    constructor <;> norm_num [Json.IsLong]

/-- The configs are written as they are and encrypted by the first of three processes. -/
theorem lists_restarts_sampleLists :
    let opening : Opening := ⟨true, some default, none, fun _ => [], fun _ => []⟩
    let crypto := IdealCrypto.lettered.toCrypto
    ([opening, opening, opening].foldl (restart crypto .strict)
      (written crypto .strict sampleLists none (some default))).memory.lists = sampleLists :=
  lists_restarts (reaches_written validLists_sampleLists none (some default)) rfl (by simp)

end Life

end GRoute.ConfigStore
