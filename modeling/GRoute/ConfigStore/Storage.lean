import GRoute.ConfigStore.Upsert
import GRoute.Crypto
import GRoute.ProxyConfig.Texts

/-!
# The stored configs

`readSecret`, `loadConfigs` and `persistConfigs`: the configs are kept as the text of a JSON
array, encrypted if the key store lets it. A load that fails in any way gives the empty list, and
the next change of the list is written over what could not be read. A list that is encrypted comes
back sanitized, so that it keeps the configs whose texts are well formed.
-/

namespace GRoute

open Text

namespace ConfigStore

variable (crypto : Crypto) (json : OrgArray)

/-- The text starts with a bracket or a brace after white space. -/
def startsLikeJson (raw : Text) : Bool :=
  (raw.dropWhile isWhitespace).head? = some (unit '[') ∨
    (raw.dropWhile isWhitespace).head? = some (unit '\x7b')

/-- `works` says whether the key store lets `Crypto.decrypt` succeed. -/
def decryptNow (works : Bool) (raw : Text) : Option Text :=
  if works then crypto.decrypt raw else none

/-- A text that cannot be decrypted is taken as it is if it starts like JSON. -/
def readSecret (works : Bool) (stored : Option Text) : Option Text :=
  stored.bind fun raw =>
    (decryptNow crypto works raw).or (if startsLikeJson raw then some raw else none)

/-- What is stored after `readSecret`: a plain text is replaced by its encryption, if that
succeeds. -/
def migrated (works : Bool) (nonce : Option Nonce) (stored : Option Text) : Option Text :=
  stored.map fun raw =>
    if (decryptNow crypto works raw).isNone ∧ startsLikeJson raw then
      (nonce.map fun nonce => crypto.encrypt nonce raw).getD raw
    else raw

/-- Whether `getJSONObject` gives the element. -/
def isObject : Json → Bool
  | .obj _ => true
  | _ => false

/-- `fresh` are the ids that are drawn for objects without one. -/
def configsFrom (fresh : ℕ → Text) (elements : List Json) : List ProxyConfig :=
  elements.mapIdx fun i o => ProxyConfig.fromJson json o (fresh i)

/-- `getJSONObject` throws for an element that is no object, and then all are given up. -/
def loadConfigs (works : Bool) (fresh : ℕ → Text) (stored : Option Text) : List ProxyConfig :=
  match (readSecret crypto works stored).bind json.parse with
  | some elements => if elements.all isObject then configsFrom json fresh elements else []
  | none => []

/-- The text of the array that `persistConfigs` writes. -/
def configsText (configs : List ProxyConfig) : Text :=
  (Json.arr (configs.map ProxyConfig.toJson)).print

/-- The text that `putSecret` stores; there is no nonce if `Crypto.encrypt` fails. -/
def sealedText (nonce : Option Nonce) (text : Text) : Text :=
  (nonce.map fun nonce => crypto.encrypt nonce text).getD text

/-- A change of the list by one config. -/
inductive Edit
  | add (config : ProxyConfig)
  | update (config : ProxyConfig)
  | delete (id : Text)
  deriving DecidableEq, Repr

/-- The operation of the store. -/
def Edit.op : Edit → StoreOp
  | add config => .add config
  | update config => .update config
  | delete id => .delete id

/-- The `Int` fields of a config that is handed over are 32-bit integers. -/
def Edit.HasInts : Edit → Prop
  | add config | update config => config.HasInts
  | delete _ => True

/-- The lists of a process, in memory and in storage. -/
structure Session where
  memory : ConfigStore
  stored : Option Text

/-- An edit and the write that follows it. -/
def Session.edit (session : Session) (edit : Edit × Option Nonce) : Session :=
  let memory := session.memory.step edit.1.op
  { memory := memory, stored := some (sealedText crypto edit.2 (configsText memory.configs)) }

/-- A process that has loaded the configs. -/
def startSession (works : Bool) (nonce : Option Nonce) (fresh : ℕ → Text) (stored : Option Text) :
    Session where
  memory := { configs := loadConfigs crypto json works fresh stored }
  stored := migrated crypto works nonce stored

/-- A list that is stored as it is does not pass for an encrypted one, which the tag of AES/GCM
sees to. -/
def Session.Unforged (session : Session) : Prop :=
  session.stored = some (configsText session.memory.configs) →
    crypto.decrypt (configsText session.memory.configs) = none

/-- The configs of the objects in the text, with the ids that a load would draw. -/
def configsIn (fresh : ℕ → Text) (text : Text) : List ProxyConfig :=
  match json.parse text with
  | some elements =>
      (elements.zipIdx.filter fun entry => isObject entry.1).map fun entry =>
        ProxyConfig.fromJson json entry.1 (fresh entry.2)
  | none => []

/-- The configs of what is stored, once it can be decrypted. -/
def recoverable (fresh : ℕ → Text) : Option Text → List ProxyConfig
  | some raw => configsIn json fresh ((crypto.decrypt raw).getD raw)
  | none => []

/-- Whatever is done with the list, a config that could be recovered and is not deleted can
still be recovered, and is as it was if it is not changed. -/
def LosesNothing (works : Bool) (nonce : Option Nonce) (fresh : ℕ → Text)
    (stored : Option Text) : Prop :=
  ∀ edits : List (Edit × Option Nonce), (∀ edit ∈ edits, edit.1.HasInts) →
    (edits.foldl (Session.edit crypto)
      (startSession crypto json works nonce fresh stored)).Unforged crypto →
    ∀ config ∈ recoverable crypto json fresh stored, .delete config.id ∉ edits.map Prod.fst →
      ∃ kept ∈ recoverable crypto json fresh
          (edits.foldl (Session.edit crypto)
            (startSession crypto json works nonce fresh stored)).stored,
        kept.id = config.id ∧
          (kept = config ∨ ∃ changed, .update changed ∈ edits.map Prod.fst ∧
            changed.id = config.id)

/-- The text of the array can be read: it is decrypted now, or it is no encrypted one. -/
def Readable (works : Bool) (raw plain : Text) : Prop :=
  works ∧ crypto.decrypt raw = some plain ∨
    crypto.decrypt raw = none ∧ startsLikeJson raw ∧ plain = raw

/-- What starts like JSON was not encrypted. The decoder of Base64 skips a bracket, so that this
need not be so of a text that the store has not written. -/
def Genuine (stored : Option Text) : Prop :=
  ∀ raw, stored = some raw → startsLikeJson raw → crypto.decrypt raw = none

/-- The text can be read and is an array of objects, their configs are well formed, and a plain text
has them also after it was encrypted. -/
def Loads (works : Bool) (nonce : Option Nonce) (fresh : ℕ → Text) (stored : Option Text) : Prop :=
  ∃ raw plain elements, stored = some raw ∧ Readable crypto works raw plain ∧
    json.parse plain = some elements ∧ elements.all isObject ∧
      ∀ config ∈ configsFrom json fresh elements, (∀ text ∈ config.texts, WellFormed text) ∧
        (crypto.decrypt raw = none → nonce.isSome → config ∈ configsIn json fresh (sanitize raw))

variable {crypto} {json} {works : Bool} {nonce : Option Nonce} {fresh : ℕ → Text}
  {stored : Option Text} {raw plain : Text} {configs : List ProxyConfig}

theorem startsLikeJson_configsText (configs : List ProxyConfig) :
    startsLikeJson (configsText configs) := by
  have white : isWhitespace (unit '[') = false := by decide
  simp [startsLikeJson, configsText, Json.print, white]

/-- What is encrypted does not start like JSON. -/
theorem startsLikeJson_encrypt (cipher : KeyCipher) (nonce : Nonce) (text : Text) :
    startsLikeJson (cipher.crypto.encrypt nonce text) = false := by
  rcases cipher.exists_encrypt nonce text with ⟨v, lt, rest, isCons⟩
  have others : ∀ v < 64, isWhitespace (Base64.Alphabet.standard.encode v) = false ∧
      Base64.Alphabet.standard.encode v ≠ unit '[' ∧
      Base64.Alphabet.standard.encode v ≠ unit '\x7b' := by decide
  rcases others v lt with ⟨visible, noBracket, noBrace⟩
  simp [startsLikeJson, isCons, visible, noBracket, noBrace]

theorem readSecret_of_readable (readable : Readable crypto works raw plain) :
    readSecret crypto works (some raw) = some plain := by
  rcases readable with ⟨isOn, decrypts⟩ | ⟨rejected, starts, rfl⟩
  · simp [readSecret, decryptNow, isOn, decrypts]
  · cases works <;> simp [readSecret, decryptNow, rejected, starts]

theorem readable_of_readSecret (genuine : Genuine crypto (some raw))
    (reads : readSecret crypto works (some raw) = some plain) :
    Readable crypto works raw plain := by
  rw [readSecret, Option.bind_some, Option.or_eq_some_iff] at reads
  rcases reads with decrypts | ⟨-, bare⟩
  · rw [decryptNow, Option.ite_none_right_eq_some] at decrypts
    exact .inl decrypts
  · rw [Option.ite_none_right_eq_some] at bare
    exact .inr ⟨genuine raw rfl bare.1, bare.1, (Option.some.inj bare.2).symm⟩

/-- An array of objects is read as a whole. -/
theorem configsIn_of_all {elements : List Json} (parses : json.parse plain = some elements)
    (all : elements.all isObject) :
    configsIn json fresh plain = configsFrom json fresh elements := by
  have kept : (elements.zipIdx.filter fun entry => isObject entry.1) = elements.zipIdx := by
    rw [List.filter_eq_self]
    rintro ⟨o, i⟩ mem
    exact List.all_eq_true.mp all o (List.fst_mem_of_mem_zipIdx mem)
  simp only [configsIn, parses, kept, configsFrom, List.mapIdx_eq_zipIdx_map]

theorem configsFrom_toJson (ints : ∀ config ∈ configs, config.HasInts) :
    configsFrom json fresh (configs.map ProxyConfig.toJson) = configs := by
  apply List.ext_getElem
  · simp [configsFrom]
  · intro i _ inRange
    simp only [configsFrom, List.getElem_mapIdx, List.getElem_map]
    exact ProxyConfig.fromJson_toJson json (ints _ (List.getElem_mem inRange)) _

theorem parse_configsText (ints : ∀ config ∈ configs, config.HasInts) :
    json.parse (configsText configs) = some (configs.map ProxyConfig.toJson) := by
  apply json.parse_print
  rw [List.forall_mem_map]
  intro config mem
  exact ProxyConfig.printable_toJson (ints config mem)

theorem all_isObject (configs : List ProxyConfig) :
    (configs.map ProxyConfig.toJson).all isObject := by
  rw [List.all_map, List.all_eq_true]
  intro config _
  rfl

/-- The text of a list has the configs of the list. -/
theorem configsIn_configsText (ints : ∀ config ∈ configs, config.HasInts) :
    configsIn json fresh (configsText configs) = configs := by
  rw [configsIn_of_all (parse_configsText ints) (all_isObject configs), configsFrom_toJson ints]

theorem sanitize_configsText (ints : ∀ config ∈ configs, config.HasInts) :
    sanitize (configsText configs) = configsText (configs.map ProxyConfig.sanitize) := by
  have alone := Json.sanitizesAlone (ProxyConfig.printable_arr ints) []
  rw [List.append_nil, sanitize_nil, List.append_nil, ProxyConfig.sanitize_arr] at alone
  exact alone

/-- What is written is recovered, sanitized if it was encrypted. -/
theorem recoverable_sealedText {cipher : KeyCipher} (ints : ∀ config ∈ configs, config.HasInts)
    (unforged : nonce = none → cipher.crypto.decrypt (configsText configs) = none) :
    recoverable cipher.crypto json fresh
        (some (sealedText cipher.crypto nonce (configsText configs))) =
      if nonce.isSome then configs.map ProxyConfig.sanitize else configs := by
  cases nonce with
  | none =>
      simp only [sealedText, recoverable, Option.map_none, Option.getD_none, unforged rfl,
        Option.isSome_none, Bool.false_eq_true, if_false]
      exact configsIn_configsText ints
  | some nonce =>
      simp only [sealedText, recoverable, Option.map_some, Option.getD_some,
        cipher.decrypt_encrypt, sanitize_configsText ints, Option.isSome_some, if_true]
      exact configsIn_configsText (ProxyConfig.forall_hasInts_sanitize ints)

theorem hasInts_loadConfigs :
    ∀ config ∈ loadConfigs crypto json works fresh stored, config.HasInts := by
  intro config mem
  rw [loadConfigs] at mem
  split at mem
  next elements _ =>
    split at mem
    · rcases List.mem_mapIdx.mp mem with ⟨i, inRange, rfl⟩
      exact ProxyConfig.hasInts_fromJson json _ _
    · cases mem
  next => cases mem

theorem recoverable_of_readable {elements : List Json}
    (readable : Readable crypto works raw plain) (parses : json.parse plain = some elements)
    (all : elements.all isObject) :
    recoverable crypto json fresh (some raw) = configsFrom json fresh elements := by
  have isPlain : (crypto.decrypt raw).getD raw = plain := by
    rcases readable with ⟨-, decrypts⟩ | ⟨rejected, -, rfl⟩
    · rw [decrypts, Option.getD_some]
    · rw [rejected, Option.getD_none]
  rw [recoverable, isPlain, configsIn_of_all parses all]

theorem loadConfigs_of_readable {elements : List Json}
    (readable : Readable crypto works raw plain) (parses : json.parse plain = some elements)
    (all : elements.all isObject) :
    loadConfigs crypto json works fresh (some raw) = configsFrom json fresh elements := by
  rw [loadConfigs, readSecret_of_readable readable, Option.bind_some, parses]
  exact if_pos all

/-- A list that was encrypted is loaded sanitized. -/
theorem loadConfigs_encrypt {cipher : KeyCipher} (ints : ∀ config ∈ configs, config.HasInts)
    (nonce : Nonce) :
    loadConfigs cipher.crypto json true fresh
        (some (sealedText cipher.crypto (some nonce) (configsText configs))) =
      configs.map ProxyConfig.sanitize := by
  have readable : Readable cipher.crypto true
      (sealedText cipher.crypto (some nonce) (configsText configs))
      (configsText (configs.map ProxyConfig.sanitize)) := by
    rw [← sanitize_configsText ints]
    exact .inl ⟨rfl, cipher.decrypt_encrypt nonce _⟩
  have sanitized := ProxyConfig.forall_hasInts_sanitize ints
  rw [loadConfigs_of_readable readable (parse_configsText sanitized) (all_isObject _),
    configsFrom_toJson sanitized]

/-- A load that gives something has read an array of objects. -/
theorem exists_of_mem_loadConfigs {config : ProxyConfig} (genuine : Genuine crypto stored)
    (mem : config ∈ loadConfigs crypto json works fresh stored) :
    ∃ raw plain elements, stored = some raw ∧ Readable crypto works raw plain ∧
      json.parse plain = some elements ∧ elements.all isObject := by
  cases stored with
  | none => cases mem
  | some raw =>
      rw [loadConfigs] at mem
      split at mem
      · next elements parses =>
          rcases Option.bind_eq_some_iff.mp parses with ⟨plain, reads, isArray⟩
          split at mem
          · next all =>
              exact ⟨raw, plain, elements, rfl, readable_of_readSecret genuine reads, isArray, all⟩
          · cases mem
      · cases mem

/-- A plain text that is read is encrypted. -/
theorem migrated_of_rejected (readable : Readable crypto works raw plain)
    (rejected : crypto.decrypt raw = none) (nonce : Nonce) :
    migrated crypto works (some nonce) (some raw) = some (crypto.encrypt nonce raw) := by
  have isNone : decryptNow crypto works raw = none := by
    cases works <;> simp [decryptNow, rejected]
  rcases readable with ⟨-, decrypts⟩ | ⟨-, starts, -⟩
  · rw [rejected] at decrypts
    cases decrypts
  · simp [migrated, isNone, starts]

/-- What the migration leaves: a plain text is sanitized, and any other text stays. -/
theorem recoverable_migrated {cipher : KeyCipher}
    (readable : Readable cipher.crypto works raw plain) :
    recoverable cipher.crypto json fresh (migrated cipher.crypto works nonce (some raw)) =
      if cipher.crypto.decrypt raw = none ∧ nonce.isSome then configsIn json fresh (sanitize raw)
      else recoverable cipher.crypto json fresh (some raw) := by
  cases nonce with
  | none => simp [migrated]
  | some nonce =>
      by_cases rejected : cipher.crypto.decrypt raw = none
      · rw [migrated_of_rejected readable rejected, if_pos ⟨rejected, rfl⟩, recoverable,
          cipher.decrypt_encrypt, Option.getD_some]
      · rw [if_neg fun both => rejected both.1]
        rcases readable with ⟨isOn, decrypts⟩ | ⟨none, -, -⟩
        · simp [migrated, decryptNow, isOn, decrypts]
        · exact absurd none rejected

/-- What one edit leaves of a config. -/
theorem kept_step {store : ConfigStore} {edit : Edit} {config : ProxyConfig}
    (mem : config ∈ store.configs) (spared : edit ≠ .delete config.id) :
    ∃ kept ∈ (store.step edit.op).configs, kept.id = config.id ∧
      (kept = config ∨ ∃ changed, edit = .update changed ∧ changed.id = config.id) := by
  cases edit with
  | add new => exact ⟨config, List.mem_append_left _ mem, rfl, .inl rfl⟩
  | delete id =>
      refine ⟨config, List.mem_filter.mpr ⟨mem, decide_eq_true ?_⟩, rfl, .inl rfl⟩
      rintro rfl
      exact spared rfl
  | update changed =>
      refine ⟨_, List.mem_map_of_mem mem, ?_⟩
      split_ifs with other locked
      · exact ⟨rfl, .inl rfl⟩
      · exact ⟨rfl, .inr ⟨changed, rfl, (not_not.mp other).symm⟩⟩
      · exact ⟨(not_not.mp other).symm, .inr ⟨changed, rfl, (not_not.mp other).symm⟩⟩

/-- What a run of edits leaves of a config. -/
theorem kept_edits {edits : List (Edit × Option Nonce)} {session : Session} {config : ProxyConfig}
    (mem : config ∈ session.memory.configs) (spared : .delete config.id ∉ edits.map Prod.fst) :
    ∃ kept ∈ (edits.foldl (Session.edit crypto) session).memory.configs, kept.id = config.id ∧
      (kept = config ∨ ∃ changed, .update changed ∈ edits.map Prod.fst ∧
        changed.id = config.id) := by
  induction edits generalizing session config with
  | nil => exact ⟨config, mem, rfl, .inl rfl⟩
  | cons edit edits ih =>
      rw [List.map_cons, List.mem_cons, not_or] at spared
      rcases kept_step mem (Ne.symm spared.1) with ⟨next, isNext, nextId, same⟩
      have later : .delete next.id ∉ edits.map Prod.fst := by
        rw [nextId]
        exact spared.2
      have isThere : next ∈ (session.edit crypto edit).memory.configs := isNext
      rcases ih isThere later with ⟨kept, isKept, keptId, sameLater⟩
      refine ⟨kept, isKept, keptId.trans nextId, ?_⟩
      rcases sameLater with rfl | ⟨changed, isUpdate, isId⟩
      · rcases same with rfl | ⟨changed, isUpdate, isId⟩
        · exact .inl rfl
        · exact .inr ⟨changed, List.mem_cons.mpr (.inl isUpdate.symm), isId⟩
      · exact .inr ⟨changed, List.mem_cons_of_mem _ isUpdate, isId.trans nextId⟩

theorem hasInts_step {store : ConfigStore} {edit : Edit}
    (ints : ∀ config ∈ store.configs, config.HasInts) (edits : edit.HasInts) :
    ∀ config ∈ (store.step edit.op).configs, config.HasInts := by
  cases edit with
  | add new =>
      intro config mem
      rcases List.mem_append.mp mem with isOld | isNew
      · exact ints config isOld
      · rw [List.mem_singleton.mp isNew]
        exact edits
  | delete id =>
      intro config mem
      exact ints config (List.mem_of_mem_filter mem)
  | update changed =>
      intro config mem
      rcases List.mem_map.mp mem with ⟨existing, isOld, rfl⟩
      split_ifs
      · exact ints existing isOld
      · exact ⟨(ints existing isOld).port, (ints existing isOld).alterId,
          (ints existing isOld).mtu, (ints existing isOld).hyUpMbps,
          (ints existing isOld).hyDownMbps⟩
      · exact edits

theorem hasInts_edits {edits : List (Edit × Option Nonce)} {session : Session}
    (ints : ∀ config ∈ session.memory.configs, config.HasInts)
    (each : ∀ edit ∈ edits, edit.1.HasInts) :
    ∀ config ∈ (edits.foldl (Session.edit crypto) session).memory.configs, config.HasInts := by
  induction edits generalizing session with
  | nil => exact ints
  | cons edit edits ih =>
      rw [List.forall_mem_cons] at each
      exact ih (hasInts_step ints each.1) each.2

/-- After an edit the storage holds the list of the memory, sanitized if it was encrypted. -/
theorem recoverable_edits {cipher : KeyCipher} {edits : List (Edit × Option Nonce)}
    {last : Edit × Option Nonce} {session : Session}
    (ints : ∀ config ∈ session.memory.configs, config.HasInts)
    (each : ∀ edit ∈ edits ++ [last], edit.1.HasInts)
    (unforged : ((edits ++ [last]).foldl (Session.edit cipher.crypto) session).Unforged
      cipher.crypto) :
    recoverable cipher.crypto json fresh
        ((edits ++ [last]).foldl (Session.edit cipher.crypto) session).stored =
      if last.2.isSome then
        ((edits ++ [last]).foldl (Session.edit cipher.crypto) session).memory.configs.map
          ProxyConfig.sanitize
      else ((edits ++ [last]).foldl (Session.edit cipher.crypto) session).memory.configs := by
  have after : ∀ config ∈
      ((edits ++ [last]).foldl (Session.edit cipher.crypto) session).memory.configs,
      config.HasInts := hasInts_edits ints each
  rw [List.foldl_append] at after unforged ⊢
  refine recoverable_sealedText after fun plain => unforged ?_
  simp [Session.edit, sealedText, plain]

/-- A session whose list was encrypted is not forged. -/
theorem unforged_of_encrypt {cipher : KeyCipher} {session : Session} {nonce : Nonce} {text : Text}
    (encrypted : session.stored = some (cipher.crypto.encrypt nonce text)) :
    session.Unforged cipher.crypto := by
  intro isPlain
  have starts := startsLikeJson_configsText session.memory.configs
  rw [encrypted, Option.some.injEq] at isPlain
  rw [← isPlain, startsLikeJson_encrypt] at starts
  cases starts

theorem unforged_edit {cipher : KeyCipher} (session : Session) (edit : Edit) (nonce : Nonce) :
    (session.edit cipher.crypto (edit, some nonce)).Unforged cipher.crypto := by
  apply unforged_of_encrypt
  rw [Session.edit, sealedText, Option.map_some, Option.getD_some]

/-- A config that is loaded and well formed survives all edits but those that concern it. -/
theorem losesNothing_of_loads {cipher : KeyCipher}
    (loads : Loads cipher.crypto json works nonce fresh stored) :
    LosesNothing cipher.crypto json works nonce fresh stored := by
  rcases loads with ⟨raw, plain, elements, rfl, readable, parses, all, well⟩
  intro edits each unforged config mem spared
  rw [recoverable_of_readable readable parses all] at mem
  rcases well config mem with ⟨wellFormed, survives⟩
  have isLoaded : config ∈ (startSession cipher.crypto json works nonce fresh
      (some raw)).memory.configs := by
    rw [startSession, loadConfigs_of_readable readable parses all]
    exact mem
  rcases List.eq_nil_or_concat edits with rfl | ⟨earlier, last, rfl⟩
  · refine ⟨config, ?_, rfl, .inl rfl⟩
    change config ∈ recoverable _ json fresh (migrated _ works nonce (some raw))
    rw [recoverable_migrated readable]
    split_ifs with encrypts
    · exact survives encrypts.1 encrypts.2
    · rw [recoverable_of_readable readable parses all]
      exact mem
  · rw [List.concat_eq_append] at each unforged spared ⊢
    rcases kept_edits isLoaded spared with ⟨kept, isKept, sameId, same⟩
    rw [recoverable_edits hasInts_loadConfigs each unforged]
    split_ifs
    · refine ⟨kept.sanitize, List.mem_map_of_mem isKept, ?_, ?_⟩
      · have isId : WellFormed config.id := wellFormed config.id List.mem_cons_self
        change sanitize kept.id = config.id
        rw [sameId, Text.sanitize_eq_self_iff.mpr isId]
      · apply same.imp_left
        rintro rfl
        exact ProxyConfig.sanitize_eq_self_iff.mpr wellFormed
    · exact ⟨kept, isKept, sameId, same⟩

/-- An edit that concerns no config shows what was loaded. -/
theorem exists_sanitize_of_losesNothing {cipher : KeyCipher}
    (nothingLost : LosesNothing cipher.crypto json works nonce fresh stored)
    {config : ProxyConfig} (mem : config ∈ recoverable cipher.crypto json fresh stored) :
    ∃ loaded ∈ loadConfigs cipher.crypto json works fresh stored, config = loaded.sanitize := by
  have each : ∀ edit ∈ [] ++ [(Edit.delete (0 :: config.id), some (default : Nonce))],
      edit.1.HasInts := by
    simp [Edit.HasInts]
  have spared : .delete config.id ∉
      ([] ++ [(Edit.delete (0 :: config.id), some (default : Nonce))]).map Prod.fst := by
    simp
  have unforged : (([] ++ [(Edit.delete (0 :: config.id), some (default : Nonce))]).foldl
      (Session.edit cipher.crypto)
      (startSession cipher.crypto json works nonce fresh stored)).Unforged cipher.crypto :=
    unforged_edit _ _ _
  rcases nothingLost _ each unforged config mem spared with ⟨kept, isKept, -, same⟩
  rw [recoverable_edits hasInts_loadConfigs each unforged, Option.isSome_some, if_pos rfl] at isKept
  rcases List.mem_map.mp isKept with ⟨loaded, isLoaded, rfl⟩
  refine ⟨loaded, List.mem_of_mem_filter isLoaded, ?_⟩
  rcases same with isConfig | ⟨changed, isUpdate, -⟩
  · exact isConfig.symm
  · simp at isUpdate

theorem loads_of_losesNothing {cipher : KeyCipher} (genuine : Genuine cipher.crypto stored)
    (nothingLost : LosesNothing cipher.crypto json works nonce fresh stored)
    (nonempty : recoverable cipher.crypto json fresh stored ≠ []) :
    Loads cipher.crypto json works nonce fresh stored := by
  rcases List.exists_mem_of_ne_nil _ nonempty with ⟨some, isSome⟩
  rcases exists_sanitize_of_losesNothing nothingLost isSome with ⟨loaded, isLoaded, -⟩
  rcases exists_of_mem_loadConfigs genuine isLoaded with
    ⟨raw, plain, elements, rfl, readable, parses, all⟩
  refine ⟨raw, plain, elements, rfl, readable, parses, all, ?_⟩
  intro config mem
  rw [← recoverable_of_readable readable parses all] at mem
  constructor
  · rcases exists_sanitize_of_losesNothing nothingLost mem with ⟨original, -, rfl⟩
    exact ProxyConfig.sanitize_eq_self_iff.mp original.sanitize_sanitize
  · intro rejected encrypts
    -- Without an edit, what is stored is what the migration has left.
    have unforged : (startSession cipher.crypto json works nonce fresh
        (Option.some raw)).Unforged cipher.crypto := by
      rcases Option.isSome_iff_exists.mp encrypts with ⟨nonce, rfl⟩
      exact unforged_of_encrypt (migrated_of_rejected readable rejected nonce)
    rcases nothingLost [] (by simp) unforged config mem (by simp) with ⟨kept, isKept, -, same⟩
    change kept ∈ recoverable _ json fresh (migrated _ works nonce (Option.some raw)) at isKept
    rw [recoverable_migrated readable, if_pos ⟨rejected, encrypts⟩] at isKept
    rcases same with rfl | ⟨changed, isUpdate, -⟩
    · exact isKept
    · simp at isUpdate

/-- Nothing is lost if the load succeeds or there is nothing to lose, and otherwise something is,
unless the text is a forged one. -/
theorem losesNothing_iff (cipher : KeyCipher) (json : OrgArray) (works : Bool)
    (nonce : Option Nonce) (fresh : ℕ → Text) (stored : Option Text) :
    (recoverable cipher.crypto json fresh stored = [] ∨
        Loads cipher.crypto json works nonce fresh stored →
      LosesNothing cipher.crypto json works nonce fresh stored) ∧
    (Genuine cipher.crypto stored → LosesNothing cipher.crypto json works nonce fresh stored →
      recoverable cipher.crypto json fresh stored = [] ∨
        Loads cipher.crypto json works nonce fresh stored) := by
  constructor
  · rintro (nothing | loads)
    · intro edits _ _ config mem
      rw [nothing] at mem
      cases mem
    · exact losesNothing_of_loads loads
  · intro genuine nothingLost
    by_cases nothing : recoverable cipher.crypto json fresh stored = []
    · exact .inl nothing
    · exact .inr (loads_of_losesNothing genuine nothingLost nothing)

theorem hasInts_listedConfig (id : Text) : (listedConfig id).HasInts := by
  constructor <;> norm_num [IsInt, listedConfig]

/-- The key store fails once while the configs are loaded. -/
theorem loses_transientFailure :
    ¬ LosesNothing KeyCipher.transparent.crypto .strict false none (fun _ => [])
      (some (sealedText KeyCipher.transparent.crypto (some default)
        (configsText [listedConfig (txt "1")]))) := by
  intro nothingLost
  have ints : ∀ config ∈ [listedConfig (txt "1")], config.HasInts := by
    rw [List.forall_mem_singleton]
    exact hasInts_listedConfig _
  have isThere : (listedConfig (txt "1")).sanitize ∈ recoverable KeyCipher.transparent.crypto
      .strict (fun _ => []) (some (sealedText KeyCipher.transparent.crypto (some default)
        (configsText [listedConfig (txt "1")]))) := by
    rw [recoverable_sealedText ints (by simp)]
    exact List.mem_cons_self
  rcases exists_sanitize_of_losesNothing nothingLost isThere with ⟨loaded, isLoaded, -⟩
  have unread : readSecret KeyCipher.transparent.crypto false
      (some (sealedText KeyCipher.transparent.crypto (some default)
        (configsText [listedConfig (txt "1")]))) = none := by
    simp [readSecret, decryptNow, sealedText, startsLikeJson_encrypt]
  rw [loadConfigs, unread] at isLoaded
  cases isLoaded

end ConfigStore

end GRoute
