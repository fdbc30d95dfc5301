import GRoute.ConfigFile

/-!
# Imported configs

What `decode` makes of the files that `encode` and `encodeBackup` write. A copy has a new id, no
subscription and the lock of the file, its texts are sanitized, and everything else is as it was.
So a file keeps configs whose texts are well formed, and it keeps neither the locks of its
configs nor the ids to which they refer.
-/

namespace GRoute.ConfigFile

open Text

variable {cipher : Cipher Text} {cert : Option Text} {json : OrgObject} {draws : Draws}
  {configs : List ProxyConfig} {password given : Option Text} {locked : Bool} {fresh : ℕ → Text}
  {subs : List Subscription} {settings : Json}

theorem sanitize_configArray :
    (configArray configs).sanitize = configArray (configs.map ProxyConfig.sanitize) :=
  ProxyConfig.sanitize_arr configs

theorem hasLongs_sanitize (longs : ∀ sub ∈ subs, sub.HasLongs) :
    ∀ sub ∈ subs.map Subscription.sanitize, sub.HasLongs := by
  intro sub mem
  rcases List.mem_map.mp mem with ⟨original, isOriginal, rfl⟩
  exact (longs original isOriginal).sanitize

theorem sanitize_shareRoot :
    (shareRoot configs locked).sanitize = shareRoot (configs.map ProxyConfig.sanitize) locked := by
  rw [shareRoot, Json.sanitize_object (by simp only [List.map_cons, List.map_nil]; decide)]
  simp only [List.map_cons, List.map_nil, Json.sanitize_int, Json.sanitize_bool,
    sanitize_configArray]
  rfl

theorem printable_shareRoot (ints : ∀ config ∈ configs, config.HasInts) (locked : Bool) :
    Json.Printable (shareRoot configs locked) := by
  refine .obj (by simp only [List.map_cons, List.map_nil]; decide) ?_
  simp only [List.map_cons, List.map_nil, List.forall_mem_cons]
  refine ⟨.int ?_, .bool locked, ProxyConfig.printable_arr ints, fun _ mem => nomatch mem⟩
  rw [Json.IsLong]
  norm_num

theorem sanitize_backupRoot : (backupRoot configs subs settings).sanitize =
    backupRoot (configs.map ProxyConfig.sanitize) (subs.map Subscription.sanitize)
      settings.sanitize := by
  have sameSubs : (Json.arr (subs.map Subscription.toJson)).sanitize =
      .arr ((subs.map Subscription.sanitize).map Subscription.toJson) := by
    rw [Json.sanitize_arr, List.map_map, List.map_map]
    congr 1
    apply List.map_congr_left
    intro sub _
    exact sub.sanitize_toJson
  have sameKind : (Json.text "backup").sanitize = .text "backup" := by
    rw [Json.text, Json.sanitize_str]
    congr 1
  rw [backupRoot, Json.sanitize_object (by simp only [List.map_cons, List.map_nil]; decide)]
  simp only [List.map_cons, List.map_nil, Json.sanitize_int, sanitize_configArray, sameSubs,
    sameKind]
  rfl

theorem printable_backupRoot (ints : ∀ config ∈ configs, config.HasInts)
    (longs : ∀ sub ∈ subs, sub.HasLongs) (printable : Json.Printable settings) :
    Json.Printable (backupRoot configs subs settings) := by
  refine .obj (by simp only [List.map_cons, List.map_nil]; decide) ?_
  simp only [List.map_cons, List.map_nil, List.forall_mem_cons]
  refine ⟨.int ?_, .str _, ProxyConfig.printable_arr ints, .arr ?_, printable,
    fun _ mem => nomatch mem⟩
  · rw [Json.IsLong]
    norm_num
  · intro element mem
    rcases List.mem_map.mp mem with ⟨sub, isSub, rfl⟩
    exact Subscription.printable_toJson (longs sub isSub)

theorem field?_shareRoot : (shareRoot configs locked).field? (txt "configs") =
      some (configArray configs) ∧
    (shareRoot configs locked).field? (txt "locked") = some (.bool locked) := by
  simp +decide only [shareRoot, Json.field?_object_cons, if_true, if_false, and_self]

theorem field?_backupRoot : (backupRoot configs subs settings).field? (txt "configs") =
      some (configArray configs) ∧
    (backupRoot configs subs settings).field? (txt "locked") = none := by
  simp +decide only [backupRoot, Json.field?_object_cons, Json.field?_object_nil, if_true, if_false,
    and_self]

theorem field?_backupRoot_rest (configs : List ProxyConfig) (subs : List Subscription)
    (settings : Json) :
    (backupRoot configs subs settings).field? (txt "kind") = some (.text "backup") ∧
    (backupRoot configs subs settings).field? (txt "subs") =
      some (.arr (subs.map Subscription.toJson)) ∧
    (backupRoot configs subs settings).field? (txt "settings") = some settings := by
  simp +decide only [backupRoot, Json.field?_object_cons, if_true, if_false, and_self]

/-- The copies that are made of the configs of a file. -/
def copies (locked : Bool) (fresh : ℕ → Text) (configs : List ProxyConfig) : List ProxyConfig :=
  configs.mapIdx fun i config => imported config.sanitize (fresh i) locked

theorem decode_of_openFile {bytes : List UInt8} {root : Json}
    (opened : openFile cipher cert json bytes given = .ok root)
    (isArray : root.field? (txt "configs") = some (configArray (configs.map ProxyConfig.sanitize)))
    (ints : ∀ config ∈ configs, config.HasInts) :
    decode cipher cert json bytes given fresh =
      .ok (copies (json.optBoolean root (txt "locked") true) fresh configs) := by
  have elements : root.optArray (txt "configs") =
      some ((configs.map ProxyConfig.sanitize).map ProxyConfig.toJson) := by
    rw [Json.optArray, isArray, configArray]
  have objects : ((configs.map ProxyConfig.sanitize).map ProxyConfig.toJson).all
      ConfigStore.isObject := by
    rw [List.all_map, List.all_eq_true]
    intro config _
    rfl
  simp only [decode, opened, bind, Except.bind, elements, objects, if_true]
  congr 1
  apply List.ext_getElem?
  intro i
  rw [copies, List.getElem?_mapIdx, List.getElem?_mapIdx, List.getElem?_map, List.getElem?_map]
  cases isConfig : configs[i]? with
  | none => rfl
  | some config =>
      have reads := ProxyConfig.fromJson_toJson json.toOrgArray
        (ints config (List.mem_of_getElem? isConfig)).sanitize []
      rw [Option.map_some, Option.map_some, Option.map_some, Option.map_some, reads]

/-- A share file is opened with its password, or with any if it has none. -/
theorem openFile_encode (ints : ∀ config ∈ configs, config.HasInts)
    (fits : hasPassword password → given = password) :
    openFile cipher cert json (encode cipher cert draws configs password locked) given =
      .ok (shareRoot (configs.map ProxyConfig.sanitize) locked) := by
  have sanitized := printable_shareRoot (ProxyConfig.forall_hasInts_sanitize ints) locked
  rw [← sanitize_shareRoot] at sanitized ⊢
  exact openFile_seal_self (printable_shareRoot ints locked) sanitized fits

theorem openFile_encodeBackup (ints : ∀ config ∈ configs, config.HasInts)
    (longs : ∀ sub ∈ subs, sub.HasLongs) (printable : Json.Printable settings)
    (sanitizedSettings : Json.Printable settings.sanitize)
    (fits : hasPassword password → given = password) :
    openFile cipher cert json (encodeBackup cipher cert draws configs subs settings password)
        given = .ok (backupRoot (configs.map ProxyConfig.sanitize) (subs.map Subscription.sanitize)
        settings.sanitize) := by
  have sanitized := printable_backupRoot (ProxyConfig.forall_hasInts_sanitize ints)
    (hasLongs_sanitize longs) sanitizedSettings
  rw [← sanitize_backupRoot] at sanitized ⊢
  exact openFile_seal_self (printable_backupRoot ints longs printable) sanitized fits

theorem decode_encode (ints : ∀ config ∈ configs, config.HasInts)
    (fits : hasPassword password → given = password) :
    decode cipher cert json (encode cipher cert draws configs password locked) given fresh =
      .ok (copies locked fresh configs) := by
  rw [decode_of_openFile (openFile_encode ints fits) field?_shareRoot.1 ints, OrgArray.optBoolean,
    field?_shareRoot.2, Option.bind_some, json.toBoolean_bool, Option.getD_some]

/-- A backup says nothing about locks, and so its configs are locked. -/
theorem decode_encodeBackup (ints : ∀ config ∈ configs, config.HasInts)
    (longs : ∀ sub ∈ subs, sub.HasLongs) (printable : Json.Printable settings)
    (sanitizedSettings : Json.Printable settings.sanitize)
    (fits : hasPassword password → given = password) :
    decode cipher cert json (encodeBackup cipher cert draws configs subs settings password) given
        fresh =
      .ok (copies true fresh configs) := by
  rw [decode_of_openFile (openFile_encodeBackup ints longs printable sanitizedSettings fits)
    field?_backupRoot.1 ints, OrgArray.optBoolean, field?_backupRoot.2, Option.bind_none,
    Option.getD_none]

/-- A relation between configs and their copies, if it depends on the configs only. -/
theorem forall₂_copies_iff {R : ProxyConfig → ProxyConfig → Prop} {P : ProxyConfig → Prop}
    (same : ∀ config id, R config (imported config.sanitize id locked) ↔ P config) :
    List.Forall₂ R configs (copies locked fresh configs) ↔ ∀ config ∈ configs, P config := by
  rw [List.forall₂_iff_get, List.forall_mem_iff_forall_getElem]
  simp only [copies, List.length_mapIdx, List.get_eq_getElem, List.getElem_mapIdx, same, true_and]
  constructor
  · intro each i inRange
    exact each i inRange inRange
  · intro each i inRange _
    exact each i inRange

/-- The configs differ only in id, subscription, source and lock. -/
def SameContent (original copy : ProxyConfig) : Prop :=
  { copy with
    id := original.id
    subId := original.subId
    source := original.source
    locked := original.locked } = original

/-- Share files keep their configs, and tell their passwords from others. -/
structure RoundTrips (cipher : Cipher Text) (cert : Option Text) (json : OrgObject) (draws : Draws)
    (fresh : ℕ → Text) (configs : List ProxyConfig) (password : Option Text) (locked : Bool) :
    Prop where
  imports : ∃ copies,
    decode cipher cert json (encode cipher cert draws configs password locked) password fresh =
      .ok copies ∧ List.Forall₂ SameContent configs copies
  isProtected : isPasswordProtected (encode cipher cert draws configs password locked) =
    .ok (hasPassword password)
  rejects (ideal : cipher.Ideal) (has : hasPassword password) (other : Text) (nonempty : other ≠ [])
      (ne : some other ≠ password) :
    decode cipher cert json (encode cipher cert draws configs password locked) (some other) fresh =
      .error .wrongPassword
  needs (has : hasPassword password) (given : Option Text) (hasNone : hasPassword given = false) :
    decode cipher cert json (encode cipher cert draws configs password locked) given fresh =
      .error .needsPassword

theorem decode_of_error {bytes : List UInt8} {error : FileError}
    (fails : openFile cipher cert json bytes given = .error error) :
    decode cipher cert json bytes given fresh = .error error := by
  rw [decode, fails]
  rfl

theorem sameContent_imported_iff (config : ProxyConfig) (id : Text) :
    SameContent config (imported config.sanitize id locked) ↔
      ∀ text ∈ config.contentTexts, WellFormed text := by
  have content := ProxyConfig.mapTexts_eq_iff (f := Text.sanitize) (c := config) config.id
    config.subId
  simp only [Text.sanitize_eq_self_iff] at content
  exact content

theorem wellFormed_of_roundTrips (ints : ∀ config ∈ configs, config.HasInts)
    (trips : RoundTrips cipher cert json draws fresh configs password locked) :
    ∀ config ∈ configs, ∀ text ∈ config.contentTexts, WellFormed text := by
  rcases trips.imports with ⟨imported, isImported, same⟩
  rw [decode_encode ints (fun _ => rfl)] at isImported
  cases isImported
  exact (forall₂_copies_iff sameContent_imported_iff).mp same

theorem roundTrips_iff (ints : ∀ config ∈ configs, config.HasInts) :
    RoundTrips cipher cert json draws fresh configs password locked ↔
      ∀ config ∈ configs, ∀ text ∈ config.contentTexts, WellFormed text := by
  refine ⟨wellFormed_of_roundTrips ints, ?_⟩
  intro wellFormed
  refine ⟨⟨_, decode_encode ints (fun _ => rfl), ?_⟩, isPasswordProtected_seal, ?_, ?_⟩
  · exact (forall₂_copies_iff sameContent_imported_iff).mpr wellFormed
  · intro ideal has other nonempty ne
    apply decode_of_error
    exact openFile_seal_other ideal has (by simpa [hasPassword] using nonempty) ne
  · intro has given hasNone
    apply decode_of_error
    exact openFile_seal_missing has hasNone

/-- Every unit as two bytes after a 1, and a 0 after the last one. -/
def unitsLabel : Text → List UInt8
  | [] => [0]
  | c :: rest => 1 :: UInt8.ofNat (c.toNat / 256) :: UInt8.ofNat (c.toNat % 256) :: unitsLabel rest

theorem eq_of_halves {c d : UInt16}
    (high : UInt8.ofNat (c.toNat / 256) = UInt8.ofNat (d.toNat / 256))
    (low : UInt8.ofNat (c.toNat % 256) = UInt8.ofNat (d.toNat % 256)) : c = d := by
  have smallC := c.toNat_lt
  have smallD := d.toNat_lt
  have sameHigh := congrArg UInt8.toNat high
  have sameLow := congrArg UInt8.toNat low
  rw [UInt8.toNat_ofNat', UInt8.toNat_ofNat'] at sameHigh sameLow
  apply UInt16.toNat_inj.mp
  omega

theorem prefixFree_unitsLabel : Cipher.PrefixFree unitsLabel := by
  intro material
  induction material with
  | nil =>
      intro other rest more same
      cases other with
      | nil => rfl
      | cons d other => cases same
  | cons c material ih =>
      intro other rest more same
      cases other with
      | nil => cases same
      | cons d other =>
          simp only [unitsLabel, List.cons_append, List.cons.injEq, true_and] at same
          rcases same with ⟨high, low, same⟩
          rw [eq_of_halves high low, ih other rest more same]

def sampleCipher : Cipher Text := .labelled unitsLabel

theorem ideal_sampleCipher : sampleCipher.Ideal := Cipher.ideal_labelled prefixFree_unitsLabel

def sampleDraws : Draws := ⟨List.replicate 16 0, List.replicate 12 0, rfl, rfl⟩

def sampleConfig (name id : Text) : ProxyConfig where
  name := name
  protocol := txt "vless"
  address := txt "192.0.2.1"
  port := 443
  id := id

theorem hasInts_sampleConfig (name id : Text) : (sampleConfig name id).HasInts := by
  constructor <;> norm_num [sampleConfig, IsInt]

/-- With an ideal cipher, so that the rejections are not empty. -/
theorem roundTrips_sampleConfig : sampleCipher.Ideal ∧
    RoundTrips sampleCipher none .strict sampleDraws (fun _ => txt "copy")
      [sampleConfig (txt "A") (txt "a")] (some (txt "secret")) true := by
  refine ⟨ideal_sampleCipher, (roundTrips_iff ?_).mpr ?_⟩
  · rw [List.forall_mem_singleton]
    exact hasInts_sampleConfig _ _
  · rw [List.forall_mem_singleton]
    decide

/-- The name is half of a surrogate pair and comes back as a question mark. -/
theorem not_roundTrips_halfPair :
    ¬ RoundTrips sampleCipher none .strict sampleDraws (fun _ => txt "copy")
      [sampleConfig [0xD800] (txt "a")] (some (txt "secret")) true := by
  intro trips
  have ints : ∀ config ∈ [sampleConfig [0xD800] (txt "a")], config.HasInts := by
    rw [List.forall_mem_singleton]
    exact hasInts_sampleConfig _ _
  have wellFormed := wellFormed_of_roundTrips ints trips _ List.mem_cons_self [0xD800]
    List.mem_cons_self
  revert wellFormed
  decide

inductive FileKind
  | share (locked : Bool)
  | backup (subs : List Subscription) (settings : Json)

namespace FileKind

/-- The integers and the keys can be written as JSON. -/
def Sendable : FileKind → Prop
  | share _ => True
  | backup subs settings => (∀ sub ∈ subs, sub.HasLongs) ∧ Json.Printable settings ∧
      Json.Printable settings.sanitize

variable (cipher cert draws) in
def write (configs : List ProxyConfig) (password : Option Text) : FileKind → List UInt8
  | share locked => encode cipher cert draws configs password locked
  | backup subs settings => encodeBackup cipher cert draws configs subs settings password

/-- The lock of all configs of the file. -/
def lock : FileKind → Bool
  | share locked => locked
  | backup _ _ => true

end FileKind

variable {kind : FileKind}

theorem decode_write (sendable : kind.Sendable) (ints : ∀ config ∈ configs, config.HasInts)
    (fits : hasPassword password → given = password) :
    decode cipher cert json (kind.write cipher cert draws configs password) given fresh =
      .ok (copies kind.lock fresh configs) := by
  cases kind with
  | share locked => exact decode_encode ints fits
  | backup subs settings =>
      rcases sendable with ⟨longs, printable, sanitized⟩
      exact decode_encodeBackup ints longs printable sanitized fits

/-- The lock that a copy should have. -/
def KeepsLock (kind : FileKind) (original copy : ProxyConfig) : Prop :=
  copy.locked = true ↔ original.locked = true ∨ kind = .share true

def KeepsLocks (cipher : Cipher Text) (cert : Option Text) (json : OrgObject) (draws : Draws)
    (fresh : ℕ → Text) (kind : FileKind) (configs : List ProxyConfig) (password : Option Text) :
    Prop :=
  ∀ given, (hasPassword password → given = password) → ∃ copies,
    decode cipher cert json (kind.write cipher cert draws configs password) given fresh =
      .ok copies ∧ List.Forall₂ (KeepsLock kind) configs copies

/-- The lock of the file is right for each of its configs. -/
def LocksAgree (configs : List ProxyConfig) : FileKind → Prop
  | .share true => True
  | .share false => ∀ config ∈ configs, config.locked = false
  | .backup _ _ => ∀ config ∈ configs, config.locked = true

theorem locksAgree_iff : LocksAgree configs kind ↔
    ∀ config ∈ configs, (kind.lock = true ↔ config.locked = true ∨ kind = .share true) := by
  cases kind with
  | share locked =>
      cases locked with
      | true => simp [LocksAgree, FileKind.lock]
      | false => simp [LocksAgree, FileKind.lock]
  | backup subs settings => simp [LocksAgree, FileKind.lock]

theorem locksAgree_of_keepsLocks (sendable : kind.Sendable)
    (ints : ∀ config ∈ configs, config.HasInts)
    (keeps : KeepsLocks cipher cert json draws fresh kind configs password) :
    LocksAgree configs kind := by
  rcases keeps password (fun _ => rfl) with ⟨imported, isImported, kept⟩
  rw [decode_write sendable ints (fun _ => rfl)] at isImported
  cases isImported
  rw [locksAgree_iff]
  exact (forall₂_copies_iff fun _ _ => Iff.rfl).mp kept

theorem keepsLocks_iff (sendable : kind.Sendable) (ints : ∀ config ∈ configs, config.HasInts) :
    KeepsLocks cipher cert json draws fresh kind configs password ↔ LocksAgree configs kind := by
  refine ⟨locksAgree_of_keepsLocks sendable ints, ?_⟩
  intro agree given fits
  rw [locksAgree_iff] at agree
  exact ⟨_, decode_write sendable ints fits, (forall₂_copies_iff fun _ _ => Iff.rfl).mpr agree⟩

/-- A locked config and an open one, locked together. -/
def mixedLocks : List ProxyConfig :=
  [{ sampleConfig (txt "A") (txt "a") with locked := true }, sampleConfig (txt "B") (txt "b")]

theorem hasInts_mixedLocks : ∀ config ∈ mixedLocks, config.HasInts := by
  rw [mixedLocks, List.forall_mem_cons, List.forall_mem_singleton]
  exact ⟨{ hasInts_sampleConfig (txt "A") (txt "a") with }, hasInts_sampleConfig _ _⟩

theorem keepsLocks_mixedLocks :
    KeepsLocks sampleCipher none .strict sampleDraws (fun _ => txt "copy") (.share true) mixedLocks
      none := by
  have sendable : (FileKind.share true).Sendable := trivial
  exact (keepsLocks_iff sendable hasInts_mixedLocks).mpr trivial

/-- A file that is shared open unlocks its locked config, and a backup locks its open one. -/
theorem not_keepsLocks_mixedLocks :
    ¬ KeepsLocks sampleCipher none .strict sampleDraws (fun _ => txt "copy") (.share false)
        mixedLocks none ∧
      ¬ KeepsLocks sampleCipher none .strict sampleDraws (fun _ => txt "copy")
        (.backup [] (.obj [])) mixedLocks none := by
  constructor
  · intro keeps
    have sendable : (FileKind.share false).Sendable := trivial
    have agree := locksAgree_of_keepsLocks sendable hasInts_mixedLocks keeps
    simp [LocksAgree, mixedLocks] at agree
  · intro keeps
    have empty : Json.Printable (.obj []) := .obj List.nodup_nil (fun _ mem => nomatch mem)
    have sendable : (FileKind.backup [] (.obj [])).Sendable := by
      refine ⟨fun _ mem => (nomatch mem), empty, ?_⟩
      rw [Json.sanitize_obj]
      exact empty
    have agree := locksAgree_of_keepsLocks sendable hasInts_mixedLocks keeps
    simp [LocksAgree, mixedLocks, sampleConfig] at agree

/-- The reference of one config to another becomes that of the copy to the other copy. -/
def StaysChained (originals copies : List ProxyConfig) : Prop :=
  ∀ (i j : ℕ) (a b : ProxyConfig), originals[i]? = some a → originals[j]? = some b →
    ∃ copyA copyB, copies[i]? = some copyA ∧ copies[j]? = some copyB ∧
      (a.chainId = b.id → copyA.chainId = copyB.id) ∧
      (a.torBaseId = b.id → copyA.torBaseId = copyB.id)

def ImportsChains (cipher : Cipher Text) (cert : Option Text) (json : OrgObject) (draws : Draws)
    (fresh : ℕ → Text) (configs : List ProxyConfig) (password : Option Text) (locked : Bool) :
    Prop :=
  ∀ given, (hasPassword password → given = password) → ∃ copies,
    decode cipher cert json (encode cipher cert draws configs password locked) given fresh =
      .ok copies ∧ StaysChained configs copies

/-- No config refers to another in the list. -/
def Unchained (configs : List ProxyConfig) : Prop :=
  ∀ a ∈ configs, ∀ b ∈ configs, a.chainId ≠ b.id ∧ a.torBaseId ≠ b.id

/-- The drawn ids are none to which a config of the file refers. -/
def NewIds (fresh : ℕ → Text) (configs : List ProxyConfig) : Prop :=
  ∀ i, ∀ config ∈ configs, sanitize config.chainId ≠ fresh i ∧ sanitize config.torBaseId ≠ fresh i

theorem getElem?_copies {i : ℕ} {config : ProxyConfig} (isConfig : configs[i]? = some config) :
    (copies locked fresh configs)[i]? = some (imported config.sanitize (fresh i) locked) := by
  rw [copies, List.getElem?_mapIdx, isConfig, Option.map_some]

theorem unchained_of_staysChained (new : NewIds fresh configs)
    (stays : StaysChained configs (copies locked fresh configs)) : Unchained configs := by
  intro a isA b isB
  rcases List.mem_iff_getElem?.mp isA with ⟨i, atI⟩
  rcases List.mem_iff_getElem?.mp isB with ⟨j, atJ⟩
  rcases stays i j a b atI atJ with ⟨copyA, copyB, isCopyA, isCopyB, chain, tor⟩
  rw [getElem?_copies atI] at isCopyA
  rw [getElem?_copies atJ] at isCopyB
  cases isCopyA
  cases isCopyB
  exact ⟨fun refers => (new j a isA).1 (chain refers), fun refers => (new j a isA).2 (tor refers)⟩

theorem unchained_of_importsChains (ints : ∀ config ∈ configs, config.HasInts)
    (new : NewIds fresh configs)
    (imports : ImportsChains cipher cert json draws fresh configs password locked) :
    Unchained configs := by
  rcases imports password (fun _ => rfl) with ⟨imported, isImported, stays⟩
  rw [decode_encode ints (fun _ => rfl)] at isImported
  cases isImported
  exact unchained_of_staysChained new stays

theorem importsChains_iff (ints : ∀ config ∈ configs, config.HasInts)
    (new : NewIds fresh configs) :
    ImportsChains cipher cert json draws fresh configs password locked ↔ Unchained configs := by
  refine ⟨unchained_of_importsChains ints new, ?_⟩
  intro unchained given fits
  refine ⟨_, decode_encode ints fits, ?_⟩
  intro i j a b atI atJ
  have apart := unchained a (List.mem_of_getElem? atI) b (List.mem_of_getElem? atJ)
  exact ⟨_, _, getElem?_copies atI, getElem?_copies atJ, fun refers => absurd refers apart.1,
    fun refers => absurd refers apart.2⟩

/-- The first config is chained to the second. -/
def chained : List ProxyConfig :=
  [{ sampleConfig (txt "A") (txt "a") with chainId := txt "b" }, sampleConfig (txt "B") (txt "b")]

theorem hasInts_chained : ∀ config ∈ chained, config.HasInts := by
  rw [chained, List.forall_mem_cons, List.forall_mem_singleton]
  exact ⟨{ hasInts_sampleConfig (txt "A") (txt "a") with }, hasInts_sampleConfig _ _⟩

/-- The ids that are drawn for two configs. -/
def drawnIds (i : ℕ) : Text := if i = 0 then txt "c" else txt "d"

theorem newIds_drawnIds {configs : List ProxyConfig}
    (others : ∀ id ∈ [txt "c", txt "d"], ∀ config ∈ configs,
      sanitize config.chainId ≠ id ∧ sanitize config.torBaseId ≠ id) :
    NewIds drawnIds configs := by
  intro i
  apply others
  rw [drawnIds]
  split
  · exact List.mem_cons_self
  · exact List.mem_cons_of_mem _ List.mem_cons_self

theorem importsChains_sampleConfig :
    ImportsChains sampleCipher none .strict sampleDraws drawnIds [sampleConfig (txt "A") (txt "a")]
      none false := by
  have ints : ∀ config ∈ [sampleConfig (txt "A") (txt "a")], config.HasInts := by
    rw [List.forall_mem_singleton]
    exact hasInts_sampleConfig _ _
  refine (importsChains_iff ints (newIds_drawnIds ?_)).mpr ?_
  · decide
  · intro a isA b isB
    rw [List.mem_singleton] at isA isB
    rw [isA, isB]
    decide

/-- The copy of the first config still refers to the id that the second one had. -/
theorem not_importsChains_chained :
    ¬ ImportsChains sampleCipher none .strict sampleDraws drawnIds chained none false := by
  intro imports
  have new : NewIds drawnIds chained := newIds_drawnIds (by decide)
  have unchained := unchained_of_importsChains hasInts_chained new imports
  exact (unchained _ List.mem_cons_self _ (List.mem_cons_of_mem _ List.mem_cons_self)).1 rfl

end GRoute.ConfigFile
