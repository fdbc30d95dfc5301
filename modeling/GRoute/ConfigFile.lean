import GRoute.ConfigStore.Storage
import GRoute.Foundation.Sealing
import GRoute.ProxyConfig.Texts

/-!
# Config files

`ConfigFile.kt`: configs and backups as files that are sealed under a key which is derived from
the password, a secret of the app and the hash of the certificate that signed it. A file starts
with four letters and a byte of flags, then come the salt, the nonce and the sealed text.

The salt, the nonce and the ids that the source draws are arguments, and so is the result of
`signingHash`. The file names of `writeToCache` are left out.
-/

namespace GRoute

open Text

namespace Subscription

def toJson (sub : Subscription) : Json :=
  .object [("id", .str sub.id), ("name", .str sub.name), ("url", .str sub.url),
    ("used", .int sub.used), ("total", .int sub.total), ("expire", .int sub.expire),
    ("lastUpdated", .int sub.lastUpdated)]

def fromJson (json : OrgObject) (o : Json) (fresh : Text) : Subscription where
  name := o.optString (txt "name") []
  url := o.optString (txt "url") []
  used := json.optLong o (txt "used") 0
  total := json.optLong o (txt "total") 0
  expire := json.optLong o (txt "expire") 0
  lastUpdated := json.optLong o (txt "lastUpdated") 0
  id := o.optString (txt "id") fresh

/-- The `Long` fields hold 64-bit integers. -/
structure HasLongs (sub : Subscription) : Prop where
  used : Json.IsLong sub.used
  total : Json.IsLong sub.total
  expire : Json.IsLong sub.expire
  lastUpdated : Json.IsLong sub.lastUpdated

/-- The subscription after it was sent as bytes. -/
def sanitize (sub : Subscription) : Subscription :=
  { sub with
    name := Text.sanitize sub.name
    url := Text.sanitize sub.url
    id := Text.sanitize sub.id }

variable {sub : Subscription}

theorem HasLongs.sanitize (longs : sub.HasLongs) : sub.sanitize.HasLongs :=
  ⟨longs.used, longs.total, longs.expire, longs.lastUpdated⟩

theorem sanitize_eq_self_iff :
    sub.sanitize = sub ↔ WellFormed sub.id ∧ WellFormed sub.name ∧ WellFormed sub.url := by
  rw [sanitize, Subscription.mk.injEq]
  simp only [Text.sanitize_eq_self_iff, true_and]
  tauto

theorem printable_toJson (longs : sub.HasLongs) : Json.Printable sub.toJson := by
  refine .obj (by simp only [List.map_cons, List.map_nil]; decide) ?_
  simp only [List.map_cons, List.map_nil, List.forall_mem_cons]
  simp only [Json.Printable.str, Json.Printable.int longs.used, Json.Printable.int longs.total,
    Json.Printable.int longs.expire, Json.Printable.int longs.lastUpdated, List.not_mem_nil,
    IsEmpty.forall_iff, implies_true, and_self]

theorem sanitize_toJson (sub : Subscription) : sub.toJson.sanitize = sub.sanitize.toJson := by
  rw [toJson, Json.sanitize_object]
  · simp only [List.map_cons, List.map_nil, Json.sanitize_str, Json.sanitize_int]
    rfl
  · simp only [List.map_cons, List.map_nil]
    decide

theorem fromJson_toJson (json : OrgObject) (longs : sub.HasLongs) (fresh : Text) :
    fromJson json sub.toJson fresh = sub := by
  simp +decide only [fromJson, toJson, Json.optString, OrgObject.optLong,
    Json.field?_object_cons, if_true, if_false, Option.bind_some, Json.toText,
    json.toLong_int longs.used, json.toLong_int longs.total, json.toLong_int longs.expire,
    json.toLong_int longs.lastUpdated, Option.getD_some]

end Subscription

namespace ConfigFile

/-- Why a file is not read. -/
inductive FileError
  | wrongPassword
  | needsPassword
  | badFile
  | foreignApp
  | notABackup
  /-- An exception of `org.json`. -/
  | json
  deriving DecidableEq, Repr

/-- What `seal` draws. -/
structure Draws where
  salt : List UInt8
  iv : List UInt8
  salt_length : salt.length = 16
  iv_length : iv.length = 12

/-- `MAGIC`. -/
def magic : Text := txt "GRT1"

/-- `toByteArray(US_ASCII)` of a text of ASCII characters. -/
def asciiBytes (s : Text) : List UInt8 := s.map fun c => UInt8.ofNat c.toNat

/-- `String(bytes, US_ASCII)`. -/
def asciiText (bytes : List UInt8) : Text :=
  bytes.map fun b => if b < 0x80 then UInt16.ofNat b.toNat else 0xFFFD

/-- `!password.isNullOrEmpty()`. -/
def hasPassword (password : Option Text) : Bool := password.getD [] ≠ []

def staticSecret : Text :=
  [0x2A, 0x3F, 0x02, 0x18, 0x19, 0x08, 0x40, 0x0A, 0x1F, 0x19, 0x40, 0x1B, 0x5C, 0x40, 0x06, 0x08,
    0x14, 0x40, 0x09, 0x02, 0x00, 0x0C, 0x04, 0x03, 0x40, 0x1E, 0x08, 0x15, 0x0C, 0x1F, 0x0C,
    0x19].map fun n => n ^^^ 0x6D

def material (password cert : Option Text) : Text :=
  password.getD [] ++ 0 :: (staticSecret ++ 0 :: cert.getD [])

/-- `FLAG_PW` and `FLAG_CERT`. -/
def flags (password cert : Option Text) : UInt8 :=
  (if hasPassword password then 0x01 else 0) ||| (if cert.isSome then 0x02 else 0)

variable (cipher : Cipher Text) (cert : Option Text) (json : OrgObject)

def deriveKey (password : Option Text) (salt : List UInt8) (cert : Option Text) : cipher.Key :=
  cipher.derive (material password cert) salt

def sealFile (draws : Draws) (root : Json) (password : Option Text) : List UInt8 :=
  asciiBytes magic ++ flags password cert :: (draws.salt ++ (draws.iv ++
    cipher.encrypt (deriveKey cipher password draws.salt cert) draws.iv (encodeUtf8 root.print)))

def isPasswordProtected (bytes : List UInt8) : Except FileError Bool :=
  if bytes.length < 5 then .error .badFile
  else if asciiText (bytes.take 4) ≠ magic then .error .badFile
  else .ok (bytes.getD 4 0 &&& 0x01 ≠ 0)

/-- `open`. -/
def openFile (bytes : List UInt8) (password : Option Text) : Except FileError Json :=
  if bytes.length < 5 + 16 + 12 + 16 then .error .badFile
  else if asciiText (bytes.take 4) ≠ magic then .error .badFile
  else
    let flags := bytes.getD 4 0
    let hasPw : Bool := flags &&& 0x01 ≠ 0
    let hasCert : Bool := flags &&& 0x02 ≠ 0
    if hasPw && !hasPassword password then .error .needsPassword
    else if hasCert && cert.isNone then .error .foreignApp
    else
      let salt := (bytes.drop 5).take 16
      let iv := (bytes.drop (5 + 16)).take 12
      let ct := bytes.drop (5 + 16 + 12)
      let key := deriveKey cipher (if hasPw then password else none) salt
        (if hasCert then cert else none)
      match cipher.decrypt key iv ct with
      | none => .error (if hasPw then .wrongPassword else .badFile)
      | some plain =>
          match json.parseObject (decodeUtf8 plain) with
          | none => .error .badFile
          | some root => .ok root

def configArray (configs : List ProxyConfig) : Json := .arr (configs.map ProxyConfig.toJson)

def shareRoot (configs : List ProxyConfig) (locked : Bool) : Json :=
  .object [("v", .int 1), ("locked", .bool locked), ("configs", configArray configs)]

def encode (draws : Draws) (configs : List ProxyConfig) (password : Option Text) (locked : Bool) :
    List UInt8 :=
  sealFile cipher cert draws (shareRoot configs locked) password

/-- The copy of a config that `decode` makes. -/
def imported (config : ProxyConfig) (id : Text) (locked : Bool) : ProxyConfig :=
  { config with id := id, subId := [], locked := locked, source := .community }

def decode (bytes : List UInt8) (password : Option Text) (fresh : ℕ → Text) :
    Except FileError (List ProxyConfig) := do
  let root ← openFile cipher cert json bytes password
  match root.optArray (txt "configs") with
  | none => .error .badFile
  | some elements =>
      if elements.all ConfigStore.isObject then
        let locked := json.optBoolean root (txt "locked") true
        .ok (elements.mapIdx fun i o =>
          imported (ProxyConfig.fromJson json.toOrgArray o []) (fresh i) locked)
      else .error .json

def backupRoot (configs : List ProxyConfig) (subs : List Subscription) (settings : Json) : Json :=
  .object [("v", .int 2), ("kind", .text "backup"), ("configs", configArray configs),
    ("subs", .arr (subs.map Subscription.toJson)), ("settings", settings)]

def encodeBackup (draws : Draws) (configs : List ProxyConfig) (subs : List Subscription)
    (settings : Json) (password : Option Text) : List UInt8 :=
  sealFile cipher cert draws (backupRoot configs subs settings) password

def isBackup (bytes : List UInt8) (password : Option Text) : Except FileError Bool := do
  let root ← openFile cipher cert json bytes password
  .ok (root.optString (txt "kind") [] = txt "backup")

/-- What a backup holds. -/
structure Backup where
  configs : List ProxyConfig
  subs : List Subscription
  settings : Option Json

def decodeBackup (bytes : List UInt8) (password : Option Text) (freshConfig freshSub : ℕ → Text) :
    Except FileError Backup := do
  let root ← openFile cipher cert json bytes password
  if root.optString (txt "kind") [] ≠ txt "backup" then .error .notABackup
  else
    match root.optArray (txt "configs") with
    | none => .error .badFile
    | some configs =>
        let subs := (root.optArray (txt "subs")).getD []
        if configs.all ConfigStore.isObject && subs.all ConfigStore.isObject then
          .ok {
            configs := ConfigStore.configsFrom json.toOrgArray freshConfig configs
            subs := subs.mapIdx fun i o => Subscription.fromJson json o (freshSub i)
            settings := root.optObject "settings" }
        else .error .json

variable {cipher} {cert} {json} {draws : Draws} {root : Json} {password : Option Text}

theorem getD_of_not_hasPassword (none : hasPassword password = false) : password.getD [] = [] := by
  simpa [hasPassword] using none

theorem flags_password : (flags password cert &&& 0x01 ≠ 0) = (hasPassword password = true) := by
  rw [flags]
  cases hasPassword password <;> cases cert.isSome <;> decide

theorem flags_cert : (flags password cert &&& 0x02 ≠ 0) = (cert.isSome = true) := by
  rw [flags]
  cases hasPassword password <;> cases cert.isSome <;> decide

theorem length_seal : 5 + 16 + 12 + 16 ≤ (sealFile cipher cert draws root password).length := by
  have tag := cipher.tag_le_length (deriveKey cipher password draws.salt cert) draws.iv
    (encodeUtf8 root.print)
  have isFour : (asciiBytes magic).length = 4 := rfl
  rw [sealFile, List.length_append, List.length_cons, List.length_append, List.length_append,
    isFour, draws.salt_length, draws.iv_length]
  omega

theorem take_seal : asciiText ((sealFile cipher cert draws root password).take 4) = magic := rfl

theorem getD_seal : (sealFile cipher cert draws root password).getD 4 0 = flags password cert := rfl

theorem drop_seal : (sealFile cipher cert draws root password).drop 5 =
    draws.salt ++ (draws.iv ++ cipher.encrypt (deriveKey cipher password draws.salt cert) draws.iv
      (encodeUtf8 root.print)) := rfl

theorem drop_salt : (sealFile cipher cert draws root password).drop (5 + 16) =
    draws.iv ++ cipher.encrypt (deriveKey cipher password draws.salt cert) draws.iv
      (encodeUtf8 root.print) := by
  rw [← List.drop_drop, drop_seal, ← draws.salt_length, List.drop_left]

theorem drop_iv : (sealFile cipher cert draws root password).drop (5 + 16 + 12) =
    cipher.encrypt (deriveKey cipher password draws.salt cert) draws.iv
      (encodeUtf8 root.print) := by
  rw [← List.drop_drop, drop_salt, ← draws.iv_length, List.drop_left]

theorem isPasswordProtected_seal :
    isPasswordProtected (sealFile cipher cert draws root password) =
      .ok (hasPassword password) := by
  have enough : 5 + 16 + 12 + 16 ≤ (sealFile cipher cert draws root password).length := length_seal
  rw [isPasswordProtected, if_neg (by omega), take_seal, if_neg (fun ne => ne rfl), getD_seal]
  simp only [flags_password, Bool.decide_eq_true]

/-- What becomes of a file that is opened with some password. -/
theorem openFile_seal (given : Option Text) :
    openFile cipher cert json (sealFile cipher cert draws root password) given =
      if hasPassword password && !hasPassword given then .error .needsPassword
      else
        match cipher.decrypt
          (deriveKey cipher (if hasPassword password then given else none) draws.salt cert) draws.iv
          (cipher.encrypt (deriveKey cipher password draws.salt cert) draws.iv
            (encodeUtf8 root.print)) with
        | none => .error (if hasPassword password then .wrongPassword else .badFile)
        | some plain =>
            match json.parseObject (decodeUtf8 plain) with
            | none => .error .badFile
            | some root => .ok root := by
  have enough : 5 + 16 + 12 + 16 ≤ (sealFile cipher cert draws root password).length := length_seal
  have sameCert : (if cert.isSome then cert else none) = cert := by
    cases cert <;> rfl
  have known : (cert.isSome && cert.isNone) = false := by
    cases cert <;> rfl
  rw [openFile, if_neg (by omega), take_seal, if_neg (fun ne => ne rfl), getD_seal, drop_seal,
    drop_salt, drop_iv]
  simp only [flags_password, flags_cert, Bool.decide_eq_true, sameCert, known, Bool.false_eq_true,
    if_false]
  rw [List.take_left' draws.salt_length, List.take_left' draws.iv_length]

section Opened

variable {fields : List (Text × Json)}

/-- The file is opened with its own password, or with any if it has none. -/
theorem openFile_seal_self (printable : Json.Printable (.obj fields))
    (sanitized : Json.Printable (Json.obj fields).sanitize) {given : Option Text}
    (fits : hasPassword password → given = password) :
    openFile cipher cert json (sealFile cipher cert draws (.obj fields) password) given =
      .ok (Json.obj fields).sanitize := by
  have sameKey : deriveKey cipher (if hasPassword password then given else none) draws.salt cert =
      deriveKey cipher password draws.salt cert := by
    split
    · next has => rw [fits has]
    · next hasNone =>
        have empty : password.getD [] = [] := getD_of_not_hasPassword (by simpa using hasNone)
        rw [deriveKey, deriveKey, material, material, empty, Option.getD_none]
  have accepted : (hasPassword password && !hasPassword given) = false := by
    cases has : hasPassword password with
    | false => rfl
    | true => rw [fits has, has]; rfl
  rw [Json.sanitize_obj] at sanitized ⊢
  rw [openFile_seal, accepted, sameKey, cipher.decrypt_encrypt, if_neg Bool.false_ne_true]
  simp only [Json.decodeUtf8_print printable, Json.sanitize_obj, json.parseObject_print sanitized]

end Opened

/-- Another password is told apart. -/
theorem openFile_seal_other (ideal : cipher.Ideal) (has : hasPassword password)
    {given : Option Text} (hasGiven : hasPassword given) (ne : given ≠ password) :
    openFile cipher cert json (sealFile cipher cert draws root password) given =
      .error .wrongPassword := by
  have otherMaterial : material given cert ≠ material password cert := by
    rw [material, material]
    intro same
    have sameText := List.append_cancel_right same
    cases given with
    | none => cases hasGiven
    | some given =>
        cases password with
        | none => cases has
        | some password => exact ne (congrArg some sameText)
  rw [openFile_seal, has, hasGiven]
  simp only [Bool.not_true, Bool.and_false, Bool.false_eq_true, if_false, if_true, deriveKey,
    ideal.decrypt_of_ne otherMaterial]

theorem openFile_seal_missing (has : hasPassword password) {given : Option Text}
    (hasNone : hasPassword given = false) :
    openFile cipher cert json (sealFile cipher cert draws root password) given =
      .error .needsPassword := by
  rw [openFile_seal, has, hasNone]
  rfl

end ConfigFile

end GRoute
