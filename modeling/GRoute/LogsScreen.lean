import GRoute.ConfigBuilder.Outbound
import GRoute.ConfigStore
import GRoute.Foundation.Replacing
import Mathlib.Data.List.Infix

/-!
# The log screen

`LogsScreen` shows and copies the log of the engine after `redactSecrets` has put `[hidden]` in the
place of the addresses and secrets of the locked configs. Every token that is collected is gone from
the text. A credential that the builder writes into an outbound is hidden exactly if it contains a
token of a locked config.
-/

namespace GRoute.LogsScreen

open Text Replacing

/-- The text `[hidden]`. -/
def hidden : Marker UInt16 := ⟨unit '[', txt "hidden", unit ']'⟩

/-- The tokens of a config, in the order in which they are added. -/
def configTokens (c : ProxyConfig) : List Text :=
  (if isBlank c.address then [] else [c.address ++ txt ":" ++ ofInt c.port, c.address]) ++
    [c.uuid, c.password, c.publicKey, c.shortId, c.privateKey, c.sni, c.host,
      c.serviceName].filter fun secret => 4 ≤ secret.length

/-- The set of the tokens, in the order in which they are first added. -/
def tokens (secrets : List ProxyConfig) : List Text :=
  (secrets.flatMap configTokens).foldl
    (fun tokens token => if token ∈ tokens then tokens else tokens ++ [token]) []

def redactSecrets (casing : UnitCase) (text : Text) (secrets : List ProxyConfig) : Text :=
  if secrets = [] ∨ text = [] then text
  else
    ((tokens secrets).mergeSort fun a b => decide (b.length ≤ a.length)).foldl
      (fun out token => replace casing.fold token hidden.text out) text

/-- The text on the screen, which is also the one that is copied. -/
def shown (casing : UnitCase) (store : ConfigStore) (log : Text) : Text :=
  redactSecrets casing log (store.configs.filter fun config => config.locked)

theorem mem_foldl_insert {given start : List Text} {token : Text} :
    token ∈ given.foldl (fun tokens token => if token ∈ tokens then tokens else tokens ++ [token])
        start ↔ token ∈ start ∨ token ∈ given := by
  induction given generalizing start with
  | nil => simp
  | cons first given ih =>
      rw [List.foldl_cons, ih, List.mem_cons]
      split_ifs with present
      · constructor
        · exact Or.imp_right .inr
        · rintro (old | rfl | later)
          · exact .inl old
          · exact .inl present
          · exact .inr later
      · rw [List.mem_append, List.mem_singleton, or_assoc]

theorem mem_tokens {secrets : List ProxyConfig} {token : Text} :
    token ∈ tokens secrets ↔ ∃ secret ∈ secrets, token ∈ configTokens secret := by
  rw [tokens, mem_foldl_insert, List.mem_flatMap, or_iff_right List.not_mem_nil]

theorem ne_nil_of_mem_configTokens {c : ProxyConfig} {token : Text}
    (mem : token ∈ configTokens c) : token ≠ [] := by
  rintro rfl
  rw [configTokens, List.mem_append, List.mem_filter] at mem
  rcases mem with inAddress | ⟨-, long⟩
  · split_ifs at inAddress with blank
    · cases inAddress
    · rcases List.mem_pair.mp inAddress with withPort | bare
      · simp [txt] at withPort
      · exact blank (by rw [← bare]; rfl)
  · simp at long

variable {casing : UnitCase} {secrets : List ProxyConfig} {text x : Text} {γ : Type}
  {view : UInt16 → γ} (finer : ∀ {a b : UInt16}, view a = view b → casing.fold a = casing.fold b)

include finer in
/-- What occurs in the redacted text occurs in the log, and no token occurs in it. -/
theorem occurs_of_occurs_redactSecrets (foreign : hidden.Foreign view x)
    (occurs : Occurs view x (redactSecrets casing text secrets)) :
    Occurs view x text ∧ ∀ token ∈ tokens secrets, ¬ Occurs casing.fold token x := by
  rw [redactSecrets] at occurs
  split_ifs at occurs with unchanged
  · refine ⟨occurs, ?_⟩
    intro token mem
    rcases unchanged with rfl | rfl
    · cases mem
    · exact absurd (occurs.trans List.nil_infix) foreign.word
  · have sorted (token : Text) :
        token ∈ (tokens secrets).mergeSort (fun a b => decide (b.length ≤ a.length)) ↔
          token ∈ tokens secrets := List.mem_mergeSort
    have found := occurs_of_occurs_foldl finer
      (fun token mem => by
        rcases mem_tokens.mp ((sorted token).mp mem) with ⟨secret, -, collected⟩
        exact ne_nil_of_mem_configTokens collected)
      foreign occurs
    exact ⟨found.1, fun token mem => found.2 token ((sorted token).mpr mem)⟩

/-- A text in which no token occurs is shown as it is. -/
theorem redactSecrets_of_not_occurs
    (absent : ∀ token ∈ tokens secrets, ¬ Occurs casing.fold token text) :
    redactSecrets casing text secrets = text := by
  rw [redactSecrets]
  split_ifs
  · rfl
  · apply foldl_replace_of_not_occurs
    · intro token mem
      rcases mem_tokens.mp (List.mem_mergeSort.mp mem) with ⟨secret, -, collected⟩
      exact ne_nil_of_mem_configTokens collected
    · intro token mem
      exact absent token (List.mem_mergeSort.mp mem)

/-- Only a bracket is a bracket when letter case is ignored. -/
theorem fold_notMem_map {bracket : UInt16} (isBracket : bracket = unit '[' ∨ bracket = unit ']')
    {s : Text} (absent : bracket ∉ s) : casing.fold bracket ∉ s.map casing.fold := by
  intro mem
  rcases List.mem_map.mp mem with ⟨c, inText, same⟩
  have isSame : c = bracket := by
    rcases isBracket with rfl | rfl <;>
      exact casing.eq_of_fold_eq (by decide) ⟨by decide, by decide⟩ same
  exact absent (isSame ▸ inText)

/-- No token occurs in the redacted text, in whatever letter case, if none has a bracket or is a
part of the word in the marker. -/
theorem redactSecrets_complete (casing : UnitCase) (text : Text) {secrets : List ProxyConfig}
    (plain : ∀ token ∈ tokens secrets, unit '[' ∉ token ∧ unit ']' ∉ token)
    (notWord : ∀ token ∈ tokens secrets, ¬ Occurs casing.fold token (txt "hidden")) :
    ∀ token ∈ tokens secrets, ¬ Occurs casing.fold token (redactSecrets casing text secrets) := by
  intro token mem occurs
  have foreign : hidden.Foreign casing.fold token :=
    ⟨fold_notMem_map (.inl rfl) (plain token mem).1, fold_notMem_map (.inr rfl) (plain token mem).2,
      notWord token mem⟩
  exact (occurs_of_occurs_redactSecrets id foreign occurs).2 token mem (occurs_self _ _)

/-- A config whose address and secrets are collected. -/
def lockedServer : ProxyConfig :=
  { name := txt "a", protocol := txt "vless", address := txt "h.example", port := 443,
    uuid := txt "secret-uuid", id := txt "1", locked := true }

theorem redactSecrets_complete_lockedServer :
    lockedServer.uuid ∈ tokens [lockedServer] ∧ ¬ Occurs UnitCase.ascii.fold lockedServer.uuid
      (redactSecrets .ascii (txt "dial H.EXAMPLE:443 as secret-UUID") [lockedServer]) := by
  have isToken : lockedServer.uuid ∈ tokens [lockedServer] := by decide +kernel
  refine ⟨isToken, redactSecrets_complete .ascii _ ?_ ?_ _ isToken⟩
  · decide +kernel
  · intro token mem
    rw [Occurs]
    revert token
    decide +kernel

section Credentials

open ConfigBuilder Json

/-- The keys of a uuid, a password, a private key and a user name. -/
def credentialKeys : List Text :=
  [txt "id", txt "password", txt "auth", txt "pass", txt "secretKey", txt "user"]

/-- The text stands under such a key, at any depth. -/
def Holds (x : Text) (value : Json) : Prop :=
  ∃ key ∈ credentialKeys, (key, str x) ∈ value.allFields

/-- The same of the fields of an object. -/
def HoldsIn (x : Text) (fields : List (String × Json)) : Prop :=
  ∃ own ∈ fields, txt own.1 ∈ credentialKeys ∧ own.2 = str x ∨ Holds x own.2

/-- The builder puts the text into the outbound of the config as a credential. -/
def IsCredential (platform : Platform) (config : ProxyConfig) (x : Text) : Prop :=
  Holds x (buildOutbound platform config)

variable {platform : Platform} {config : ProxyConfig}

@[simp]
theorem holds_object {fields : List (String × Json)} :
    Holds x (object fields) ↔ HoldsIn x fields := by
  simp only [Holds, HoldsIn, mem_allFields_object, Prod.mk.injEq]
  constructor
  · rintro ⟨key, isKey, own, mem, ⟨rfl, same⟩ | inside⟩
    · exact ⟨own, mem, .inl ⟨isKey, same.symm⟩⟩
    · exact ⟨own, mem, .inr ⟨key, isKey, inside⟩⟩
  · rintro ⟨own, mem, ⟨isKey, same⟩ | ⟨key, isKey, inside⟩⟩
    · exact ⟨_, isKey, own, mem, .inl ⟨rfl, same.symm⟩⟩
    · exact ⟨key, isKey, own, mem, .inr inside⟩

@[simp]
theorem holds_arr {elements : List Json} :
    Holds x (arr elements) ↔ ∃ element ∈ elements, Holds x element := by
  simp only [Holds, mem_allFields_arr]
  constructor
  · rintro ⟨key, isKey, element, mem, inside⟩
    exact ⟨element, mem, key, isKey, inside⟩
  · rintro ⟨element, mem, key, isKey, inside⟩
    exact ⟨key, isKey, element, mem, inside⟩

@[simp]
theorem not_holds_str (s : Text) : ¬ Holds x (str s) := by
  rintro ⟨key, -, ⟨⟩⟩

@[simp]
theorem not_holds_int (z : ℤ) : ¬ Holds x (int z) := by
  rintro ⟨key, -, ⟨⟩⟩

@[simp]
theorem not_holdsIn_nil : ¬ HoldsIn x [] := by
  rintro ⟨own, ⟨⟩, -⟩

@[simp]
theorem holdsIn_cons {key : String} {value : Json} {rest : List (String × Json)} :
    HoldsIn x ((key, value) :: rest) ↔
      (txt key ∈ credentialKeys ∧ value = str x) ∨ Holds x value ∨ HoldsIn x rest := by
  simp only [HoldsIn, List.mem_cons, or_and_right, exists_or, exists_eq_left, or_assoc]

end Credentials

/-- The texts that are not excepted: of four units or more, without brackets, and not a part of the
word in the marker. -/
structure Sensitive (x : Text) : Prop where
  long : 4 ≤ x.length
  noOpening : unit '[' ∉ x
  noClosing : unit ']' ∉ x
  notWord : ¬ x <:+: txt "hidden"

/-- No credential of a config of the store is in the text on the screen, whatever is in the log. -/
def HidesCredentials (platform : Platform) (casing : UnitCase) (store : ConfigStore) : Prop :=
  ∀ config ∈ store.configs, ∀ x, IsCredential platform config x → Sensitive x →
    ∀ log, ¬ x <:+: shown casing store log

/-- A token of a locked config occurs in the text, in whatever letter case. -/
def ContainsToken (casing : UnitCase) (store : ConfigStore) (x : Text) : Prop :=
  ∃ secret ∈ store.configs, secret.locked ∧
    ∃ token ∈ configTokens secret, Occurs casing.fold token x

theorem containsToken_iff {store : ConfigStore} :
    ContainsToken casing store x ↔
      ∃ token ∈ tokens (store.configs.filter fun config => config.locked),
        Occurs casing.fold token x := by
  simp only [ContainsToken, mem_tokens, List.mem_filter]
  constructor
  · rintro ⟨secret, mem, locked, token, collected, occurs⟩
    exact ⟨token, ⟨secret, ⟨mem, locked⟩, collected⟩, occurs⟩
  · rintro ⟨token, ⟨secret, ⟨mem, locked⟩, collected⟩, occurs⟩
    exact ⟨secret, mem, locked, token, collected, occurs⟩

theorem hidden_iff_containsToken {store : ConfigStore} (sensitive : Sensitive x) :
    (∀ log, ¬ x <:+: shown casing store log) ↔ ContainsToken casing store x := by
  rw [containsToken_iff]
  constructor
  · intro hides
    by_contra none
    push Not at none
    -- the log that is the text itself
    apply hides x
    rw [shown, redactSecrets_of_not_occurs none]
  · rintro ⟨token, collected, contains⟩ log occurs
    have foreign : hidden.Foreign id x := by
      constructor
      · simpa [hidden] using sensitive.noOpening
      · simpa [hidden] using sensitive.noClosing
      · simpa [hidden, Occurs] using sensitive.notWord
    have asIs : Occurs id x (shown casing store log) := by simpa [Occurs] using occurs
    exact (occurs_of_occurs_redactSecrets (congrArg casing.fold) foreign asIs).2 token collected
      contains

/-- The screen hides the credentials of a store if and only if each of them contains a token of a
locked config. -/
theorem hidesCredentials_iff (platform : Platform) (casing : UnitCase) (store : ConfigStore) :
    HidesCredentials platform casing store ↔
      ∀ config ∈ store.configs, ∀ x, IsCredential platform config x → Sensitive x →
        ContainsToken casing store x := by
  apply forall₂_congr
  intro config _
  apply forall₃_congr
  intro x _ sensitive
  exact hidden_iff_containsToken sensitive

def unlockedServer : ProxyConfig := { lockedServer with locked := false }

/-- The uuid of a config that is not locked stays in the text. -/
theorem not_hidesCredentials_unlocked :
    ¬ HidesCredentials .ascii .ascii { configs := [unlockedServer] } := by
  intro hides
  have credential : IsCredential .ascii unlockedServer (txt "secret-uuid") := by
    simp +decide [IsCredential, ConfigBuilder.buildOutbound, ConfigBuilder.protocolSettings,
      ConfigBuilder.vnextSettings, unlockedServer, lockedServer]
  have sensitive : Sensitive (txt "secret-uuid") :=
    ⟨by decide, by decide, by decide, by decide +kernel⟩
  exact hides _ List.mem_cons_self _ credential sensitive (txt "user secret-uuid")
    (by decide +kernel)

end GRoute.LogsScreen
