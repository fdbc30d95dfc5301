import GRoute.ConfigShare
import GRoute.ConfigStore
import Mathlib.Algebra.Order.BigOperators.Group.List

/-!
# Copying and sharing configs

The actions of `MainActivity.kt` that give configs away as links: the menu of a row, which
offers them for open configs only, and the bar for the selected configs, which does not ask for
locks. A locked config is to be kept secret, so a link should not depend on how it connects.
-/

namespace GRoute

open Text

/-- The actions on the row at an index of the list and on the configs with the selected ids. -/
inductive ShareAction
  | copyRow (row : ℕ)
  | shareRow (row : ℕ)
  | qrRow (row : ℕ)
  | copySelected (selected : List Text)
  | shareSelected (selected : List Text)
  deriving DecidableEq, Repr

namespace ShareAction

/-- The menu of a locked config has no items for its link. -/
def rowLink (config : ProxyConfig) : Option Text :=
  if config.locked then none else some (ConfigShare.toLink config)

def selectedLinks (configs : List ProxyConfig) (selected : List Text) : Text :=
  joinWith (unit '\n')
    ((configs.filter fun config => config.id ∈ selected).map ConfigShare.toLink)

/-- The text that leaves the app, if the action is offered. For a QR code it is what is drawn. -/
def text (store : ConfigStore) : ShareAction → Option Text
  | copyRow row | shareRow row | qrRow row => store.configs[row]?.bind rowLink
  | copySelected selected | shareSelected selected => some (selectedLinks store.configs selected)

/-- The configs are equal, or locked and equal in what does not concern the connection. -/
def Alike (config other : ProxyConfig) : Prop :=
  other = config ∨
    config.locked = true ∧ other.locked = true ∧ other.id = config.id ∧ other.name = config.name ∧
      other.subId = config.subId ∧ other.source = config.source

/-- The stores differ only in the connection fields of locked configs. -/
structure DiffersInSecrets (store other : ConfigStore) : Prop where
  configs : List.Forall₂ Alike store.configs other.configs
  rest : other = { store with configs := other.configs }

/-- The text tells nothing about the secrets. -/
def KeepsSecrets (store : ConfigStore) (action : ShareAction) : Prop :=
  ∀ other, DiffersInSecrets store other → action.text other = action.text store

/-- No locked config is selected. -/
def SelectsOpen (store : ConfigStore) : ShareAction → Prop
  | copyRow _ | shareRow _ | qrRow _ => True
  | copySelected selected | shareSelected selected =>
      ∀ config ∈ store.configs, config.id ∈ selected → config.locked = false

variable {store other : ConfigStore} {configs others : List ProxyConfig} {selected : List Text}

theorem rowLink_of_alike {config copy : ProxyConfig} (alike : Alike config copy) :
    rowLink copy = rowLink config := by
  rcases alike with rfl | ⟨locked, copyLocked, -⟩
  · rfl
  · rw [rowLink, rowLink, if_pos locked, if_pos copyLocked]

theorem bind_rowLink_of_alike (alike : List.Forall₂ Alike configs others) (row : ℕ) :
    others[row]?.bind rowLink = configs[row]?.bind rowLink := by
  induction alike generalizing row with
  | nil => rfl
  | cons first _ ih =>
      cases row with
      | zero => exact rowLink_of_alike first
      | succ row => exact ih row

theorem filter_of_alike (alike : List.Forall₂ Alike configs others)
    (areOpen : ∀ config ∈ configs, config.id ∈ selected → config.locked = false) :
    (others.filter fun config => config.id ∈ selected) =
      configs.filter fun config => config.id ∈ selected := by
  induction alike with
  | nil => rfl
  | @cons config copy configs others first _ ih =>
      rcases List.forall_mem_cons.mp areOpen with ⟨isOpen, othersOpen⟩
      rcases first with rfl | ⟨locked, -, sameId, -⟩
      · rw [List.filter_cons, List.filter_cons, ih othersOpen]
      · have notSelected : config.id ∉ selected := by
          intro isSelected
          rw [isOpen isSelected] at locked
          cases locked
        rw [List.filter_cons, List.filter_cons, ih othersOpen, sameId,
          if_neg (by simpa using notSelected), if_neg (by simpa using notSelected)]

/-- Another config behind the same lock, with a longer link. -/
def lengthened (config : ProxyConfig) : ProxyConfig :=
  if config.locked then
    { config with
      protocol := txt "trojan"
      address := List.replicate ((ConfigShare.toLink config).length + 1) (unit 'a') }
  else config

theorem alike_lengthened (config : ProxyConfig) : Alike config (lengthened config) := by
  by_cases locked : config.locked
  · rw [lengthened, if_pos locked]
    exact .inr ⟨locked, locked, rfl, rfl, rfl, rfl⟩
  · rw [lengthened, if_neg locked]
    exact .inl rfl

theorem length_address_le {config : ProxyConfig} (isTrojan : config.protocol = txt "trojan") :
    config.address.length ≤ (ConfigShare.toLink config).length := by
  rw [ConfigShare.toLink, isTrojan, if_neg (by decide), if_pos rfl, ConfigShare.userLink]
  simp only [List.length_append]
  omega

theorem length_toLink_lengthened {config : ProxyConfig} (locked : config.locked = true) :
    (ConfigShare.toLink config).length < (ConfigShare.toLink (lengthened config)).length := by
  have isTrojan : (lengthened config).protocol = txt "trojan" := by
    rw [lengthened, if_pos locked]
  have address : (lengthened config).address.length = (ConfigShare.toLink config).length + 1 := by
    rw [lengthened, if_pos locked, List.length_replicate]
  have enough := length_address_le isTrojan
  omega

theorem id_lengthened (config : ProxyConfig) : (lengthened config).id = config.id := by
  rcases alike_lengthened config with same | ⟨-, -, sameId, -⟩
  · rw [same]
  · exact sameId

theorem length_toLink_le (config : ProxyConfig) :
    (ConfigShare.toLink config).length ≤ (ConfigShare.toLink (lengthened config)).length := by
  by_cases locked : config.locked
  · exact (length_toLink_lengthened locked).le
  · rw [lengthened, if_neg locked]

/-- A locked config that is selected shows in the length of the text. -/
theorem selectedLinks_lengthened_ne {config : ProxyConfig} (mem : config ∈ configs)
    (isSelected : config.id ∈ selected) (locked : config.locked = true) :
    selectedLinks (configs.map lengthened) selected ≠ selectedLinks configs selected := by
  intro same
  have sameLength := congrArg List.length same
  have chosen : ((configs.map lengthened).filter fun config => config.id ∈ selected) =
      (configs.filter fun config => config.id ∈ selected).map lengthened := by
    rw [List.filter_map]
    congr 1
    apply List.filter_congr
    intro config _
    rw [Function.comp_apply, id_lengthened]
  simp only [selectedLinks, chosen, length_joinWith, List.map_map, List.length_map,
    Nat.add_right_cancel_iff] at sameLength
  have longer : ((configs.filter fun config => config.id ∈ selected).map
      (List.length ∘ ConfigShare.toLink)).sum <
      ((configs.filter fun config => config.id ∈ selected).map
        ((List.length ∘ ConfigShare.toLink) ∘ lengthened)).sum := by
    apply List.sum_lt_sum
    · intro config _
      exact length_toLink_le config
    · refine ⟨config, ?_, length_toLink_lengthened locked⟩
      exact List.mem_filter.mpr ⟨mem, by simpa using isSelected⟩
  exact longer.ne' sameLength

theorem differsInSecrets_lengthened (store : ConfigStore) :
    DiffersInSecrets store { store with configs := store.configs.map lengthened } := by
  refine ⟨?_, rfl⟩
  rw [List.forall₂_map_right_iff, List.forall₂_same]
  intro config _
  exact alike_lengthened config

theorem selectsOpen_of_selectedLinks
    (keeps : ∀ other, DiffersInSecrets store other →
      selectedLinks other.configs selected = selectedLinks store.configs selected) :
    ∀ config ∈ store.configs, config.id ∈ selected → config.locked = false := by
  intro config mem isSelected
  by_contra locked
  rw [Bool.not_eq_false] at locked
  exact selectedLinks_lengthened_ne mem isSelected locked
    (keeps _ (differsInSecrets_lengthened store))

theorem selectedLinks_iff :
    (∀ other, DiffersInSecrets store other →
      selectedLinks other.configs selected = selectedLinks store.configs selected) ↔
      ∀ config ∈ store.configs, config.id ∈ selected → config.locked = false := by
  refine ⟨selectsOpen_of_selectedLinks, ?_⟩
  intro isOpen other differs
  rw [selectedLinks, selectedLinks, filter_of_alike differs.configs isOpen]

theorem keepsSecrets_iff (action : ShareAction) :
    KeepsSecrets store action ↔ SelectsOpen store action := by
  cases action with
  | copyRow row | shareRow row | qrRow row =>
      refine iff_of_true ?_ trivial
      intro other differs
      exact bind_rowLink_of_alike differs.configs row
  | copySelected selected | shareSelected selected =>
      simp only [KeepsSecrets, text, Option.some.injEq, SelectsOpen, selectedLinks_iff]

def lockedStore : ConfigStore where
  configs := [{
    name := txt "A"
    protocol := txt "vless"
    address := txt "192.0.2.1"
    port := 443
    uuid := txt "secret"
    locked := true
    id := txt "a" }]

/-- The bar copies the link of the locked config. -/
theorem not_keepsSecrets_lockedStore : ¬ KeepsSecrets lockedStore (.copySelected [txt "a"]) := by
  intro keeps
  have isOpen := selectsOpen_of_selectedLinks fun other differs =>
    Option.some.inj (keeps other differs)
  have locked := isOpen _ List.mem_cons_self List.mem_cons_self
  cases locked

end ShareAction

end GRoute
