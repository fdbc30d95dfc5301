import GRoute.ConfigBuilder.Closed

/-!
# Domains of tunnelled traffic

What enters the tunnel has addresses only. A rule on domains sees the domain that the inbound
recovers by sniffing, or the one that a fake address stands for. The rules and the sniffing of
`tun-in` depend on different settings: encrypted DNS adds a rule without sniffing, and the types
that the user has chosen replace the default ones.
-/

namespace GRoute.Xray

open Text Json

/-- The inbound recovers domains from connections of the type. -/
def Sniffs (inbound : Json) (type : Text) : Prop :=
  ∃ sniffing, inbound.field? (txt "sniffing") = some sniffing ∧
    sniffing.field? (txt "enabled") = some (bool true) ∧
    str type ∈ elementsOf sniffing "destOverride"

def MatchesDomains (root : Json) : Prop := ∃ rule ∈ rulesOf root, rule.field? (txt "domain") ≠ none

/-- The inbound of the tunnel recovers the domains of web traffic, or those of fake addresses. -/
def RecoversDomains (root : Json) : Prop :=
  ∃ inbound ∈ inboundsOf root, HasTag inbound "tun-in" ∧
    ((Sniffs inbound (txt "http") ∧ Sniffs inbound (txt "tls") ∧ Sniffs inbound (txt "quic")) ∨
      Sniffs inbound (txt "fakedns") ∧ root.field? (txt "fakedns") ≠ none)

end GRoute.Xray

namespace GRoute.ConfigBuilder

open Text Json Xray

variable {platform : Platform} {mixedPort : ℤ} {config : ProxyConfig} {options : BuildOptions}

theorem mem_foldl_addOnce {elements set : List Text} {type : Text} :
    type ∈ elements.foldl addOnce set ↔ type ∈ set ∨ type ∈ elements := by
  induction elements generalizing set with
  | nil => simp
  | cons element rest ih => rw [List.foldl_cons, ih, mem_addOnce, List.mem_cons, or_assoc]

/-- The types that stand for the chosen one. -/
def expansion (chosen : Text) : List Text :=
  if chosen = txt "fakedns+others" then txt "fakedns" :: webTypes else [chosen]

theorem mem_foldl_expansion {types set : List Text} {type : Text} :
    type ∈ types.foldl (fun set t =>
        if t = txt "fakedns+others" then (txt "fakedns" :: webTypes).foldl addOnce set
        else addOnce set t) set ↔
      type ∈ set ∨ ∃ chosen ∈ types, type ∈ expansion chosen := by
  induction types generalizing set with
  | nil => simp
  | cons chosen rest ih =>
      have step : type ∈ (if chosen = txt "fakedns+others" then
          (txt "fakedns" :: webTypes).foldl addOnce set else addOnce set chosen) ↔
            type ∈ set ∨ type ∈ expansion chosen := by
        rw [expansion]
        split
        · exact mem_foldl_addOnce
        · rw [mem_addOnce, List.mem_singleton]
      rw [List.foldl_cons, ih, step, or_assoc]
      simp only [List.mem_cons, exists_eq_or_imp]

theorem mem_expandSniffTypes {types : List Text} {type : Text} :
    type ∈ expandSniffTypes types ↔
      (∃ chosen ∈ types, type ∈ expansion chosen) ∨
        types = [] ∧ type ∈ [txt "http", txt "tls"] := by
  cases types with
  | nil => simp [expandSniffTypes]
  | cons chosen rest =>
      have nonempty : expansion chosen ≠ [] := by
        rw [expansion]
        split
        · exact List.cons_ne_nil _ _
        · exact List.cons_ne_nil _ _
      rcases List.exists_mem_of_ne_nil _ nonempty with ⟨first, isFirst⟩
      have mem (type : Text) := @mem_foldl_expansion (chosen :: rest) [] type
      simp only [expandSniffTypes, List.cons_ne_nil, false_and, or_false]
      rw [if_neg]
      · rw [mem]
        simp only [List.not_mem_nil, false_or]
      · intro empty
        have isThere := (mem first).mpr (.inr ⟨chosen, List.mem_cons_self, isFirst⟩)
        rw [empty] at isThere
        cases isThere

/-- All kinds of web traffic are chosen, one by one or together. -/
def CoversWeb (types : List Text) : Prop :=
  txt "fakedns+others" ∈ types ∨ ∀ type ∈ webTypes, type ∈ types

theorem webTypes_subset_expandSniffTypes_iff (types : List Text) :
    (∀ type ∈ webTypes, type ∈ expandSniffTypes types) ↔ CoversWeb types := by
  simp only [mem_expandSniffTypes, CoversWeb]
  constructor
  · intro all
    by_cases together : txt "fakedns+others" ∈ types
    · exact .inl together
    · have nonempty : types ≠ [] := by
        rintro rfl
        rcases all (txt "quic") (by decide) with ⟨_, mem, -⟩ | ⟨-, mem⟩
        · cases mem
        · exact absurd mem (by decide)
      refine .inr fun type isWeb => ?_
      rcases all type isWeb with ⟨chosen, isChosen, mem⟩ | ⟨empty, -⟩
      · have single : chosen ≠ txt "fakedns+others" := by
          rintro rfl
          exact together isChosen
        rw [expansion, if_neg single, List.mem_singleton] at mem
        rw [mem]
        exact isChosen
      · exact absurd empty nonempty
  · rintro (together | each) type isWeb
    · refine .inl ⟨_, together, ?_⟩
      rw [expansion, if_pos rfl]
      exact List.mem_cons_of_mem _ isWeb
    · refine .inl ⟨type, each type isWeb, ?_⟩
      rw [expansion, if_neg]
      · exact List.mem_cons_self
      · rintro rfl
        exact absurd isWeb (by decide)

/-- The settings with which `tun-in` sniffs. -/
def sniffOn (config : ProxyConfig) (options : BuildOptions) : Bool :=
  options.splitRouting || options.sniffing || options.adBlock || fake config options

theorem sniffs_tunIn_iff {type : Text} :
    Sniffs (tunIn config options) type ↔
      sniffOn config options = true ∧ type ∈ destOverride config options := by
  have found : (tunIn config options).field? (txt "sniffing") =
      (object (if sniffOn config options then
        sniffingField (destOverride config options)
          (!options.adBlock && options.splitRouting && !options.sniffing)
      else [])).field? (txt "sniffing") := by
    rw [tunIn, field?_object_append]
    simp +decide only [field?_object_cons, field?_object_nil, if_false, Option.none_or]
    rfl
  rw [Sniffs, found]
  by_cases on : sniffOn config options = true
  · have elements : ∀ routeOnly, elementsOf (object [("enabled", bool true),
        ("destOverride", strings (destOverride config options)),
        ("routeOnly", bool routeOnly)]) "destOverride" = (destOverride config options).map str := by
      intro routeOnly
      apply elementsOf_of_field?
      simp +decide only [field?_object_cons, if_true, if_false]
      rfl
    have member : str type ∈ (destOverride config options).map str ↔
        type ∈ destOverride config options := by
      simp
    rw [if_pos on, sniffingField, field?_object_cons, if_pos rfl, and_iff_right on]
    simp only [Option.some.injEq, exists_eq_left', elements, member, field?_object_cons, if_true,
      true_and]
  · rw [if_neg on, field?_object_nil]
    simp [on]

theorem fakedns_mem_destOverride (isFake : fake config options = true) :
    txt "fakedns" ∈ destOverride config options := by
  simp only [destOverride, isFake, Bool.true_and, List.mem_append]
  left
  by_cases present : txt "fakedns" ∈
      (if options.sniffing then expandSniffTypes options.sniffTypes else webTypes)
  · exact .inl present
  · right
    simp [present]

theorem mem_destOverride_of_adBlock (adBlock : options.adBlock = true) {type : Text}
    (isWeb : type ∈ webTypes) : type ∈ destOverride config options := by
  simp only [destOverride, adBlock, if_true, List.mem_append]
  by_cases present : type ∈
      (if options.sniffing then expandSniffTypes options.sniffTypes else webTypes)
  · exact .inl (.inl present)
  · right
    simp [present, isWeb]

theorem webTypes_subset_destOverride_iff (notFake : fake config options = false) :
    (∀ type ∈ webTypes, type ∈ destOverride config options) ↔
      options.adBlock = true ∨ (options.sniffing = true → CoversWeb options.sniffTypes) := by
  by_cases adBlock : options.adBlock = true
  · exact iff_of_true (fun _ isWeb => mem_destOverride_of_adBlock adBlock isWeb) (.inl adBlock)
  · have plain : destOverride config options =
        if options.sniffing then expandSniffTypes options.sniffTypes else webTypes := by
      simp [destOverride, notFake, adBlock]
    rw [plain]
    by_cases sniffing : options.sniffing = true
    · rw [if_pos sniffing, webTypes_subset_expandSniffTypes_iff]
      simp [adBlock, sniffing]
    · rw [if_neg sniffing]
      exact iff_of_true (fun _ isWeb => isWeb) (.inr fun on => absurd on sniffing)

theorem field?_domain_rule (row : RuleRow) :
    (rule row.conditions row.tag).field? (txt "domain") =
      (object row.conditions).field? (txt "domain") := by
  rw [rule, field?_object_append, field?_object_append]
  simp +decide only [field?_object_cons, field?_object_nil, if_false, Option.none_or,
    Option.or_none]

theorem matchesDomains_buildRoot_iff :
    MatchesDomains (buildRoot platform mixedPort config options) ↔
      fake config options = true ∨ options.encryptedDns = true ∨ options.adBlock = true ∨
        options.splitRouting = true := by
  simp only [MatchesDomains, rulesOf_buildRoot, rules_eq, List.mem_map, exists_exists_and_eq_and,
    field?_domain_rule]
  constructor
  · rintro ⟨row, mem, hasDomain⟩
    rcases mem_ruleTable.mp mem with ⟨isOnion, -⟩ | ⟨-, rfl⟩ | ⟨isDns, -⟩ | ⟨blocks, -⟩ |
      ⟨splits, -⟩ | rfl
    · exact .inl (by rw [fake, isOnion, Bool.or_true])
    · exact absurd rfl hasDomain
    · rw [dnsOn, Bool.or_eq_true] at isDns
      rcases isDns with isFake | encrypted
      · exact .inl isFake
      · exact .inr (.inl encrypted)
    · exact .inr (.inr (.inl blocks))
    · exact .inr (.inr (.inr splits))
    · exact absurd rfl hasDomain
  · have doh : dnsOn config options = true →
        ∃ row ∈ ruleTable config options, (object row.conditions).field? (txt "domain") ≠ none := by
      intro isDns
      exact ⟨.doh, mem_ruleTable.mpr (by simp [isDns]), by simp [RuleRow.doh, field?_object_cons]⟩
    rintro (isFake | encrypted | blocks | splits)
    · exact doh (by rw [dnsOn, isFake, Bool.true_or])
    · exact doh (by rw [dnsOn, encrypted, Bool.or_true])
    · exact ⟨.ads, mem_ruleTable.mpr (by simp [blocks]), by simp [RuleRow.ads, field?_object_cons]⟩
    · refine ⟨.splitDomain, mem_ruleTable.mpr (by simp [splits]), ?_⟩
      simp [RuleRow.splitDomain, field?_object_cons]

theorem field?_fakedns_buildRoot_ne_none_iff :
    (buildRoot platform mixedPort config options).field? (txt "fakedns") ≠ none ↔
      fake config options = true := by
  rw [buildRoot, field?_object_append, field?_object_append, dnsFields, field?_object_append]
  by_cases isFake : fake config options = true
  · simp +decide [isFake, field?_object_cons, field?_object_nil]
  · have noPool : (object (if dnsOn config options then
        [("dns", object [("servers", arr (dnsServers config options)),
          ("queryStrategy", text "UseIPv4")])] else [])).field? (txt "fakedns") = none := by
      split
      · simp +decide [field?_object_cons, field?_object_nil]
      · rfl
    simp +decide [isFake, noPool, field?_object_cons, field?_object_nil]

theorem eq_tunIn_of_hasTag {inbound : Json} (mem : inbound ∈ inbounds mixedPort config options)
    (has : HasTag inbound "tun-in") : inbound = tunIn config options := by
  have other {tag : String} {rest : List (String × Json)} (ne : txt tag ≠ txt "tun-in") :
      ¬HasTag (object (("tag", text tag) :: rest)) "tun-in" :=
    fun hasOther => ne ((hasTag_object tag rest).tag_eq hasOther)
  simp only [inbounds, List.mem_append, List.mem_cons, List.not_mem_nil, or_false,
    List.mem_ite_nil_right] at mem
  rcases mem with (rfl | rfl) | ⟨-, rfl⟩
  · rfl
  · exact absurd has (other (by decide))
  · exact absurd has (other (by decide))

theorem recoversDomains_buildRoot_iff :
    RecoversDomains (buildRoot platform mixedPort config options) ↔
      sniffOn config options = true ∧
        ((∀ type ∈ webTypes, type ∈ destOverride config options) ∨ fake config options = true) := by
  have tunnel (parts : Json → Prop) :
      (∃ inbound ∈ inbounds mixedPort config options, HasTag inbound "tun-in" ∧ parts inbound) ↔
        parts (tunIn config options) := by
    constructor
    · rintro ⟨inbound, mem, has, holds⟩
      rw [eq_tunIn_of_hasTag mem has] at holds
      exact holds
    · intro holds
      exact ⟨_, List.mem_cons_self, hasTag_object _ _, holds⟩
  rw [RecoversDomains, inboundsOf_buildRoot, tunnel]
  simp only [sniffs_tunIn_iff, field?_fakedns_buildRoot_ne_none_iff, webTypes, List.forall_mem_cons,
    List.not_mem_nil, false_implies, implies_true, and_true]
  constructor
  · rintro (⟨⟨on, http⟩, ⟨-, tls⟩, -, quic⟩ | ⟨⟨on, -⟩, isFake⟩)
    · exact ⟨on, .inl ⟨http, tls, quic⟩⟩
    · exact ⟨on, .inr isFake⟩
  · rintro ⟨on, ⟨http, tls, quic⟩ | isFake⟩
    · exact .inl ⟨⟨on, http⟩, ⟨on, tls⟩, on, quic⟩
    · exact .inr ⟨⟨on, fakedns_mem_destOverride isFake⟩, isFake⟩

/-- The settings under which no domain rule is left without the domains it needs. -/
def SniffsForRules (config : ProxyConfig) (options : BuildOptions) : Prop :=
  options.fakeDns = true ∨ (options.onionRouting = true ∧ config.protocol ≠ txt "tor") ∨
    options.adBlock = true ∨ (options.encryptedDns = false ∧ options.splitRouting = false) ∨
    if options.sniffing then CoversWeb options.sniffTypes else options.splitRouting = true

theorem fake_eq_true_iff : fake config options = true ↔
    options.fakeDns = true ∨ options.onionRouting = true ∧ config.protocol ≠ txt "tor" := by
  simp [fake, onion]

theorem domainRules_effective_iff (platform : Platform) (mixedPort : ℤ) (config : ProxyConfig)
    (options : BuildOptions) :
    (MatchesDomains (buildRoot platform mixedPort config options) →
        RecoversDomains (buildRoot platform mixedPort config options)) ↔
      SniffsForRules config options := by
  rw [matchesDomains_buildRoot_iff, recoversDomains_buildRoot_iff, SniffsForRules]
  rw [← @or_assoc (options.fakeDns = true), ← fake_eq_true_iff]
  cases isFake : fake config options with
  | true => simp [sniffOn, isFake]
  | false =>
      rw [webTypes_subset_destOverride_iff isFake, sniffOn, isFake]
      -- what is left is a statement about four settings and the chosen types
      cases options.adBlock <;> cases options.sniffing <;> cases options.encryptedDns <;>
        cases options.splitRouting <;> simp

/-- Encrypted DNS blocks the hosts of DNS over HTTPS by their domains, and nothing sniffs. -/
theorem domainRules_not_effective :
    ¬(MatchesDomains (buildRoot .ascii 0 (sampleVless (txt "tls")) { encryptedDns := true }) →
      RecoversDomains (buildRoot .ascii 0 (sampleVless (txt "tls")) { encryptedDns := true })) := by
  rw [matchesDomains_buildRoot_iff, recoversDomains_buildRoot_iff]
  decide

end GRoute.ConfigBuilder
