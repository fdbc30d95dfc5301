import GRoute.ConfigBuilder.Chain

/-!
# Routing of built configurations

The rules that `build` writes are read as the core reads them. A connection reaches
`direct` only by the rules of split routing, an onion domain reaches `tor-out`, and a
query for a name that leaves the tunnel on port 53 reaches `dns-out`.
-/

namespace GRoute.ConfigBuilder

open Text Json Xray

variable {platform : Platform} {mixedPort : ℤ} {config : ProxyConfig} {options : BuildOptions}
variable {Address : Type} {router : Router Address} {connection : Connection Address}

/-- The conditions of a rule and the outbound that it names. -/
structure RuleRow where
  conditions : List (String × Json)
  tag : String

namespace RuleRow

def onion : RuleRow := ⟨[("domain", arr [text "regexp:\\.onion$"])], "tor-out"⟩

def torBase : RuleRow := ⟨[("inboundTag", arr [text "tor-in"])], "torbase"⟩

def dns : RuleRow := ⟨[("port", int 53)], "dns-out"⟩

def doh : RuleRow := ⟨[("domain", arr (domains dohHosts))], "block"⟩

def ads : RuleRow :=
  ⟨[("domain", arr ([text "geosite:category-ads-all", text "geosite:ads"] ++ domains adHosts))],
    "block"⟩

def quic : RuleRow := ⟨[("network", text "udp"), ("port", text "443")], "block"⟩

def splitIp : RuleRow := ⟨[("ip", arr [text "geoip:private", text "geoip:ir"])], "direct"⟩

def splitDomain : RuleRow := ⟨[("domain", arr [text "geosite:category-ir"])], "direct"⟩

def proxy : RuleRow := ⟨[("inboundTag", arr [text "tun-in", text "socks-in"])], "proxy"⟩

def Matches (row : RuleRow) (router : Router Address) (connection : Connection Address) : Bool :=
  row.conditions.all fun field => conditionHolds router connection (txt field.1, field.2)

end RuleRow

def ruleTable (config : ProxyConfig) (options : BuildOptions) : List RuleRow :=
  (if onion config options then [RuleRow.onion] else []) ++
    (if (torUnder config options).isSome then [RuleRow.torBase] else []) ++
    (if dnsOn config options then [RuleRow.dns, RuleRow.doh] else []) ++
    (if options.adBlock then [RuleRow.ads, RuleRow.quic] else []) ++
    (if options.splitRouting then [RuleRow.splitIp, RuleRow.splitDomain] else []) ++
    [RuleRow.proxy]

theorem rules_eq :
    rules config options =
      (ruleTable config options).map fun row => rule row.conditions row.tag := by
  simp only [rules, ruleTable, List.map_append]
  congr <;> split <;> rfl

theorem mem_ruleTable {row : RuleRow} :
    row ∈ ruleTable config options ↔
      onion config options = true ∧ row = .onion ∨
        (torUnder config options).isSome = true ∧ row = .torBase ∨
        dnsOn config options = true ∧ (row = .dns ∨ row = .doh) ∨
        options.adBlock = true ∧ (row = .ads ∨ row = .quic) ∨
        options.splitRouting = true ∧ (row = .splitIp ∨ row = .splitDomain) ∨ row = .proxy := by
  simp only [ruleTable, List.mem_append, List.mem_ite_nil_right, List.mem_cons, List.not_mem_nil,
    or_false, or_assoc]

theorem noTag_of_mem_ruleTable {row : RuleRow} (mem : row ∈ ruleTable config options) :
    (object row.conditions).field? (txt "outboundTag") = none := by
  rcases mem_ruleTable.mp mem with ⟨-, rfl⟩ | ⟨-, rfl⟩ | ⟨-, rfl | rfl⟩ | ⟨-, rfl | rfl⟩ |
    ⟨-, rfl | rfl⟩ | rfl <;> decide

theorem field?_routing_buildRoot :
    (buildRoot platform mixedPort config options).field? (txt "routing") =
      some (object [("domainStrategy", text "AsIs"), ("rules", arr (rules config options))]) := by
  have noDns : (object (dnsFields config options)).field? (txt "routing") = none :=
    field?_dnsFields (by decide) (by decide)
  rw [buildRoot, field?_object_append, field?_object_append, noDns]
  simp +decide only [field?_object_cons, field?_object_nil, if_true, if_false, Option.or_none,
    Option.none_or]

theorem rulesOf_buildRoot :
    rulesOf (buildRoot platform mixedPort config options) = rules config options := by
  rw [rulesOf, field?_routing_buildRoot]
  apply elementsOf_of_field?
  simp +decide only [field?_object_cons, if_true, if_false]

theorem ruleMatches_rule (row : RuleRow) :
    ruleMatches router connection (rule row.conditions row.tag) =
      row.Matches router connection := by
  rw [rule, ruleMatches_object, List.all_append, List.all_append, RuleRow.Matches]
  simp +decide [conditionHolds]

theorem stringOf_rule {row : RuleRow}
    (noTag : (object row.conditions).field? (txt "outboundTag") = none) :
    stringOf (rule row.conditions row.tag) "outboundTag" = some (txt row.tag) := by
  have found : (rule row.conditions row.tag).field? (txt "outboundTag") = some (text row.tag) := by
    rw [rule, field?_object_append, field?_object_append, noTag]
    simp +decide [field?_object_cons, field?_object_nil]
  rw [stringOf, found]
  rfl

theorem tag_head_outbounds :
    (outbounds platform config options).head?.bind (stringOf · "tag") = some (txt "proxy") := by
  rw [outbounds, List.head?_cons, Option.bind_some]
  exact hasTag_firstOutbound.stringOf_eq

/-- The first row that matches decides, and if there is none the first outbound is taken. -/
theorem dispatch_buildRoot :
    dispatch router connection (buildRoot platform mixedPort config options) =
      some (((ruleTable config options).find? (·.Matches router connection)).elim (txt "proxy")
        fun row => txt row.tag) := by
  have found : (rules config options).find? (ruleMatches router connection) =
      ((ruleTable config options).find? (·.Matches router connection)).map
        fun row => rule row.conditions row.tag := by
    rw [rules_eq, List.find?_map]
    simp only [Function.comp_def, ruleMatches_rule]
  rw [dispatch, rulesOf_buildRoot, outboundsOf_buildRoot, found, tag_head_outbounds]
  cases first : (ruleTable config options).find? (·.Matches router connection) with
  | none => rfl
  | some row => exact stringOf_rule (noTag_of_mem_ruleTable (List.mem_of_find?_eq_some first))

/-- The destination is an onion domain. -/
def IsOnion (connection : Connection Address) : Prop :=
  ∃ domain, connection.domain = some domain ∧ txt ".onion" <:+ domain

/-- The destination is in the lists of split routing. -/
def InSplitLists (router : Router Address) (connection : Connection Address) : Prop :=
  (∃ ip, connection.ip = some ip ∧
    (router.geoip (txt "private") ip = true ∨ router.geoip (txt "ir") ip = true)) ∨
    ∃ domain, connection.domain = some domain ∧ router.geosite (txt "category-ir") domain = true

theorem matches_onion_iff :
    RuleRow.onion.Matches router connection = true ↔ IsOnion connection := by
  have pattern (domain : Text) : domainMatches router (txt "regexp:\\.onion$") domain =
      (txt ".onion").isSuffixOf domain := by
    have isRegexp : startsWith (txt "regexp:\\.onion$") (txt "regexp:") = true := by decide
    rw [domainMatches, if_pos isRegexp]
    exact router.regexp_ending (txt "onion") domain (by decide)
  have strings (domain : Text) : anyString (arr [text "regexp:\\.onion$"])
      (domainMatches router · domain) = (txt ".onion").isSuffixOf domain := by
    rw [← pattern]
    exact Bool.or_false _
  simp only [RuleRow.Matches, RuleRow.onion, List.all_cons, List.all_nil, Bool.and_true,
    conditionHolds_domain, strings, Option.any_eq_true, List.isSuffixOf_iff_suffix, IsOnion]

theorem matches_inboundTag_iff {tags : List String} {tag : String} :
    (RuleRow.mk [("inboundTag", arr (tags.map text))] tag).Matches router connection = true ↔
      ∃ tag ∈ tags, txt tag = connection.inbound := by
  simp only [RuleRow.Matches, List.all_cons, List.all_nil, Bool.and_true,
    conditionHolds_inboundTag, anyString_text, List.any_eq_true, beq_iff_eq]

theorem matches_torBase_iff :
    RuleRow.torBase.Matches router connection = true ↔ connection.inbound = txt "tor-in" := by
  have isRow : RuleRow.torBase = ⟨[("inboundTag", arr (["tor-in"].map text))], "torbase"⟩ := rfl
  rw [isRow, matches_inboundTag_iff]
  simp [eq_comm]

theorem matches_dns_iff : RuleRow.dns.Matches router connection = true ↔ connection.port = 53 := by
  simp only [RuleRow.Matches, RuleRow.dns, List.all_cons, List.all_nil, Bool.and_true,
    conditionHolds_port, beq_iff_eq, toText_int]
  apply Iff.trans (ofInt_port_eq_iff connection.port ⟨by decide, by decide⟩)
  constructor
  · intro same
    apply UInt16.toNat_inj.mp
    exact (Int.ofNat.inj same).symm
  · rintro same
    rw [same]
    rfl

theorem matches_splitIp_iff :
    RuleRow.splitIp.Matches router connection = true ↔ ∃ ip, connection.ip = some ip ∧
      (router.geoip (txt "private") ip = true ∨ router.geoip (txt "ir") ip = true) := by
  have strings (ip : Address) : anyString (arr [text "geoip:private", text "geoip:ir"])
      (ipMatches router · ip) =
        (router.geoip (txt "private") ip || router.geoip (txt "ir") ip) := by
    have privateList : ipMatches router (txt "geoip:private") ip =
        router.geoip (txt "private") ip := if_pos (by decide)
    have irList : ipMatches router (txt "geoip:ir") ip = router.geoip (txt "ir") ip :=
      if_pos (by decide)
    rw [← privateList, ← irList, ← Bool.or_false (ipMatches router (txt "geoip:ir") ip)]
    rfl
  simp only [RuleRow.Matches, RuleRow.splitIp, List.all_cons, List.all_nil, Bool.and_true,
    conditionHolds_ip, strings, Option.any_eq_true, Bool.or_eq_true]

theorem matches_splitDomain_iff :
    RuleRow.splitDomain.Matches router connection = true ↔
      ∃ domain, connection.domain = some domain ∧
        router.geosite (txt "category-ir") domain = true := by
  have strings (domain : Text) : anyString (arr [text "geosite:category-ir"])
      (domainMatches router · domain) = router.geosite (txt "category-ir") domain := by
    have siteList : domainMatches router (txt "geosite:category-ir") domain =
        router.geosite (txt "category-ir") domain := by
      simp +decide only [domainMatches, if_true, if_false]
      rfl
    rw [← siteList]
    exact Bool.or_false _
  simp only [RuleRow.Matches, RuleRow.splitDomain, List.all_cons, List.all_nil, Bool.and_true,
    conditionHolds_domain, strings, Option.any_eq_true]

theorem dispatch_eq_direct
    (toDirect : dispatch router connection (buildRoot platform mixedPort config options) =
      some (txt "direct")) :
    options.splitRouting = true ∧ InSplitLists router connection := by
  rw [dispatch_buildRoot, Option.some.injEq] at toDirect
  cases first : (ruleTable config options).find? (·.Matches router connection) with
  | none =>
      rw [first] at toDirect
      exact absurd toDirect (by decide)
  | some row =>
      rw [first] at toDirect
      have matched : row.Matches router connection = true := by
        simpa using List.find?_some first
      rcases mem_ruleTable.mp (List.mem_of_find?_eq_some first) with ⟨-, rfl⟩ | ⟨-, rfl⟩ |
        ⟨-, rfl | rfl⟩ | ⟨-, rfl | rfl⟩ | ⟨split, rfl | rfl⟩ | rfl
      case inr.inr.inr.inr.inl.inl => exact ⟨split, .inl (matches_splitIp_iff.mp matched)⟩
      case inr.inr.inr.inr.inl.inr => exact ⟨split, .inr (matches_splitDomain_iff.mp matched)⟩
      all_goals exact absurd toDirect (by decide)

theorem dispatch_onion (isOnion : IsOnion connection) (routed : onion config options = true) :
    dispatch router connection (buildRoot platform mixedPort config options) =
      some (txt "tor-out") := by
  have first : (ruleTable config options).find? (·.Matches router connection) = some .onion := by
    simp only [ruleTable, routed, if_true, List.append_assoc, List.cons_append, List.nil_append]
    exact List.find?_cons_of_pos (matches_onion_iff.mpr isOnion)
  rw [dispatch_buildRoot, first]
  rfl

theorem dispatch_dns (notOnion : ¬IsOnion connection) (notTor : connection.inbound ≠ txt "tor-in")
    (port : connection.port = 53) (hasDns : dnsOn config options = true) :
    dispatch router connection (buildRoot platform mixedPort config options) =
      some (txt "dns-out") := by
  have skipOnion : ((if onion config options then [RuleRow.onion] else []).find?
      (·.Matches router connection)) = none := by
    rw [List.find?_eq_none]
    intro row mem
    rw [(List.mem_ite_nil_right.mp mem).2 |> List.mem_singleton.mp, matches_onion_iff]
    exact notOnion
  have skipTor : ((if (torUnder config options).isSome then [RuleRow.torBase] else []).find?
      (·.Matches router connection)) = none := by
    rw [List.find?_eq_none]
    intro row mem
    rw [(List.mem_ite_nil_right.mp mem).2 |> List.mem_singleton.mp, matches_torBase_iff]
    exact notTor
  have first : (ruleTable config options).find? (·.Matches router connection) = some .dns := by
    rw [ruleTable, List.append_assoc, List.append_assoc, List.append_assoc, List.append_assoc,
      List.find?_append, skipOnion, Option.none_or, List.find?_append, skipTor, Option.none_or,
      if_pos hasDns]
    exact List.find?_cons_of_pos (matches_dns_iff.mpr port)
  rw [dispatch_buildRoot, first]
  rfl

theorem dnsOn_of_hasTag {out : Json} (mem : out ∈ outbounds platform config options)
    (has : HasTag out "dns-out") : dnsOn config options = true := by
  rcases List.mem_cons.mp mem with isFirst | isLater
  · have proxy : HasTag out "proxy" := by
      rw [isFirst]
      exact hasTag_firstOutbound
    exact absurd (has.tag_eq proxy) (by decide)
  · rcases exists_hasTag_of_mem laterOutbounds_tags isLater with ⟨tag, isTag, hasTag⟩
    have same : txt tag = txt "dns-out" := hasTag.tag_eq has
    rcases mem_laterTags.mp isTag with ⟨-, rfl⟩ | rfl | rfl | ⟨-, rfl⟩ | ⟨-, rfl⟩ | ⟨-, rfl⟩ |
      ⟨on, rfl⟩
    case inr.inr.inr.inr.inr.inr => exact on
    all_goals exact absurd same (by decide)

/-- Only split routing leads to `direct`, an onion domain leads to `tor-out` if it is routed,
and the tunnel's port 53 leads to the DNS outbound if there is one. -/
theorem dispatch_leaks_nothing (router : Router Address) (connection : Connection Address)
    (platform : Platform) (mixedPort : ℤ) (config : ProxyConfig) (options : BuildOptions) :
    let root := buildRoot platform mixedPort config options
    (dispatch router connection root = some (txt "direct") →
      options.splitRouting = true ∧ InSplitLists router connection) ∧
    (options.onionRouting = true → config.protocol ≠ txt "tor" → IsOnion connection →
      dispatch router connection root = some (txt "tor-out")) ∧
    (connection.inbound = txt "tun-in" → connection.port = 53 → ¬IsOnion connection →
      (∃ out ∈ outboundsOf root, HasTag out "dns-out") →
      dispatch router connection root = some (txt "dns-out")) := by
  refine ⟨dispatch_eq_direct, ?_, ?_⟩
  · intro routing notTor isOnion
    apply dispatch_onion isOnion
    simp [onion, routing, notTor]
  · rintro fromTunnel port notOnion ⟨out, mem, has⟩
    rw [outboundsOf_buildRoot] at mem
    apply dispatch_dns notOnion _ port (dnsOn_of_hasTag mem has)
    rw [fromTunnel]
    decide

end GRoute.ConfigBuilder
