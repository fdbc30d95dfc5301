import GRoute.ConfigBuilder.Routing

/-!
# Built configurations are closed

The tags of the inbounds and of the outbounds are distinct, the first outbound is `proxy`,
and every tag that a rule or a dialer names, wherever it stands in the configuration, is
the tag of an inbound or outbound of it.
-/

namespace GRoute.ConfigBuilder

open Text Json Xray

variable {platform : Platform} {mixedPort : ℤ} {config : ProxyConfig} {options : BuildOptions}

/-- The keys under which a tag is named. -/
def referenceKeys : List Text := [txt "outboundTag", txt "dialerProxy", txt "inboundTag"]

/-- No tag is named in the value. -/
def Plain (value : Json) : Prop := ∀ field ∈ allFields value, field.1 ∉ referenceKeys

def PlainFields (fields : List (String × Json)) : Prop :=
  ∀ field ∈ fields, txt field.1 ∉ referenceKeys ∧ Plain field.2

@[simp]
theorem plain_str (s : Text) : Plain (str s) := by
  simp [Plain, allFields]

@[simp]
theorem plain_text (s : String) : Plain (text s) := plain_str _

@[simp]
theorem plain_int (z : ℤ) : Plain (int z) := by
  simp [Plain, int, allFields]

@[simp]
theorem plain_bool (value : Bool) : Plain (bool value) := by
  simp [Plain, allFields]

@[simp]
theorem plain_arr {elements : List Json} :
    Plain (arr elements) ↔ ∀ element ∈ elements, Plain element := by
  simp only [Plain, mem_allFields_arr]
  constructor
  · intro plain element mem field inElement
    exact plain field ⟨element, mem, inElement⟩
  · rintro plain field ⟨element, mem, inElement⟩
    exact plain element mem field inElement

@[simp]
theorem plain_strings (elements : List Text) : Plain (strings elements) := by
  simp [strings]

theorem plain_ints (elements : List ℤ) : Plain (arr (elements.map int)) := by
  rw [plain_arr, List.forall_mem_map]
  intro z _
  exact plain_int z

@[simp]
theorem plain_csvArray (s : Text) : Plain (csvArray s) := plain_strings _

@[simp]
theorem plain_object {fields : List (String × Json)} :
    Plain (object fields) ↔ PlainFields fields := by
  simp only [Plain, mem_allFields_object]
  constructor
  · intro plain own mem
    exact ⟨plain _ ⟨own, mem, .inl rfl⟩, fun field inOwn => plain field ⟨own, mem, .inr inOwn⟩⟩
  · rintro plain field ⟨own, mem, rfl | inOwn⟩
    · exact (plain own mem).1
    · exact (plain own mem).2 field inOwn

@[simp]
theorem plainFields_nil : PlainFields [] := by
  simp [PlainFields]

@[simp]
theorem plainFields_cons {name : String} {value : Json} {rest : List (String × Json)} :
    PlainFields ((name, value) :: rest) ↔
      (txt name ∉ referenceKeys ∧ Plain value) ∧ PlainFields rest := by
  simp [PlainFields]

@[simp]
theorem plainFields_append {fields rest : List (String × Json)} :
    PlainFields (fields ++ rest) ↔ PlainFields fields ∧ PlainFields rest := by
  simp only [PlainFields, List.forall_mem_append]

theorem plainFields_ite {condition : Prop} [Decidable condition]
    {fields rest : List (String × Json)}
    (thenPlain : PlainFields fields) (elsePlain : PlainFields rest) :
    PlainFields (if condition then fields else rest) := by
  split
  · exact thenPlain
  · exact elsePlain

theorem plain_fieldUnlessEmpty {key : String} (notReference : txt key ∉ referenceKeys)
    (value : Text) : PlainFields (fieldUnlessEmpty key value) := by
  apply plainFields_ite
  · exact plainFields_nil
  · simp [notReference]

theorem plain_pinField (c : ProxyConfig) : PlainFields (pinField c) := by
  apply plainFields_ite
  · simp +decide
  · exact plainFields_nil

theorem plain_httpHeader (c : ProxyConfig) : Plain (httpHeader c) := by
  have host : PlainFields (if c.host = [] then [] else [("Host", csvArray c.host)]) := by
    apply plainFields_ite
    · exact plainFields_nil
    · simp +decide
  simp +decide [httpHeader, host]

theorem plain_transportFields (c : ProxyConfig) (net : Text) :
    PlainFields (transportFields platform c net) := by
  have seed : PlainFields (fieldUnlessEmpty "seed" c.path) :=
    plain_fieldUnlessEmpty (by decide) _
  have host : PlainFields (fieldUnlessEmpty "host" c.host) :=
    plain_fieldUnlessEmpty (by decide) _
  have mode : PlainFields (fieldUnlessEmpty "mode" c.mode) :=
    plain_fieldUnlessEmpty (by decide) _
  simp only [transportFields]
  split_ifs <;> simp +decide [plain_httpHeader, seed, host, mode]

theorem plain_securityFields (c : ProxyConfig) : PlainFields (securityFields c) := by
  simp only [securityFields, realitySettings, tlsSettings]
  split_ifs <;> simp +decide [plain_pinField]

theorem plain_buildStream (c : ProxyConfig) : Plain (buildStream platform c) := by
  simp +decide [buildStream, plain_transportFields, plain_securityFields]

theorem plain_localSocks (port : ℤ) : Plain (localSocks port) := by
  simp +decide [localSocks]

theorem plain_buildHysteria2 (c : ProxyConfig) : Plain (buildHysteria2 c) := by
  have bandwidth : PlainFields (hysteria2Bandwidth c) := by
    rw [hysteria2Bandwidth]
    split_ifs <;> simp +decide
  have masks : PlainFields (hysteria2Masks c) := by
    rw [hysteria2Masks]
    split_ifs <;> simp +decide
  simp +decide [buildHysteria2, plain_pinField, bandwidth, masks]

theorem plain_buildWireguard (c : ProxyConfig) : Plain (buildWireguard platform c) := by
  have mtu : PlainFields (if c.mtu > 0 then [("mtu", int c.mtu)] else []) := by
    apply plainFields_ite
    · simp +decide
    · exact plainFields_nil
  have reserved (elements : List ℤ) :
      PlainFields (if elements.length = 3 then [("reserved", arr (elements.map int))] else []) := by
    apply plainFields_ite
    · exact plainFields_cons.mpr ⟨⟨by decide, plain_ints elements⟩, plainFields_nil⟩
    · exact plainFields_nil
  simp +decide [buildWireguard, mtu, reserved]

theorem plain_protocolSettings (c : ProxyConfig) : Plain (protocolSettings c) := by
  have flow : PlainFields (fieldUnlessEmpty "flow" c.flow) :=
    plain_fieldUnlessEmpty (by decide) _
  simp only [protocolSettings, vnextSettings, serverSettings]
  split_ifs <;> simp +decide [flow]

theorem plain_buildOutbound (c : ProxyConfig) : Plain (buildOutbound platform c) := by
  rw [buildOutbound]
  split_ifs
  · exact plain_buildWireguard c
  · exact plain_localSocks _
  · exact plain_buildHysteria2 c
  · exact plain_localSocks _
  · simp +decide [plain_protocolSettings, plain_buildStream]

theorem plain_put {out value : Json} {key : String} (notReference : txt key ∉ referenceKeys)
    (plainValue : Plain value) (plainOut : Plain out) : Plain (out.put key value) := by
  intro field mem
  rcases mem_allFields_put mem with rfl | inValue | inOut
  · exact notReference
  · exact plainValue field inValue
  · exact plainOut field inOut

/-- The only reference of a stream that dials through an outbound is to that outbound. -/
theorem reference_dialThrough {stream : Json} {tag : String} {field : Text × Json}
    (plainStream : Plain stream) (mem : field ∈ allFields (dialThrough stream tag)) :
    field.1 ∉ referenceKeys ∨ field = (txt "dialerProxy", text tag) := by
  have notReference : txt "sockopt" ∉ referenceKeys := by decide
  rcases mem_allFields_put mem with rfl | inSockopt | inStream
  · exact .inl notReference
  · rcases mem_allFields_object.mp inSockopt with ⟨own, isOwn, same | inText⟩
    · rw [List.mem_singleton.mp isOwn] at same
      exact .inr same
    · rw [List.mem_singleton.mp isOwn] at inText
      exact .inl (plain_text tag field inText)
  · exact .inl (plainStream field inStream)

theorem reference_put_dialThrough {out stream : Json} {tag : String} {field : Text × Json}
    (plainOut : Plain out) (plainStream : Plain stream)
    (mem : field ∈ allFields (out.put "streamSettings" (dialThrough stream tag))) :
    field.1 ∉ referenceKeys ∨ field = (txt "dialerProxy", text tag) := by
  have notReference : txt "streamSettings" ∉ referenceKeys := by decide
  rcases mem_allFields_put mem with rfl | inStream | inOut
  · exact .inl notReference
  · exact reference_dialThrough plainStream inStream
  · exact .inl (plainOut field inOut)

theorem plain_optObject {out stream : Json} {key : String} (plainOut : Plain out)
    (found : out.optObject key = some stream) : Plain stream :=
  fun field mem => plainOut field (mem_allFields_of_optObject found mem)

theorem reference_fragmentOutbound {out : Json} {field : Text × Json} (plainOut : Plain out)
    (mem : field ∈ allFields (fragmentOutbound out)) :
    field.1 ∉ referenceKeys ∨ field = (txt "dialerProxy", text "fragment") := by
  rw [fragmentOutbound] at mem
  split at mem
  · next stream found =>
      exact reference_put_dialThrough plainOut (plain_optObject plainOut found) mem
  · exact .inl (plainOut field mem)

theorem reference_chainOutbound {out : Json} {field : Text × Json} (plainOut : Plain out)
    (mem : field ∈ allFields (chainOutbound out)) :
    field.1 ∉ referenceKeys ∨ field = (txt "dialerProxy", text "chain") := by
  apply reference_put_dialThrough plainOut _ mem
  cases found : out.optObject "streamSettings" with
  | none => simp
  | some stream => exact plain_optObject plainOut found

/-- The dialer of an outbound names the chain or the fragmenter, if it is there. -/
def IsDialerReference (config : ProxyConfig) (options : BuildOptions) (field : Text × Json) :
    Prop :=
  (chained config options).isSome = true ∧ field = (txt "dialerProxy", text "chain") ∨
    options.fragment = true ∧ field = (txt "dialerProxy", text "fragment")

theorem reference_proxyOutbound {field : Text × Json}
    (mem : field ∈ allFields (proxyOutbound platform config options)) :
    field.1 ∉ referenceKeys ∨ IsDialerReference config options field := by
  have dialing (inDialing : field ∈ allFields
      (if (chained config options).isSome then chainOutbound (buildOutbound platform config)
        else if options.fragment then fragmentOutbound (buildOutbound platform config)
        else buildOutbound platform config)) :
      field.1 ∉ referenceKeys ∨ IsDialerReference config options field := by
    split_ifs at inDialing with isChained fragment
    · rcases reference_chainOutbound (plain_buildOutbound config) inDialing with plain | isChain
      · exact .inl plain
      · exact .inr (.inl ⟨isChained, isChain⟩)
    · rcases reference_fragmentOutbound (plain_buildOutbound config) inDialing with
        plain | isFragment
      · exact .inl plain
      · exact .inr (.inr ⟨fragment, isFragment⟩)
    · exact .inl (plain_buildOutbound config field inDialing)
  have notReference : txt "mux" ∉ referenceKeys := by decide
  have plainMux : Plain (object [("enabled", bool true),
      ("concurrency", int (max 1 (min 128 options.muxConcurrency)))]) := by
    simp +decide
  simp only [proxyOutbound] at mem
  split at mem
  · rcases mem_allFields_put mem with rfl | inMux | inOut
    · exact .inl notReference
    · exact .inl (plainMux field inMux)
    · exact dialing inOut
  · exact dialing mem

theorem plain_laterOutbounds : ∀ out ∈ laterOutbounds platform config options, Plain out := by
  have tagged (tag : String) (base : Option ProxyConfig) :
      ∀ out ∈ base.toList.map (taggedOutbound platform tag), Plain out := by
    rw [List.forall_mem_map]
    intro c _
    exact plain_put (by decide) (plain_text tag) (plain_buildOutbound c)
  have fragment : Plain (fragmentFreedom options) := by
    simp +decide [fragmentFreedom]
  have tor : Plain torOut := by
    simp +decide [torOut]
  simp only [laterOutbounds, List.forall_mem_append]
  refine ⟨⟨⟨⟨⟨?_, ?_⟩, ?_⟩, tagged _ _⟩, tagged _ _⟩, ?_⟩
  · intro out mem
    rw [List.mem_ite_nil_right, List.mem_singleton] at mem
    rw [mem.2]
    exact fragment
  · simp +decide
  · intro out mem
    rw [List.mem_ite_nil_right, List.mem_singleton] at mem
    rw [mem.2]
    exact tor
  · intro out mem
    rw [List.mem_ite_nil_right, List.mem_singleton] at mem
    rw [mem.2]
    simp +decide

theorem reference_outbounds {field : Text × Json}
    (mem : field ∈ allFields (arr (outbounds platform config options))) :
    field.1 ∉ referenceKeys ∨ IsDialerReference config options field := by
  rcases mem_allFields_arr.mp mem with ⟨out, isOut, inOut⟩
  rcases List.mem_cons.mp isOut with isFirst | isLater
  · rw [isFirst] at inOut
    split at inOut
    · have plain : Plain directProxy := by
        simp +decide [directProxy]
      exact .inl (plain field inOut)
    · exact reference_proxyOutbound inOut
  · exact .inl (plain_laterOutbounds out isLater field inOut)

/-- A rule names its outbound, and the inbounds that it is about. -/
def IsRuleReference (config : ProxyConfig) (options : BuildOptions) (field : Text × Json) : Prop :=
  (∃ row ∈ ruleTable config options, field = (txt "outboundTag", text row.tag)) ∨
    (torUnder config options).isSome = true ∧ field = (txt "inboundTag", arr [text "tor-in"]) ∨
    field = (txt "inboundTag", arr [text "tun-in", text "socks-in"])

theorem plain_domains (hosts : List String) : Plain (arr (domains hosts)) := by
  rw [plain_arr, domains, List.forall_mem_map]
  intro host _
  exact plain_text _

theorem plain_ads : Plain (arr ([text "geosite:category-ads-all", text "geosite:ads"] ++
    domains adHosts)) := by
  rw [plain_arr, List.forall_mem_append]
  exact ⟨by simp, plain_arr.mp (plain_domains adHosts)⟩

/-- The only reference among the conditions of a row is to the inbounds. -/
theorem reference_conditions {row : RuleRow} (mem : row ∈ ruleTable config options)
    {field : Text × Json} (inConditions : field ∈ allFields (object row.conditions)) :
    field.1 ∉ referenceKeys ∨ IsRuleReference config options field := by
  have plainRow {conditions : List (String × Json)} (plain : PlainFields conditions)
      (inRow : field ∈ allFields (object conditions)) :
      field.1 ∉ referenceKeys ∨ IsRuleReference config options field :=
    .inl (plain_object.mpr plain field inRow)
  have inboundRow (tags : List String)
      (inRow : field ∈ allFields (object [("inboundTag", arr (tags.map text))])) :
      field.1 ∉ referenceKeys ∨ field = (txt "inboundTag", arr (tags.map text)) := by
    rcases mem_allFields_object.mp inRow with ⟨own, isOwn, same | inTags⟩
    · rw [List.mem_singleton.mp isOwn] at same
      exact .inr same
    · rw [List.mem_singleton.mp isOwn] at inTags
      have plain : Plain (arr (tags.map text)) := by
        rw [plain_arr, List.forall_mem_map]
        intro tag _
        exact plain_text tag
      exact .inl (plain field inTags)
  rcases mem_ruleTable.mp mem with ⟨-, rfl⟩ | ⟨on, rfl⟩ | ⟨-, rfl | rfl⟩ | ⟨-, rfl | rfl⟩ |
    ⟨-, rfl | rfl⟩ | rfl
  · exact plainRow (by simp +decide [RuleRow.onion]) inConditions
  · rcases inboundRow ["tor-in"] inConditions with plain | same
    · exact .inl plain
    · exact .inr (.inr (.inl ⟨on, same⟩))
  · exact plainRow (by simp +decide [RuleRow.dns]) inConditions
  · exact plainRow (plainFields_cons.mpr ⟨⟨by decide, plain_domains _⟩, plainFields_nil⟩)
      inConditions
  · exact plainRow (plainFields_cons.mpr ⟨⟨by decide, plain_ads⟩, plainFields_nil⟩) inConditions
  · exact plainRow (by simp +decide [RuleRow.quic]) inConditions
  · exact plainRow (by simp +decide [RuleRow.splitIp]) inConditions
  · exact plainRow (by simp +decide [RuleRow.splitDomain]) inConditions
  · rcases inboundRow ["tun-in", "socks-in"] inConditions with plain | same
    · exact .inl plain
    · exact .inr (.inr (.inr same))

theorem reference_rules {field : Text × Json}
    (mem : field ∈ allFields (arr (rules config options))) :
    field.1 ∉ referenceKeys ∨ IsRuleReference config options field := by
  rcases mem_allFields_arr.mp mem with ⟨element, isElement, inElement⟩
  rw [rules_eq, List.mem_map] at isElement
  rcases isElement with ⟨row, isRow, rfl⟩
  rcases mem_allFields_object.mp inElement with ⟨own, isOwn, isField⟩
  rw [List.mem_append, List.mem_append] at isOwn
  rcases isOwn with (isType | isCondition) | isTag
  · have plain : Plain (object [("type", text "field")]) := by
      simp +decide
    exact .inl (plain field (mem_allFields_object.mpr ⟨own, isType, isField⟩))
  · exact reference_conditions isRow (mem_allFields_object.mpr ⟨own, isCondition, isField⟩)
  · rw [List.mem_singleton.mp isTag] at isField
    rcases isField with same | inText
    · exact .inr (.inl ⟨row, isRow, same⟩)
    · exact .inl (plain_text row.tag field inText)

theorem plain_inbounds : Plain (arr (inbounds mixedPort config options)) := by
  have sniffing (types : List Text) (routeOnly : Bool) :
      PlainFields (sniffingField types routeOnly) := by
    simp +decide [sniffingField]
  have tun : Plain (tunIn config options) := by
    rw [tunIn, plain_object, plainFields_append]
    refine ⟨by simp +decide, plainFields_ite (sniffing _ _) plainFields_nil⟩
  have socks : Plain (socksIn mixedPort options) := by
    rw [socksIn, plain_object, plainFields_append]
    refine ⟨by simp +decide, plainFields_ite (sniffing _ _) plainFields_nil⟩
  have tor : Plain torIn := by
    simp +decide [torIn]
  rw [plain_arr, inbounds, List.forall_mem_append]
  constructor
  · simp [tun, socks]
  · intro inbound mem
    rw [List.mem_ite_nil_right, List.mem_singleton] at mem
    rw [mem.2]
    exact tor

theorem plain_dnsFields : PlainFields (dnsFields config options) := by
  have servers : Plain (arr (dnsServers config options)) := by
    rw [plain_arr, dnsServers]
    split_ifs <;> simp
  rw [dnsFields, plainFields_append]
  constructor
  · apply plainFields_ite
    · simp +decide
    · exact plainFields_nil
  · apply plainFields_ite
    · rw [plainFields_cons, plain_object, plainFields_cons]
      exact ⟨⟨by decide, ⟨by decide, servers⟩, by simp +decide⟩, plainFields_nil⟩
    · exact plainFields_nil

theorem reference_field {name : String} {value : Json} {field : Text × Json} {IsReference : Prop}
    (notReference : txt name ∉ referenceKeys)
    (isField : field = (txt name, value) ∨ field ∈ allFields value)
    (inner : field ∈ allFields value → field.1 ∉ referenceKeys ∨ IsReference) :
    field.1 ∉ referenceKeys ∨ IsReference := by
  rcases isField with rfl | inValue
  · exact .inl notReference
  · exact inner inValue

theorem reference_routing {field : Text × Json}
    (mem : field ∈ allFields (object [("domainStrategy", text "AsIs"),
      ("rules", arr (rules config options))])) :
    field.1 ∉ referenceKeys ∨ IsRuleReference config options field := by
  rcases mem_allFields_object.mp mem with ⟨⟨name, value⟩, isPart, isField⟩
  dsimp only at isField
  simp only [List.mem_cons, List.not_mem_nil, or_false, Prod.mk.injEq] at isPart
  rcases isPart with ⟨rfl, rfl⟩ | ⟨rfl, rfl⟩
  · apply reference_field (by decide) isField
    intro inText
    exact .inl (plain_text _ field inText)
  · exact reference_field (by decide) isField reference_rules

theorem reference_buildRoot {field : Text × Json}
    (mem : field ∈ allFields (buildRoot platform mixedPort config options)) :
    field.1 ∉ referenceKeys ∨ IsDialerReference config options field ∨
      IsRuleReference config options field := by
  have plainValue {value : Json} (plain : Plain value) (inValue : field ∈ allFields value) :
      field.1 ∉ referenceKeys ∨ IsDialerReference config options field ∨
        IsRuleReference config options field := .inl (plain field inValue)
  rcases mem_allFields_object.mp mem with ⟨⟨name, value⟩, isOwn, isField⟩
  dsimp only at isField
  simp only [List.mem_append, List.mem_cons, List.not_mem_nil, or_false, Prod.mk.injEq] at isOwn
  rcases isOwn with (⟨rfl, rfl⟩ | isDns) | ⟨rfl, rfl⟩ | ⟨rfl, rfl⟩ | ⟨rfl, rfl⟩ | ⟨rfl, rfl⟩ |
    ⟨rfl, rfl⟩
  · exact reference_field (by decide) isField (plainValue (by simp +decide))
  · have plain : txt name ∉ referenceKeys ∧ Plain value := plain_dnsFields _ isDns
    exact reference_field plain.1 isField (plainValue plain.2)
  · exact reference_field (by decide) isField (plainValue (by simp))
  · exact reference_field (by decide) isField (plainValue (by simp +decide))
  · exact reference_field (by decide) isField (plainValue plain_inbounds)
  · apply reference_field (by decide) isField
    intro inOutbounds
    exact (reference_outbounds inOutbounds).imp_right .inl
  · apply reference_field (by decide) isField
    intro inRouting
    exact (reference_routing inRouting).imp_right .inr

theorem map_stringOf_of_hasTag {outs : List Json} {tags : List String}
    (tagged : List.Forall₂ HasTag outs tags) :
    outs.map (stringOf · "tag") = tags.map fun tag => some (txt tag) := by
  induction tagged with
  | nil => rfl
  | cons has _ ih => rw [List.map_cons, List.map_cons, has.stringOf_eq, ih]

theorem outbounds_tags :
    List.Forall₂ HasTag (outbounds platform config options) ("proxy" :: laterTags config options) :=
  .cons hasTag_firstOutbound laterOutbounds_tags

theorem ite_sublist {condition : Bool} (tag : String) :
    (if condition then [tag] else []).Sublist [tag] := by
  split
  · exact List.Sublist.refl _
  · exact List.nil_sublist _

/-- Each tag stands in one place of the whole list of tags. -/
theorem laterTags_sublist :
    (laterTags config options).Sublist
      (["fragment"] ++ ["direct", "block"] ++ ["tor-out"] ++ ["torbase"] ++ ["chain"] ++
        ["dns-out"]) := by
  apply List.Sublist.append _ (ite_sublist _)
  apply List.Sublist.append _ (ite_sublist _)
  apply List.Sublist.append _ (ite_sublist _)
  apply List.Sublist.append _ (ite_sublist _)
  exact List.Sublist.append (ite_sublist _) (List.Sublist.refl _)

theorem outboundTags_nodup :
    (("proxy" :: laterTags config options).map fun tag => some (txt tag)).Nodup := by
  apply List.Nodup.sublist ((laterTags_sublist.cons_cons "proxy").map _)
  decide

/-- The tags of the inbounds. -/
def inboundTags (config : ProxyConfig) (options : BuildOptions) : List String :=
  ["tun-in", "socks-in"] ++
    if config.protocol == txt "tor" || onion config options then ["tor-in"] else []

theorem inbounds_tags :
    List.Forall₂ HasTag (inbounds mixedPort config options) (inboundTags config options) := by
  have tun : HasTag (tunIn config options) "tun-in" := hasTag_object _ _
  have socks : HasTag (socksIn mixedPort options) "socks-in" := hasTag_object _ _
  exact List.rel_append (.cons tun (.cons socks .nil)) (forall₂_hasTag_ite (hasTag_object _ _))

theorem inboundTags_nodup :
    ((inboundTags config options).map fun tag => some (txt tag)).Nodup := by
  have sub : (inboundTags config options).Sublist (["tun-in", "socks-in"] ++ ["tor-in"]) :=
    List.Sublist.append (List.Sublist.refl _) (ite_sublist _)
  apply List.Nodup.sublist (sub.map _)
  decide

theorem inboundsOf_buildRoot :
    inboundsOf (buildRoot platform mixedPort config options) =
      inbounds mixedPort config options := by
  have noDns : (object (dnsFields config options)).field? (txt "inbounds") = none :=
    field?_dnsFields (by decide) (by decide)
  apply elementsOf_of_field?
  rw [buildRoot, field?_object_append, field?_object_append, noDns]
  simp +decide only [field?_object_cons, field?_object_nil, if_true, if_false, Option.or_none,
    Option.none_or]

theorem names_of_mem {parts : List Json} {tags : List String}
    (tagged : List.Forall₂ HasTag parts tags) {tag : String} (mem : tag ∈ tags) :
    Names parts (text tag) := by
  rw [text, Names, map_stringOf_of_hasTag tagged, List.mem_map]
  exact ⟨tag, mem, rfl⟩

theorem names_arr_of_subset {parts : List Json} {tags : List String}
    (tagged : List.Forall₂ HasTag parts tags) {named : List String} (subset : named ⊆ tags) :
    Names parts (arr (named.map text)) := by
  rw [Names, List.forall_mem_map]
  intro tag mem
  exact ⟨txt tag, rfl, names_of_mem tagged (subset mem)⟩

theorem tag_mem_of_mem_ruleTable {row : RuleRow} (mem : row ∈ ruleTable config options) :
    row.tag ∈ "proxy" :: laterTags config options := by
  rw [List.mem_cons, mem_laterTags]
  rcases mem_ruleTable.mp mem with ⟨on, rfl⟩ | ⟨on, rfl⟩ | ⟨on, rfl | rfl⟩ | ⟨-, rfl | rfl⟩ |
    ⟨-, rfl | rfl⟩ | rfl <;>
    simp +decide [*]

theorem names_dialerReference {field : Text × Json}
    (isDialer : IsDialerReference config options field) :
    Names (outbounds platform config options) field.2 := by
  rcases isDialer with ⟨isChained, rfl⟩ | ⟨fragment, rfl⟩
  · apply names_of_mem outbounds_tags
    rw [List.mem_cons, mem_laterTags]
    simp [isChained]
  · apply names_of_mem outbounds_tags
    rw [List.mem_cons, mem_laterTags]
    simp [fragment]

theorem isTor_of_torUnder (under : (torUnder config options).isSome = true) :
    config.protocol = txt "tor" := by
  by_contra notTor
  rw [torUnder, if_neg notTor] at under
  cases under

/-- Where the key of an outbound stands, one is named. -/
theorem names_outbound {field : Text × Json}
    (mem : field ∈ allFields (buildRoot platform mixedPort config options))
    (isKey : field.1 ∈ [txt "outboundTag", txt "dialerProxy"]) :
    Names (outbounds platform config options) field.2 := by
  rcases reference_buildRoot mem with plain | isDialer | ⟨row, isRow, rfl⟩ | ⟨-, rfl⟩ | rfl
  · have isReference : [txt "outboundTag", txt "dialerProxy"] ⊆ referenceKeys := by decide
    exact absurd (isReference isKey) plain
  · exact names_dialerReference isDialer
  · exact names_of_mem outbounds_tags (tag_mem_of_mem_ruleTable isRow)
  · exact absurd isKey (by decide)
  · exact absurd isKey (by decide)

theorem isClosed_buildRoot (platform : Platform) (mixedPort : ℤ) (config : ProxyConfig)
    (options : BuildOptions) : IsClosed (buildRoot platform mixedPort config options) where
  inboundTags := by
    rw [inboundsOf_buildRoot, map_stringOf_of_hasTag inbounds_tags]
    exact inboundTags_nodup
  outboundTags := by
    rw [outboundsOf_buildRoot, map_stringOf_of_hasTag outbounds_tags]
    exact outboundTags_nodup
  first := by
    rw [outboundsOf_buildRoot]
    exact ⟨_, List.head?_cons, hasTag_firstOutbound⟩
  outboundTag := by
    intro field mem isKey
    rw [outboundsOf_buildRoot]
    exact names_outbound mem (by simp [isKey])
  dialerProxy := by
    intro field mem isKey
    rw [outboundsOf_buildRoot]
    exact names_outbound mem (by simp [isKey])
  inboundTag := by
    intro field mem isKey
    rw [inboundsOf_buildRoot]
    rcases reference_buildRoot mem with plain | (⟨-, rfl⟩ | ⟨-, rfl⟩) | ⟨row, isRow, rfl⟩ |
      ⟨under, rfl⟩ | rfl
    · rw [isKey] at plain
      exact absurd plain (by decide)
    · exact absurd isKey (by decide)
    · exact absurd isKey (by decide)
    · have other : txt "outboundTag" ≠ txt "inboundTag" := by decide
      exact absurd isKey other
    · have present : ["tor-in"] ⊆ ConfigBuilder.inboundTags config options := by
        simp [ConfigBuilder.inboundTags, isTor_of_torUnder under]
      exact names_arr_of_subset inbounds_tags present
    · have present : ["tun-in", "socks-in"] ⊆ ConfigBuilder.inboundTags config options := by
        simp [ConfigBuilder.inboundTags]
      exact names_arr_of_subset inbounds_tags present

end GRoute.ConfigBuilder
