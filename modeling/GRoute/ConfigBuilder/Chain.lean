import GRoute.ConfigBuilder.Security
import GRoute.Xray

/-!
# Chained outbounds

When a base other than the config itself is given, the built configuration has the
outbound of the base under the tag `chain`, and its `proxy` outbound dials through it.
Otherwise the `proxy` outbound does not dial through a chain.
-/

namespace GRoute.ConfigBuilder

open Text Json Xray

variable {platform : Platform} {mixedPort : ℤ} {config : ProxyConfig} {options : BuildOptions}

/-- The outbound of the base is there as `chain`, and every `proxy` outbound dials through it. -/
structure ChainedThrough (platform : Platform) (root : Json) (base : ProxyConfig) : Prop where
  chain : taggedOutbound platform "chain" base ∈ outboundsOf root
  proxy : ∃ out ∈ outboundsOf root, HasTag out "proxy"
  dials : ∀ out ∈ outboundsOf root, HasTag out "proxy" → DialsThrough out "chain"

theorem field?_dnsFields {key : Text}
    (notFakedns : txt "fakedns" ≠ key) (notDns : txt "dns" ≠ key) :
    (object (dnsFields config options)).field? key = none := by
  rw [dnsFields, field?_object_append]
  split <;> split <;> simp [field?_object_cons, field?_object_nil, notFakedns, notDns]

theorem outboundsOf_buildRoot :
    outboundsOf (buildRoot platform mixedPort config options) =
      outbounds platform config options := by
  have found : (buildRoot platform mixedPort config options).field? (txt "outbounds") =
      some (arr (outbounds platform config options)) := by
    have noDns : (object (dnsFields config options)).field? (txt "outbounds") = none :=
      field?_dnsFields (by decide) (by decide)
    rw [buildRoot, field?_object_append, field?_object_append, noDns, field?_object_cons,
      if_neg (by decide), field?_object_nil, field?_object_cons, if_neg (by decide),
      field?_object_cons, if_neg (by decide), field?_object_cons, if_neg (by decide),
      field?_object_cons, if_pos rfl]
    rfl
  exact elementsOf_of_field? found

theorem hasTag_buildOutbound (c : ProxyConfig) : HasTag (buildOutbound platform c) "proxy" := by
  rcases buildOutbound_shape platform c with ⟨rest, shape⟩
  rw [HasTag, shape, field?_object_cons, if_pos rfl]

theorem hasTag_fragmentOutbound {out : Json} {tag : String} (has : HasTag out tag) :
    HasTag (fragmentOutbound out) tag := by
  rw [fragmentOutbound]
  split
  · exact has.put (by decide) _
  · exact has

theorem hasTag_proxyOutbound : HasTag (proxyOutbound platform config options) "proxy" := by
  have built : HasTag (buildOutbound platform config) "proxy" := hasTag_buildOutbound config
  simp only [proxyOutbound]
  split_ifs
  · exact (built.put (by decide) _).put (by decide) _
  · exact (hasTag_fragmentOutbound built).put (by decide) _
  · exact built.put (by decide) _
  · exact built.put (by decide) _
  · exact hasTag_fragmentOutbound built
  · exact built

theorem hasTag_firstOutbound :
    HasTag (if options.directOnly then directProxy else proxyOutbound platform config options)
      "proxy" := by
  split
  · exact hasTag_object "proxy" _
  · exact hasTag_proxyOutbound

theorem hasTag_taggedOutbound (tag : String) (base : ProxyConfig) :
    HasTag (taggedOutbound platform tag base) tag := by
  rcases buildOutbound_shape platform base with ⟨rest, shape⟩
  rw [HasTag, taggedOutbound, shape, object]
  exact field?_put_self _ _

/-- The tags after the first. -/
def laterTags (config : ProxyConfig) (options : BuildOptions) : List String :=
  (if options.fragment then ["fragment"] else []) ++ ["direct", "block"] ++
    (if onion config options then ["tor-out"] else []) ++
    (if (torUnder config options).isSome then ["torbase"] else []) ++
    (if (chained config options).isSome then ["chain"] else []) ++
    (if dnsOn config options then ["dns-out"] else [])

theorem forall₂_hasTag_ite {condition : Bool} {out : Json} {tag : String} (has : HasTag out tag) :
    List.Forall₂ HasTag (if condition then [out] else []) (if condition then [tag] else []) := by
  split
  · exact .cons has .nil
  · exact .nil

theorem forall₂_hasTag_toList (base : Option ProxyConfig) (tag : String) :
    List.Forall₂ HasTag (base.toList.map (taggedOutbound platform tag))
      (if base.isSome then [tag] else []) := by
  cases base with
  | none => exact .nil
  | some base => exact .cons (hasTag_taggedOutbound tag base) .nil

theorem laterOutbounds_tags :
    List.Forall₂ HasTag (laterOutbounds platform config options) (laterTags config options) := by
  have plain : List.Forall₂ HasTag
      [object [("tag", text "direct"), ("protocol", text "freedom")],
        object [("tag", text "block"), ("protocol", text "blackhole")]] ["direct", "block"] :=
    .cons (hasTag_object _ _) (.cons (hasTag_object _ _) .nil)
  have append {xs ys : List Json} {ss ts : List String} (left : List.Forall₂ HasTag xs ss)
      (right : List.Forall₂ HasTag ys ts) : List.Forall₂ HasTag (xs ++ ys) (ss ++ ts) :=
    List.rel_append left right
  apply append
  · apply append
    · apply append
      · apply append
        · exact append (forall₂_hasTag_ite (hasTag_object _ _)) plain
        · exact forall₂_hasTag_ite (hasTag_object _ _)
      · exact forall₂_hasTag_toList _ _
    · exact forall₂_hasTag_toList _ _
  · exact forall₂_hasTag_ite (hasTag_object _ _)

theorem mem_laterTags {tag : String} :
    tag ∈ laterTags config options ↔
      options.fragment = true ∧ tag = "fragment" ∨ tag = "direct" ∨ tag = "block" ∨
        onion config options = true ∧ tag = "tor-out" ∨
        (torUnder config options).isSome = true ∧ tag = "torbase" ∨
        (chained config options).isSome = true ∧ tag = "chain" ∨
        dnsOn config options = true ∧ tag = "dns-out" := by
  simp only [laterTags, List.mem_append, List.mem_ite_nil_right, List.mem_cons, List.not_mem_nil,
    or_false, or_assoc]

theorem txt_ne_proxy_of_mem_laterTags {tag : String} (mem : tag ∈ laterTags config options) :
    txt tag ≠ txt "proxy" := by
  rcases mem_laterTags.mp mem with
    ⟨-, rfl⟩ | rfl | rfl | ⟨-, rfl⟩ | ⟨-, rfl⟩ | ⟨-, rfl⟩ | ⟨-, rfl⟩ <;> decide

theorem exists_hasTag_of_mem {outs : List Json} {tags : List String}
    (tagged : List.Forall₂ HasTag outs tags) {out : Json} (mem : out ∈ outs) :
    ∃ tag ∈ tags, HasTag out tag := by
  induction tagged with
  | nil => cases mem
  | cons has _ ih =>
      rcases List.mem_cons.mp mem with rfl | inRest
      · exact ⟨_, List.mem_cons_self, has⟩
      · rcases ih inRest with ⟨tag, isTag, hasTag⟩
        exact ⟨tag, List.mem_cons_of_mem _ isTag, hasTag⟩

/-- Only the first outbound has the tag `proxy`. -/
theorem eq_of_hasTag_proxy {out : Json} (mem : out ∈ outbounds platform config options)
    (has : HasTag out "proxy") :
    out = if options.directOnly then directProxy else proxyOutbound platform config options := by
  rcases List.mem_cons.mp mem with isFirst | isLater
  · exact isFirst
  · rcases exists_hasTag_of_mem laterOutbounds_tags isLater with ⟨tag, isTag, hasTag⟩
    exact absurd (hasTag.tag_eq has) (txt_ne_proxy_of_mem_laterTags isTag)

theorem dialsThrough_chainOutbound (fields : List (Text × Json)) :
    DialsThrough (chainOutbound (obj fields)) "chain" := by
  have stream :
      ∃ inner, ((obj fields).optObject "streamSettings").getD (object []) = obj inner := by
    rw [optObject]
    split
    · exact ⟨_, rfl⟩
    · exact ⟨_, rfl⟩
  rcases stream with ⟨inner, isStream⟩
  refine ⟨_, object [("dialerProxy", text "chain")], field?_put_self _ _, ?_, ?_⟩
  · rw [isStream, dialThrough]
    exact field?_put_self _ _
  · rw [field?_object_cons, if_pos rfl]

theorem field?_sockopt_buildStream (c : ProxyConfig) :
    (buildStream platform c).field? (txt "sockopt") = none := by
  have security : (object (securityFields c)).field? (txt "sockopt") = none := by
    rw [securityFields]
    split_ifs <;> simp +decide [field?_object_cons, field?_object_nil]
  have transport (net : Text) :
      (object (transportFields platform c net)).field? (txt "sockopt") = none :=
    field?_transportFields c net (by decide)
  simp only [buildStream]
  rw [field?_object_append, field?_object_append, transport, security]
  simp +decide [field?_object_cons, field?_object_nil]

theorem field?_sockopt_buildHysteria2 {c : ProxyConfig} {stream : Json}
    (found : (buildHysteria2 c).field? (txt "streamSettings") = some stream) :
    stream.field? (txt "sockopt") = none := by
  have masks : (object (hysteria2Masks c)).field? (txt "sockopt") = none := by
    rw [hysteria2Masks]
    split_ifs <;> simp +decide [field?_object_cons, field?_object_nil]
  simp +decide only [buildHysteria2, field?_object_cons, if_true, if_false,
    Option.some.injEq] at found
  rw [← found, field?_object_append, masks]
  simp +decide [field?_object_cons, field?_object_nil]

theorem field?_sockopt_buildOutbound {c : ProxyConfig} {stream : Json}
    (found : (buildOutbound platform c).field? (txt "streamSettings") = some stream) :
    stream.field? (txt "sockopt") = none := by
  rcases protocol_cases c with isStream | hysteria2 | isStreamless
  · rw [field?_buildOutbound_stream isStream, Option.some.injEq] at found
    rw [← found]
    exact field?_sockopt_buildStream c
  · rw [buildOutbound_of_hysteria2 hysteria2] at found
    exact field?_sockopt_buildHysteria2 found
  · rw [field?_stream_of_streamless isStreamless] at found
    cases found

theorem not_dialsThrough_buildOutbound (c : ProxyConfig) (tag : String) :
    ¬DialsThrough (buildOutbound platform c) tag := by
  rintro ⟨stream, sockopt, found, sockoptFound, -⟩
  rw [field?_sockopt_buildOutbound found] at sockoptFound
  cases sockoptFound

theorem not_dialsThrough_fragmentOutbound (c : ProxyConfig) :
    ¬DialsThrough (fragmentOutbound (buildOutbound platform c)) "chain" := by
  rw [fragmentOutbound]
  split
  case h_2 => exact not_dialsThrough_buildOutbound c "chain"
  case h_1 settings isObject =>
    rintro ⟨stream, sockopt, found, sockoptFound, dialer⟩
    have isObj : ∃ inner, settings = obj inner := by
      rw [optObject] at isObject
      split at isObject
      · cases isObject
        exact ⟨_, rfl⟩
      · cases isObject
    rcases isObj with ⟨inner, rfl⟩
    rcases buildOutbound_eq_obj platform c with ⟨fields, shape⟩
    rw [shape, field?_put_self] at found
    cases found
    rw [dialThrough, field?_put_self] at sockoptFound
    cases sockoptFound
    rw [field?_object_cons, if_pos rfl, Option.some.injEq] at dialer
    exact absurd (Json.str.inj dialer) (by decide)

theorem dialsThrough_proxyOutbound_iff :
    DialsThrough (proxyOutbound platform config options) "chain" ↔
      (chained config options).isSome := by
  have dialing : DialsThrough
      (if (chained config options).isSome then chainOutbound (buildOutbound platform config)
        else if options.fragment then fragmentOutbound (buildOutbound platform config)
        else buildOutbound platform config) "chain" ↔ (chained config options).isSome := by
    split_ifs with isChained
    · rcases buildOutbound_eq_obj platform config with ⟨fields, shape⟩
      rw [shape]
      exact iff_of_true (dialsThrough_chainOutbound fields) isChained
    · exact iff_of_false (not_dialsThrough_fragmentOutbound config) isChained
    · exact iff_of_false (not_dialsThrough_buildOutbound config "chain") isChained
  simp only [proxyOutbound]
  split
  · rw [muxOutbound, DialsThrough.of_put (by decide)]
    exact dialing
  · exact dialing

theorem chainedThrough_buildRoot {base : ProxyConfig} (throughProxy : options.directOnly = false)
    (isChained : chained config options = some base) :
    ChainedThrough platform (buildRoot platform mixedPort config options) base where
  chain := by
    rw [outboundsOf_buildRoot, outbounds, laterOutbounds, isChained]
    simp
  proxy := by
    refine ⟨proxyOutbound platform config options, ?_, hasTag_proxyOutbound⟩
    rw [outboundsOf_buildRoot, outbounds, throughProxy]
    exact List.mem_cons_self
  dials := by
    intro out mem has
    rw [outboundsOf_buildRoot] at mem
    rw [eq_of_hasTag_proxy mem has, throughProxy]
    exact dialsThrough_proxyOutbound_iff.mpr (by rw [isChained]; rfl)

end GRoute.ConfigBuilder
