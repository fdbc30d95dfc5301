import GRoute.ConfigBuilder.Closed

/-!
# Fragmentation on the wire

The fragmenter is made the dialer of the `proxy` outbound, unless the config is chained: then the
dialer is the outbound of the base, and that one opens its connections itself. So the handshake with
the base is fragmented only if the config is not chained. A base without stream settings has no
handshake of TLS to fragment.
-/

namespace GRoute.ConfigBuilder

open Text Json Xray

variable {platform : Platform} {mixedPort : ℤ} {config : ProxyConfig} {options : BuildOptions}

theorem field?_stream_buildOutbound (platform : Platform) (c : ProxyConfig) :
    c.protocol ∈ streamless ∧
        (buildOutbound platform c).field? (txt "streamSettings") = none ∨
      c.protocol ∉ streamless ∧ ∃ inner,
        (buildOutbound platform c).field? (txt "streamSettings") = some (obj inner) := by
  rcases protocol_cases c with isStream | hysteria2 | isStreamless
  · refine .inr ⟨?_, _, field?_buildOutbound_stream isStream⟩
    intro isStreamless
    exact not_isStream_of_streamless isStreamless isStream
  · refine .inr ⟨by simp +decide [streamless, hysteria2], ?_⟩
    simp +decide only [buildOutbound_of_hysteria2 hysteria2, buildHysteria2, field?_object_cons,
      if_true, if_false]
    exact ⟨_, rfl⟩
  · exact .inl ⟨isStreamless, field?_stream_of_streamless isStreamless⟩

theorem dialerOf_buildOutbound (c : ProxyConfig) : dialerOf (buildOutbound platform c) = none := by
  rw [dialerOf]
  cases found : (buildOutbound platform c).field? (txt "streamSettings") with
  | none => rfl
  | some stream =>
      rw [Option.bind_eq_bind, Option.bind_some, field?_sockopt_buildOutbound found]
      rfl

theorem dialerOf_put {out value : Json} {key : String} (other : txt key ≠ txt "streamSettings") :
    dialerOf (out.put key value) = dialerOf out := by
  rw [dialerOf, dialerOf, field?_put_of_ne _ other]

/-- The fragmenter becomes the dialer of every outbound with stream settings. -/
theorem fragmentOutbound_buildOutbound (platform : Platform) (c : ProxyConfig) :
    DialsThrough (fragmentOutbound (buildOutbound platform c)) "fragment" ∨
      fragmentOutbound (buildOutbound platform c) = buildOutbound platform c ∧
        (buildOutbound platform c).field? (txt "streamSettings") = none := by
  rcases field?_stream_buildOutbound platform c with ⟨-, absent⟩ | ⟨-, inner, found⟩
  · refine .inr ⟨?_, absent⟩
    rw [fragmentOutbound, optObject, absent]
  · left
    rcases buildOutbound_eq_obj platform c with ⟨fields, shape⟩
    rw [fragmentOutbound, optObject, found, shape]
    refine ⟨_, object [("dialerProxy", text "fragment")], field?_put_self _ _, ?_, ?_⟩
    · exact field?_put_self _ _
    · rw [field?_object_cons, if_pos rfl]

theorem outboundNamed_proxy (throughProxy : options.directOnly = false) :
    outboundNamed (outboundsOf (buildRoot platform mixedPort config options)) (txt "proxy") =
      some (proxyOutbound platform config options) := by
  rw [outboundsOf_buildRoot, outbounds, throughProxy]
  exact outboundNamed_cons_self hasTag_proxyOutbound _

theorem outboundNamed_chain (throughProxy : options.directOnly = false) {base : ProxyConfig}
    (isChained : chained config options = some base) :
    outboundNamed (outboundsOf (buildRoot platform mixedPort config options)) (txt "chain") =
      some (taggedOutbound platform "chain" base) := by
  apply outboundNamed_of_mem
  · rw [outboundsOf_buildRoot, map_stringOf_of_hasTag outbounds_tags]
    exact outboundTags_nodup
  · exact (chainedThrough_buildRoot throughProxy isChained).chain
  · exact hasTag_taggedOutbound "chain" base

/-- There are always enough outbounds to follow a chain. -/
theorem exists_length_outboundsOf (platform : Platform) (mixedPort : ℤ) (config : ProxyConfig)
    (options : BuildOptions) : ∃ hops,
      (outboundsOf (buildRoot platform mixedPort config options)).length = hops + 2 := by
  have long : 2 ≤ (outboundsOf (buildRoot platform mixedPort config options)).length := by
    rw [outboundsOf_buildRoot, outbounds, laterOutbounds]
    simp only [List.length_cons, List.length_append, List.length_nil]
    omega
  exact Nat.exists_eq_add_of_le' long

theorem dialer_proxyOutbound_of_unchained (fragmentOn : options.fragment = true)
    (unchained : chained config options = none) :
    DialsThrough (proxyOutbound platform config options) "fragment" ∨
      dialerOf (proxyOutbound platform config options) = none ∧
        (proxyOutbound platform config options).field? (txt "streamSettings") = none := by
  have dialing : proxyOutbound platform config options =
      if options.mux then muxOutbound options (fragmentOutbound (buildOutbound platform config))
      else fragmentOutbound (buildOutbound platform config) := by
    simp only [proxyOutbound, unchained, fragmentOn, Option.isSome_none, Bool.false_eq_true,
      if_false, if_true]
  have built := fragmentOutbound_buildOutbound platform config
  rw [dialing]
  split
  · rw [muxOutbound, DialsThrough.of_put (by decide), dialerOf_put (by decide),
      field?_put_of_ne _ (by decide)]
    rcases built with fragments | ⟨same, absent⟩
    · exact .inl fragments
    · rw [same]
      exact .inr ⟨dialerOf_buildOutbound config, absent⟩
  · rcases built with fragments | ⟨same, absent⟩
    · exact .inl fragments
    · rw [same]
      exact .inr ⟨dialerOf_buildOutbound config, absent⟩

/-- Without a chain, `proxy` opens its connections itself and hands them to the fragmenter. -/
theorem fragmentsOnWire_of_unchained (fragmentOn : options.fragment = true)
    (throughProxy : options.directOnly = false) (unchained : chained config options = none) :
    FragmentsOnWire (buildRoot platform mixedPort config options) := by
  rcases exists_length_outboundsOf platform mixedPort config options with ⟨hops, long⟩
  refine ⟨_, proxyOutbound platform config options, outboundNamed_proxy throughProxy, ?_, ?_⟩
  · rw [long]
    rcases dialer_proxyOutbound_of_unchained fragmentOn unchained with fragments | ⟨noDialer, -⟩
    · exact carrier_of_dialsThrough_fragment _ fragments
    · exact carrier_of_dialerOf_eq_none _ noDialer
  · intro hasStream
    rcases dialer_proxyOutbound_of_unchained fragmentOn unchained with fragments | ⟨-, absent⟩
    · exact fragments
    · exact absurd absent hasStream

/-- With a chain, the outbound of the base opens the connections, and it has no dialer. -/
theorem carrier_of_chained (platform : Platform) (mixedPort : ℤ)
    (throughProxy : options.directOnly = false) {base : ProxyConfig}
    (isChained : chained config options = some base) (hops : ℕ) :
    carrier (outboundsOf (buildRoot platform mixedPort config options)) (hops + 2)
      (proxyOutbound platform config options) = some (taggedOutbound platform "chain" base) := by
  have dials : DialsThrough (proxyOutbound platform config options) "chain" :=
    dialsThrough_proxyOutbound_iff.mpr (by rw [isChained]; rfl)
  have noDialer : dialerOf (taggedOutbound platform "chain" base) = none := by
    rw [taggedOutbound, dialerOf_put (by decide)]
    exact dialerOf_buildOutbound base
  rw [carrier_of_dialsThrough _ dials (by decide) (outboundNamed_chain throughProxy isChained)]
  exact carrier_of_dialerOf_eq_none _ noDialer

theorem fragmentsOnWire_iff_of_chained (throughProxy : options.directOnly = false)
    {base : ProxyConfig} (isChained : chained config options = some base) :
    FragmentsOnWire (buildRoot platform mixedPort config options) ↔
      base.protocol ∈ streamless := by
  rcases exists_length_outboundsOf platform mixedPort config options with ⟨hops, long⟩
  have stream : (taggedOutbound platform "chain" base).field? (txt "streamSettings") =
      (buildOutbound platform base).field? (txt "streamSettings") :=
    field?_put_of_ne _ (by decide) _
  have noFragment : ¬DialsThrough (taggedOutbound platform "chain" base) "fragment" := by
    rw [taggedOutbound, DialsThrough.of_put (by decide)]
    exact not_dialsThrough_buildOutbound base "fragment"
  have opens := carrier_of_chained platform mixedPort throughProxy isChained hops
  constructor
  · rintro ⟨first, last, isFirst, isLast, fragments⟩
    rw [outboundNamed_proxy throughProxy, Option.some.injEq] at isFirst
    rw [long, ← isFirst, opens, Option.some.injEq] at isLast
    subst isLast
    rcases field?_stream_buildOutbound platform base with ⟨plain, -⟩ | ⟨-, inner, found⟩
    · exact plain
    · rw [stream, found] at fragments
      exact absurd (fragments (Option.some_ne_none _)) noFragment
  · intro plain
    refine ⟨_, _, outboundNamed_proxy throughProxy, long ▸ opens, ?_⟩
    rcases field?_stream_buildOutbound platform base with ⟨-, absent⟩ | ⟨notPlain, -⟩
    · rw [stream]
      exact fun hasStream => absurd absent hasStream
    · exact absurd plain notPlain

/-- A base of another config is given, and its outbound has stream settings. -/
def BaseHasStream (config : ProxyConfig) (options : BuildOptions) : Prop :=
  ∃ base, options.chainBase = some base ∧ base.id ≠ config.id ∧ base.protocol ∉ streamless

theorem fragmentsOnWire_iff (platform : Platform) (mixedPort : ℤ) (config : ProxyConfig)
    (options : BuildOptions) (fragmentOn : options.fragment = true)
    (throughProxy : options.directOnly = false) :
    FragmentsOnWire (buildRoot platform mixedPort config options) ↔
      ¬BaseHasStream config options := by
  have chained_iff (base : ProxyConfig) : chained config options = some base ↔
      options.chainBase = some base ∧ base.id ≠ config.id := by
    rw [chained, Option.filter_eq_some_iff, decide_eq_true_eq]
  cases isChained : chained config options with
  | none =>
      apply iff_of_true (fragmentsOnWire_of_unchained fragmentOn throughProxy isChained)
      rintro ⟨base, given, other, -⟩
      rw [(chained_iff base).mpr ⟨given, other⟩] at isChained
      cases isChained
  | some base =>
      rcases (chained_iff base).mp isChained with ⟨given, other⟩
      rw [fragmentsOnWire_iff_of_chained throughProxy isChained]
      constructor
      · rintro plain ⟨base', given', -, hasStream⟩
        rw [given, Option.some.injEq] at given'
        rw [← given'] at hasStream
        exact hasStream plain
      · intro noStream
        by_contra hasStream
        exact noStream ⟨base, given, other, hasStream⟩

/-- A server that is reached through another one. -/
def exitServer : ProxyConfig where
  name := txt "exit"
  protocol := txt "vless"
  address := txt "exit.example"
  port := 443
  security := txt "tls"
  id := txt "exit"

def entryServer : ProxyConfig where
  name := txt "entry"
  protocol := txt "trojan"
  address := txt "entry.example"
  port := 443
  security := txt "tls"
  id := txt "entry"

theorem fragmentsOnWire_exitServer :
    FragmentsOnWire (buildRoot .ascii 10808 exitServer { fragment := true }) := by
  rw [fragmentsOnWire_iff .ascii 10808 exitServer { fragment := true } rfl rfl]
  rintro ⟨base, given, -⟩
  cases given

theorem not_fragmentsOnWire_exitServer :
    ¬FragmentsOnWire (buildRoot .ascii 10808 exitServer
      { fragment := true, chainBase := some entryServer }) := by
  have isChained : chained exitServer { fragment := true, chainBase := some entryServer } =
      some entryServer := by
    decide
  rw [fragmentsOnWire_iff_of_chained rfl isChained]
  decide

end GRoute.ConfigBuilder
