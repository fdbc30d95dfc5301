import GRoute.ConfigBuilder.Build
import GRoute.Link.Normal

/-!
# Security of built outbounds

The config prober reads the security of a config after trimming it and changing it to
lower case, the builder compares it verbatim. The outbound carries the security that
the prober reads only if the two readings agree.
-/

namespace GRoute.ConfigBuilder

open Text Json

variable {platform : Platform}

/-- The protocols whose outbound has the stream settings of `buildStream`. -/
def IsStream (c : ProxyConfig) : Prop :=
  c.protocol ∉ [txt "wireguard", txt "aether", txt "hysteria2", txt "tor"]

theorem buildOutbound_of_isStream {c : ProxyConfig} (isStream : IsStream c) :
    buildOutbound platform c = object [("tag", text "proxy"), ("protocol", str c.protocol),
      ("settings", protocolSettings c), ("streamSettings", buildStream platform c)] := by
  simp only [IsStream, List.mem_cons, List.not_mem_nil, or_false, not_or] at isStream
  rcases isStream with ⟨notWireguard, notAether, notHysteria2, notTor⟩
  rw [buildOutbound, if_neg notWireguard, if_neg notAether, if_neg notHysteria2, if_neg notTor]

theorem field?_buildOutbound_stream {c : ProxyConfig} (isStream : IsStream c) :
    (buildOutbound platform c).field? (txt "streamSettings") = some (buildStream platform c) := by
  rw [buildOutbound_of_isStream isStream, field?_object_cons, if_neg (by decide),
    field?_object_cons, if_neg (by decide), field?_object_cons, if_neg (by decide),
    field?_object_cons, if_pos rfl]

/-- The protocols whose outbound has no stream settings. -/
def streamless : List Text := [txt "wireguard", txt "aether", txt "tor"]

theorem field?_stream_of_streamless {c : ProxyConfig} (isStreamless : c.protocol ∈ streamless) :
    (buildOutbound platform c).field? (txt "streamSettings") = none := by
  simp only [streamless, List.mem_cons, List.not_mem_nil, or_false] at isStreamless
  rcases isStreamless with wireguard | aether | tor
  · rw [buildOutbound, if_pos wireguard]
    simp +decide [buildWireguard, field?_object_cons, field?_object_nil]
  · simp +decide [buildOutbound, aether, buildAether, localSocks, field?_object_cons,
      field?_object_nil]
  · simp +decide [buildOutbound, tor, buildTor, localSocks, field?_object_cons, field?_object_nil]

theorem not_isStream_of_streamless {c : ProxyConfig} (isStreamless : c.protocol ∈ streamless) :
    ¬IsStream c := by
  have subset : streamless ⊆ [txt "wireguard", txt "aether", txt "hysteria2", txt "tor"] := by
    decide
  intro isStream
  exact isStream (subset isStreamless)

theorem protocol_cases (c : ProxyConfig) :
    IsStream c ∨ c.protocol = txt "hysteria2" ∨ c.protocol ∈ streamless := by
  by_cases isStream : IsStream c
  · exact .inl isStream
  · simp only [IsStream, List.mem_cons, List.not_mem_nil, or_false, not_not] at isStream
    rcases isStream with wireguard | aether | hysteria2 | tor
    · exact .inr (.inr (by simp [streamless, wireguard]))
    · exact .inr (.inr (by simp [streamless, aether]))
    · exact .inr (.inl hysteria2)
    · exact .inr (.inr (by simp [streamless, tor]))

/-- The outbound has the stream settings of the config, up to the options of its socket. -/
def HasStreamOf (platform : Platform) (c : ProxyConfig) (out : Json) : Prop :=
  ∃ stream, out.field? (txt "streamSettings") = some stream ∧
    ∀ key ≠ txt "sockopt", stream.field? key = (buildStream platform c).field? key

theorem hasStreamOf_put {c : ProxyConfig} {out : Json} {key : String}
    (other : txt key ≠ txt "streamSettings") (value : Json) (has : HasStreamOf platform c out) :
    HasStreamOf platform c (out.put key value) := by
  rcases has with ⟨stream, found, same⟩
  exact ⟨stream, by rw [field?_put_of_ne _ other, found], same⟩

theorem hasStreamOf_dialThrough {c : ProxyConfig} {fields : List (Text × Json)} (tag : String)
    {stream : Json} (same : ∀ key ≠ txt "sockopt",
      stream.field? key = (buildStream platform c).field? key) :
    HasStreamOf platform c ((obj fields).put "streamSettings" (dialThrough stream tag)) := by
  refine ⟨dialThrough stream tag, field?_put_self _ _, fun key other => ?_⟩
  rw [dialThrough, field?_put_of_ne _ other.symm, same key other]

theorem buildOutbound_shape (platform : Platform) (c : ProxyConfig) :
    ∃ rest, buildOutbound platform c = object (("tag", text "proxy") :: rest) := by
  simp only [buildOutbound, buildWireguard, buildAether, buildHysteria2, buildTor, localSocks]
  split_ifs <;> exact ⟨_, rfl⟩

theorem buildOutbound_eq_obj (platform : Platform) (c : ProxyConfig) :
    ∃ fields, buildOutbound platform c = obj fields := by
  rcases buildOutbound_shape platform c with ⟨rest, shape⟩
  exact ⟨_, shape⟩

theorem optObject_buildOutbound {c : ProxyConfig} (isStream : IsStream c) :
    (buildOutbound platform c).optObject "streamSettings" = some (buildStream platform c) := by
  rw [optObject, field?_buildOutbound_stream isStream]
  rfl

theorem hasStreamOf_proxyOutbound {c : ProxyConfig} (isStream : IsStream c)
    (options : BuildOptions) : HasStreamOf platform c (proxyOutbound platform c options) := by
  have stream : (buildOutbound platform c).optObject "streamSettings" =
      some (buildStream platform c) := optObject_buildOutbound isStream
  rcases buildOutbound_eq_obj platform c with ⟨fields, shape⟩
  have dialing : HasStreamOf platform c
      (if (chained c options).isSome then chainOutbound (buildOutbound platform c)
        else if options.fragment then fragmentOutbound (buildOutbound platform c)
        else buildOutbound platform c) := by
    split_ifs
    · rw [chainOutbound, stream, Option.getD_some, shape]
      exact hasStreamOf_dialThrough "chain" fun _ _ => rfl
    · simp only [fragmentOutbound, stream]
      rw [shape]
      exact hasStreamOf_dialThrough "fragment" fun _ _ => rfl
    · exact ⟨_, field?_buildOutbound_stream isStream, fun _ _ => rfl⟩
  simp only [proxyOutbound]
  split
  · exact hasStreamOf_put (by decide) _ dialing
  · exact dialing

theorem hasStreamOf_taggedOutbound {c : ProxyConfig} (isStream : IsStream c) (tag : String) :
    HasStreamOf platform c (taggedOutbound platform tag c) :=
  hasStreamOf_put (by decide) _ ⟨_, field?_buildOutbound_stream isStream, fun _ _ => rfl⟩

/-- The security as the config prober reads it. -/
def readSecurity (platform : Platform) (c : ProxyConfig) : Text :=
  platform.casing.lowercase (trim c.security)

/-- The names under which a transport puts its settings. -/
def transportKeys : List Text :=
  [txt "tcpSettings", txt "kcpSettings", txt "wsSettings", txt "httpupgradeSettings",
    txt "xhttpSettings", txt "grpcSettings", txt "httpSettings"]

theorem field?_transportFields (c : ProxyConfig) (net : Text) {key : Text}
    (notTransport : key ∉ transportKeys) :
    (object (transportFields platform c net)).field? key = none := by
  have other (name : String) (value : Json) (isTransport : txt name ∈ transportKeys) :
      (object [(name, value)]).field? key = none := by
    rw [field?_object_cons, if_neg (by rintro rfl; exact notTransport isTransport),
      field?_object_nil]
  simp only [transportFields]
  split_ifs <;> first | exact other _ _ (by decide) | rfl

/-- The fields about security are those that `securityFields` puts. -/
theorem field?_buildStream {c : ProxyConfig} {key : Text}
    (isSecurity : key ∈ [txt "security", txt "tlsSettings", txt "realitySettings"]) :
    (buildStream platform c).field? key = (object (securityFields c)).field? key := by
  have notNetwork : txt "network" ≠ key := by
    rintro rfl
    exact absurd isSecurity (by decide)
  have notTransport : key ∉ transportKeys := by
    simp only [List.mem_cons, List.not_mem_nil, or_false] at isSecurity
    rcases isSecurity with rfl | rfl | rfl <;> decide
  simp only [buildStream]
  rw [field?_object_append, field?_object_append, field?_object_cons, if_neg notNetwork,
    field?_object_nil, field?_transportFields c _ notTransport]
  rfl

/-- The outbound carries the security that the prober reads, with its settings. -/
def CarriesSecurity (platform : Platform) (c : ProxyConfig) (out : Json) : Prop :=
  ∃ stream, out.field? (txt "streamSettings") = some stream ∧
    stream.field? (txt "security") = some (str (readSecurity platform c)) ∧
    (readSecurity platform c = txt "tls" →
      stream.field? (txt "tlsSettings") = some (tlsSettings c)) ∧
    (readSecurity platform c = txt "reality" →
      stream.field? (txt "realitySettings") = some (realitySettings c))

theorem carriesSecurity_iff_securityFields {c : ProxyConfig} {out : Json}
    (has : HasStreamOf platform c out) :
    CarriesSecurity platform c out ↔
      (object (securityFields c)).field? (txt "security") = some (str (readSecurity platform c)) ∧
        (readSecurity platform c = txt "tls" →
          (object (securityFields c)).field? (txt "tlsSettings") = some (tlsSettings c)) ∧
        (readSecurity platform c = txt "reality" →
          (object (securityFields c)).field? (txt "realitySettings") =
            some (realitySettings c)) := by
  rcases has with ⟨stream, found, same⟩
  have field {key : Text} (other : key ≠ txt "sockopt")
      (isSecurity : key ∈ [txt "security", txt "tlsSettings", txt "realitySettings"]) :
      stream.field? key = (object (securityFields c)).field? key := by
    rw [same key other, field?_buildStream isSecurity]
  rw [CarriesSecurity, found]
  simp only [Option.some.injEq, exists_eq_left',
    field (show txt "security" ≠ _ by decide) (by decide),
    field (show txt "tlsSettings" ≠ _ by decide) (by decide),
    field (show txt "realitySettings" ≠ _ by decide) (by decide)]

theorem readSecurity_of_lower {c : ProxyConfig}
    (visible : c.security.all (fun d => !isWhitespace d) = true) (isAscii : IsAscii c.security)
    (lower : c.security.map asciiLower = c.security) : readSecurity platform c = c.security :=
  ConfigParser.lowercase_trim_of_lower platform visible isAscii lower

/-- Every outbound that is built from a config of a stream protocol carries the security that
the prober reads exactly when the config has it in that form. -/
theorem carriesSecurity_iff {c : ProxyConfig} (isStream : IsStream c) {out : Json}
    (built : (∃ options, out = proxyOutbound platform c options) ∨
      ∃ tag, out = taggedOutbound platform tag c) :
    CarriesSecurity platform c out ↔ c.security = txt "tls" ∨ c.security = txt "reality" := by
  have has : HasStreamOf platform c out := by
    rcases built with ⟨options, rfl⟩ | ⟨tag, rfl⟩
    · exact hasStreamOf_proxyOutbound isStream options
    · exact hasStreamOf_taggedOutbound isStream tag
  rw [carriesSecurity_iff_securityFields has]
  by_cases reality : c.security = txt "reality"
  · have read : readSecurity platform c = txt "reality" := by
      rw [readSecurity_of_lower] <;> rw [reality] <;> decide
    rw [read, securityFields, if_pos reality]
    refine iff_of_true ⟨?_, fun isTls => absurd isTls (by decide), fun _ => ?_⟩ (Or.inr reality)
    · rw [field?_object_cons, if_pos rfl]
      rfl
    · rw [field?_object_cons, if_neg (by decide), field?_object_cons, if_pos rfl]
  by_cases tls : c.security = txt "tls"
  · have read : readSecurity platform c = txt "tls" := by
      rw [readSecurity_of_lower] <;> rw [tls] <;> decide
    rw [read, securityFields, if_neg reality, if_pos tls]
    refine iff_of_true ⟨?_, fun _ => ?_, fun isReality => absurd isReality (by decide)⟩ (Or.inl tls)
    · rw [field?_object_cons, if_pos rfl]
      rfl
    · rw [field?_object_cons, if_neg (by decide), field?_object_cons, if_pos rfl]
  · rw [securityFields, if_neg reality, if_neg tls, field?_object_nil]
    refine iff_of_false ?_ (not_or.mpr ⟨tls, reality⟩)
    rintro ⟨impossible, _⟩
    cases impossible

/-- A VLESS config with the given security. -/
def sampleVless (security : Text) : ProxyConfig where
  id := txt "1"
  name := txt "n"
  protocol := txt "vless"
  address := txt "h"
  port := 443
  security := security

theorem carriesSecurity_sampleVless :
    CarriesSecurity .ascii (sampleVless (txt "tls"))
      (proxyOutbound .ascii (sampleVless (txt "tls")) {}) := by
  have isStream : IsStream (sampleVless (txt "tls")) := by
    unfold IsStream
    decide +kernel
  exact (carriesSecurity_iff isStream (.inl ⟨_, rfl⟩)).mpr (.inl rfl)

/-- The prober reads `TLS` as TLS, and the builder makes a plain outbound of it. -/
theorem not_carriesSecurity_sampleVless :
    IsStream (sampleVless (txt "TLS")) ∧
      readSecurity .ascii (sampleVless (txt "TLS")) = txt "tls" ∧
      ¬ CarriesSecurity .ascii (sampleVless (txt "TLS"))
        (proxyOutbound .ascii (sampleVless (txt "TLS")) {}) := by
  refine ⟨by unfold IsStream; decide +kernel, by decide +kernel, ?_⟩
  rintro ⟨stream, found, security, _⟩
  have plain : ((proxyOutbound .ascii (sampleVless (txt "TLS")) {}).field?
      (txt "streamSettings")).bind (fun stream => stream.field? (txt "security")) = none := by
    rfl
  rw [found, Option.bind_some, security] at plain
  cases plain

end GRoute.ConfigBuilder
