import GRoute.ConfigBuilder.Chain
import GRoute.ConfigBuilder.Security

/-!
# Pinned certificates

The outbound asks for the certificate that the config pins if the pin is valid and the outbound
has TLS settings: those of Hysteria2, and the others whose security is `tls` to the letter.
-/

namespace GRoute.ConfigBuilder

open Text Json

variable {platform : Platform} {c : ProxyConfig}

/-- The pin of the certificate for which an outbound asks. -/
def pinOf (out : Json) : Option Json :=
  ((out.field? (txt "streamSettings")).bind (·.field? (txt "tlsSettings"))).bind
    (·.field? (txt "pinnedPeerCertSha256"))

/-- The outbound of the config has TLS settings. -/
def UsesTls (c : ProxyConfig) : Prop :=
  c.protocol = txt "hysteria2" ∨
    c.protocol ∉ [txt "wireguard", txt "aether", txt "hysteria2", txt "tor"] ∧
      c.security = txt "tls"

instance (c : ProxyConfig) : Decidable (UsesTls c) := inferInstanceAs (Decidable (_ ∨ _))

/-- The config makes the core ask for the certificate. -/
def Pins (c : ProxyConfig) (pin : Text) : Prop :=
  UsesTls c ∧ c.pinnedCertSha256 = pin ∧ CertPin.isValid pin = true

instance (c : ProxyConfig) (pin : Text) : Decidable (Pins c pin) :=
  inferInstanceAs (Decidable (_ ∧ _))

theorem field?_pinField (c : ProxyConfig) :
    (object (pinField c)).field? (txt "pinnedPeerCertSha256") =
      if CertPin.isValid c.pinnedCertSha256 then some (str c.pinnedCertSha256) else none := by
  rw [pinField]
  split
  · rw [field?_object_cons, if_pos rfl]
  · rfl

theorem field?_tlsSettings (c : ProxyConfig) :
    (tlsSettings c).field? (txt "pinnedPeerCertSha256") =
      (object (pinField c)).field? (txt "pinnedPeerCertSha256") := by
  have noAlpn : (object (if commaParts c.alpn = [] then [] else [("alpn", csvArray c.alpn)])).field?
      (txt "pinnedPeerCertSha256") = none := by
    split
    · rfl
    · rw [field?_object_cons, if_neg (by decide), field?_object_nil]
  simp only [tlsSettings]
  rw [field?_object_append, field?_object_append, field?_object_cons, if_neg (by decide),
    field?_object_cons, if_neg (by decide), field?_object_nil, noAlpn, Option.none_or,
    Option.or_none]

theorem pinOf_buildHysteria2 : pinOf (buildHysteria2 c) =
    (object (pinField c)).field? (txt "pinnedPeerCertSha256") := by
  simp +decide only [pinOf, buildHysteria2, field?_object_cons, field?_object_append,
    field?_object_nil, if_true, if_false, Option.bind_some, Option.some_or, Option.none_or]

theorem pinOf_buildOutbound_stream (isStream : IsStream c) :
    pinOf (buildOutbound platform c) =
      if c.security = txt "tls" then (object (pinField c)).field? (txt "pinnedPeerCertSha256")
      else none := by
  rw [pinOf, field?_buildOutbound_stream isStream, Option.bind_some,
    field?_buildStream (by decide), securityFields]
  by_cases isReality : c.security = txt "reality"
  · rw [if_pos isReality, isReality, if_neg (by decide), field?_object_cons, if_neg (by decide),
      field?_object_cons, if_neg (by decide)]
    rfl
  · rw [if_neg isReality]
    by_cases isTls : c.security = txt "tls"
    · rw [if_pos isTls, if_pos isTls, field?_object_cons, if_neg (by decide), field?_object_cons,
        if_pos rfl, Option.bind_some, field?_tlsSettings]
    · rw [if_neg isTls, if_neg isTls]
      rfl

theorem pinOf_buildOutbound : pinOf (buildOutbound platform c) =
    if UsesTls c then (object (pinField c)).field? (txt "pinnedPeerCertSha256") else none := by
  rcases protocol_cases c with isStream | isHysteria2 | isStreamless
  · have notHysteria2 : c.protocol ≠ txt "hysteria2" := by
      intro isHysteria2
      rw [IsStream, isHysteria2] at isStream
      exact isStream (by decide)
    have tlsIff : UsesTls c ↔ c.security = txt "tls" := by
      rw [UsesTls, or_iff_right notHysteria2]
      exact and_iff_right isStream
    rw [pinOf_buildOutbound_stream isStream]
    simp only [tlsIff]
  · have tls : UsesTls c := .inl isHysteria2
    rw [if_pos tls, buildOutbound_of_hysteria2 isHysteria2, pinOf_buildHysteria2]
  · have noTls : ¬ UsesTls c := by
      rintro (isHysteria2 | ⟨stream, -⟩)
      · rw [isHysteria2] at isStreamless
        exact absurd isStreamless (by decide)
      · exact not_isStream_of_streamless isStreamless stream
    rw [if_neg noTls, pinOf, field?_stream_of_streamless isStreamless]
    rfl

theorem field?_optObject (o : Json) (name : String) (key : Text) :
    ((o.optObject name).getD (object [])).field? key =
      (o.field? (txt name)).bind (·.field? key) := by
  rw [optObject]
  cases o.field? (txt name) with
  | none => rfl
  | some value => cases value <;> rfl

theorem pinOf_dialThrough {fields : List (Text × Json)} {stream : Json} (tag : String)
    (sameTls : stream.field? (txt "tlsSettings") =
      ((obj fields).field? (txt "streamSettings")).bind (·.field? (txt "tlsSettings"))) :
    pinOf ((obj fields).put "streamSettings" (dialThrough stream tag)) = pinOf (obj fields) := by
  rw [pinOf, field?_put_self, Option.bind_some, dialThrough, field?_put_of_ne _ (by decide),
    sameTls, pinOf]

theorem pinOf_proxyOutbound (options : BuildOptions) :
    pinOf (proxyOutbound platform c options) = pinOf (buildOutbound platform c) := by
  rcases buildOutbound_eq_obj platform c with ⟨fields, shape⟩
  have dialing : pinOf (if (chained c options).isSome then chainOutbound (buildOutbound platform c)
      else if options.fragment then fragmentOutbound (buildOutbound platform c)
      else buildOutbound platform c) = pinOf (buildOutbound platform c) := by
    rw [shape]
    split_ifs
    · exact pinOf_dialThrough "chain" (field?_optObject _ _ _)
    · have same := field?_optObject (obj fields) "streamSettings" (txt "tlsSettings")
      rw [fragmentOutbound]
      cases isObject : (obj fields).optObject "streamSettings" with
      | none => rfl
      | some stream =>
          rw [isObject, Option.getD_some] at same
          exact pinOf_dialThrough "fragment" same
    · rfl
  simp only [proxyOutbound]
  split
  · rw [← dialing, muxOutbound, pinOf, field?_put_of_ne _ (by decide), pinOf]
  · exact dialing

theorem pins_iff (options : BuildOptions) {pin : Text} :
    pinOf (proxyOutbound platform c options) = some (str pin) ↔ Pins c pin := by
  rw [pinOf_proxyOutbound, pinOf_buildOutbound, field?_pinField, Pins]
  constructor
  · intro found
    split_ifs at found with tls valid
    rw [Option.some.injEq, Json.str.injEq] at found
    rw [found] at valid
    exact ⟨tls, found, valid⟩
  · rintro ⟨tls, rfl, valid⟩
    rw [if_pos tls, if_pos valid]

end GRoute.ConfigBuilder
