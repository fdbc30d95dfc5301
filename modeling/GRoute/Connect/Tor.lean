import GRoute.Connect.Chain
import GRoute.ConfigBuilder.Closed

/-!
# Tor behind the tunnel

Tor that is launched through the VPN sends its connections to the inbound `tor-in`. They
must not be dispatched to an outbound that leads back to Tor's own SOCKS port. This is so
exactly if the config is a Tor config, the main screen starts it, and it finds a base that
does not lead to Tor itself.
-/

namespace GRoute.ConfigBuilder

open Text Json Xray

variable {platform : Platform} {mixedPort : ℤ} {config : ProxyConfig} {options : BuildOptions}

/-- The outbound leads to Tor's SOCKS port. -/
def ServesTor (out : Json) : Prop := ServesAt out (txt "127.0.0.1") torSocksPort

/-- The connection is dispatched to an outbound that leads to Tor. -/
def FeedsTor {Address : Type} (router : Router Address) (connection : Connection Address)
    (root : Json) : Prop :=
  ∃ tag, dispatch router connection root = some tag ∧
    ∃ out ∈ outboundsOf root, stringOf out "tag" = some tag ∧ ServesTor out

/-- No connection that arrives from Tor goes back to it. -/
def NeverFeedsTor (root : Json) : Prop :=
  ∀ (Address : Type) (router : Router Address) (connection : Connection Address),
    connection.inbound = txt "tor-in" → ¬FeedsTor router connection root

def serverProtocols : List Text :=
  [txt "vless", txt "vmess", txt "trojan", txt "shadowsocks", txt "http", txt "socks"]

/-- The config is a Tor config, or its server is Tor's SOCKS port. -/
def LeadsToTor (c : ProxyConfig) : Prop :=
  c.protocol = txt "tor" ∨
    c.protocol ∈ serverProtocols ∧ c.address = txt "127.0.0.1" ∧ c.port = torSocksPort

theorem servesTor_iff_of_settings {out : Json} {list : String} {address : Text} {port : ℤ}
    {rest : List (String × Json)} (isList : list = "servers" ∨ list = "vnext")
    (found : out.field? (txt "settings") = some (object [(list,
      arr [object (("address", str address) :: ("port", int port) :: rest)])])) :
    ServesTor out ↔ address = txt "127.0.0.1" ∧ port = torSocksPort := by
  have only : serversOf out =
      [object (("address", str address) :: ("port", int port) :: rest)] := by
    rw [serversOf, found]
    rcases isList with rfl | rfl <;>
      simp +decide [elementsOf, field?_object_cons, field?_object_nil]
  simp +decide only [ServesTor, ServesAt, only, List.mem_singleton, exists_eq_left,
    field?_object_cons, if_true, if_false, Option.some.injEq, Json.str.injEq, int_inj]

theorem not_servesTor_of_serversOf {out : Json} (none : serversOf out = []) : ¬ServesTor out := by
  simp [ServesTor, ServesAt, none]

theorem servesTor_localSocks_iff (port : ℤ) :
    ServesTor (localSocks port) ↔ port = torSocksPort := by
  have found : (localSocks port).field? (txt "settings") =
      some (object [("servers", arr [object [("address", text "127.0.0.1"),
        ("port", int port)]])]) := by
    simp +decide only [localSocks, field?_object_cons, if_true, if_false]
  apply Iff.trans (servesTor_iff_of_settings (.inl rfl) found)
  simp

theorem settings_stream_outbound (platform : Platform) (c : ProxyConfig) :
    (object [("tag", text "proxy"), ("protocol", str c.protocol),
      ("settings", protocolSettings c), ("streamSettings", buildStream platform c)]).field?
        (txt "settings") = some (protocolSettings c) := by
  simp +decide only [field?_object_cons, if_true, if_false]

theorem protocolSettings_cases (c : ProxyConfig) :
    (c.protocol ∈ serverProtocols ∧ ∃ list rest, (list = "servers" ∨ list = "vnext") ∧
      protocolSettings c = object [(list, arr [object (("address", str c.address) ::
        ("port", int c.port) :: rest)])]) ∨
      c.protocol ∉ serverProtocols ∧ protocolSettings c = object [] := by
  simp only [protocolSettings]
  split_ifs with vless vmess trojan shadowsocks httpOrSocks credentials
  · exact .inl ⟨by simp [vless, serverProtocols], _, _, .inr rfl, rfl⟩
  · exact .inl ⟨by simp [vmess, serverProtocols], _, _, .inr rfl, rfl⟩
  · exact .inl ⟨by simp [trojan, serverProtocols], _, _, .inl rfl, rfl⟩
  · exact .inl ⟨by simp [shadowsocks, serverProtocols], _, _, .inl rfl, rfl⟩
  · exact .inl ⟨by rcases httpOrSocks with same | same <;> simp [same, serverProtocols],
      _, _, .inl rfl, rfl⟩
  · exact .inl ⟨by rcases httpOrSocks with same | same <;> simp [same, serverProtocols],
      _, _, .inl rfl, rfl⟩
  · refine .inr ⟨?_, rfl⟩
    simp only [not_or] at httpOrSocks
    simp [serverProtocols, vless, vmess, trojan, shadowsocks, httpOrSocks]

theorem servesTor_stream_iff {platform : Platform} {c : ProxyConfig} :
    ServesTor (object [("tag", text "proxy"), ("protocol", str c.protocol),
      ("settings", protocolSettings c), ("streamSettings", buildStream platform c)]) ↔
      c.protocol ∈ serverProtocols ∧ c.address = txt "127.0.0.1" ∧ c.port = torSocksPort := by
  have found := settings_stream_outbound platform c
  rcases protocolSettings_cases c with ⟨isServer, list, rest, isList, shape⟩ | ⟨notServer, shape⟩
  · rw [shape] at found ⊢
    rw [servesTor_iff_of_settings isList found]
    simp [isServer]
  · rw [shape] at found ⊢
    refine iff_of_false (not_servesTor_of_serversOf ?_) (fun serves => notServer serves.1)
    rw [serversOf, found]
    decide

theorem serversOf_buildWireguard (c : ProxyConfig) :
    serversOf (buildWireguard platform c) = [] := by
  have noList {key : String} (other : ∀ name ∈ ["secretKey", "address", "peers", "mtu", "reserved"],
      txt name ≠ txt key) {fields : List (String × Json)}
      (named : ∀ field ∈ fields, field.1 ∈ ["secretKey", "address", "peers", "mtu", "reserved"]) :
      elementsOf (object fields) key = [] :=
    elementsOf_of_absent fun field mem => other _ (named field mem)
  have found : ∃ fields, (buildWireguard platform c).field? (txt "settings") =
      some (object fields) ∧
      ∀ field ∈ fields, field.1 ∈ ["secretKey", "address", "peers", "mtu", "reserved"] := by
    simp +decide only [buildWireguard, field?_object_cons, if_true, if_false]
    refine ⟨_, rfl, ?_⟩
    split_ifs <;> simp
  rcases found with ⟨fields, isSettings, named⟩
  have servers : elementsOf (object fields) "servers" = [] := noList (by decide) named
  have vnext : elementsOf (object fields) "vnext" = [] := noList (by decide) named
  rw [serversOf, isSettings]
  simp only [servers, vnext, List.append_nil]

theorem serversOf_buildHysteria2 (c : ProxyConfig) : serversOf (buildHysteria2 c) = [] := by
  simp +decide [serversOf, elementsOf, buildHysteria2, field?_object_cons, field?_object_nil]

theorem servesTor_buildOutbound_iff {c : ProxyConfig} :
    ServesTor (buildOutbound platform c) ↔ LeadsToTor c := by
  have notLeads {protocol : Text} (isProtocol : c.protocol = protocol)
      (other : protocol ∉ txt "tor" :: serverProtocols) : ¬LeadsToTor c := by
    rintro (isTor | ⟨isServer, -⟩)
    · exact other (isProtocol ▸ isTor ▸ List.mem_cons_self)
    · exact other (isProtocol ▸ List.mem_cons_of_mem _ isServer)
  rw [buildOutbound]
  split_ifs with wireguard aether hysteria2 tor
  · exact iff_of_false (not_servesTor_of_serversOf (serversOf_buildWireguard c))
      (notLeads wireguard (by decide))
  · apply iff_of_false _ (notLeads aether (by decide))
    rw [buildAether, servesTor_localSocks_iff]
    decide
  · exact iff_of_false (not_servesTor_of_serversOf (serversOf_buildHysteria2 c))
      (notLeads hysteria2 (by decide))
  · exact iff_of_true ((servesTor_localSocks_iff _).mpr rfl) (.inl tor)
  · rw [servesTor_stream_iff]
    simp [LeadsToTor, tor]

theorem servesTor_put_iff {out : Json} {key : String} (other : txt key ≠ txt "settings")
    (value : Json) : ServesTor (out.put key value) ↔ ServesTor out := by
  simp only [ServesTor, ServesAt, serversOf, field?_put_of_ne _ other]

theorem servesTor_fragmentOutbound_iff {out : Json} :
    ServesTor (fragmentOutbound out) ↔ ServesTor out := by
  rw [fragmentOutbound]
  split
  · exact servesTor_put_iff (by decide) _
  · exact Iff.rfl

theorem servesTor_proxyOutbound_iff :
    ServesTor (proxyOutbound platform config options) ↔ LeadsToTor config := by
  rw [← servesTor_buildOutbound_iff]
  have dialing : ServesTor
      (if (chained config options).isSome then chainOutbound (buildOutbound platform config)
        else if options.fragment then fragmentOutbound (buildOutbound platform config)
        else buildOutbound platform config) ↔ ServesTor (buildOutbound platform config) := by
    split_ifs
    · exact servesTor_put_iff (by decide) _
    · exact servesTor_fragmentOutbound_iff
    · exact Iff.rfl
  simp only [proxyOutbound]
  split
  · rw [muxOutbound, servesTor_put_iff (by decide)]
    exact dialing
  · exact dialing

theorem eq_tagged_of_torbase {out : Json} (mem : out ∈ outbounds platform config options)
    (has : HasTag out "torbase") :
    ∃ base, torUnder config options = some base ∧ out = taggedOutbound platform "torbase" base := by
  have other {tag : String} (hasOther : HasTag out tag) (differs : txt tag ≠ txt "torbase") :
      ∃ base, torUnder config options = some base ∧
        out = taggedOutbound platform "torbase" base :=
    absurd (hasOther.tag_eq has) differs
  rcases List.mem_cons.mp mem with isFirst | isLater
  · subst isFirst
    exact other hasTag_firstOutbound (by decide)
  · simp only [laterOutbounds, List.mem_append, List.mem_ite_nil_right, List.mem_cons,
      List.not_mem_nil, or_false, List.mem_map, Option.mem_toList] at isLater
    rcases isLater with ((((⟨-, rfl⟩ | rfl | rfl) | ⟨-, rfl⟩) | ⟨base, isBase, rfl⟩) |
      ⟨base, isBase, rfl⟩) | ⟨-, rfl⟩
    · exact other (hasTag_object "fragment" _) (by decide)
    · exact other (hasTag_object "direct" _) (by decide)
    · exact other (hasTag_object "block" _) (by decide)
    · exact other (hasTag_object "tor-out" _) (by decide)
    · exact ⟨base, isBase, rfl⟩
    · exact other (hasTag_taggedOutbound "chain" base) (by decide)
    · exact other (hasTag_object "dns-out" _) (by decide)

theorem dispatch_torbase {Address : Type} {router : Router Address}
    {connection : Connection Address} (isTor : config.protocol = txt "tor")
    (fromTor : connection.inbound = txt "tor-in")
    (hasBase : (torUnder config options).isSome = true) :
    dispatch router connection (buildRoot platform mixedPort config options) =
      some (txt "torbase") := by
  have notOnion : onion config options = false := by
    simp [onion, isTor]
  have first : (ruleTable config options).find? (·.Matches router connection) = some .torBase := by
    simp only [ruleTable, notOnion, hasBase, Bool.false_eq_true, if_false, if_true, List.nil_append,
      List.append_assoc, List.cons_append]
    exact List.find?_cons_of_pos (matches_torBase_iff.mpr fromTor)
  rw [dispatch_buildRoot, first]
  rfl

theorem feedsTor_iff_of_base {Address : Type} {router : Router Address}
    {connection : Connection Address} {base : ProxyConfig} (isTor : config.protocol = txt "tor")
    (fromTor : connection.inbound = txt "tor-in") (isBase : options.torBase = some base) :
    FeedsTor router connection (buildRoot platform mixedPort config options) ↔ LeadsToTor base := by
  have under : torUnder config options = some base := by
    rw [torUnder, if_pos isTor, isBase]
  have tagged : ServesTor (taggedOutbound platform "torbase" base) ↔ LeadsToTor base := by
    rw [taggedOutbound, servesTor_put_iff (by decide), servesTor_buildOutbound_iff]
  have dispatched : dispatch router connection (buildRoot platform mixedPort config options) =
      some (txt "torbase") := dispatch_torbase isTor fromTor (by rw [under]; rfl)
  constructor
  · rintro ⟨tag, isDispatched, out, mem, hasTag, serves⟩
    rw [dispatched, Option.some.injEq] at isDispatched
    rw [outboundsOf_buildRoot] at mem
    rcases eq_tagged_of_torbase mem (hasTag_iff.mpr (isDispatched ▸ hasTag)) with
      ⟨other, isOther, rfl⟩
    rw [under, Option.some.injEq] at isOther
    rw [← isOther] at serves
    exact tagged.mp serves
  · intro leads
    refine ⟨txt "torbase", dispatched, taggedOutbound platform "torbase" base, ?_,
      (hasTag_taggedOutbound "torbase" base).stringOf_eq, tagged.mpr leads⟩
    rw [outboundsOf_buildRoot, outbounds, laterOutbounds, under]
    simp

/-- A connection from Tor, to no place that a rule names. -/
def fromTor (domain : Option Text) : Connection Unit where
  inbound := txt "tor-in"
  domain := domain
  ip := none
  port := 80
  network := .tcp

theorem feedsTor_of_noBase (isTor : config.protocol = txt "tor")
    (throughProxy : options.directOnly = false) (noBase : options.torBase = none) :
    FeedsTor Router.bare (fromTor none) (buildRoot platform mixedPort config options) := by
  have notOnion : onion config options ≠ true := by
    simp [onion, isTor]
  have notUnder : (torUnder config options).isSome ≠ true := by
    simp [torUnder, noBase]
  have none : (ruleTable config options).find? (·.Matches Router.bare (fromTor none)) = none := by
    rw [List.find?_eq_none]
    intro row mem
    rcases mem_ruleTable.mp mem with ⟨on, -⟩ | ⟨on, -⟩ | ⟨-, rfl | rfl⟩ | ⟨-, rfl | rfl⟩ |
      ⟨-, rfl | rfl⟩ | rfl
    · exact absurd on notOnion
    · exact absurd on notUnder
    all_goals decide +kernel
  refine ⟨txt "proxy", ?_, proxyOutbound platform config options, ?_,
    hasTag_proxyOutbound.stringOf_eq, servesTor_proxyOutbound_iff.mpr (.inl isTor)⟩
  · rw [dispatch_buildRoot, none]
    rfl
  · rw [outboundsOf_buildRoot, outbounds, throughProxy]
    exact List.mem_cons_self

theorem feedsTor_of_onion (routed : onion config options = true) :
    FeedsTor Router.bare (fromTor (some (txt ".onion")))
      (buildRoot platform mixedPort config options) := by
  have isOnion : IsOnion (fromTor (some (txt ".onion"))) := ⟨_, rfl, List.suffix_refl _⟩
  refine ⟨txt "tor-out", dispatch_onion isOnion routed, torOut, ?_,
    (hasTag_object "tor-out" _).stringOf_eq, ?_⟩
  · rw [outboundsOf_buildRoot, outbounds, laterOutbounds]
    simp [routed]
  · exact (servesTor_iff_of_settings (.inl rfl) rfl).mpr ⟨rfl, rfl⟩

/-- The outbounds of a Tor config feed Tor unless it has a base that does not. -/
theorem neverFeedsTor_iff (isTor : config.protocol = txt "tor")
    (throughProxy : options.directOnly = false) :
    NeverFeedsTor (buildRoot platform mixedPort config options) ↔
      ∃ base, options.torBase = some base ∧ ¬LeadsToTor base := by
  constructor
  · intro never
    cases isBase : options.torBase with
    | none => exact absurd (feedsTor_of_noBase isTor throughProxy isBase) (never _ _ _ rfl)
    | some base =>
        refine ⟨base, rfl, ?_⟩
        intro leads
        exact never Unit Router.bare (fromTor none) rfl
          ((feedsTor_iff_of_base isTor rfl isBase).mpr leads)
  · rintro ⟨base, isBase, notLeads⟩ Address router connection arrives feeds
    exact notLeads ((feedsTor_iff_of_base isTor arrives isBase).mp feeds)

end GRoute.ConfigBuilder

namespace GRoute.Connect

open Text ConfigBuilder

variable {platform : Platform} {store : ConfigStore} {mixedPort : ℤ} {config : ProxyConfig}

/-- If Tor is launched through the VPN, its connections do not come back to it. -/
def TorNeverFed : Start → Prop
  | .core launch =>
      ∀ tor, launch.tor = some tor → launchesThroughVpn tor = true → NeverFeedsTor launch.root
  | _ => True

/-- The base of the Tor config is in the store and does not lead to Tor. -/
def HasTorBase (store : ConfigStore) (config : ProxyConfig) : Prop :=
  config.torBaseId ≠ [] ∧ ∃ base, store.find config.torBaseId = some base ∧ ¬LeadsToTor base

/-- The condition for a request that is not turned down. -/
def TorSafe (store : ConfigStore) (request : Request) (config : ProxyConfig) : Prop :=
  (config.protocol = txt "tor" →
    launchesThroughVpn (torExtra config) = false ∨ request.IsMain ∧ HasTorBase store config) ∧
    (config.protocol ≠ txt "tor" → ¬(request.IsMain ∧ store.settings.onionRouting = true))

theorem torNeverFed_core_iff {options : BuildOptions} {launch : Launch}
    (throughProxy : options.directOnly = false) (isTor : config.protocol = txt "tor")
    (extra : launch.tor = some (torExtra config))
    (root : launch.root = buildRoot platform mixedPort config options) :
    TorNeverFed (.core launch) ↔ launchesThroughVpn (torExtra config) = false ∨
      ∃ base, options.torBase = some base ∧ ¬LeadsToTor base := by
  have never : NeverFeedsTor launch.root ↔
      ∃ base, options.torBase = some base ∧ ¬LeadsToTor base := by
    rw [root]
    exact neverFeedsTor_iff isTor throughProxy
  rw [← never, TorNeverFed, extra]
  simp only [Option.some.injEq, forall_eq']
  cases launchesThroughVpn (torExtra config) <;> simp

theorem torNeverFed_of_noTor {launch : Launch} (extra : launch.tor = none) :
    TorNeverFed (.core launch) := by
  intro tor isTor
  rw [extra] at isTor
  cases isTor

theorem torBase_mainOptions_iff (isTor : config.protocol = txt "tor") :
    (∃ base, (mainOptions store config).torBase = some base ∧ ¬LeadsToTor base) ↔
      HasTorBase store config := by
  by_cases noId : config.torBaseId = []
  · simp [mainOptions, HasTorBase, noId]
  · simp [mainOptions, HasTorBase, noId, isTor]

/-- The main screen launches Tor through the VPN whenever it routes onion domains. -/
theorem torNeverFed_onion_iff {launch : Launch} (notTor : config.protocol ≠ txt "tor")
    (extra : launch.tor = if store.settings.onionRouting then some (txt "|1") else none)
    (root : launch.root = buildRoot platform mixedPort config (mainOptions store config)) :
    TorNeverFed (.core launch) ↔ ¬store.settings.onionRouting = true := by
  by_cases routing : store.settings.onionRouting = true
  · rw [if_pos routing] at extra
    apply iff_of_false _ (not_not_intro routing)
    intro never
    have routed : onion config (mainOptions store config) = true := by
      simp [onion, mainOptions, routing, notTor]
    have neverFeeds : NeverFeedsTor launch.root := never _ extra (by decide)
    rw [root] at neverFeeds
    exact neverFeeds _ _ _ rfl (feedsTor_of_onion routed)
  · rw [if_neg routing] at extra
    exact iff_of_true (torNeverFed_of_noTor extra) routing

theorem torNeverFed_proceedConnect_iff {connected : Bool} :
    TorNeverFed (proceedConnect platform store mixedPort connected config) ↔
      connected = true ∨ config.protocol = txt "ikev2" ∨
        TorSafe store (.main connected config) config := by
  rw [proceedConnect]
  by_cases isConnected : connected = true
  · simp [isConnected, TorNeverFed]
  · by_cases isIke : config.protocol = txt "ikev2"
    · simp [isIke, TorNeverFed, isConnected]
    · rw [if_neg isConnected, if_neg isIke]
      simp only [isConnected, isIke, false_or, Bool.false_eq_true, TorSafe, Request.IsMain,
        true_and]
      by_cases isTor : config.protocol = txt "tor"
      · rw [torNeverFed_core_iff rfl isTor (by simp [isTor]) rfl, torBase_mainOptions_iff isTor]
        simp [isTor]
      · rw [torNeverFed_onion_iff isTor (by simp [isTor]) rfl]
        simp [isTor]

theorem torNeverFed_launch_iff {options : BuildOptions} (throughProxy : options.directOnly = false)
    (noBase : options.torBase = none) :
    TorNeverFed (.core (launch platform mixedPort config options)) ↔
      (config.protocol = txt "tor" → launchesThroughVpn (torExtra config) = false) := by
  by_cases isTor : config.protocol = txt "tor"
  · rw [torNeverFed_core_iff throughProxy isTor (by simp [launch, isTor]) rfl, noBase]
    simp [isTor]
  · exact iff_of_true (torNeverFed_of_noTor (by simp [launch, isTor])) (absurd · isTor)

theorem torSafe_iff_of_not_isMain {request : Request} (notMain : ¬request.IsMain) :
    TorSafe store request config ↔
      (config.protocol = txt "tor" → launchesThroughVpn (torExtra config) = false) := by
  simp [TorSafe, notMain]

/-- Tor is never fed by itself, exactly if the request is turned down, goes to IKE, or the
condition on the config holds. -/
theorem torNeverFed_start_iff {request : Request}
    (requests : requested store request = some config) :
    TorNeverFed (start platform store mixedPort request) ↔
      request.Refused ∨ request.IsMain ∧ config.protocol = txt "ikev2" ∨
        TorSafe store request config := by
  cases request with
  | main connected other =>
      cases requests
      simp only [start, Request.Refused, Request.IsMain, true_and]
      exact torNeverFed_proceedConnect_iff
  | tile permitted =>
      rw [torSafe_iff_of_not_isMain id]
      simp only [start, startTunnel, Request.Refused, Request.IsMain, false_and, false_or]
      rw [show tileConfig store = some config from requests]
      cases permitted with
      | false => simp [TorNeverFed]
      | true =>
          simp only [Bool.not_true, Bool.false_eq_true, if_false, Bool.true_eq_false, false_or]
          exact torNeverFed_launch_iff rfl rfl
  | switch tearingDown other =>
      cases requests
      rw [torSafe_iff_of_not_isMain id]
      simp only [start, switchTunnel, Request.Refused, Request.IsMain, false_and, false_or]
      cases tearingDown with
      | true => simp [TorNeverFed]
      | false =>
          simp only [Bool.false_eq_true, if_false, false_or]
          exact torNeverFed_launch_iff rfl rfl
  | reconnect connected permitted other =>
      cases requests
      rw [torSafe_iff_of_not_isMain id]
      simp only [start, reconnectIfConnected, Request.Refused, Request.IsMain, false_and, false_or]
      cases connected with
      | false => simp [TorNeverFed]
      | true =>
          cases permitted with
          | false => simp [TorNeverFed]
          | true =>
              simp only [Bool.not_true, Bool.false_eq_true, if_false, Bool.true_eq_false, or_self,
                false_or]
              exact torNeverFed_launch_iff rfl rfl

def torSelector : ProxyConfig where
  id := txt "onion"
  protocol := txt "tor"
  address := txt "127.0.0.1"
  port := torSocksPort
  name := txt "onion"
  torThroughVpn := true
  torBaseId := txt "base"

def torHop : ProxyConfig where
  id := txt "base"
  protocol := txt "vless"
  address := txt "h"
  port := 443
  name := txt "base"

theorem torNeverFed_torSelector :
    TorNeverFed (start .ascii (ConfigStore.run [.add torHop, .add torSelector]) 10626
      (.main false torSelector)) :=
  (torNeverFed_start_iff rfl).mpr (.inr (.inr ⟨fun _ => .inr ⟨trivial, by decide, torHop, rfl, by
    rintro (isTor | ⟨-, isLocal, -⟩)
    · exact absurd isTor (by decide)
    · exact absurd isLocal (by decide)⟩, fun notTor => absurd rfl notTor⟩))

/-- The base is deleted, and what Tor sends to the tunnel comes back to Tor. -/
theorem not_torNeverFed_torSelector :
    ¬TorNeverFed (start .ascii
      (ConfigStore.run [.add torHop, .add torSelector, .delete (txt "base")]) 10626
      (.main false torSelector)) := by
  intro never
  rcases torNeverFed_proceedConnect_iff.mp never with connected | isIke | ⟨safe, -⟩
  · cases connected
  · exact absurd isIke (by decide)
  · rcases safe rfl with direct | ⟨-, -, base, found, -⟩
    · exact absurd direct (by decide)
    · have gone : (ConfigStore.run [.add torHop, .add torSelector, .delete (txt "base")]).find
          torSelector.torBaseId = none := by decide
      rw [gone] at found
      cases found

end GRoute.Connect
