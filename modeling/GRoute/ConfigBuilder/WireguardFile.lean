import GRoute.ConfigBuilder.Reading
import GRoute.ConfigParser.WireguardConf
import GRoute.Xray

/-!
# WireGuard files in the core

A setting of a WireGuard file is followed from its line through the config into the outbound. The
preshared key is kept in the config and not built, of several `Address` lines only the last is kept,
an MTU that is not positive is left out, and an IPv6 host loses its brackets.
-/

namespace GRoute.ConfigBuilder

open Text Json Xray ConfigParser Sections

/-- An endpoint as the core reads it, with brackets around an IPv6 host. -/
def hostPort (host : Text) (port : ℤ) : Text :=
  (if unit ':' ∈ host then txt "[" ++ host ++ txt "]" else host) ++ txt ":" ++ ofInt port

/-- The settings of the outbound and those of its peer have what the file says. -/
structure CarriesSettings (platform : Platform) (text : Text) (peer : Section Text Text Text)
    (settings peerOut : Json) : Prop where
  secretKey : settings.field? (txt "secretKey") =
    some (str (textOf "privatekey" (interfaceEntries platform text)))
  publicKey : peerOut.field? (txt "publicKey") = some (str (textOf "publickey" peer.entries))
  preSharedKey : textOf "presharedkey" peer.entries ≠ [] →
    peerOut.field? (txt "preSharedKey") = some (str (textOf "presharedkey" peer.entries))
  addresses : ∀ value, (txt "address", value) ∈ interfaceEntries platform text →
    ∀ part ∈ commaParts value, str part ∈ elementsOf settings "address"
  mtu : ∀ number, toIntOrNull (textOf "mtu" (interfaceEntries platform text)) = some number →
    settings.field? (txt "mtu") = some (int number)
  endpoint : ∀ host port, readEndpoint (textOf "endpoint" peer.entries) = some (host, port) →
    peerOut.field? (txt "endpoint") = some (str (hostPort host port))

/-- The outbound has one peer, and the settings of the file. -/
def CarriesFile (platform : Platform) (text : Text) (peer : Section Text Text Text) (out : Json) :
    Prop :=
  ∃ settings peerOut, out.field? (txt "settings") = some settings ∧
    elementsOf settings "peers" = [peerOut] ∧ CarriesSettings platform text peer settings peerOut

/-- The file has no setting that gets lost. -/
structure NothingToLose (platform : Platform) (text : Text) (peer : Section Text Text Text) :
    Prop where
  preSharedKey : textOf "presharedkey" peer.entries = []
  addresses : ∀ value, (txt "address", value) ∈ interfaceEntries platform text →
    ∀ part ∈ commaParts value,
      part ∈ commaParts (textOf "address" (interfaceEntries platform text))
  mtu : ∀ number, toIntOrNull (textOf "mtu" (interfaceEntries platform text)) = some number →
    0 < number
  endpoint : ∀ host port, readEndpoint (textOf "endpoint" peer.entries) = some (host, port) →
    unit ':' ∉ host

variable {platform : Platform} {c : ProxyConfig}

def wireguardPeer (c : ProxyConfig) : Json :=
  object [("publicKey", str c.publicKey), ("endpoint", str (c.address ++ txt ":" ++ ofInt c.port)),
    ("allowedIPs", arr [text "0.0.0.0/0", text "::/0"])]

/-- The bytes that WARP reserves in a packet. -/
def reservedField (c : ProxyConfig) : List (String × Json) :=
  let reserved := ((split c.reserved (unit ',')).map trim).filterMap toIntOrNull
  if reserved.length = 3 then [("reserved", arr (reserved.map int))] else []

/-- The settings of a server other than that of WARP. -/
def wireguardSettings (c : ProxyConfig) : Json :=
  object ([("secretKey", str c.privateKey), ("address", csvArray c.localAddress),
      ("peers", arr [wireguardPeer c])] ++
    (if c.mtu > 0 then [("mtu", int c.mtu)] else []) ++ reservedField c)

theorem field?_settings_buildWireguard
    (notWarp : equalsIgnoreCase platform c.address (txt "engage.cloudflareclient.com") = false) :
    (buildWireguard platform c).field? (txt "settings") = some (wireguardSettings c) := by
  simp +decide only [buildWireguard, notWarp, field?_object_cons, if_true, if_false]
  rfl

theorem field?_secretKey_wireguardSettings :
    (wireguardSettings c).field? (txt "secretKey") = some (str c.privateKey) := by
  rw [wireguardSettings, List.append_assoc, List.cons_append, field?_object_cons, if_pos rfl]

theorem elementsOf_peers_wireguardSettings :
    elementsOf (wireguardSettings c) "peers" = [wireguardPeer c] := by
  apply elementsOf_of_field?
  rw [wireguardSettings, List.append_assoc, field?_object_append]
  simp +decide only [field?_object_cons, if_true, if_false, Option.some_or]

theorem elementsOf_address_wireguardSettings :
    elementsOf (wireguardSettings c) "address" = (commaParts c.localAddress).map str := by
  apply elementsOf_of_field?
  rw [wireguardSettings, List.append_assoc, field?_object_append]
  simp +decide only [field?_object_cons, if_true, if_false, Option.some_or]
  rfl

theorem field?_mtu_wireguardSettings : (wireguardSettings c).field? (txt "mtu") =
    if c.mtu > 0 then some (int c.mtu) else none := by
  have reserved : (object (reservedField c)).field? (txt "mtu") = none := by
    simp only [reservedField]
    split
    · simp +decide [field?_object_cons, field?_object_nil]
    · rfl
  rw [wireguardSettings, field?_object_append, field?_object_append, reserved, Option.or_none]
  simp +decide only [field?_object_cons, field?_object_nil, if_false, Option.none_or]
  split
  · rw [field?_object_cons, if_pos rfl]
  · rfl

theorem field?_preSharedKey_wireguardPeer (c : ProxyConfig) :
    (wireguardPeer c).field? (txt "preSharedKey") = none := by
  simp +decide [wireguardPeer, field?_object_cons, field?_object_nil]

theorem mem_map_str {part : Text} {parts : List Text} :
    str part ∈ parts.map str ↔ part ∈ parts := by
  simp

theorem hostPort_eq_iff {host : Text} {port : ℤ} :
    host ++ txt ":" ++ ofInt port = hostPort host port ↔ unit ':' ∉ host := by
  rw [hostPort]
  split
  · next inside =>
      refine iff_of_false ?_ (not_not_intro inside)
      intro same
      have lengths := congrArg List.length same
      simp [txt] at lengths
      omega
  · next outside => exact iff_of_true rfl outside

/-- What the settings have of the file, for a config that was read from it. -/
theorem carriesSettings_iff {text : Text} {peer : Section Text Text Text}
    (reads : ReadsAs text platform c) (single : peersOf platform text = [peer]) :
    CarriesSettings platform text peer (wireguardSettings c) (wireguardPeer c) ↔
      NothingToLose platform text peer := by
  have entries : peerEntries platform text = peer.entries := by
    rw [peerEntries, entriesIn, ← peersOf, single, List.flatMap_singleton]
  have mtu (number : ℤ)
      (isNumber : toIntOrNull (textOf "mtu" (interfaceEntries platform text)) = some number) :
      (wireguardSettings c).field? (txt "mtu") = some (int number) ↔ 0 < number := by
    rw [field?_mtu_wireguardSettings, reads.mtu, isNumber, Option.getD_some]
    simp
  have endpoint (host : Text) (port : ℤ)
      (isEndpoint : readEndpoint (textOf "endpoint" peer.entries) = some (host, port)) :
      (wireguardPeer c).field? (txt "endpoint") = some (str (hostPort host port)) ↔
        unit ':' ∉ host := by
    have same := reads.endpoint
    rw [entries, isEndpoint, Option.some.injEq, Prod.mk.injEq] at same
    have found : (wireguardPeer c).field? (txt "endpoint") =
        some (str (host ++ txt ":" ++ ofInt port)) := by
      simp +decide only [wireguardPeer, field?_object_cons, if_true, if_false, same]
    rw [found, Option.some.injEq, str.injEq]
    exact hostPort_eq_iff
  constructor
  · intro carries
    constructor
    · by_contra hasKey
      cases (field?_preSharedKey_wireguardPeer c).symm.trans (carries.preSharedKey hasKey)
    · intro value mem part isPart
      have built := carries.addresses value mem part isPart
      rw [elementsOf_address_wireguardSettings, mem_map_str, reads.localAddress] at built
      exact built
    · intro number isNumber
      exact (mtu number isNumber).mp (carries.mtu number isNumber)
    · intro host port isEndpoint
      exact (endpoint host port isEndpoint).mp (carries.endpoint host port isEndpoint)
  · intro nothing
    constructor
    · rw [field?_secretKey_wireguardSettings, reads.privateKey]
    · rw [← entries, ← reads.publicKey, wireguardPeer, field?_object_cons, if_pos rfl]
    · intro hasKey
      exact absurd nothing.preSharedKey hasKey
    · intro value mem part isPart
      rw [elementsOf_address_wireguardSettings, mem_map_str, reads.localAddress]
      exact nothing.addresses value mem part isPart
    · intro number isNumber
      exact (mtu number isNumber).mpr (nothing.mtu number isNumber)
    · intro host port isEndpoint
      exact (endpoint host port isEndpoint).mpr (nothing.endpoint host port isEndpoint)

theorem carriesFile_buildOutbound_iff {text : Text} {peer : Section Text Text Text}
    (isWireguard : c.protocol = txt "wireguard")
    (notWarp : equalsIgnoreCase platform c.address (txt "engage.cloudflareclient.com") = false) :
    CarriesFile platform text peer (buildOutbound platform c) ↔
      CarriesSettings platform text peer (wireguardSettings c) (wireguardPeer c) := by
  rw [CarriesFile, buildOutbound, if_pos isWireguard, field?_settings_buildWireguard notWarp]
  constructor
  · rintro ⟨settings, peerOut, isSettings, isPeer, carries⟩
    rw [← Option.some.inj isSettings] at isPeer carries
    rw [elementsOf_peers_wireguardSettings, List.cons.injEq] at isPeer
    rw [isPeer.1]
    exact carries
  · intro carries
    exact ⟨_, _, rfl, elementsOf_peers_wireguardSettings, carries⟩

/-- The outbound of a file with one peer has every setting of the file if there is none to lose. -/
theorem carriesFile_iff (platform : Platform) (text : Text) (source : ConfigSource) (id : Text)
    (config : ProxyConfig) (peer : Section Text Text Text)
    (accepted : parseWireguardConf platform text source id = some config)
    (single : peersOf platform text = [peer])
    (notWarp :
      equalsIgnoreCase platform config.address (txt "engage.cloudflareclient.com") = false) :
    CarriesFile platform text peer (buildOutbound platform config) ↔
      NothingToLose platform text peer := by
  have reads := readsAs_of_parseWireguardConf accepted
  rw [carriesFile_buildOutbound_iff reads.protocol notWarp]
  exact carriesSettings_iff reads single

/-- A file with one peer, which has the given further line. -/
def onePeer (line : String) : Text :=
  txt ("[Interface]\nPrivateKey = own\nAddress = 10.0.0.2/32\nMTU = 1420\n" ++
    "[Peer]\nPublicKey = one\nEndpoint = 192.0.2.1:51820\n" ++ line)

def onePeerConfig (preShared : String) : ProxyConfig :=
  { peerConfig "one" preShared "192.0.2.1" with localAddress := txt "10.0.0.2/32", mtu := 1420 }

def onePeerSection (line : List (Text × Text)) : Section Text Text Text where
  header := txt "[peer]"
  entries := [(txt "publickey", txt "one"), (txt "endpoint", txt "192.0.2.1:51820")] ++ line

theorem carriesFile_onePeer :
    CarriesFile .ascii (onePeer "") (onePeerSection [])
      (buildOutbound .ascii (onePeerConfig "")) := by
  refine (carriesFile_iff .ascii (onePeer "") .personal (txt "1") (onePeerConfig "")
    (onePeerSection []) (by decide +kernel) (by decide +kernel) (by decide +kernel)).mpr ?_
  have entries : interfaceEntries .ascii (onePeer "") = [(txt "privatekey", txt "own"),
      (txt "address", txt "10.0.0.2/32"), (txt "mtu", txt "1420")] := by
    decide +kernel
  refine ⟨by decide +kernel, ?_, ?_, ?_⟩
  · rw [entries]
    intro value mem part isPart
    simp +decide only [List.mem_cons, Prod.mk.injEq, List.not_mem_nil, false_and, true_and,
      or_false, false_or] at mem
    rw [mem] at isPart
    exact isPart
  · have isNumber : toIntOrNull (textOf "mtu" (interfaceEntries .ascii (onePeer ""))) =
        some 1420 := by
      rw [entries]
      decide +kernel
    intro number same
    rw [isNumber, Option.some.injEq] at same
    omega
  · have isEndpoint : readEndpoint (textOf "endpoint" (onePeerSection []).entries) =
        some (txt "192.0.2.1", 51820) := by
      decide +kernel
    intro host port same
    rw [isEndpoint, Option.some.injEq, Prod.mk.injEq] at same
    rw [← same.1]
    decide

/-- The preshared key of the peer is not in the outbound. -/
theorem not_carriesFile_onePeer :
    parseWireguardConf .ascii (onePeer "PresharedKey = shared") .personal (txt "1") =
        some (onePeerConfig "shared") ∧
      peersOf .ascii (onePeer "PresharedKey = shared") =
        [onePeerSection [(txt "presharedkey", txt "shared")]] ∧
      ¬CarriesFile .ascii (onePeer "PresharedKey = shared")
        (onePeerSection [(txt "presharedkey", txt "shared")])
        (buildOutbound .ascii (onePeerConfig "shared")) := by
  refine ⟨by decide +kernel, by decide +kernel, ?_⟩
  rw [carriesFile_buildOutbound_iff rfl (by decide +kernel)]
  intro carries
  cases (field?_preSharedKey_wireguardPeer _).symm.trans (carries.preSharedKey (by decide +kernel))

end GRoute.ConfigBuilder
