import GRoute.ConfigParser
import GRoute.Foundation.Sections

/-!
# WireGuard files

`parseWireguardConf` reads the lines with one set of variables for the whole text. What it returns
is what each key was given last in the sections of its header. Keys of different `[Peer]` sections
are not kept apart.
-/

namespace GRoute.ConfigParser

open Text Sections

variable (platform : Platform)

/-- What a line says, without its comment. -/
def lineOf (raw : Text) : Line Text Text Text :=
  let line := trim (upTo raw (unit '#'))
  if line = [] then .skip
  else if startsWith line (txt "[") && line.getLast? == some (unit ']') then
    .header (platform.casing.lowercase line)
  else
    let eq := indexOf line (unit '=')
    if eq ≤ 0 then .skip
    else .entry (platform.casing.lowercase (trim (line.take eq.toNat)))
      (trim (line.drop (eq.toNat + 1)))

def fileLines (text : Text) : List (Line Text Text Text) := (lines text).map (lineOf platform)

/-- The `[Peer]` sections of the text. -/
def peersOf (text : Text) : List (Section Text Text Text) :=
  (sections (fileLines platform text)).filter fun part => part.header = txt "[peer]"

def interfaceEntries (text : Text) : List (Text × Text) :=
  entriesIn (txt "[interface]") (fileLines platform text)

def peerEntries (text : Text) : List (Text × Text) :=
  entriesIn (txt "[peer]") (fileLines platform text)

/-- The host and the port of an endpoint. -/
def readEndpoint (endpoint : Text) : Option (Text × ℤ) :=
  let colon := lastIndexOf endpoint (unit ':')
  if colon ≤ 0 then none
  else (toIntOrNull (endpoint.drop (colon.toNat + 1))).map fun port =>
    (trimBrackets (endpoint.take colon.toNat), port)

namespace WireguardConf

/-- What the loop does with a key and its value. -/
def assign (conf : WireguardConf) (key value : Text) : WireguardConf :=
  if conf.section_ = txt "[interface]" then
    if key = txt "privatekey" then { conf with privateKey := value }
    else if key = txt "address" then { conf with address := value }
    else if key = txt "mtu" then { conf with mtu := (toIntOrNull value).getD 0 }
    else if key = txt "reserved" then { conf with reserved := value }
    else if key = txt "name" then { conf with label := value }
    else conf
  else if conf.section_ = txt "[peer]" then
    if key = txt "publickey" then { conf with publicKey := value }
    else if key = txt "presharedkey" then { conf with preShared := value }
    else if key = txt "endpoint" then { conf with endpoint := value }
    else conf
  else conf

def step (conf : WireguardConf) : Line Text Text Text → WireguardConf
  | .skip => conf
  | .header name => { conf with section_ := name }
  | .entry key value => conf.assign key value

theorem wireguardLine_eq (conf : WireguardConf) (raw : Text) :
    wireguardLine platform conf raw = conf.step (lineOf platform raw) := by
  simp only [wireguardLine, lineOf]
  split
  · rfl
  split
  · rfl
  split
  · rfl
  · rfl

theorem foldl_wireguardLine (raws : List Text) (conf : WireguardConf) :
    raws.foldl (wireguardLine platform) conf = (raws.map (lineOf platform)).foldl step conf := by
  rw [List.foldl_map]
  congr
  funext conf raw
  exact wireguardLine_eq platform conf raw

theorem tracks_step : Tracks section_ step where
  skip _ := rfl
  header _ _ := rfl
  entry conf key value := by
    rw [step, assign]
    split_ifs <;> rfl

/-- Each variable holds what one key is given under one header. -/
theorem holds_variables :
    (Holds section_ step privateKey (txt "[interface]") (txt "privatekey") id ∧
      Holds section_ step address (txt "[interface]") (txt "address") id ∧
      Holds section_ step mtu (txt "[interface]") (txt "mtu") fun v => (toIntOrNull v).getD 0) ∧
    Holds section_ step publicKey (txt "[peer]") (txt "publickey") id ∧
      Holds section_ step preShared (txt "[peer]") (txt "presharedkey") id ∧
      Holds section_ step endpoint (txt "[peer]") (txt "endpoint") id := by
  refine ⟨⟨⟨fun _ _ => rfl, ?_⟩, ⟨fun _ _ => rfl, ?_⟩, ⟨fun _ _ => rfl, ?_⟩⟩,
    ⟨fun _ _ => rfl, ?_⟩, ⟨fun _ _ => rfl, ?_⟩, ⟨fun _ _ => rfl, ?_⟩⟩
  all_goals
    intro conf key value
    simp only [step, assign]
    split_ifs <;> simp_all +decide

end WireguardConf

/-- The variables after the last line. -/
def readVariables (text : Text) : WireguardConf := (lines text).foldl (wireguardLine platform) {}

/-- The text under the key, empty if it is not there. -/
def textOf (key : String) (entries : List (Text × Text)) : Text :=
  (valueOf (txt key) entries).getD []

/-- Every variable has what its key was given last, or the empty text. -/
structure ReadsLast (text : Text) : Prop where
  privateKey : (readVariables platform text).privateKey =
    textOf "privatekey" (interfaceEntries platform text)
  address : (readVariables platform text).address =
    textOf "address" (interfaceEntries platform text)
  mtu : (readVariables platform text).mtu =
    (toIntOrNull (textOf "mtu" (interfaceEntries platform text))).getD 0
  publicKey : (readVariables platform text).publicKey =
    textOf "publickey" (peerEntries platform text)
  preShared : (readVariables platform text).preShared =
    textOf "presharedkey" (peerEntries platform text)
  endpoint : (readVariables platform text).endpoint = textOf "endpoint" (peerEntries platform text)

theorem readsLast (text : Text) : ReadsLast platform text := by
  have read {Field : Type} {variableOf : WireguardConf → Field} {header key : Text}
      {read : Text → Field} (outside : [] ≠ header)
      (holds : Holds WireguardConf.section_ WireguardConf.step variableOf header key read) :
      variableOf (readVariables platform text) =
        ((valueOf key (entriesIn header (fileLines platform text))).map read).getD
          (variableOf {}) := by
    rw [readVariables, WireguardConf.foldl_wireguardLine, holds.foldl WireguardConf.tracks_step,
      entriesFrom, if_neg outside]
    rfl
  rcases WireguardConf.holds_variables with
    ⟨⟨privateKey, address, mtu⟩, publicKey, preShared, endpoint⟩
  constructor
  · rw [read (by decide) privateKey, Option.map_id, id]
    rfl
  · rw [read (by decide) address, Option.map_id, id]
    rfl
  · rw [read (by decide) mtu, textOf, interfaceEntries]
    cases valueOf (txt "mtu") (entriesIn (txt "[interface]") (fileLines platform text)) with
    | none => rfl
    | some value => rfl
  · rw [read (by decide) publicKey, Option.map_id, id]
    rfl
  · rw [read (by decide) preShared, Option.map_id, id]
    rfl
  · rw [read (by decide) endpoint, Option.map_id, id]
    rfl

variable {platform}

/-- What an accepted text gives the config. -/
structure ReadsAs (text : Text) (platform : Platform) (config : ProxyConfig) : Prop where
  protocol : config.protocol = txt "wireguard"
  privateKey : config.privateKey = textOf "privatekey" (interfaceEntries platform text)
  localAddress : config.localAddress = textOf "address" (interfaceEntries platform text)
  mtu : config.mtu = (toIntOrNull (textOf "mtu" (interfaceEntries platform text))).getD 0
  publicKey : config.publicKey = textOf "publickey" (peerEntries platform text)
  password : config.password = textOf "presharedkey" (peerEntries platform text)
  endpoint : readEndpoint (textOf "endpoint" (peerEntries platform text)) =
    some (config.address, config.port)
  hasPrivateKey : config.privateKey ≠ []
  hasPublicKey : config.publicKey ≠ []

theorem readsAs_of_parseWireguardConf {text id : Text} {source : ConfigSource}
    {config : ProxyConfig} (accepted : parseWireguardConf platform text source id = some config) :
    ReadsAs text platform config := by
  rcases readsLast platform text with ⟨privateKey, address, mtu, publicKey, preShared, endpoint⟩
  simp only [parseWireguardConf] at accepted
  rw [← readVariables] at accepted
  split at accepted
  · cases accepted
  next present =>
    rw [not_or, not_or] at present
    split at accepted
    · cases accepted
    next colon =>
      rcases Option.map_eq_some_iff.mp accepted with ⟨port, isPort, rfl⟩
      refine ⟨rfl, privateKey, address, mtu, publicKey, preShared, ?_, present.1, present.2.1⟩
      rw [← endpoint, readEndpoint]
      simp only [if_neg colon, isPort, Option.map_some]

/-- The public key, the endpoint and the preshared key, or that there is none, are those of one
`[Peer]` section. -/
def FromOnePeer (platform : Platform) (text : Text) (config : ProxyConfig) : Prop :=
  ∃ peer ∈ peersOf platform text, textOf "publickey" peer.entries = config.publicKey ∧
    readEndpoint (textOf "endpoint" peer.entries) = some (config.address, config.port) ∧
    textOf "presharedkey" peer.entries = config.password

/-- One `[Peer]` section has the public key and the endpoint that come last in the text, and the
last preshared key if there is one anywhere. -/
def OnePeerIsLast (platform : Platform) (text : Text) : Prop :=
  ∃ peer ∈ peersOf platform text,
    textOf "publickey" peer.entries = textOf "publickey" (peerEntries platform text) ∧
    readEndpoint (textOf "endpoint" peer.entries) =
      readEndpoint (textOf "endpoint" (peerEntries platform text)) ∧
    textOf "presharedkey" peer.entries = textOf "presharedkey" (peerEntries platform text)

theorem fromOnePeer_iff (platform : Platform) (text : Text) (source : ConfigSource) (id : Text)
    (config : ProxyConfig) (accepted : parseWireguardConf platform text source id = some config) :
    FromOnePeer platform text config ↔ OnePeerIsLast platform text := by
  have reads := readsAs_of_parseWireguardConf accepted
  rw [FromOnePeer, OnePeerIsLast, reads.publicKey, reads.password, reads.endpoint]

/-- A file of two peers, of which the second has the given lines. -/
def twoPeers (second : String) : Text :=
  txt ("[Interface]\nPrivateKey = own\n[Peer]\nPublicKey = one\nPresharedKey = shared\n" ++
    "Endpoint = 192.0.2.1:51820\n[Peer]\n" ++ second)

/-- The config of a file with this public key, preshared key and host. -/
def peerConfig (publicKey preShared host : String) : ProxyConfig where
  name := txt ("WireGuard " ++ host)
  protocol := txt "wireguard"
  address := txt host
  port := 51820
  privateKey := txt "own"
  publicKey := txt publicKey
  password := txt preShared
  id := txt "1"

theorem fromOnePeer_twoPeers :
    FromOnePeer .ascii (twoPeers "AllowedIPs = 10.0.0.0/8")
      (peerConfig "one" "shared" "192.0.2.1") := by
  refine (fromOnePeer_iff .ascii _ .personal (txt "1") _ (by decide +kernel)).mpr ?_
  unfold OnePeerIsLast
  decide +kernel

/-- The second peer is used with the preshared key of the first. -/
theorem not_fromOnePeer_twoPeers :
    parseWireguardConf .ascii (twoPeers "PublicKey = two\nEndpoint = 192.0.2.2:51820") .personal
        (txt "1") = some (peerConfig "two" "shared" "192.0.2.2") ∧
      ¬FromOnePeer .ascii (twoPeers "PublicKey = two\nEndpoint = 192.0.2.2:51820")
        (peerConfig "two" "shared" "192.0.2.2") := by
  unfold FromOnePeer
  decide +kernel

end GRoute.ConfigParser
