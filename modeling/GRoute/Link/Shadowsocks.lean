import GRoute.Link.DecodeB64
import GRoute.Link.Normal

/-!
# Shadowsocks links

A shared Shadowsocks link carries the credentials, the server and the name. The
transport that the parser reads from a query or a plugin is not shared. The credentials
are shared in the URL-safe alphabet without padding, and the parser tries the standard
alphabet first: `standardReading` is what that attempt makes of them.
-/

namespace GRoute.ConfigParser

open Text Base64 ConfigShare

variable {platform : Platform}

theorem splitMethodPassword_iff {info method password : Text} :
    splitMethodPassword info = some (method, password) ↔
      info = method ++ unit ':' :: password ∧ unit ':' ∉ method := by
  by_cases mem : unit ':' ∈ info
  · rcases exists_first mem with ⟨pre, post, rfl, absent⟩
    have split : splitMethodPassword (pre ++ unit ':' :: post) = some (pre, post) := by
      rw [splitMethodPassword, indexOf_append absent, substring_zero, substringFrom_append_cons]
      rfl
    rw [split, Option.some.injEq, Prod.mk.injEq]
    constructor
    · rintro ⟨rfl, rfl⟩
      exact ⟨rfl, absent⟩
    · rintro ⟨same, methodAbsent⟩
      have methodEq : pre = method := by
        rw [← upTo_append absent post, same, upTo_append methodAbsent]
      subst methodEq
      exact ⟨rfl, by simpa using same⟩
  · have refused : splitMethodPassword info = none := by
      rw [splitMethodPassword, indexOf_of_notMem mem, substring_of_neg (by norm_num)]
      rfl
    rw [refused]
    constructor
    · intro impossible
      cases impossible
    · rintro ⟨rfl, _⟩
      simp at mem

/-- The fields that the Shadowsocks parser fills, with the defaults of all others. -/
def onlyShadowsocks (c : ProxyConfig) : ProxyConfig :=
  { name := c.name
    protocol := txt "shadowsocks"
    address := c.address
    port := c.port
    method := c.method
    password := c.password
    network := c.network
    headerType := c.headerType
    host := c.host
    path := c.path
    security := c.security
    sni := c.sni
    fingerprint := c.fingerprint
    allowInsecure := c.allowInsecure
    alpn := c.alpn
    source := c.source
    id := c.id }

/-- The facts about a parsed config that its link depends on. -/
structure ParsedShadowsocks (c : ProxyConfig) : Prop where
  server : CleanServer c.address c.port
  method : unit ':' ∉ c.method
  nameTrimmed : Trimmed c.name
  nameNonempty : c.name ≠ []
  onlyShadowsocks_eq : onlyShadowsocks c = c

theorem cleanServer_of_splitHostPort {server address : Text} {port : ℤ}
    (noAt : unit '@' ∉ server) (accepted : splitHostPort server = some (address, port)) :
    CleanServer address port where
  noSlash := splitHostPort_noSlash accepted
  noAt := fun mem => noAt (splitHostPort_mem accepted mem)
  isInt := (splitHostPort_accepts accepted).2

theorem shadowsocksServer_accepts {main method password address : Text} {port : ℤ}
    (accepted : shadowsocksServer main = some (method, password, address, port)) :
    CleanServer address port ∧ unit ':' ∉ method := by
  simp only [shadowsocksServer] at accepted
  split at accepted
  · next hasAt =>
      have mem : unit '@' ∈ main := by
        by_contra absent
        rw [lastIndexOf_of_notMem absent] at hasAt
        omega
      rcases exists_last mem with ⟨pre, post, rfl, noAt⟩
      simp only [lastIndexOf_append noAt, Option.bind_eq_bind, Option.bind_eq_some_iff,
        Option.pure_def, Option.some.injEq, Prod.mk.injEq] at accepted
      rcases accepted with ⟨⟨_, _⟩, server, ⟨_, _⟩, credentials, rfl, rfl, rfl, rfl⟩
      have tail : (pre ++ unit '@' :: post).drop ((pre.length : ℤ).toNat + 1) = post := by simp
      rw [tail] at server
      exact ⟨cleanServer_of_splitHostPort noAt server, (splitMethodPassword_iff.mp credentials).2⟩
  · simp only [Option.bind_eq_bind, Option.bind_eq_some_iff, Option.pure_def, Option.some.injEq,
      Prod.mk.injEq] at accepted
    rcases accepted with ⟨decoded, _, _, isFirst, _, isTail, ⟨_, _⟩, server, ⟨_, _⟩, credentials,
      rfl, rfl, rfl, rfl⟩
    have mem : unit '@' ∈ decoded := by
      by_contra absent
      rw [lastIndexOf_of_notMem absent, substring_of_neg (by norm_num)] at isFirst
      cases isFirst
    rcases exists_last mem with ⟨pre, post, rfl, noAt⟩
    rw [lastIndexOf_append noAt, substringFrom_append_cons, Option.some.injEq] at isTail
    subst isTail
    exact ⟨cleanServer_of_splitHostPort noAt server, (splitMethodPassword_iff.mp credentials).2⟩

theorem parsedShadowsocks_of_parseShadowsocks {body id : Text} {source : ConfigSource}
    {c : ProxyConfig} (accepted : parseShadowsocks platform body source id = some c) :
    ParsedShadowsocks c ∧ c.source = source := by
  simp only [parseShadowsocks, Option.bind_eq_bind, Option.bind_eq_some_iff, Option.pure_def,
    Option.some.injEq] at accepted
  rcases accepted with ⟨⟨method, password, address, port⟩, server, rfl⟩
  have facts := shadowsocksServer_accepts server
  have name := fragmentName_trimmed body (txt "Shadowsocks") (trimmed_of_all (by decide))
    (by decide)
  exact ⟨⟨facts.1, facts.2, name.1, name.2, rfl⟩, rfl⟩

/-- The user part of a shared link. -/
def sharedUser (s : Text) : Text := encodeToString .urlSafe false (encodeUtf8 s)

/-- What the standard alphabet makes of shared credentials, if it accepts them. It skips
the units for the two largest sextets, which the URL-safe alphabet writes differently. -/
def standardReading (s : Text) : Option Text :=
  let written := sextets (encodeUtf8 s)
  let kept := written.filter (· < 62)
  if Accepts kept.length (padding written.length) ∧ packSextets kept ≠ [] then
    some (decodeUtf8 (packSextets kept))
  else none

/-- What `decodeB64Text` makes of shared credentials. -/
def sharedReading (s : Text) : Text := (standardReading s).getD (sanitize s)

theorem standardReading_eq (s : Text) :
    (nonemptyDecode .standard (encodeToString .urlSafe true (encodeUtf8 s))).map decodeUtf8 =
      standardReading s := by
  rw [nonemptyDecode_standard_urlSafe, apply_ite (Option.map decodeUtf8)]
  rfl

theorem decodeB64Text_sharedUser {s : Text} (nonempty : s ≠ []) :
    decodeB64Text (sharedUser s) = some (sharedReading s) := by
  rw [decodeB64Text, sharedUser, decodeB64_encodeToString _ _ (encodeUtf8_ne_nil nonempty),
    Option.map_some, sharedReading, ← standardReading_eq]
  cases nonemptyDecode .standard (encodeToString .urlSafe true (encodeUtf8 s)) with
  | none => exact congrArg some (decodeUtf8_encodeUtf8 s)
  | some decoded => rfl

theorem pctDecode_sharedUser (s : Text) : pctDecode (sharedUser s) = sharedUser s := by
  have noEscape : unit '%' ∉ sharedUser s := notMem_encodeToString _ _ _ (by decide)
  have noPlus : unit '+' ∉ sharedUser s := by
    intro mem
    rcases mem_encodeToString mem with same | ⟨v, lt, same⟩
    · exact absurd same (by decide)
    · exact encode_urlSafe_ne_plus lt same.symm
  rw [pctDecode, escapePlus, replace_of_notMem noPlus, urlDecode_of_plain noEscape noPlus,
    Option.getD_some]

/-- Text that follows a visible unit is trimmed at its end only. -/
theorem trim_append_cons {pre : Text} {c : UInt16} (post : Text)
    (visible : ∀ d ∈ pre ++ [c], isWhitespace d = false) :
    trim (pre ++ c :: post) = pre ++ c :: post.rdropWhile isWhitespace := by
  have head : (pre ++ c :: post).dropWhile isWhitespace = pre ++ c :: post := by
    refine dropWhile_of_head fun d isHead => visible d ?_
    cases pre with
    | nil => simpa using isHead.symm
    | cons first rest => simp_all
  have last : isWhitespace c = false := visible c (by simp)
  rw [trim, head, List.rdropWhile, List.rdropWhile, List.reverse_append, List.reverse_cons,
    List.append_assoc, List.singleton_append, List.dropWhile_append]
  split
  · next blank => simp [List.isEmpty_iff.mp blank, last]
  · simp

/-- The credentials that the parser splits: the user part itself, if its decoding has no colon. -/
def sharedInfo (s : Text) : Text :=
  if (sharedReading s).contains (unit ':') then sharedReading s else sharedUser s

theorem shadowsocksServer_shared {s server : Text} (nonempty : s ≠ []) (noAt : unit '@' ∉ server) :
    shadowsocksServer (trim (sharedUser s ++ unit '@' :: server)) =
      (splitHostPort (server.rdropWhile isWhitespace)).bind fun hp =>
        (splitMethodPassword (sharedInfo s)).map fun mp => (mp.1, mp.2, hp.1, hp.2) := by
  have visible : ∀ d ∈ sharedUser s ++ [unit '@'], isWhitespace d = false := by
    intro d mem
    rcases List.mem_append.mp mem with inUser | isAt
    · exact encodeToString_visible _ _ _ d inUser
    · rw [List.mem_singleton.mp isAt]
      decide
  have initial := List.rdropWhile_prefix isWhitespace server
  have noAt' : unit '@' ∉ server.rdropWhile isWhitespace := fun mem => noAt (initial.subset mem)
  rw [trim_append_cons server visible]
  generalize server.rdropWhile isWhitespace = rest at noAt'
  have user : (sharedUser s ++ unit '@' :: rest).take (sharedUser s).length = sharedUser s := by
    simp
  have tail : (sharedUser s ++ unit '@' :: rest).drop ((sharedUser s).length + 1) = rest := by simp
  simp only [shadowsocksServer, lastIndexOf_append noAt', ge_iff_le, Int.natCast_nonneg, if_true,
    Int.toNat_natCast, user, tail, pctDecode_sharedUser, decodeB64Text_sharedUser nonempty,
    sharedInfo, Option.bind_eq_bind, Option.pure_def, Option.map_eq_bind, Function.comp_def]

/-- The credentials of a config as they are shared. -/
def credentials (c : ProxyConfig) : Text := c.method ++ unit ':' :: c.password

/-- The text of a Shadowsocks link after its scheme. -/
def ssBody (c : ProxyConfig) : Text :=
  sharedUser (credentials c) ++ unit '@' :: hostPort c.address c.port ++ unit '#' :: enc c.name

theorem ssLink_eq (c : ProxyConfig) : ssLink c = txt "ss://" ++ ssBody c := by
  have colon : txt ":" = [unit ':'] := rfl
  have at_ : txt "@" = [unit '@'] := rfl
  have hash : txt "#" = [unit '#'] := rfl
  simp [ssLink, ssBody, sharedUser, credentials, hostPort, colon, at_, hash]

theorem parse_toLink_ss {c : ProxyConfig} (protocol : c.protocol = txt "shadowsocks")
    (source : ConfigSource) (fresh : Text) :
    parse platform (toLink c) source fresh =
      parseShadowsocks platform (ssBody c) source fresh := by
  have link : toLink c = txt "ss://" ++ ssBody c := by
    rw [toLink, protocol, if_neg (by decide), if_neg (by decide), if_neg (by decide), if_pos rfl,
      ssLink_eq]
  have trimmed : Trimmed (txt "ss://" ++ ssBody c) :=
    trimmed_link (by decide) (by rintro _ ⟨⟩; decide) _ _
  rw [link, parse_of_ss (hasScheme_link (by decide) (by decide) trimmed),
    substringFrom_link (by decide) trimmed, Option.bind_some]

/-- The server that the parser finds in the link: it ends at a separator of the address. -/
def sharedServer (c : ProxyConfig) : Text :=
  upTo (upTo (hostPort c.address c.port) (unit '#')) (unit '?')

theorem upTo_ssBody (c : ProxyConfig) :
    upTo (upTo (ssBody c) (unit '#')) (unit '?') =
      sharedUser (credentials c) ++ unit '@' :: sharedServer c := by
  have absent {d : UInt16} (separator : d ∈ txt " \t\n\r#%:?@") (notAt : d ≠ unit '@') :
      d ∉ sharedUser (credentials c) ++ [unit '@'] := by
    simp only [List.mem_append, List.mem_singleton, not_or]
    exact ⟨notMem_encodeToString _ _ _ separator, notAt⟩
  have append (rest : Text) : sharedUser (credentials c) ++ unit '@' :: rest =
      sharedUser (credentials c) ++ [unit '@'] ++ rest := by simp
  rw [ssBody, upTo_append_cons, append, upTo_append_of_notMem (absent (by decide) (by decide)),
    upTo_append_of_notMem (absent (by decide) (by decide)), ← append]
  rfl

theorem noAt_sharedServer {c : ProxyConfig} (parsed : ParsedShadowsocks c) :
    unit '@' ∉ sharedServer c := by
  intro mem
  exact notMem_hostPort parsed.server.noAt (by decide) (by decide)
    (mem_of_mem_upTo (mem_of_mem_upTo mem))

/-- A separator in the address cuts the server inside the address. -/
theorem sharedServer_length_lt {c : ProxyConfig}
    (cut : unit '#' ∈ c.address ∨ unit '?' ∈ c.address) :
    (sharedServer c).length < c.address.length := by
  have cutAt {d : UInt16} (mem : d ∈ c.address) :
      (upTo (hostPort c.address c.port) d).length < c.address.length := by
    rcases exists_first mem with ⟨pre, post, whole, absent⟩
    rw [hostPort, whole, List.append_assoc, List.cons_append, upTo_append absent]
    simp
  by_cases hash : unit '#' ∈ c.address
  · exact (upTo_isInitial _ _).length_le.trans_lt (cutAt hash)
  · rw [sharedServer, upTo_of_notMem (notMem_hostPort hash (by decide) (by decide))]
    exact cutAt (cut.resolve_left hash)

theorem credentials_ne_nil (c : ProxyConfig) : credentials c ≠ [] := by
  simp [credentials]

/-- Any config read from the link has an address of the part that is left of the server. -/
theorem parseShadowsocks_ssBody_address {c found : ProxyConfig} (parsed : ParsedShadowsocks c)
    {source : ConfigSource} {fresh : Text}
    (accepted : parseShadowsocks platform (ssBody c) source fresh = some found) :
    found.address.length ≤ (sharedServer c).length := by
  simp only [parseShadowsocks, upTo_ssBody, shadowsocksServer_shared (credentials_ne_nil c)
    (noAt_sharedServer parsed), Option.bind_eq_bind, Option.bind_eq_some_iff,
    Option.map_eq_some_iff, Option.pure_def, Option.some.injEq] at accepted
  rcases accepted with ⟨_, ⟨⟨address, port⟩, server, _, _, rfl⟩, rfl⟩
  have initial := List.rdropWhile_prefix isWhitespace (sharedServer c)
  exact (splitHostPort_length_le server).trans initial.length_le

/-- The config that is read from the link of another one, given its server and credentials. -/
def rereadShadowsocks (c : ProxyConfig) (hp : Text × ℤ) (mp : Text × Text) (source : ConfigSource)
    (id : Text) : ProxyConfig :=
  { name := ifEmpty (trim (sanitize c.name)) (txt "Shadowsocks")
    protocol := txt "shadowsocks"
    address := hp.1
    port := hp.2
    method := mp.1
    password := mp.2
    source := source
    id := id }

/-- Without a query the transport is plain TCP. -/
theorem shadowsocksTransport_nil : shadowsocksTransport platform [] =
    { network := txt "tcp", headerType := [], host := [], path := [], security := txt "none" } := by
  have missing (key : String) : lookup platform [] key = none := rfl
  have noName (other : Text) (nonempty : other ≠ []) : startsWith [] other = false := by
    cases other with
    | nil => exact absurd rfl nonempty
    | cons c rest => rfl
  simp [shadowsocksTransport, lookupOrEmpty, missing, pluginOptions, platform.casing.lowercase_nil,
    noName (txt "obfs-local") (by decide), noName (txt "simple-obfs") (by decide),
    noName (txt "v2ray-plugin") (by decide), normalizeNetwork, normalizeHeaderType, trim]

/-- The link without its name has no separator that the address does not have. -/
theorem notMem_shared {c : ProxyConfig} {d : UInt16} (absent : d ∉ c.address)
    (separator : d ∈ txt "#?") :
    d ∉ sharedUser (credentials c) ++ unit '@' :: hostPort c.address c.port := by
  have facts : ∀ d ∈ txt "#?", d ∈ txt " \t\n\r#%:?@" ∧ d ≠ unit '@' ∧ d ≠ unit ':' ∧
      d ∉ txt "-0123456789" := List.forall_mem_cons.mpr ⟨by decide, by simp [txt]; decide⟩
  rcases facts d separator with ⟨notCode, notAt, notColon, notDigit⟩
  simp only [List.mem_append, List.mem_cons, not_or]
  exact ⟨notMem_encodeToString _ _ _ notCode, notAt, notMem_hostPort absent notColon notDigit⟩

theorem parseShadowsocks_ssBody {c : ProxyConfig} (parsed : ParsedShadowsocks c)
    (noHash : unit '#' ∉ c.address) (noQuestion : unit '?' ∉ c.address) (source : ConfigSource)
    (fresh : Text) :
    parseShadowsocks platform (ssBody c) source fresh =
      (splitHostPort (hostPort c.address c.port)).bind fun hp =>
        (splitMethodPassword (sharedInfo (credentials c))).map fun mp =>
          rereadShadowsocks c hp mp source fresh := by
  have mainNoHash := notMem_shared noHash (by decide)
  have server : sharedServer c = hostPort c.address c.port := by
    rw [sharedServer, upTo_of_notMem (notMem_hostPort noHash (by decide) (by decide)),
      upTo_of_notMem (notMem_hostPort noQuestion (by decide) (by decide))]
  have accepted := shadowsocksServer_shared (credentials_ne_nil c) (noAt_sharedServer parsed)
  rw [← upTo_ssBody, server, rdropWhile_hostPort] at accepted
  have query : after (upTo (ssBody c) (unit '#')) (unit '?') = [] := by
    rw [ssBody, upTo_append mainNoHash]
    exact after_of_notMem (notMem_shared noQuestion (by decide))
  have name : fragmentName (ssBody c) (txt "Shadowsocks") =
      ifEmpty (trim (sanitize c.name)) (txt "Shadowsocks") := fragmentName_append mainNoHash _ _
  have empty : parseQuery platform [] = [] := rfl
  simp only [parseShadowsocks, accepted, query, name, empty, shadowsocksTransport_nil,
    Option.bind_eq_bind, Option.pure_def, Option.map_eq_bind, Function.comp_def, Option.bind_assoc,
    Option.bind_some]
  rfl

/-- The credentials come back: either the standard alphabet refuses them and they are well
formed, or it happens to read them as they are. -/
def CredentialsSurvive (s : Text) : Prop :=
  match standardReading s with
  | some reading => reading = s
  | none => WellFormed s

theorem sharedReading_eq_iff {s : Text} : sharedReading s = s ↔ CredentialsSurvive s := by
  rw [sharedReading, CredentialsSurvive]
  cases standardReading s with
  | some reading => rfl
  | none => exact sanitize_eq_self_iff

theorem splitMethodPassword_sharedInfo {c : ProxyConfig} (parsed : ParsedShadowsocks c) :
    splitMethodPassword (sharedInfo (credentials c)) = some (c.method, c.password) ↔
      CredentialsSurvive (credentials c) := by
  have colon : unit ':' ∈ credentials c := by simp [credentials]
  rw [splitMethodPassword_iff, ← sharedReading_eq_iff]
  constructor
  · rintro ⟨same, _⟩
    change sharedInfo (credentials c) = credentials c at same
    rw [sharedInfo] at same
    split at same
    · exact same
    · rw [← same] at colon
      exact absurd colon (notMem_encodeToString _ _ _ (by decide))
  · intro same
    refine ⟨?_, parsed.method⟩
    rw [sharedInfo, same, if_pos (by simpa using colon)]
    rfl

/-- The config has the transport that a link without parameters gives. -/
structure PlainTransport (c : ProxyConfig) : Prop where
  network : c.network = txt "tcp"
  headerType : c.headerType = []
  host : c.host = []
  path : c.path = []
  security : c.security = txt "none"
  sni : c.sni = []
  fingerprint : c.fingerprint = txt "chrome"
  allowInsecure : c.allowInsecure = false
  alpn : c.alpn = []

/-- The config survives being shared as a Shadowsocks link. -/
structure SurvivesSsLink (c : ProxyConfig) : Prop where
  transport : PlainTransport c
  noHash : unit '#' ∉ c.address
  noQuestion : unit '?' ∉ c.address
  plainStart : PlainStart c.address
  name : WellFormed c.name
  credentials : CredentialsSurvive (credentials c)

theorem plainTransport_of_reread {c : ProxyConfig} {hp : Text × ℤ} {mp : Text × Text}
    {source : ConfigSource} {fresh : Text}
    (same : rereadShadowsocks c hp mp source fresh = { c with id := fresh }) :
    PlainTransport c where
  network := (congrArg ProxyConfig.network same).symm
  headerType := (congrArg ProxyConfig.headerType same).symm
  host := (congrArg ProxyConfig.host same).symm
  path := (congrArg ProxyConfig.path same).symm
  security := (congrArg ProxyConfig.security same).symm
  sni := (congrArg ProxyConfig.sni same).symm
  fingerprint := (congrArg ProxyConfig.fingerprint same).symm
  allowInsecure := (congrArg ProxyConfig.allowInsecure same).symm
  alpn := (congrArg ProxyConfig.alpn same).symm

theorem reread_of_plainTransport {c : ProxyConfig} (parsed : ParsedShadowsocks c)
    (transport : PlainTransport c) (name : WellFormed c.name) (fresh : Text) :
    rereadShadowsocks c (c.address, c.port) (c.method, c.password) c.source fresh =
      { c with id := fresh } := by
  have restricted : { c with id := fresh } = { onlyShadowsocks c with id := fresh } := by
    rw [parsed.onlyShadowsocks_eq]
  rw [restricted]
  simp only [rereadShadowsocks, onlyShadowsocks, transport.network, transport.headerType,
    transport.host, transport.path, transport.security, transport.sni, transport.fingerprint,
    transport.allowInsecure, transport.alpn,
    (name_reread_iff parsed.nameTrimmed parsed.nameNonempty _).mpr name]

theorem parseShadowsocks_ssBody_iff {c : ProxyConfig} (parsed : ParsedShadowsocks c)
    (fresh : Text) :
    parseShadowsocks platform (ssBody c) c.source fresh = some { c with id := fresh } ↔
      SurvivesSsLink c := by
  have nameIff := name_reread_iff parsed.nameTrimmed parsed.nameNonempty (txt "Shadowsocks")
  have serverIff := splitHostPort_hostPort_iff parsed.server.noSlash parsed.server.isInt
  constructor
  · intro same
    have whole : ¬ (unit '#' ∈ c.address ∨ unit '?' ∈ c.address) := by
      intro cut
      have le := parseShadowsocks_ssBody_address parsed same
      have lt := sharedServer_length_lt cut
      exact absurd lt (not_lt_of_ge le)
    rw [not_or] at whole
    rw [parseShadowsocks_ssBody parsed whole.1 whole.2] at same
    simp only [Option.bind_eq_some_iff, Option.map_eq_some_iff] at same
    rcases same with ⟨⟨address, port⟩, server, ⟨method, password⟩, split, same⟩
    have addressEq : address = c.address := congrArg ProxyConfig.address same
    have methodEq : method = c.method := congrArg ProxyConfig.method same
    have passwordEq : password = c.password := congrArg ProxyConfig.password same
    rw [methodEq, passwordEq] at split
    exact {
      transport := plainTransport_of_reread same
      noHash := whole.1
      noQuestion := whole.2
      plainStart := serverIff.mp ⟨port, by rw [server, addressEq]⟩
      name := nameIff.mp (congrArg ProxyConfig.name same)
      credentials := (splitMethodPassword_sharedInfo parsed).mp split }
  · intro survives
    rw [parseShadowsocks_ssBody parsed survives.noHash survives.noQuestion,
      splitHostPort_hostPort parsed.server.noSlash parsed.server.isInt survives.plainStart,
      Option.bind_some, (splitMethodPassword_sharedInfo parsed).mpr survives.credentials,
      Option.map_some, reread_of_plainTransport parsed survives.transport survives.name]

/-- A config read from a Shadowsocks link is read again from the link shared for it, under a
fresh identifier, exactly when it survives the link. -/
theorem parse_toLink_ss_iff {u id fresh : Text} {c : ProxyConfig}
    (scheme : HasScheme platform u "ss://")
    (accepted : parse platform u .personal id = some c) :
    parse platform (toLink c) .personal fresh = some { c with id := fresh } ↔
      SurvivesSsLink c := by
  rw [parse_of_ss scheme, Option.bind_eq_some_iff] at accepted
  rcases accepted with ⟨body, _, accepted⟩
  rcases parsedShadowsocks_of_parseShadowsocks accepted with ⟨parsed, sourceEq⟩
  have protocol : c.protocol = txt "shadowsocks" :=
    (congrArg ProxyConfig.protocol parsed.onlyShadowsocks_eq).symm
  rw [parse_toLink_ss protocol, ← sourceEq]
  exact parseShadowsocks_ssBody_iff parsed fresh

/-- The config of a link with the method `m` and the name `n`. -/
def sampleSs (id password : Text) : ProxyConfig where
  id := id
  name := txt "n"
  protocol := txt "shadowsocks"
  address := txt "h"
  port := 443
  method := txt "m"
  password := password

theorem survivesSsLink_sampleSs :
    parse .ascii (txt "ss://bTpw@h:443#n") .personal (txt "1") =
        some (sampleSs (txt "1") (txt "p")) ∧
      SurvivesSsLink (sampleSs (txt "1") (txt "p")) := by
  have scheme : HasScheme .ascii (txt "ss://bTpw@h:443#n") "ss://" := by
    unfold HasScheme
    decide +kernel
  have accepted : parse .ascii (txt "ss://bTpw@h:443#n") .personal (txt "1") =
      some (sampleSs (txt "1") (txt "p")) := by decide +kernel
  have same : parse .ascii (toLink (sampleSs (txt "1") (txt "p"))) .personal (txt "2") =
      some { sampleSs (txt "1") (txt "p") with id := txt "2" } := by decide +kernel
  exact ⟨accepted, (parse_toLink_ss_iff scheme accepted).mp same⟩

/-- The password `>` is shared as the unit `-`, which the standard alphabet skips. -/
theorem parse_toLink_sampleSs_greater :
    parse .ascii (txt "ss://bTo+@h:443#n") .personal (txt "1") =
        some (sampleSs (txt "1") (txt ">")) ∧
      toLink (sampleSs (txt "1") (txt ">")) = txt "ss://bTo-@h:443#n" ∧
      parse .ascii (toLink (sampleSs (txt "1") (txt ">"))) .personal (txt "2") =
        some (sampleSs (txt "2") []) ∧
      parse .ascii (toLink (sampleSs (txt "1") (txt ">"))) .personal (txt "2") ≠
        some { sampleSs (txt "1") (txt ">") with id := txt "2" } := by
  decide +kernel

end GRoute.ConfigParser
