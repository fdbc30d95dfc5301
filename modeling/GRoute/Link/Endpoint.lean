import GRoute.Link.Shadowsocks

/-!
# Links with a user and a server

A link is read into its user and its server by four pieces of code: one for VLESS, Trojan and
Hysteria2, one for Shadowsocks and one each for proxies, IKEv2 and WireGuard. Each of them gets one
lemma that says which fields it takes from which part. All but the one for proxies take the
brackets off an IPv6 literal.
-/

namespace GRoute.ConfigParser

open Text

variable {platform : Platform}

/-- A part of a link, without white space and without the separators of the other parts. -/
def PlainPart (s : Text) : Prop := ∀ c ∈ s, isWhitespace c = false ∧ c ∉ txt "/@#?"

/-- The same as a test that can be evaluated. -/
theorem plainPart_of_all {s : Text}
    (plain : s.all (fun c => !isWhitespace c && !(txt "/@#?").contains c) = true) : PlainPart s :=
  fun c mem => by simpa using List.all_eq_true.mp plain c mem

/-- What may follow the server: nothing, or a query or a name. -/
structure IsTail (tail : Text) : Prop where
  noAt : unit '@' ∉ tail
  starts : ∀ c ∈ tail.head?, c = unit '?' ∨ c = unit '#'

theorem isTail_nil : IsTail [] := ⟨by simp, by simp⟩

/-- A host name, or what may stand in brackets: an IPv6 literal, with or without a zone. -/
structure IsHost (host : Text) : Prop where
  nonempty : host ≠ []
  plain : PlainPart host
  noOpen : unit '[' ∉ host
  noClose : unit ']' ∉ host

def endpoint (user server : Text) : Text := user ++ unit '@' :: server

def linkText (scheme : Scheme) (user server tail : Text) : Text :=
  txt scheme.text ++ (endpoint user server ++ tail)

theorem PlainPart.notMem {s : Text} (plain : PlainPart s) {c : UInt16}
    (separator : c ∈ txt "/@#?") : c ∉ s := fun mem => (plain c mem).2 separator

theorem PlainPart.visible {s : Text} (plain : PlainPart s) : ∀ c ∈ s, isWhitespace c = false :=
  fun c mem => (plain c mem).1

theorem PlainPart.trim_eq {s : Text} (plain : PlainPart s) : trim s = s :=
  (trimmed_of_forall plain.visible).trim_eq

theorem plainPart_append {s t : Text} : PlainPart (s ++ t) ↔ PlainPart s ∧ PlainPart t :=
  List.forall_mem_append

theorem plainPart_cons {c : UInt16} {s : Text} :
    PlainPart (c :: s) ↔ (isWhitespace c = false ∧ c ∉ txt "/@#?") ∧ PlainPart s :=
  List.forall_mem_cons

theorem plainPart_ofInt (z : ℤ) : PlainPart (ofInt z) := by
  intro c mem
  refine ⟨not_isWhitespace_of_mem_ofInt mem, fun separator => ?_⟩
  rcases mem_ofInt mem with rfl | ⟨d, lt, rfl⟩
  · exact absurd separator (by decide)
  · exact absurd separator (by interval_cases d <;> decide)

theorem plainPart_hostPort {host : Text} (plain : PlainPart host) (port : ℤ) :
    PlainPart (hostPort host port) :=
  plainPart_append.mpr ⟨plain, plainPart_cons.mpr ⟨by decide, plainPart_ofInt port⟩⟩

theorem plainPart_bracketed {host : Text} (plain : PlainPart host) : PlainPart (bracketed host) :=
  plainPart_cons.mpr ⟨by decide, plainPart_append.mpr ⟨plain, List.forall_mem_singleton.mpr
    (by decide)⟩⟩

/-- A tail that loses the white space at its end is a tail. -/
theorem IsTail.rdropWhile {tail : Text} (isTail : IsTail tail) :
    IsTail (tail.rdropWhile isWhitespace) := by
  have initial := List.rdropWhile_prefix isWhitespace tail
  refine ⟨fun mem => isTail.noAt (initial.subset mem), ?_⟩
  intro c isHead
  apply isTail.starts
  rcases initial with ⟨rest, whole⟩
  rw [← whole, List.head?_append, isHead]
  rfl

section

variable {user server tail : Text} (userPlain : PlainPart user) (serverPlain : PlainPart server)

include userPlain serverPlain

theorem notMem_endpoint {c : UInt16} (separator : c ∈ txt "/#?") : c ∉ endpoint user server := by
  have known : (txt "/#?").all (fun c => decide (c ∈ txt "/@#?" ∧ c ≠ unit '@')) = true := by decide
  rcases of_decide_eq_true (List.all_eq_true.mp known c separator) with ⟨isSeparator, notAt⟩
  simp only [endpoint, List.mem_append, List.mem_cons, not_or]
  exact ⟨userPlain.notMem isSeparator, notAt, serverPlain.notMem isSeparator⟩

theorem endpoint_visible : ∀ c ∈ endpoint user server, isWhitespace c = false := by
  intro c mem
  simp only [endpoint, List.mem_append, List.mem_cons] at mem
  rcases mem with inUser | rfl | inServer
  · exact userPlain.visible c inUser
  · decide
  · exact serverPlain.visible c inServer

theorem trim_endpoint : trim (endpoint user server) = endpoint user server :=
  (trimmed_of_forall (endpoint_visible userPlain serverPlain)).trim_eq

/-- Only the tail of a link can end in white space. -/
theorem trim_linkText (scheme : Scheme) (tail : Text) :
    trim (linkText scheme user server tail) =
      linkText scheme user server (tail.rdropWhile isWhitespace) := by
  have schemeVisible : (txt scheme.text).all (fun c => !isWhitespace c) = true := by
    cases scheme <;> decide
  have visible := endpoint_visible userPlain serverPlain
  have nonempty : endpoint user server ≠ [] := by simp [endpoint]
  rcases List.eq_nil_or_concat (endpoint user server) with empty | ⟨start, last, whole⟩
  · exact absurd empty nonempty
  · rw [List.concat_eq_append] at whole
    have shape (tail : Text) :
        linkText scheme user server tail = (txt scheme.text ++ start) ++ last :: tail := by
      simp [linkText, whole]
    rw [shape, shape, trim_append_cons]
    intro c mem
    rw [List.append_assoc, ← whole, List.mem_append] at mem
    rcases mem with inScheme | inEndpoint
    · simpa using List.all_eq_true.mp schemeVisible c inScheme
    · exact visible c inEndpoint

/-- A link is read by the parser of its scheme. -/
theorem parse_linkText (scheme : Scheme) (tail : Text) (source : ConfigSource) (id : Text) :
    parse platform (linkText scheme user server tail) source id =
      scheme.parseBody platform (endpoint user server ++ tail.rdropWhile isWhitespace) source
        id := by
  have trimmed := trim_linkText userPlain serverPlain scheme tail
  have has : HasScheme platform (linkText scheme user server tail) scheme.text := by
    rw [HasScheme, trimmed]
    apply platform.casing.startsWith_lowercase
    · cases scheme <;> decide
    · cases scheme <;> decide
  rw [parse_of_scheme scheme has, trimmed, linkText, substringFrom_append, Option.bind_some]

theorem upTo_hash_endpoint (tail : Text) :
    upTo (endpoint user server ++ tail) (unit '#') =
      endpoint user server ++ upTo tail (unit '#') :=
  upTo_append_of_notMem (notMem_endpoint userPlain serverPlain (by decide)) _

omit userPlain serverPlain in
theorem upTo_of_head {s : Text} {c : UInt16} (starts : ∀ d ∈ s.head?, d = c) : upTo s c = [] := by
  cases s with
  | nil => rfl
  | cons d rest =>
      have nothing : c ∉ ([] : Text) := List.not_mem_nil
      rw [starts d rfl]
      exact upTo_append nothing rest

omit userPlain serverPlain in
/-- Before the name there is nothing or a query. -/
theorem IsTail.head_query (isTail : IsTail tail) :
    ∀ c ∈ (upTo tail (unit '#')).head?, c = unit '?' := by
  intro c isHead
  rcases upTo_isInitial tail (unit '#') with ⟨rest, whole⟩
  have inTail : c ∈ tail.head? := by
    rw [← whole, List.head?_append, isHead]
    rfl
  rcases isTail.starts c inTail with isQuestion | rfl
  · exact isQuestion
  · exact absurd (List.mem_of_mem_head? isHead) (notMem_upTo _ _)

/-- Name and query are cut off. -/
theorem core_endpoint (isTail : IsTail tail) :
    upTo (upTo (endpoint user server ++ tail) (unit '#')) (unit '?') = endpoint user server := by
  rw [upTo_hash_endpoint userPlain serverPlain,
    upTo_append_of_notMem (notMem_endpoint userPlain serverPlain (by decide)),
    upTo_of_head isTail.head_query, List.append_nil]

omit userPlain in
theorem lastIndexOf_endpoint (user : Text) :
    lastIndexOf (endpoint user server) (unit '@') = user.length :=
  lastIndexOf_append (serverPlain.notMem (by decide))

omit userPlain serverPlain

theorem take_endpoint : (endpoint user server).take user.length = user := by simp [endpoint]

theorem drop_endpoint : (endpoint user server).drop (user.length + 1) = server := by
  simp [endpoint]

theorem lastIndexOf_hostPort (host : Text) (port : ℤ) :
    lastIndexOf (hostPort host port) (unit ':') = host.length :=
  lastIndexOf_append (notMem_ofInt (by decide))

theorem take_hostPort (host : Text) (port : ℤ) : (hostPort host port).take host.length = host := by
  simp [hostPort]

theorem drop_hostPort (host : Text) (port : ℤ) :
    (hostPort host port).drop (host.length + 1) = ofInt port := by
  simp [hostPort]

include userPlain serverPlain

section

variable {address : Text} {port : ℤ} (reads : splitHostPort server = some (address, port))
  (isTail : IsTail tail) (source : ConfigSource) (id : Text)

include reads isTail

/-- What the parsers read of the link. -/
theorem splitUserHostPort_endpoint :
    splitUserHostPort (trim (upTo (upTo (endpoint user server ++ tail) (unit '#')) (unit '?'))) =
      some (user, address, port) := by
  rw [core_endpoint userPlain serverPlain isTail, trim_endpoint userPlain serverPlain, endpoint,
    splitUserHostPort_append user (serverPlain.notMem (by decide)), reads, Option.map_some]

theorem parseVless_endpoint :
    ∃ c, parseVless platform (endpoint user server ++ tail) source id = some c ∧
      c.address = address ∧ c.port = port ∧ c.uuid = pctDecode user := by
  simp only [parseVless, splitUserUri,
    splitUserHostPort_endpoint userPlain serverPlain reads isTail]
  exact ⟨_, rfl, rfl, rfl, rfl⟩

theorem parseTrojan_endpoint :
    ∃ c, parseTrojan platform (endpoint user server ++ tail) source id = some c ∧
      c.address = address ∧ c.port = port ∧ c.password = pctDecode user := by
  simp only [parseTrojan, splitUserUri,
    splitUserHostPort_endpoint userPlain serverPlain reads isTail]
  exact ⟨_, rfl, rfl, rfl, rfl⟩

theorem parseHysteria2_endpoint :
    ∃ c, parseHysteria2 platform (endpoint user server ++ tail) source id = some c ∧
      c.address = address ∧ c.port = port ∧ c.password = pctDecode user := by
  simp only [parseHysteria2, splitUserUri,
    splitUserHostPort_endpoint userPlain serverPlain reads isTail]
  exact ⟨_, rfl, rfl, rfl, rfl⟩

omit userPlain serverPlain reads isTail in
/-- The text that is split into method and password. -/
def shadowsocksInfo (user : Text) : Text :=
  match decodeB64Text (pctDecode user) with
  | some decoded => if decoded.contains (unit ':') then decoded else pctDecode user
  | none => pctDecode user

theorem parseShadowsocks_endpoint {method password : Text}
    (credentials : splitMethodPassword (shadowsocksInfo user) = some (method, password)) :
    ∃ c, parseShadowsocks platform (endpoint user server ++ tail) source id = some c ∧
      c.address = address ∧ c.port = port ∧ c.method = method ∧ c.password = password := by
  have parts : shadowsocksServer (endpoint user server) =
      some (method, password, address, port) := by
    simp only [shadowsocksServer, lastIndexOf_endpoint serverPlain, ge_iff_le,
      Int.natCast_nonneg, if_true, Int.toNat_natCast, take_endpoint, drop_endpoint, reads]
    cases decodes : decodeB64Text (pctDecode user) with
    | none =>
        simp only [shadowsocksInfo, decodes] at credentials
        simp only [credentials]
        rfl
    | some decoded =>
        simp only [shadowsocksInfo, decodes] at credentials
        simp only [credentials]
        rfl
  simp only [parseShadowsocks, core_endpoint userPlain serverPlain isTail,
    trim_endpoint userPlain serverPlain, parts]
  exact ⟨_, rfl, rfl, rfl, rfl, rfl⟩

theorem parseIkev2_endpoint {name secret : Text} (isUser : user = name ++ unit ':' :: secret)
    (nonempty : name ≠ []) (noColon : unit ':' ∉ name) (serverNonempty : server ≠ []) :
    ∃ c, parseIkev2 platform (endpoint user server ++ tail) source id = some c ∧
      c.address = ifEmpty (trim address) server ∧ c.port = port ∧
      c.uuid = formDecode name ∧ c.password = formDecode secret ∧
      c.sni = (ikeIdKeys.findSome? fun key =>
        ((lookup platform (parseQuery platform
            (after (upTo (endpoint user server ++ tail) (unit '#')) (unit '?'))) key).map
          fun value => trim (formDecode value)).filter (· ≠ [])).getD [] := by
  have noSlash : unit '/' ∉ server := serverPlain.notMem (by decide)
  have colon : indexOf user (unit ':') = name.length := by
    rw [isUser]
    exact indexOf_append noColon
  have namePart : user.take name.length = name := by simp [isUser]
  have secretPart : user.drop (name.length + 1) = secret := by simp [isUser]
  have userLength := not_length_le_zero (s := user) (by simp [isUser])
  simp only [parseIkev2, core_endpoint userPlain serverPlain isTail,
    lastIndexOf_endpoint serverPlain, if_neg userLength, Int.toNat_natCast, take_endpoint,
    drop_endpoint, serverPlain.trim_eq, upTo_of_notMem noSlash, if_neg serverNonempty,
    indexOf_of_notMem noSlash, reads, colon, if_neg (not_length_le_zero nonempty), namePart,
    secretPart]
  exact ⟨_, rfl, rfl, rfl, rfl, rfl, rfl⟩

end

section

variable {host : Text} {port : ℤ} (isServer : server = hostPort host port) (nonempty : host ≠ [])
  (isInt : IsInt port) (isTail : IsTail tail) (source : ConfigSource) (id : Text)

include isServer nonempty isInt isTail

/-- The brackets of an IPv6 literal stay. -/
theorem parseProxyUrl_endpoint (proto : Text) :
    ∃ c, parseProxyUrl (endpoint user server ++ tail) proto source id = some c ∧
      c.address = host ∧ c.port = port ∧ c.uuid = dec (upTo user (unit ':')) ∧
      c.password = dec (after user (unit ':')) := by
  have noSlash : unit '/' ∉ server := serverPlain.notMem (by decide)
  have noQuestion : unit '?' ∉ server := serverPlain.notMem (by decide)
  have question := isTail.head_query
  have noAtQuery : unit '@' ∉ upTo tail (unit '#') := fun mem => isTail.noAt (mem_of_mem_upTo mem)
  have main : upTo (endpoint user server ++ tail) (unit '#') =
      user ++ unit '@' :: (server ++ upTo tail (unit '#')) := by
    rw [upTo_hash_endpoint userPlain serverPlain]
    simp [endpoint]
  have last : lastIndexOf (user ++ unit '@' :: (server ++ upTo tail (unit '#'))) (unit '@') =
      user.length := by
    apply lastIndexOf_append
    simp only [List.mem_append, not_or]
    exact ⟨serverPlain.notMem (by decide), noAtQuery⟩
  generalize upTo tail (unit '#') = query at main last question
  have userPart : (user ++ unit '@' :: (server ++ query)).take user.length = user := by simp
  have hostPart : (user ++ unit '@' :: (server ++ query)).drop (user.length + 1) =
      server ++ query := by simp
  have questionFirst : ∀ c ∈ (upTo query (unit '/')).head?, c = unit '?' := by
    intro c isHead
    rcases upTo_isInitial query (unit '/') with ⟨rest, whole⟩
    apply question
    rw [← whole, List.head?_append, isHead]
    rfl
  have clean : upTo (upTo (server ++ query) (unit '/')) (unit '?') = server := by
    rw [upTo_append_of_notMem noSlash, upTo_append_of_notMem noQuestion, upTo_of_head questionFirst,
      List.append_nil]
  simp only [parseProxyUrl, main, last, ge_iff_le, Int.natCast_nonneg, if_true, Int.toNat_natCast,
    userPart, hostPart, clean]
  simp only [isServer, lastIndexOf_hostPort, if_neg (not_length_le_zero nonempty),
    Int.toNat_natCast, take_hostPort, drop_hostPort, toIntOrNull_ofInt isInt]
  exact ⟨_, rfl, rfl, rfl, rfl, rfl⟩

theorem parseWireguardUri_endpoint (userNonempty : user ≠ []) :
    ∃ c, parseWireguardUri platform (endpoint user server ++ tail) source id = some c ∧
      c.address = trimBrackets host ∧ c.port = port ∧ c.privateKey = dec user := by
  simp only [parseWireguardUri, core_endpoint userPlain serverPlain isTail,
    lastIndexOf_endpoint serverPlain, if_neg (not_length_le_zero userNonempty), Int.toNat_natCast,
    take_endpoint, drop_endpoint]
  simp only [isServer, lastIndexOf_hostPort, if_neg (not_length_le_zero nonempty),
    Int.toNat_natCast, take_hostPort, drop_hostPort, toIntOrNull_ofInt isInt]
  exact ⟨_, rfl, rfl, rfl, rfl⟩

end

end

theorem splitHostPort_host {host : Text} (isHost : IsHost host) {port : ℤ} (isInt : IsInt port) :
    splitHostPort (hostPort host port) = some (host, port) := by
  apply splitHostPort_hostPort (isHost.plain.notMem (by decide)) isInt
  intro c isHead
  have mem := List.mem_of_mem_head? isHead
  exact ⟨isHost.plain.visible c mem, fun isOpen => isHost.noOpen (isOpen ▸ mem)⟩

theorem splitHostPort_literal {host : Text} (isHost : IsHost host) {port : ℤ} (isInt : IsInt port) :
    splitHostPort (hostPort (bracketed host) port) = some (host, port) :=
  splitHostPort_bracketed (isHost.plain.notMem (by decide)) isInt isHost.noClose

theorem trimBrackets_host {host : Text} (isHost : IsHost host) : trimBrackets host = host := by
  have noBracket : ∀ c ∈ host, ¬ (c == unit '[' || c == unit ']') = true := by
    intro c mem isBracket
    rcases Bool.or_eq_true_iff.mp isBracket with isOpen | isClose
    · exact isHost.noOpen (beq_iff_eq.mp isOpen ▸ mem)
    · exact isHost.noClose (beq_iff_eq.mp isClose ▸ mem)
  have front : host.dropWhile (fun c => c == unit '[' || c == unit ']') = host := by
    rw [List.dropWhile_eq_self_iff]
    intro nonempty
    exact noBracket _ (List.get_mem host ⟨0, nonempty⟩)
  simp only [trimBrackets, front]
  rw [List.rdropWhile_eq_self_iff]
  intro nonempty
  exact noBracket _ (List.getLast_mem nonempty)

theorem trimBrackets_bracketed (host : Text) :
    trimBrackets (bracketed host) = trimBrackets host := by
  have isOpen : (unit '[' == unit '[' || unit '[' == unit ']') = true := by decide
  have isClose : (unit ']' == unit '[' || unit ']' == unit ']') = true := by decide
  simp only [trimBrackets, bracketed]
  rw [List.dropWhile_cons, if_pos isOpen, List.dropWhile_append]
  split
  · next empty =>
      rw [List.isEmpty_iff.mp empty, List.dropWhile_cons, if_pos isClose]
      rfl
  · rw [List.rdropWhile_concat, if_pos isClose]

/-- The user is one that the parser of the scheme accepts. -/
def AcceptsUser : Scheme → Text → Prop
  | .ss, user => unit ':' ∈ shadowsocksInfo user
  | .ikev2, user => ∃ name secret, user = name ++ unit ':' :: secret ∧ name ≠ [] ∧ unit ':' ∉ name
  | .wireguard, user | .wg, user => user ≠ []
  | _, _ => True

/-- Links of the scheme with the literal in brackets have the literal without them as address. -/
def NormalizesLiteral (platform : Platform) (scheme : Scheme) (literal : Text) (port : ℤ) : Prop :=
  ∀ user tail source id, PlainPart user → AcceptsUser scheme user → IsTail tail →
    ∃ c, parse platform (linkText scheme user (hostPort (bracketed literal) port) tail) source id =
      some c ∧ c.address = literal ∧ c.port = port

theorem not_normalizesLiteral_of_proxy {proto literal : Text} {port : ℤ} (scheme : Scheme)
    (isProxy : ∀ body source id, scheme.parseBody platform body source id =
      parseProxyUrl body proto source id)
    (accepts : AcceptsUser scheme []) (isHost : IsHost literal) (isInt : IsInt port) :
    ¬ NormalizesLiteral platform scheme literal port := by
  intro normalizes
  have userPlain : PlainPart [] := by simp [PlainPart]
  have serverPlain := plainPart_hostPort (plainPart_bracketed isHost.plain) port
  rcases normalizes [] [] .personal [] userPlain accepts isTail_nil with ⟨c, parses, address, -⟩
  rw [parse_linkText userPlain serverPlain, isProxy] at parses
  rcases parseProxyUrl_endpoint userPlain serverPlain rfl (by simp [bracketed]) isInt
    isTail_nil.rdropWhile .personal [] proto with ⟨found, reads, foundAddress, -⟩
  rw [reads, Option.some.injEq] at parses
  have same : bracketed literal = literal := by
    rw [← foundAddress, parses, address]
  have lengths := congrArg List.length same
  simp only [bracketed, List.length_cons, List.length_append] at lengths
  omega

/-- The proxy links are the ones that keep the brackets. -/
theorem normalizesLiteral_iff (platform : Platform) {scheme : Scheme} (notVmess : scheme ≠ .vmess)
    {literal : Text} (isHost : IsHost literal) {port : ℤ} (isInt : IsInt port) :
    NormalizesLiteral platform scheme literal port ↔
      scheme ≠ .socks5 ∧ scheme ≠ .socks ∧ scheme ≠ .http := by
  constructor
  · intro normalizes
    refine ⟨?_, ?_, ?_⟩ <;> rintro rfl
    · exact not_normalizesLiteral_of_proxy .socks5 (fun _ _ _ => rfl) trivial isHost isInt
        normalizes
    · exact not_normalizesLiteral_of_proxy .socks (fun _ _ _ => rfl) trivial isHost isInt normalizes
    · exact not_normalizesLiteral_of_proxy .http (fun _ _ _ => rfl) trivial isHost isInt normalizes
  · rintro ⟨notSocks5, notSocks, notHttp⟩ user tail source id userPlain accepts isTail
    have serverPlain := plainPart_hostPort (plainPart_bracketed isHost.plain) port
    have reads := splitHostPort_literal isHost isInt
    have isTail' := isTail.rdropWhile
    have bracketedNonempty : bracketed literal ≠ [] := by simp [bracketed]
    rw [parse_linkText userPlain serverPlain]
    cases scheme with
    | vmess => exact absurd rfl notVmess
    | socks5 => exact absurd rfl notSocks5
    | socks => exact absurd rfl notSocks
    | http => exact absurd rfl notHttp
    | vless =>
        rcases parseVless_endpoint userPlain serverPlain reads isTail' source
          id with ⟨c, parses, address, isPort, -⟩
        exact ⟨c, parses, address, isPort⟩
    | trojan =>
        rcases parseTrojan_endpoint userPlain serverPlain reads isTail' source
          id with ⟨c, parses, address, isPort, -⟩
        exact ⟨c, parses, address, isPort⟩
    | hysteria2 | hy2 =>
        rcases parseHysteria2_endpoint userPlain serverPlain reads isTail'
          source id with ⟨c, parses, address, isPort, -⟩
        exact ⟨c, parses, address, isPort⟩
    | ss =>
        rcases exists_first accepts with ⟨method, password, isInfo, noColon⟩
        rcases parseShadowsocks_endpoint userPlain serverPlain reads isTail'
          source id (splitMethodPassword_iff.mpr ⟨isInfo, noColon⟩) with
          ⟨c, parses, address, isPort, -⟩
        exact ⟨c, parses, address, isPort⟩
    | ikev2 =>
        rcases accepts with ⟨name, secret, isUser, nonempty, noColon⟩
        rcases parseIkev2_endpoint userPlain serverPlain reads isTail' source
          id isUser nonempty noColon (by simp [hostPort]) with ⟨c, parses, address, isPort, -⟩
        refine ⟨c, parses, ?_, isPort⟩
        rw [address, isHost.plain.trim_eq, ifEmpty_of_ne isHost.nonempty]
    | wireguard | wg =>
        rcases parseWireguardUri_endpoint userPlain serverPlain rfl
          bracketedNonempty isInt isTail' source id accepts with ⟨c, parses, address, isPort, -⟩
        refine ⟨c, parses, ?_, isPort⟩
        rw [address, trimBrackets_bracketed, trimBrackets_host isHost]

theorem isHost_loopback : IsHost (txt "::1") where
  nonempty := by decide
  plain := plainPart_of_all (by decide)
  noOpen := by decide
  noClose := by decide

theorem normalizesLiteral_loopback :
    NormalizesLiteral .ascii .vless (txt "::1") 443 ∧ IsHost (txt "::1") :=
  ⟨(normalizesLiteral_iff .ascii (by decide) isHost_loopback (by norm_num [IsInt])).mpr (by decide),
    isHost_loopback⟩

/-- `socks://[::1]:1080` is a proxy with the address `[::1]`. -/
theorem keepsBrackets_socks : ¬ NormalizesLiteral .ascii .socks (txt "::1") 1080 :=
  not_normalizesLiteral_of_proxy .socks (fun _ _ _ => rfl) trivial isHost_loopback
    (by norm_num [IsInt])

end GRoute.ConfigParser
