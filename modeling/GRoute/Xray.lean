import GRoute.Foundation.Json

/-!
# Configurations of the core

What Xray takes from its configuration: the inbounds and outbounds with their tags, the
outbound through which another one dials, and the rules by which a connection is
dispatched. The first rule all of whose conditions hold decides, and if there is none the
first outbound is taken. Regular expressions, the lists of the geo files and address
ranges are parameters. A condition on the port is one port.
-/

namespace GRoute.Xray

open Text Json

/-- The elements of the array under the key. -/
def elementsOf (o : Json) (key : String) : List Json :=
  match o.field? (txt key) with
  | some (arr elements) => elements
  | _ => []

def outboundsOf (root : Json) : List Json := elementsOf root "outbounds"

def inboundsOf (root : Json) : List Json := elementsOf root "inbounds"

def rulesOf (root : Json) : List Json :=
  match root.field? (txt "routing") with
  | some routing => elementsOf routing "rules"
  | none => []

/-- The string under the key. -/
def stringOf (o : Json) (key : String) : Option Text :=
  match o.field? (txt key) with
  | some (str s) => some s
  | _ => none

def HasTag (out : Json) (tag : String) : Prop := out.field? (txt "tag") = some (text tag)

/-- The outbound hands its connections to the outbound with the given tag. -/
def DialsThrough (out : Json) (tag : String) : Prop :=
  ∃ stream sockopt, out.field? (txt "streamSettings") = some stream ∧
    stream.field? (txt "sockopt") = some sockopt ∧
    sockopt.field? (txt "dialerProxy") = some (text tag)

/-- The servers that the outbound reaches over TCP. -/
def serversOf (out : Json) : List Json :=
  match out.field? (txt "settings") with
  | some settings => elementsOf settings "servers" ++ elementsOf settings "vnext"
  | none => []

def ServesAt (out : Json) (address : Text) (port : ℤ) : Prop :=
  ∃ server ∈ serversOf out, server.field? (txt "address") = some (str address) ∧
    server.field? (txt "port") = some (int port)

/-- The value is the tag of one of the given parts, or a list of such tags. -/
def Names (parts : List Json) : Json → Prop
  | str tag => some tag ∈ parts.map (stringOf · "tag")
  | arr elements => ∀ element ∈ elements, ∃ tag, element = str tag ∧
      some tag ∈ parts.map (stringOf · "tag")
  | _ => False

/-- The tags are distinct, the first outbound is `proxy`, and every tag that is named
anywhere is there. -/
structure IsClosed (root : Json) : Prop where
  inboundTags : ((inboundsOf root).map (stringOf · "tag")).Nodup
  outboundTags : ((outboundsOf root).map (stringOf · "tag")).Nodup
  first : ∃ out, (outboundsOf root).head? = some out ∧ HasTag out "proxy"
  outboundTag : ∀ field ∈ root.allFields, field.1 = txt "outboundTag" →
    Names (outboundsOf root) field.2
  dialerProxy : ∀ field ∈ root.allFields, field.1 = txt "dialerProxy" →
    Names (outboundsOf root) field.2
  inboundTag : ∀ field ∈ root.allFields, field.1 = txt "inboundTag" →
    Names (inboundsOf root) field.2

theorem elementsOf_of_field? {o : Json} {key : String} {elements : List Json}
    (found : o.field? (txt key) = some (arr elements)) : elementsOf o key = elements := by
  rw [elementsOf, found]

theorem elementsOf_of_absent {fields : List (String × Json)} {key : String}
    (absent : ∀ field ∈ fields, txt field.1 ≠ txt key) : elementsOf (object fields) key = [] := by
  rw [elementsOf, field?_object_of_forall_ne absent]

theorem HasTag.tag_eq {out : Json} {tag other : String} (has : HasTag out tag)
    (hasOther : HasTag out other) : txt tag = txt other := by
  rw [HasTag, has, Option.some.injEq] at hasOther
  exact Json.str.inj hasOther

theorem HasTag.stringOf_eq {out : Json} {tag : String} (has : HasTag out tag) :
    stringOf out "tag" = some (txt tag) := by
  rw [stringOf, has]
  rfl

theorem hasTag_iff {out : Json} {tag : String} :
    HasTag out tag ↔ stringOf out "tag" = some (txt tag) := by
  refine ⟨HasTag.stringOf_eq, ?_⟩
  intro isTag
  rw [stringOf] at isTag
  split at isTag
  · next found =>
      rw [HasTag, found, Option.some.inj isTag]
      rfl
  · cases isTag

theorem HasTag.put {out : Json} {tag key : String} (has : HasTag out tag)
    (other : txt key ≠ txt "tag") (value : Json) : HasTag (out.put key value) tag := by
  rw [HasTag, field?_put_of_ne _ other]
  exact has

theorem hasTag_object (tag : String) (rest : List (String × Json)) :
    HasTag (object (("tag", text tag) :: rest)) tag := by
  rw [HasTag, field?_object_cons, if_pos rfl]

theorem DialsThrough.of_put {out : Json} {tag key : String} {value : Json}
    (other : txt key ≠ txt "streamSettings") :
    DialsThrough (out.put key value) tag ↔ DialsThrough out tag := by
  simp only [DialsThrough, field?_put_of_ne _ other]

/-- The outbound with the tag. -/
def outboundNamed (outs : List Json) (tag : Text) : Option Json :=
  outs.find? fun out => stringOf out "tag" = some tag

/-- The tag of the outbound that the given one hands its connections to. -/
def dialerOf (out : Json) : Option Text := do
  let stream ← out.field? (txt "streamSettings")
  let sockopt ← stream.field? (txt "sockopt")
  stringOf sockopt "dialerProxy"

/-- The outbound at which the given one arrives by its dialers, not counting `fragment`. It has no
dialer, or its dialer is `fragment`. -/
def carrier (outs : List Json) : ℕ → Json → Option Json
  | 0, _ => none
  | hops + 1, out =>
      match dialerOf out with
      | none => some out
      | some tag =>
          if tag = txt "fragment" then some out
          else (outboundNamed outs tag).bind (carrier outs hops)

/-- The outbound that opens the connections of `proxy` hands them to the fragmenter if it has
stream settings. -/
def FragmentsOnWire (root : Json) : Prop :=
  ∃ first last, outboundNamed (outboundsOf root) (txt "proxy") = some first ∧
    carrier (outboundsOf root) (outboundsOf root).length first = some last ∧
    (last.field? (txt "streamSettings") ≠ none → DialsThrough last "fragment")

theorem dialsThrough_iff {out : Json} {tag : String} :
    DialsThrough out tag ↔ dialerOf out = some (txt tag) := by
  simp only [DialsThrough, dialerOf, Option.bind_eq_bind, Option.bind_eq_some_iff]
  constructor
  · rintro ⟨stream, sockopt, isStream, isSockopt, dialer⟩
    refine ⟨stream, isStream, sockopt, isSockopt, ?_⟩
    rw [stringOf, dialer]
    rfl
  · rintro ⟨stream, isStream, sockopt, isSockopt, dialer⟩
    refine ⟨stream, sockopt, isStream, isSockopt, ?_⟩
    rw [stringOf] at dialer
    split at dialer
    · next found =>
        rw [found, Option.some.inj dialer]
        rfl
    · cases dialer

theorem carrier_of_dialerOf_eq_none {outs : List Json} {out : Json} (hops : ℕ)
    (noDialer : dialerOf out = none) : carrier outs (hops + 1) out = some out := by
  rw [carrier, noDialer]

theorem carrier_of_dialsThrough_fragment {outs : List Json} {out : Json} (hops : ℕ)
    (fragments : DialsThrough out "fragment") : carrier outs (hops + 1) out = some out := by
  rw [carrier, dialsThrough_iff.mp fragments]
  exact if_pos rfl

theorem carrier_of_dialsThrough {outs : List Json} {out next : Json} {tag : String} (hops : ℕ)
    (dials : DialsThrough out tag) (other : txt tag ≠ txt "fragment")
    (named : outboundNamed outs (txt tag) = some next) :
    carrier outs (hops + 1) out = carrier outs hops next := by
  rw [carrier, dialsThrough_iff.mp dials]
  simp only [if_neg other, named, Option.bind_some]

theorem outboundNamed_cons_self {out : Json} {tag : String} (has : HasTag out tag)
    (outs : List Json) : outboundNamed (out :: outs) (txt tag) = some out := by
  rw [outboundNamed, List.find?_cons_of_pos]
  exact decide_eq_true has.stringOf_eq

theorem outboundNamed_of_mem {outs : List Json} (distinct : (outs.map (stringOf · "tag")).Nodup)
    {out : Json} (mem : out ∈ outs) {tag : String} (has : HasTag out tag) :
    outboundNamed outs (txt tag) = some out := by
  induction outs with
  | nil => cases mem
  | cons first rest ih =>
      rw [List.map_cons, List.nodup_cons] at distinct
      rcases List.mem_cons.mp mem with rfl | inRest
      · exact outboundNamed_cons_self has rest
      · rw [outboundNamed, List.find?_cons_of_neg]
        · exact ih distinct.2 inRest
        · intro isFirst
          apply distinct.1
          rw [of_decide_eq_true isFirst, ← has.stringOf_eq]
          exact List.mem_map_of_mem inRest

theorem outboundNamed_eq_none_iff {outs : List Json} {tag : Text} :
    outboundNamed outs tag = none ↔ some tag ∉ outs.map (stringOf · "tag") := by
  simp [outboundNamed]

inductive Network
  | tcp
  | udp
  deriving DecidableEq, Repr

def Network.name : Network → Text
  | tcp => txt "tcp"
  | udp => txt "udp"

structure Connection (Address : Type) where
  /-- The tag of the inbound at which it arrives. -/
  inbound : Text
  /-- The domain in lower case, as the router compares it. -/
  domain : Option Text
  ip : Option Address
  port : UInt16
  network : Network

def isLowerLetter (c : UInt16) : Bool := unit 'a' ≤ c && c ≤ unit 'z'

/-- What the router consults besides the configuration. -/
structure Router (Address : Type) where
  regexp : Text → Text → Bool
  /-- An escaped dot, letters and the end of the text. -/
  regexp_ending : ∀ name domain : Text, name.all isLowerLetter →
    regexp (unit '\x5c' :: unit '.' :: (name ++ [unit '$'])) domain =
      (unit '.' :: name).isSuffixOf domain
  geosite : Text → Text → Bool
  geoip : Text → Address → Bool
  range : Text → Address → Bool

/-- A router that knows no list and only the regular expressions of the law. -/
def Router.bare : Router Unit where
  regexp pattern domain :=
    match pattern with
    | _ :: _ :: rest => (unit '.' :: rest.dropLast).isSuffixOf domain
    | _ => false
  regexp_ending name domain _ := by
    simp
  geosite _ _ := false
  geoip _ _ := false
  range _ _ := false

variable {Address : Type} (router : Router Address) (connection : Connection Address)

def domainMatches (pattern domain : Text) : Bool :=
  if startsWith pattern (txt "regexp:") then router.regexp (pattern.drop 7) domain
  else if startsWith pattern (txt "domain:") then
    domain == pattern.drop 7 || (unit '.' :: pattern.drop 7).isSuffixOf domain
  else if startsWith pattern (txt "full:") then domain == pattern.drop 5
  else if startsWith pattern (txt "geosite:") then router.geosite (pattern.drop 8) domain
  else if startsWith pattern (txt "keyword:") then containsText domain (pattern.drop 8)
  else containsText domain pattern

def ipMatches (pattern : Text) (ip : Address) : Bool :=
  if startsWith pattern (txt "geoip:") then router.geoip (pattern.drop 6) ip
  else router.range pattern ip

/-- Some string of the array passes the test. -/
def anyString (value : Json) (test : Text → Bool) : Bool :=
  match value with
  | arr elements => elements.any fun element =>
      match element with
      | str s => test s
      | _ => false
  | _ => false

/-- The condition that one field of a rule states. Other fields state none. -/
def conditionHolds (field : Text × Json) : Bool :=
  if field.1 = txt "domain" then
    connection.domain.any fun domain => anyString field.2 (domainMatches router · domain)
  else if field.1 = txt "ip" then
    connection.ip.any fun ip => anyString field.2 (ipMatches router · ip)
  else if field.1 = txt "port" then field.2.toText == ofInt connection.port.toNat
  else if field.1 = txt "network" then
    (split field.2.toText (unit ',')).contains connection.network.name
  else if field.1 = txt "inboundTag" then anyString field.2 (· == connection.inbound)
  else true

def ruleMatches (rule : Json) : Bool :=
  match rule with
  | obj fields => fields.all (conditionHolds router connection)
  | _ => false

/-- The tag of the outbound that takes the connection. -/
def dispatch (root : Json) : Option Text :=
  match (rulesOf root).find? (ruleMatches router connection) with
  | some rule => stringOf rule "outboundTag"
  | none => (outboundsOf root).head?.bind (stringOf · "tag")

@[simp]
theorem conditionHolds_domain (value : Json) :
    conditionHolds router connection (txt "domain", value) =
      connection.domain.any fun domain => anyString value (domainMatches router · domain) :=
  if_pos rfl

@[simp]
theorem conditionHolds_ip (value : Json) :
    conditionHolds router connection (txt "ip", value) =
      connection.ip.any fun ip => anyString value (ipMatches router · ip) := by
  simp +decide only [conditionHolds, if_true, if_false]

@[simp]
theorem conditionHolds_port (value : Json) :
    conditionHolds router connection (txt "port", value) =
      (value.toText == ofInt connection.port.toNat) := by
  simp +decide only [conditionHolds, if_true, if_false]

@[simp]
theorem conditionHolds_inboundTag (value : Json) :
    conditionHolds router connection (txt "inboundTag", value) =
      anyString value (· == connection.inbound) := by
  simp +decide only [conditionHolds, if_true, if_false]

theorem anyString_text (tags : List String) (test : Text → Bool) :
    anyString (arr (tags.map text)) test = tags.any fun tag => test (txt tag) := by
  rw [anyString, List.any_map]
  rfl

theorem ofInt_port_eq_iff (port : UInt16) {number : ℤ} (isInt : IsInt number) :
    ofInt number = ofInt port.toNat ↔ number = port.toNat := by
  constructor
  · intro same
    have portIsInt : IsInt (port.toNat : ℤ) := by
      have bound : port.toNat < 2 ^ 16 := port.toNat_lt
      rw [IsInt]
      omega
    have read : toIntOrNull (ofInt number) = some (port.toNat : ℤ) := by
      rw [same]
      exact toIntOrNull_ofInt portIsInt
    rw [toIntOrNull_ofInt isInt] at read
    exact Option.some.inj read
  · intro same
    rw [same]

theorem ruleMatches_object (fields : List (String × Json)) :
    ruleMatches router connection (object fields) =
      fields.all fun field => conditionHolds router connection (txt field.1, field.2) := by
  rw [object, ruleMatches, List.all_map]
  rfl

end GRoute.Xray
