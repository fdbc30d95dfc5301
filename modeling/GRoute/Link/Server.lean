import GRoute.ConfigParser
import Mathlib.Data.List.Infix

/-!
# The server part of a link

What the parser does with `user@host:port`. The lemmas go both ways. An accepted text
yields an address without separators. A printed address and port are read back exactly
when the address starts with neither white space, which is trimmed, nor `[`, which is
taken for the bracket of an IPv6 literal.
-/

namespace GRoute.ConfigParser

open Text

theorem upTo_of_notMem {s : Text} {c : UInt16} (absent : c ∉ s) : upTo s c = s := by
  simp [upTo, indexOf_of_notMem absent]

theorem upTo_append {pre : Text} {c : UInt16} (absent : c ∉ pre) (post : Text) :
    upTo (pre ++ c :: post) c = pre := by
  simp [upTo, indexOf_append absent]

/-- Only the part before the first occurrence matters. -/
theorem upTo_append_cons (s : Text) (c : UInt16) (rest : Text) :
    upTo (s ++ c :: rest) c = upTo s c := by
  by_cases mem : c ∈ s
  · rcases exists_first mem with ⟨pre, post, rfl, absent⟩
    rw [List.append_assoc, List.cons_append, upTo_append absent, upTo_append absent]
  · rw [upTo_append mem, upTo_of_notMem mem]

theorem upTo_append_of_notMem {pre : Text} {c : UInt16} (absent : c ∉ pre) (s : Text) :
    upTo (pre ++ s) c = pre ++ upTo s c := by
  by_cases mem : c ∈ s
  · rcases exists_first mem with ⟨start, post, rfl, startAbsent⟩
    have wholeAbsent : c ∉ pre ++ start := by simp [absent, startAbsent]
    rw [← List.append_assoc, upTo_append wholeAbsent, upTo_append startAbsent]
  · rw [upTo_of_notMem mem, upTo_of_notMem (by simp [absent, mem])]

theorem after_of_notMem {s : Text} {c : UInt16} (absent : c ∉ s) : after s c = [] := by
  simp [after, indexOf_of_notMem absent]

theorem after_append {pre : Text} {c : UInt16} (absent : c ∉ pre) (post : Text) :
    after (pre ++ c :: post) c = post := by
  rw [after, indexOf_append absent]
  simp

theorem upTo_isInitial (s : Text) (c : UInt16) : upTo s c <+: s := by
  by_cases mem : c ∈ s
  · rcases exists_first mem with ⟨pre, post, rfl, absent⟩
    rw [upTo_append absent]
    exact List.prefix_append _ _
  · rw [upTo_of_notMem mem]

theorem notMem_upTo (s : Text) (c : UInt16) : c ∉ upTo s c := by
  by_cases mem : c ∈ s
  · rcases exists_first mem with ⟨pre, post, rfl, absent⟩
    rwa [upTo_append absent]
  · rwa [upTo_of_notMem mem]

theorem mem_of_mem_upTo {s : Text} {c x : UInt16} (mem : x ∈ upTo s c) : x ∈ s :=
  (upTo_isInitial s c).subset mem

/-- An accepted address is made of units of the text and has no slash. -/
theorem splitHostPort_accepts {raw address : Text} {port : ℤ}
    (accepted : splitHostPort raw = some (address, port)) :
    address.Sublist (upTo (trim raw) (unit '/')) ∧ IsInt port := by
  simp only [splitHostPort] at accepted
  split at accepted
  · simp only [Option.bind_eq_bind, Option.bind_eq_some_iff, Option.pure_def,
      Option.some.injEq, Prod.mk.injEq] at accepted
    rcases accepted with ⟨_, isPart, _, _, _, reads, rfl, rfl⟩
    exact ⟨substring_sublist isPart, isInt_of_toIntOrNull reads⟩
  · simp only [Option.bind_eq_bind, Option.bind_eq_some_iff, Option.pure_def,
      Option.some.injEq, Prod.mk.injEq] at accepted
    rcases accepted with ⟨_, isPart, _, _, _, reads, rfl, rfl⟩
    exact ⟨substring_sublist isPart, isInt_of_toIntOrNull reads⟩

theorem splitHostPort_noSlash {raw address : Text} {port : ℤ}
    (accepted : splitHostPort raw = some (address, port)) : unit '/' ∉ address :=
  fun mem => notMem_upTo (trim raw) _ ((splitHostPort_accepts accepted).1.subset mem)

theorem splitHostPort_mem {raw address : Text} {port : ℤ}
    (accepted : splitHostPort raw = some (address, port)) {c : UInt16} (mem : c ∈ address) :
    c ∈ raw :=
  mem_of_mem_trim (mem_of_mem_upTo ((splitHostPort_accepts accepted).1.subset mem))

theorem splitHostPort_length_le {raw address : Text} {port : ℤ}
    (accepted : splitHostPort raw = some (address, port)) : address.length ≤ raw.length :=
  ((splitHostPort_accepts accepted).1.length_le.trans (upTo_isInitial _ _).length_le).trans
    (length_trim_le raw)

/-- What the parser knows of a server: the units its address cannot contain. -/
structure CleanServer (address : Text) (port : ℤ) : Prop where
  noSlash : unit '/' ∉ address
  noAt : unit '@' ∉ address
  isInt : IsInt port

theorem splitUserHostPort_accepts {uhp user address : Text} {port : ℤ}
    (accepted : splitUserHostPort uhp = some (user, address, port)) :
    CleanServer address port ∧ ∀ c ∈ address, c ∈ uhp := by
  simp only [splitUserHostPort, Option.bind_eq_bind, Option.bind_eq_some_iff, Option.pure_def,
    Option.some.injEq, Prod.mk.injEq] at accepted
  rcases accepted with ⟨server, isServer, ⟨_, _⟩, serverAccepted, _, isUser, rfl, rfl, rfl⟩
  have hasAt : unit '@' ∈ uhp := by
    by_contra absent
    rw [lastIndexOf_of_notMem absent, substring_of_neg (by norm_num)] at isUser
    cases isUser
  rcases exists_last hasAt with ⟨pre, post, rfl, absent⟩
  rw [lastIndexOf_append absent, substringFrom_append_cons] at isServer
  cases isServer
  refine ⟨⟨splitHostPort_noSlash serverAccepted, ?_, (splitHostPort_accepts serverAccepted).2⟩, ?_⟩
  · exact fun mem => absent (splitHostPort_mem serverAccepted mem)
  · intro c mem
    have inServer := splitHostPort_mem serverAccepted mem
    simp [inServer]

/-- The address starts with neither white space nor an opening bracket. -/
def PlainStart (address : Text) : Prop :=
  ∀ c ∈ address.head?, isWhitespace c = false ∧ c ≠ unit '['

instance (address : Text) : Decidable (PlainStart address) :=
  match address with
  | [] => isTrue (by simp [PlainStart])
  | c :: _ => decidable_of_iff (isWhitespace c = false ∧ c ≠ unit '[') (by simp [PlainStart])

/-- A printed address and port. -/
def hostPort (address : Text) (port : ℤ) : Text := address ++ unit ':' :: ofInt port

theorem notMem_ofInt {z : ℤ} {c : UInt16} (outside : c ∉ txt "-0123456789") : c ∉ ofInt z := by
  intro mem
  apply outside
  rcases mem_ofInt mem with rfl | ⟨d, lt, rfl⟩
  · decide
  · interval_cases d <;> decide

theorem notMem_hostPort {address : Text} {port : ℤ} {c : UInt16} (absent : c ∉ address)
    (notColon : c ≠ unit ':') (outside : c ∉ txt "-0123456789") : c ∉ hostPort address port := by
  simp only [hostPort, List.mem_append, List.mem_cons, not_or]
  exact ⟨absent, notColon, notMem_ofInt outside⟩

theorem rdropWhile_hostPort (address : Text) (port : ℤ) :
    (hostPort address port).rdropWhile isWhitespace = hostPort address port := by
  apply rdropWhile_of_getLast
  intro c isLast
  rw [hostPort, List.getLast?_append_of_ne_nil _ (by simp), List.getLast?_cons_of_ne_nil] at isLast
  · exact not_isWhitespace_of_mem_ofInt (List.mem_of_getLast? isLast)
  · exact ofInt_ne_nil port

/-- Trimming a printed server only removes white space before the address. -/
theorem trim_hostPort (address : Text) (port : ℤ) :
    trim (hostPort address port) = hostPort (address.dropWhile isWhitespace) port := by
  have colon : isWhitespace (unit ':') = false := by decide
  have dropped : (hostPort address port).dropWhile isWhitespace =
      hostPort (address.dropWhile isWhitespace) port := by
    rw [hostPort, List.dropWhile_append]
    split
    · next blank => simp [hostPort, colon, List.isEmpty_iff.mp blank]
    · rfl
  rw [trim, dropped, rdropWhile_hostPort]

/-- Without a bracket the parser splits at the last colon. -/
theorem splitHostPort_of_plain {raw address : Text} {port : ℤ}
    (server : upTo (trim raw) (unit '/') = hostPort address port)
    (noBracket : address.head? ≠ some (unit '[')) (isInt : IsInt port) :
    splitHostPort raw = some (address, port) := by
  have noColon : unit ':' ∉ ofInt port := notMem_ofInt (by decide)
  have unbracketed : startsWith (hostPort address port) (txt "[") = false := by
    rw [Bool.eq_false_iff, ne_eq, show txt "[" = [unit '['] from rfl, startsWith_singleton]
    cases address with
    | nil =>
        simp only [hostPort, List.nil_append, List.head?_cons]
        decide
    | cons c rest => exact noBracket
  rw [splitHostPort, server]
  simp only [unbracketed]
  rw [hostPort, lastIndexOf_append noColon, substring_zero, substringFrom_append_cons]
  simp [trim_ofInt, toIntOrNull_ofInt isInt]

/-- After a bracket the address goes up to the closing bracket. -/
theorem splitHostPort_of_bracket {raw address rest : Text}
    (server : upTo (trim raw) (unit '/') = unit '[' :: (address ++ unit ']' :: rest))
    (noClose : unit ']' ∉ address) :
    splitHostPort raw =
      (substringFrom (unit '[' :: (address ++ unit ']' :: rest)) (address.length + 3)).bind
        fun tail => (toIntOrNull (trim tail)).map fun port => (address, port) := by
  have bracketed : startsWith (unit '[' :: (address ++ unit ']' :: rest)) (txt "[") = true :=
    startsWith_append (txt "[") _
  have close : indexOf (unit '[' :: (address ++ unit ']' :: rest)) (unit ']') =
      (address.length + 1 : ℕ) := by
    have absent : unit ']' ∉ unit '[' :: address := by
      simp only [List.mem_cons, not_or]
      exact ⟨by decide, noClose⟩
    exact indexOf_append absent
  have inside : substring (unit '[' :: (address ++ unit ']' :: rest)) 1 (address.length + 1 : ℕ) =
      some address := by
    rw [substring, if_pos]
    · simp
    · simp only [List.length_cons, List.length_append]
      omega
  have skip : ((address.length + 1 : ℕ) : ℤ) + 2 = address.length + 3 := by
    push_cast
    ring
  rw [splitHostPort, server]
  simp only [bracketed, if_true, close, inside, skip, Option.bind_eq_bind, Option.bind_some,
    Option.pure_def]
  congr 1
  funext tail
  cases toIntOrNull (trim tail) <;> rfl

/-- A bracket that is not closed is an error. -/
theorem splitHostPort_of_open {raw rest : Text}
    (server : upTo (trim raw) (unit '/') = unit '[' :: rest) (noClose : unit ']' ∉ rest) :
    splitHostPort raw = none := by
  have bracketed : startsWith (unit '[' :: rest) (txt "[") = true := startsWith_append (txt "[") _
  have noIndex : indexOf (unit '[' :: rest) (unit ']') = -1 := by
    apply indexOf_of_notMem
    simp only [List.mem_cons, not_or]
    exact ⟨by decide, noClose⟩
  rw [splitHostPort, server]
  simp [bracketed, noIndex, substring]

theorem upTo_trim_hostPort {address : Text} (noSlash : unit '/' ∉ address) (port : ℤ) :
    upTo (trim (hostPort address port)) (unit '/') =
      hostPort (address.dropWhile isWhitespace) port := by
  rw [trim_hostPort, upTo_of_notMem]
  refine notMem_hostPort ?_ (by decide) (by decide)
  exact fun mem => noSlash ((List.dropWhile_suffix isWhitespace).subset mem)

theorem splitHostPort_hostPort {address : Text} {port : ℤ} (noSlash : unit '/' ∉ address)
    (isInt : IsInt port) (plain : PlainStart address) :
    splitHostPort (hostPort address port) = some (address, port) := by
  have trimmed : address.dropWhile isWhitespace = address :=
    dropWhile_of_head fun c isHead => (plain c isHead).1
  refine splitHostPort_of_plain ?_ (fun isHead => (plain _ isHead).2 rfl) isInt
  rw [upTo_trim_hostPort noSlash, trimmed]

/-- The address that is found has lost every bracket and all white space at its start. -/
theorem splitHostPort_hostPort_length {address found : Text} {port foundPort : ℤ}
    (noSlash : unit '/' ∉ address) (isInt : IsInt port)
    (accepted : splitHostPort (hostPort address port) = some (found, foundPort)) :
    found.length ≤ (address.dropWhile isWhitespace).length ∧
      ((address.dropWhile isWhitespace).head? = some (unit '[') →
        found.length < (address.dropWhile isWhitespace).length) := by
  have server := upTo_trim_hostPort noSlash port
  generalize address.dropWhile isWhitespace = visible at server
  by_cases bracket : visible.head? = some (unit '[')
  · suffices shorter : found.length < visible.length from ⟨shorter.le, fun _ => shorter⟩
    cases visible with
    | nil => cases bracket
    | cons c inner =>
        cases bracket
        by_cases closed : unit ']' ∈ inner
        · rcases exists_first closed with ⟨pre, post, rfl, noClose⟩
          have shape : hostPort (unit '[' :: (pre ++ unit ']' :: post)) port =
              unit '[' :: (pre ++ unit ']' :: hostPort post port) := by
            simp [hostPort]
          rw [splitHostPort_of_bracket (server.trans shape) noClose] at accepted
          simp only [Option.bind_eq_some_iff, Option.map_eq_some_iff, Prod.mk.injEq] at accepted
          rcases accepted with ⟨_, _, _, _, rfl, _⟩
          simp only [List.length_cons, List.length_append]
          omega
        · rw [splitHostPort_of_open server (notMem_hostPort closed (by decide) (by decide))]
            at accepted
          cases accepted
  · rw [splitHostPort_of_plain server bracket isInt] at accepted
    cases accepted
    exact ⟨le_rfl, fun isBracket => absurd isBracket bracket⟩

/-- A printed server is read back exactly when its address starts plainly. -/
theorem splitHostPort_hostPort_iff {address : Text} {port : ℤ} (noSlash : unit '/' ∉ address)
    (isInt : IsInt port) :
    (∃ foundPort, splitHostPort (hostPort address port) = some (address, foundPort)) ↔
      PlainStart address := by
  constructor
  · rintro ⟨foundPort, accepted⟩
    have lengths := splitHostPort_hostPort_length noSlash isInt accepted
    cases address with
    | nil => intro c isHead; cases isHead
    | cons c rest =>
        intro d isHead
        cases isHead
        have visible : isWhitespace c = false := by
          by_contra white
          have dropped := (List.dropWhile_suffix (l := rest) isWhitespace).length_le
          rw [List.dropWhile_cons_of_pos (by simpa using white), List.length_cons] at lengths
          omega
        rw [List.dropWhile_cons_of_neg (by simp [visible])] at lengths
        refine ⟨visible, ?_⟩
        rintro rfl
        exact absurd (lengths.2 rfl) (lt_irrefl _)
  · intro plain
    exact ⟨port, splitHostPort_hostPort noSlash isInt plain⟩

def bracketed (address : Text) : Text := unit '[' :: (address ++ [unit ']'])

/-- Where the first bracket closes, the address ends. -/
theorem splitHostPort_bracketed_append {address rest : Text} {port : ℤ}
    (noSlash : unit '/' ∉ address ++ rest) (noClose : unit ']' ∉ address) :
    splitHostPort (hostPort (unit '[' :: (address ++ unit ']' :: rest)) port) =
      (substringFrom (hostPort (unit '[' :: (address ++ unit ']' :: rest)) port)
        (address.length + 3)).bind
          fun tail => (toIntOrNull (trim tail)).map fun port => (address, port) := by
  have noSlash' : unit '/' ∉ unit '[' :: (address ++ unit ']' :: rest) := by
    simp only [List.mem_append, not_or] at noSlash
    simp only [List.mem_cons, List.mem_append, not_or]
    exact ⟨by decide, noSlash.1, by decide, noSlash.2⟩
  have visible : isWhitespace (unit '[') = false := by decide
  have server := upTo_trim_hostPort noSlash' port
  rw [List.dropWhile_cons_of_neg (by simp [visible])] at server
  have shape : hostPort (unit '[' :: (address ++ unit ']' :: rest)) port =
      unit '[' :: (address ++ unit ']' :: hostPort rest port) := by
    simp [hostPort]
  rw [splitHostPort_of_bracket (server.trans shape) noClose, shape]

theorem splitHostPort_bracketed {address : Text} {port : ℤ} (noSlash : unit '/' ∉ address)
    (isInt : IsInt port) (noClose : unit ']' ∉ address) :
    splitHostPort (hostPort (bracketed address) port) = some (address, port) := by
  have tail : substringFrom (hostPort (bracketed address) port) (address.length + 3) =
      some (ofInt port) := by
    have shape : hostPort (bracketed address) port =
        (unit '[' :: (address ++ [unit ']'])) ++ unit ':' :: ofInt port := rfl
    have start : (address.length : ℤ) + 3 = (unit '[' :: (address ++ [unit ']'])).length + 1 := by
      simp only [List.length_cons, List.length_append, List.length_nil]
      push_cast
      ring
    rw [shape, start, substringFrom_append_cons]
  rw [bracketed, splitHostPort_bracketed_append (by simpa using noSlash) noClose, ← bracketed, tail,
    Option.bind_some, trim_ofInt, toIntOrNull_ofInt isInt]
  rfl

/-- An address in brackets comes back exactly when it has no closing bracket. -/
theorem splitHostPort_bracketed_iff {address : Text} {port : ℤ} (noSlash : unit '/' ∉ address)
    (isInt : IsInt port) :
    (∃ foundPort, splitHostPort (hostPort (bracketed address) port) = some (address, foundPort)) ↔
      unit ']' ∉ address := by
  constructor
  · rintro ⟨foundPort, accepted⟩ close
    rcases exists_first close with ⟨pre, post, rfl, absent⟩
    have shape : bracketed (pre ++ unit ']' :: post) =
        unit '[' :: (pre ++ unit ']' :: (post ++ [unit ']'])) := by simp [bracketed]
    have noSlash' : unit '/' ∉ pre ++ (post ++ [unit ']']) := by
      simp only [List.mem_append, List.mem_cons, not_or] at noSlash
      simp only [List.mem_append, List.mem_singleton, not_or]
      exact ⟨noSlash.1, noSlash.2.2, by decide⟩
    rw [shape, splitHostPort_bracketed_append noSlash' absent] at accepted
    simp only [Option.bind_eq_some_iff, Option.map_eq_some_iff, Prod.mk.injEq] at accepted
    rcases accepted with ⟨_, _, _, _, same, _⟩
    simp at same
  · exact fun noClose => ⟨port, splitHostPort_bracketed noSlash isInt noClose⟩

/-- The user is what stands before the last `@`. -/
theorem splitUserHostPort_append (user : Text) {server : Text} (noAt : unit '@' ∉ server) :
    splitUserHostPort (user ++ unit '@' :: server) =
      (splitHostPort server).map fun hp => (user, hp.1, hp.2) := by
  rw [splitUserHostPort, lastIndexOf_append noAt, substringFrom_append_cons, substring_zero]
  simp only [Option.bind_eq_bind, Option.bind_some, Option.pure_def]
  cases splitHostPort server <;> rfl

end GRoute.ConfigParser
