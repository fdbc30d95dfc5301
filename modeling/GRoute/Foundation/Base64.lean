import GRoute.Foundation.Text
import Mathlib.Tactic.IntervalCases

/-!
# Base64

`android.util.Base64`. Encoding writes the sextets of the bytes in one of two alphabets,
without line breaks and with or without padding. Decoding is the state machine of the
Android sources: a unit outside the selected alphabet is skipped wherever it occurs,
padding may be missing, and one sextet too many is an error.

Both directions are described through the sextets: `packSextets` is what the decoder
returns for the sextets it reads, and `sextets` is what the encoder writes.
-/

namespace GRoute.Base64

/-- The flag `URL_SAFE`, or its absence. -/
inductive Alphabet
  | standard
  | urlSafe
  deriving DecidableEq, Repr

namespace Alphabet

def char62 : Alphabet → UInt16
  | standard => unit '+'
  | urlSafe => unit '-'

def char63 : Alphabet → UInt16
  | standard => unit '/'
  | urlSafe => unit '_'

/-- The unit for a sextet. -/
def encode (alphabet : Alphabet) (v : ℕ) : UInt16 :=
  if v < 26 then UInt16.ofNat (65 + v)
  else if v < 52 then UInt16.ofNat (71 + v)
  else if v < 62 then UInt16.ofNat (v - 4)
  else if v = 62 then alphabet.char62
  else alphabet.char63

end Alphabet

/-- An entry of the decoding table. -/
inductive Symbol
  | sextet (v : ℕ)
  | equals
  | skip
  deriving DecidableEq, Repr

def Alphabet.symbol (alphabet : Alphabet) (c : UInt16) : Symbol :=
  if 65 ≤ c.toNat ∧ c.toNat ≤ 90 then .sextet (c.toNat - 65)
  else if 97 ≤ c.toNat ∧ c.toNat ≤ 122 then .sextet (c.toNat - 71)
  else if 48 ≤ c.toNat ∧ c.toNat ≤ 57 then .sextet (c.toNat + 4)
  else if c = alphabet.char62 then .sextet 62
  else if c = alphabet.char63 then .sextet 63
  else if c = unit '=' then .equals
  else .skip

/-- The sextets of a sequence of bytes. -/
def sextets : List UInt8 → List ℕ
  | [] => []
  | [a] => [a.toNat / 4, a.toNat % 4 * 16]
  | [a, b] => [a.toNat / 4, a.toNat % 4 * 16 + b.toNat / 16, b.toNat % 16 * 4]
  | a :: b :: c :: rest =>
      a.toNat / 4 :: (a.toNat % 4 * 16 + b.toNat / 16) :: (b.toNat % 16 * 4 + c.toNat / 64) ::
        c.toNat % 64 :: sextets rest

/-- The number of padding units after so many sextets. -/
def padding (count : ℕ) : ℕ := (4 - count % 4) % 4

/-- `Base64.encodeToString` with `NO_WRAP`, and `NO_PADDING` unless `padded`. -/
def encodeToString (alphabet : Alphabet) (padded : Bool) (bytes : List UInt8) : Text :=
  (sextets bytes).map alphabet.encode ++
    if padded then List.replicate (padding (sextets bytes).length) (unit '=') else []

/-- The states of the decoder, with the sextets of the tuple that is being read. -/
inductive State
  | read0
  | read1 (a : ℕ)
  | read2 (a b : ℕ)
  | read3 (a b c : ℕ)
  | expectEquals
  | done
  deriving DecidableEq, Repr

def oneByte (a b : ℕ) : List UInt8 := [UInt8.ofNat (a * 4 + b / 16)]

def twoBytes (a b c : ℕ) : List UInt8 :=
  [UInt8.ofNat (a * 4 + b / 16), UInt8.ofNat (b % 16 * 16 + c / 4)]

def threeBytes (a b c d : ℕ) : List UInt8 :=
  [UInt8.ofNat (a * 4 + b / 16), UInt8.ofNat (b % 16 * 16 + c / 4), UInt8.ofNat (c % 4 * 64 + d)]

/-- The bytes written for one symbol, and the next state; `none` is an error. -/
def step : State → Symbol → Option (List UInt8 × State)
  | state, .skip => some ([], state)
  | .read0, .sextet a => some ([], .read1 a)
  | .read1 a, .sextet b => some ([], .read2 a b)
  | .read2 a b, .sextet c => some ([], .read3 a b c)
  | .read2 a b, .equals => some (oneByte a b, .expectEquals)
  | .read3 a b c, .sextet d => some (threeBytes a b c d, .read0)
  | .read3 a b c, .equals => some (twoBytes a b c, .done)
  | .expectEquals, .equals => some ([], .done)
  | _, _ => none

def finish : State → Option (List UInt8)
  | .read0 => some []
  | .read1 _ => none
  | .read2 a b => some (oneByte a b)
  | .read3 a b c => some (twoBytes a b c)
  | .expectEquals => none
  | .done => some []

def process : State → List Symbol → Option (List UInt8)
  | state, [] => finish state
  | state, symbol :: rest =>
      match step state symbol with
      | none => none
      | some (bytes, next) => (process next rest).map (bytes ++ ·)

/-- `Base64.decode`. -/
def decode (alphabet : Alphabet) (s : Text) : Option (List UInt8) :=
  process .read0 (s.map alphabet.symbol)

/-- The bytes of a sequence of sextets. -/
def packSextets : List ℕ → List UInt8
  | a :: b :: c :: d :: rest => threeBytes a b c d ++ packSextets rest
  | [a, b, c] => twoBytes a b c
  | [a, b] => oneByte a b
  | [_] => []
  | [] => []

theorem process_skip (state : State) (rest : List Symbol) :
    process state (.skip :: rest) = process state rest := by
  rw [process, step]
  simp

/-- Skipped symbols do not matter. -/
theorem process_filter (state : State) (symbols : List Symbol) :
    process state (symbols.filter (· ≠ .skip)) = process state symbols := by
  induction symbols generalizing state with
  | nil => rfl
  | cons symbol rest ih =>
      by_cases skipped : symbol = .skip
      · subst skipped
        rw [process_skip, ← ih]
        simp
      · rw [List.filter_cons_of_pos (by simpa using skipped), process, process]
        split
        · rfl
        · rw [ih]

/-- A tuple of four sextets gives three bytes and returns to the first state. -/
theorem process_tuple (a b c d : ℕ) (rest : List Symbol) :
    process .read0 (.sextet a :: .sextet b :: .sextet c :: .sextet d :: rest) =
      (process .read0 rest).map (threeBytes a b c d ++ ·) := by
  simp [process, step, Function.comp_def]

/-- What the decoder needs after its sextets, by the number of padding units. -/
def Accepts (count pads : ℕ) : Prop :=
  (pads = 0 ∧ count % 4 ≠ 1) ∨ (pads = 1 ∧ count % 4 = 3) ∨ (pads = 2 ∧ count % 4 = 2)

instance (count pads : ℕ) : Decidable (Accepts count pads) :=
  inferInstanceAs (Decidable (_ ∨ _))

/-- The decoder packs its sextets when padding agrees with their number. -/
theorem process_sextets (xs : List ℕ) {pads : ℕ} (few : pads ≤ 2) :
    process .read0 (xs.map .sextet ++ List.replicate pads .equals) =
      if Accepts xs.length pads then some (packSextets xs) else none := by
  fun_induction packSextets xs with
  | case1 a b c d rest ih =>
      have count : Accepts (a :: b :: c :: d :: rest).length pads ↔ Accepts rest.length pads := by
        simp only [Accepts, List.length_cons]
        omega
      simp only [List.map_cons, List.cons_append, process_tuple, ih, count]
      split <;> rfl
  | case2 a b c =>
      interval_cases pads <;> simp [process, step, finish, Accepts]
  | case3 a b =>
      interval_cases pads <;> simp [process, step, finish, Accepts]
  | case4 a =>
      interval_cases pads <;> simp [process, step, finish, Accepts]
  | case5 =>
      interval_cases pads <;> simp [process, step, finish, Accepts]

theorem symbol_encode (alphabet : Alphabet) {v : ℕ} (lt : v < 64) :
    alphabet.symbol (alphabet.encode v) = .sextet v := by
  cases alphabet <;> (interval_cases v <;> decide)

/-- The standard decoder skips the two units that only the other alphabet has. -/
theorem standard_symbol_encode_urlSafe {v : ℕ} (lt : v < 64) :
    Alphabet.standard.symbol (Alphabet.urlSafe.encode v) = if v < 62 then .sextet v else .skip := by
  interval_cases v <;> decide

theorem symbol_equals (alphabet : Alphabet) : alphabet.symbol (unit '=') = .equals := by
  cases alphabet <;> decide

/-- The separators that neither alphabet contains. -/
theorem encode_notMem_separators (alphabet : Alphabet) {v : ℕ} (lt : v < 64) :
    alphabet.encode v ∉ txt " \t\n\r#%:=?@" := by
  cases alphabet <;> (interval_cases v <;> decide)

theorem encode_urlSafe_ne_plus {v : ℕ} (lt : v < 64) : Alphabet.urlSafe.encode v ≠ unit '+' := by
  interval_cases v <;> decide

theorem isWhitespace_encode (alphabet : Alphabet) {v : ℕ} (lt : v < 64) :
    Text.isWhitespace (alphabet.encode v) = false := by
  cases alphabet <;> (interval_cases v <;> decide)

theorem sextets_lt (bytes : List UInt8) : ∀ v ∈ sextets bytes, v < 64 := by
  fun_induction sextets bytes with
  | case1 => simp
  | case2 a =>
      have aLt := a.toNat_lt
      simp only [List.mem_cons, List.not_mem_nil, or_false, forall_eq_or_imp, forall_eq]
      omega
  | case3 a b =>
      have aLt := a.toNat_lt
      have bLt := b.toNat_lt
      simp only [List.mem_cons, List.not_mem_nil, or_false, forall_eq_or_imp, forall_eq]
      omega
  | case4 a b c rest ih =>
      have aLt := a.toNat_lt
      have bLt := b.toNat_lt
      have cLt := c.toNat_lt
      simp only [List.mem_cons, forall_eq_or_imp]
      exact ⟨by omega, by omega, by omega, by omega, ih⟩

theorem exists_sextets (first : UInt8) (others : List UInt8) :
    ∃ v < 64, ∃ rest, sextets (first :: others) = v :: rest := by
  have lt := sextets_lt (first :: others)
  cases shape : sextets (first :: others) with
  | nil =>
      cases others with
      | nil => cases shape
      | cons second others =>
          cases others with
          | nil => cases shape
          | cons third others => cases shape
  | cons v rest =>
      rw [shape] at lt
      exact ⟨v, lt v List.mem_cons_self, rest, rfl⟩

theorem packSextets_sextets (bytes : List UInt8) : packSextets (sextets bytes) = bytes := by
  fun_induction sextets bytes with
  | case1 => rfl
  | case2 a =>
      have value : a.toNat / 4 * 4 + a.toNat % 4 * 16 / 16 = a.toNat := by omega
      rw [packSextets, oneByte, value, UInt8.ofNat_toNat]
  | case3 a b =>
      have bLt := b.toNat_lt
      have first : a.toNat / 4 * 4 + (a.toNat % 4 * 16 + b.toNat / 16) / 16 = a.toNat := by omega
      have second : (a.toNat % 4 * 16 + b.toNat / 16) % 16 * 16 + b.toNat % 16 * 4 / 4 =
          b.toNat := by omega
      rw [packSextets, twoBytes, first, second, UInt8.ofNat_toNat, UInt8.ofNat_toNat]
  | case4 a b c rest ih =>
      have bLt := b.toNat_lt
      have cLt := c.toNat_lt
      have first : a.toNat / 4 * 4 + (a.toNat % 4 * 16 + b.toNat / 16) / 16 = a.toNat := by omega
      have second : (a.toNat % 4 * 16 + b.toNat / 16) % 16 * 16 +
          (b.toNat % 16 * 4 + c.toNat / 64) / 4 = b.toNat := by omega
      have third : (b.toNat % 16 * 4 + c.toNat / 64) % 4 * 64 + c.toNat % 64 = c.toNat := by omega
      rw [packSextets, threeBytes, first, second, third, ih, UInt8.ofNat_toNat, UInt8.ofNat_toNat,
        UInt8.ofNat_toNat]
      rfl

/-- Encoding never leaves a single sextet over. -/
theorem sextets_length_mod (bytes : List UInt8) : (sextets bytes).length % 4 ≠ 1 := by
  fun_induction sextets bytes with
  | case1 => decide
  | case2 a => simp
  | case3 a b => simp
  | case4 a b c rest ih =>
      simp only [List.length_cons]
      omega

theorem accepts_padding (bytes : List UInt8) :
    Accepts (sextets bytes).length (padding (sextets bytes).length) := by
  have notOne := sextets_length_mod bytes
  simp only [Accepts, padding]
  omega

theorem map_symbol_encode (alphabet : Alphabet) {xs : List ℕ} (lt : ∀ v ∈ xs, v < 64) :
    (xs.map alphabet.encode).map alphabet.symbol = xs.map .sextet := by
  rw [List.map_map]
  exact List.map_congr_left fun v mem => symbol_encode alphabet (lt v mem)

/-- Bytes are read back from their padded encoding. -/
theorem decode_encode (alphabet : Alphabet) (bytes : List UInt8) :
    decode alphabet ((sextets bytes).map alphabet.encode ++
      List.replicate (padding (sextets bytes).length) (unit '=')) = some bytes := by
  have few : padding (sextets bytes).length ≤ 2 := by
    have notOne := sextets_length_mod bytes
    simp only [padding]
    omega
  rw [decode, List.map_append, map_symbol_encode alphabet (sextets_lt bytes), List.map_replicate,
    symbol_equals, process_sextets _ few, if_pos (accepts_padding bytes), packSextets_sextets]

/-- The standard decoder on the other alphabet reads the sextets both alphabets share. -/
theorem decode_standard_urlSafe {xs : List ℕ} (lt : ∀ v ∈ xs, v < 64) {pads : ℕ} (few : pads ≤ 2) :
    decode .standard (xs.map Alphabet.urlSafe.encode ++ List.replicate pads (unit '=')) =
      if Accepts (xs.filter (· < 62)).length pads then some (packSextets (xs.filter (· < 62)))
      else none := by
  have kept : ((xs.map Alphabet.urlSafe.encode).map Alphabet.standard.symbol).filter (· ≠ .skip) =
      (xs.filter (· < 62)).map .sextet := by
    induction xs with
    | nil => rfl
    | cons v xs ih =>
        rw [List.forall_mem_cons] at lt
        rw [List.map_cons, List.map_cons, standard_symbol_encode_urlSafe lt.1]
        by_cases shared : v < 62
        · rw [if_pos shared, List.filter_cons_of_pos (by simp),
            List.filter_cons_of_pos (by simpa using shared), ih lt.2, List.map_cons]
        · rw [if_neg shared, List.filter_cons_of_neg (by simp),
            List.filter_cons_of_neg (by simpa using shared), ih lt.2]
  have pads_kept : ((List.replicate pads (unit '=')).map Alphabet.standard.symbol).filter
      (· ≠ .skip) = List.replicate pads .equals := by
    rw [List.map_replicate, symbol_equals, List.filter_replicate_of_pos (by simp)]
  rw [decode, ← process_filter, List.map_append, List.filter_append, kept, pads_kept,
    process_sextets _ few]

theorem length_sextets (bytes : List UInt8) :
    (sextets bytes).length = (4 * bytes.length + 2) / 3 := by
  fun_induction sextets bytes with
  | case1 => simp
  | case2 a => simp
  | case3 a b => simp
  | case4 a b c rest ih =>
      simp only [List.length_cons, ih]
      omega

/-- How many sextets are left over, by the bytes that are left over. -/
theorem sextets_remainder (bytes : List UInt8) :
    bytes.length % 3 = 0 ∧ (sextets bytes).length % 4 = 0 ∨
      bytes.length % 3 = 1 ∧ (sextets bytes).length % 4 = 2 ∨
      bytes.length % 3 = 2 ∧ (sextets bytes).length % 4 = 3 := by
  fun_induction sextets bytes with
  | case1 => simp
  | case2 a => simp
  | case3 a b => simp
  | case4 a b c rest ih =>
      simp only [List.length_cons]
      omega

theorem length_packSextets (xs : List ℕ) : (packSextets xs).length = 3 * xs.length / 4 := by
  fun_induction packSextets xs with
  | case1 a b c d rest ih =>
      simp only [threeBytes, List.length_append, List.length_cons, List.length_nil, ih]
      omega
  | case2 a b c => simp [twoBytes]
  | case3 a b => simp [oneByte]
  | case4 a => simp
  | case5 => simp

def Symbol.isSextet : Symbol → Bool
  | .sextet _ => true
  | _ => false

/-- The sextets of the tuple that is being read. -/
def State.count : State → ℕ
  | read0 | expectEquals | done => 0
  | read1 _ => 1
  | read2 _ _ => 2
  | read3 _ _ _ => 3

theorem step_length {state next : State} {symbol : Symbol} {bytes : List UInt8}
    (steps : step state symbol = some (bytes, next)) :
    bytes.length + next.count ≤ symbol.isSextet.toNat + state.count ∧
      (bytes ≠ [] → bytes.length + next.count < symbol.isSextet.toNat + state.count) := by
  cases symbol <;> cases state <;> simp only [step, reduceCtorEq, Option.some.injEq,
    Prod.mk.injEq] at steps <;> rcases steps with ⟨rfl, rfl⟩ <;>
    simp [State.count, Symbol.isSextet, oneByte, twoBytes, threeBytes]

/-- There are fewer bytes than sextets. -/
theorem process_length {state : State} {symbols : List Symbol} {bytes : List UInt8}
    (decodes : process state symbols = some bytes) (nonempty : bytes ≠ []) :
    bytes.length < symbols.countP Symbol.isSextet + state.count := by
  induction symbols generalizing state bytes with
  | nil =>
      cases state <;> simp only [process, finish, reduceCtorEq, Option.some.injEq] at decodes <;>
        subst decodes <;> simp_all [State.count, oneByte, twoBytes]
  | cons symbol rest ih =>
      rw [process] at decodes
      split at decodes
      · cases decodes
      · next written next steps =>
          rcases Option.map_eq_some_iff.mp decodes with ⟨later, isLater, rfl⟩
          have now := step_length steps
          have counts : (symbol :: rest).countP Symbol.isSextet =
              rest.countP Symbol.isSextet + symbol.isSextet.toNat := by
            rw [List.countP_cons]
            cases symbol.isSextet <;> rfl
          rw [List.length_append, counts]
          by_cases empty : later = []
          · subst empty
            have strict := now.2 (by simpa using nonempty)
            rw [List.length_nil]
            omega
          · have bound := ih isLater empty
            omega

end GRoute.Base64
