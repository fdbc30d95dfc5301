import GRoute.Foundation.Text

/-!
# Lines of a shell

What the two shells share: the lines they show, and `Ansi.strip`, which takes the escape sequences
and the control characters out of a line.
-/

namespace GRoute

open Text

inductive ShellLineKind
  | input
  | output
  | error
  | system
deriving DecidableEq, Repr

structure ShellLine where
  text : Text
  kind : ShellLineKind
deriving DecidableEq

/-- The lines after a new one, of which only the last ones are kept. -/
def appendLine (limit : ℕ) (lines : List ShellLine) (line : ShellLine) : List ShellLine :=
  let next := lines ++ [line]
  if limit < next.length then next.drop (next.length - limit) else next

theorem appendLine_of_le {limit : ℕ} {lines : List ShellLine} (room : lines.length < limit)
    (line : ShellLine) : appendLine limit lines line = lines ++ [line] :=
  if_neg (by rw [List.length_append, List.length_singleton]; omega)

theorem foldl_appendLine_of_le {limit : ℕ} {lines : List ShellLine} (more : List ShellLine)
    (room : lines.length + more.length ≤ limit) :
    more.foldl (appendLine limit) lines = lines ++ more := by
  induction more generalizing lines with
  | nil => simp
  | cons line more ih =>
      rw [List.length_cons] at room
      rw [List.foldl_cons, appendLine_of_le (by omega), ih, List.append_assoc]
      · rfl
      · rw [List.length_append, List.length_singleton]
        omega

namespace Ansi

def esc : UInt16 := 0x1B

def bel : UInt16 := 0x07

/-- `Regex.replace` with nothing: the matches are taken out from left to right. The pattern gives
the length of a match at the start of a text; what is left of a match is skipped. -/
def removeMatches (pattern : Text → Option ℕ) : ℕ → Text → Text
  | _, [] => []
  | skip + 1, _ :: rest => removeMatches pattern skip rest
  | 0, c :: rest =>
      match pattern (c :: rest) with
      | some length => removeMatches pattern (length - 1) rest
      | none => c :: removeMatches pattern 0 rest

/-- The units of a character class. -/
def inRange (first last : ℕ) (c : UInt16) : Bool := first ≤ c.toNat && c.toNat ≤ last

/-- `ESC [`, parameters, intermediates and a final unit. The three classes are disjoint, so that
each is taken as far as it goes. -/
def csi : Text → Option ℕ
  | first :: second :: rest =>
      if first = esc ∧ second = unit '[' then
        let parameters := rest.takeWhile (inRange 0x30 0x3F)
        let afterParameters := rest.dropWhile (inRange 0x30 0x3F)
        let intermediates := afterParameters.takeWhile (inRange 0x20 0x2F)
        match afterParameters.dropWhile (inRange 0x20 0x2F) with
        | final :: _ =>
            if inRange 0x40 0x7E final then some (2 + parameters.length + intermediates.length + 1)
            else none
        | [] => none
      else none
  | _ => none

/-- `ESC ]`, anything but the two terminators, and `BEL` or `ESC \`. -/
def osc : Text → Option ℕ
  | first :: second :: rest =>
      if first = esc ∧ second = unit ']' then
        let body := rest.takeWhile fun c => !(c == bel || c == esc)
        match rest.dropWhile fun c => !(c == bel || c == esc) with
        | last :: later =>
            if last = bel then some (2 + body.length + 1)
            else if later.head? = some (unit '\x5c') then some (2 + body.length + 2)
            else none
        | [] => none
      else none
  | _ => none

def escape : Text → Option ℕ
  | first :: second :: _ => if first = esc ∧ inRange 0x40 0x5F second then some 2 else none
  | _ => none

def control : Text → Option ℕ
  | c :: _ =>
      if inRange 0 0x08 c || c == 0x0B || c == 0x0C || inRange 0x0E 0x1F c || c == 0x7F then some 1
      else none
  | [] => none

def strip (raw : Text) : Text :=
  (removeMatches control 0 (removeMatches escape 0 (removeMatches osc 0
    (removeMatches csi 0 raw)))).rdropWhile isWhitespace

end Ansi

end GRoute
