import GRoute.Foundation.Text

/-!
# Reading lines

`BufferedReader.readLine`, one unit at a time. A line ends with a line feed, a carriage return, or
both; the line feed after a carriage return is skipped when it comes.
-/

namespace GRoute.Text

/-- The line so far, and whether a line feed would belong to the line before. -/
structure LineReader where
  line : Text
  skipLF : Bool
deriving DecidableEq

namespace LineReader

def fresh : LineReader := ⟨[], false⟩

/-- One more unit: the line that it ends, if it ends one, and the reader after it. -/
def next (reader : LineReader) (c : UInt16) : Option Text × LineReader :=
  if c = 0x0A then
    if reader.skipLF then (none, ⟨reader.line, false⟩) else (some reader.line, fresh)
  else if c = 0x0D then (some reader.line, ⟨[], true⟩)
  else (none, ⟨reader.line ++ [c], false⟩)

/-- The lines that end in a text. -/
def lines : LineReader → Text → List Text
  | _, [] => []
  | reader, c :: rest => (reader.next c).1.toList ++ lines (reader.next c).2 rest

/-- The reader after a text. -/
def after (reader : LineReader) (s : Text) : LineReader :=
  s.foldl (fun reader c => (reader.next c).2) reader

theorem lines_append (reader : LineReader) (s later : Text) :
    lines reader (s ++ later) = lines reader s ++ lines (reader.after s) later := by
  induction s generalizing reader with
  | nil => rfl
  | cons c s ih =>
      rw [List.cons_append, lines, ih, lines, List.append_assoc]
      rfl

theorem after_append (reader : LineReader) (s later : Text) :
    reader.after (s ++ later) = (reader.after s).after later := List.foldl_append

theorem lines_singleton (reader : LineReader) (c : UInt16) :
    lines reader [c] = (reader.next c).1.toList := List.append_nil _

/-- The units do not end a line. -/
def Inline (s : Text) : Prop := ∀ c ∈ s, c ≠ 0x0A ∧ c ≠ 0x0D

theorem Inline.append {s t : Text} (first : Inline s) (second : Inline t) : Inline (s ++ t) := by
  intro c mem
  rcases List.mem_append.mp mem with inFirst | inSecond
  · exact first c inFirst
  · exact second c inSecond

theorem next_of_inline {c : UInt16} (inline : c ≠ 0x0A ∧ c ≠ 0x0D) (reader : LineReader) :
    reader.next c = (none, ⟨reader.line ++ [c], false⟩) := by
  rw [next, if_neg inline.1, if_neg inline.2]

theorem lines_inline {s : Text} (inline : Inline s) (reader : LineReader) :
    lines reader s = [] := by
  induction s generalizing reader with
  | nil => rfl
  | cons c s ih =>
      rw [Inline, List.forall_mem_cons] at inline
      rw [lines, next_of_inline inline.1, ih inline.2]
      rfl

theorem after_inline {s : Text} (inline : Inline s) (nonempty : s ≠ []) (reader : LineReader) :
    reader.after s = ⟨reader.line ++ s, false⟩ := by
  induction s generalizing reader with
  | nil => exact absurd rfl nonempty
  | cons c s ih =>
      rw [Inline, List.forall_mem_cons] at inline
      have step : reader.after (c :: s) = (reader.next c).2.after s := rfl
      rw [step, next_of_inline inline.1]
      by_cases isEmpty : s = []
      · subst isEmpty
        rfl
      · rw [ih inline.2 isEmpty, List.append_assoc]
        rfl

end LineReader

end GRoute.Text
