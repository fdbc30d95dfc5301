import GRoute.Foundation.AsciiView
import GRoute.ShellSession

/-!
# The output of an SSH shell

`SshShell.drainOut` takes what one read brought to the buffer, drops everything up to the last
sequence that clears the screen, and shows the lines that are complete. A line that repeats the
command that was sent is not shown, once.

A stream that is cut into reads is shown as if it came at once, unless a cut goes through a
character that is shown, or the echo was taken by a line that a later read clears off the screen.
-/

namespace GRoute.SshShell

open Text Resetting

def lineFeed : UInt16 := 0x0A

def carriageReturn : UInt16 := 0x0D

/-- `CLEAR_SEQS`. -/
def clearSeqs : List Text :=
  [[Ansi.esc, unit '[', unit '2', unit 'J'], [Ansi.esc, unit '[', unit '3', unit 'J'],
    [Ansi.esc, unit 'C']]

def maxLines : ℕ := 3000

/-- What is shown, and what is kept for the next read. -/
structure State where
  lines : List ShellLine
  pendingOut : Text
  pendingEcho : Option Text
  partialLine : Text

/-- `StringBuilder.lastIndexOf`. -/
def lastIndexOfText (s token : Text) : ℤ :=
  match lastOccurrence token s with
  | some i => i
  | none => -1

def wipeStep (buffer : Text) (wipe : ℤ) (seq : Text) : ℤ :=
  let i := lastIndexOfText buffer seq
  if 0 ≤ i ∧ wipe < i + seq.length then i + seq.length else wipe

/-- The first loop of `drainOut`: where the last clearing sequence ends, or `-1`. -/
def wipeEnd (buffer : Text) : ℤ := clearSeqs.foldl (wipeStep buffer) (-1)

/-- `append`. -/
def append (limit : ℕ) (s : State) (text : Text) (kind : ShellLineKind) : State :=
  { s with lines := appendLine limit s.lines ⟨Ansi.strip text, kind⟩ }

/-- What is done with one complete line. -/
def handleLine (limit : ℕ) (s : State) (line : Text) : State :=
  let raw := line.rdropWhile (· == carriageReturn)
  if s.pendingEcho = some (trim (Ansi.strip raw)) then { s with pendingEcho := none }
  else append limit s raw .output

@[simp]
theorem pendingOut_handleLine (limit : ℕ) (s : State) (line : Text) :
    (handleLine limit s line).pendingOut = s.pendingOut := by
  simp only [handleLine, append]
  split <;> rfl

theorem length_lt_of_dropWhile {s rest : Text} {c d : UInt16}
    (shape : s.dropWhile (· != c) = d :: rest) : rest.length < s.length := by
  have shorter := (List.dropWhile_suffix (· != c) (l := s)).length_le
  rwa [shape, List.length_cons] at shorter

/-- The second loop of `drainOut`: each complete line is taken off the buffer. -/
def drainLines (limit : ℕ) (s : State) : State :=
  match shape : s.pendingOut.dropWhile (· != lineFeed) with
  | [] => s
  | _ :: rest =>
      have : rest.length < s.pendingOut.length := length_lt_of_dropWhile shape
      drainLines limit
        (handleLine limit { s with pendingOut := rest } (s.pendingOut.takeWhile (· != lineFeed)))
termination_by s.pendingOut.length
decreasing_by
  rw [pendingOut_handleLine]
  exact this

def drainOut (limit : ℕ) (s : State) (chunk : Text) : State :=
  let buffer := s.pendingOut ++ chunk
  let wipe := wipeEnd buffer
  let wiped : State :=
    if 0 ≤ wipe then { s with lines := [], pendingOut := buffer.drop wipe.toNat }
    else { s with pendingOut := buffer }
  let drained := drainLines limit wiped
  { drained with partialLine := Ansi.strip drained.pendingOut }

/-- One turn of `pump` for the standard output. -/
def receive (limit : ℕ) (s : State) (bytes : List UInt8) : State :=
  if bytes = [] then s else drainOut limit s (decodeUtf8 bytes)

/-- The clearing sequences have the escape unit only at their start. -/
def clears : Resets UInt16 where
  opening := Ansi.esc
  tails := [[unit '[', unit '2', unit 'J'], [unit '[', unit '3', unit 'J'], [unit 'C']]
  opening_notMem := by decide
  prefix_eq := by decide

theorem clearSeqs_eq : clearSeqs = clears.tails.map (clears.opening :: ·) := rfl

theorem asciiResets_clears : AsciiResets clears :=
  ⟨by decide, fun tail isTail c mem => by
    have each :
        clears.tails.all (fun tail => tail.all fun c => decide (c.toNat < 0x80)) = true := by
      decide
    exact of_decide_eq_true (List.all_eq_true.mp (List.all_eq_true.mp each tail isTail) c mem)⟩

theorem lineFeed_ne_opening : lineFeed ≠ clears.opening := by decide

theorem lineFeed_notMem : ∀ tail ∈ clears.tails, lineFeed ∉ tail := by decide

/-- The greatest end of an occurrence is found. -/
theorem wipe_foldl (buffer : Text) (seqs : List Text) (start : ℤ) :
    start ≤ seqs.foldl (wipeStep buffer) start ∧
      (∀ seq ∈ seqs, 0 ≤ lastIndexOfText buffer seq →
        lastIndexOfText buffer seq + seq.length ≤ seqs.foldl (wipeStep buffer) start) ∧
      (seqs.foldl (wipeStep buffer) start = start ∨ ∃ seq ∈ seqs, 0 ≤ lastIndexOfText buffer seq ∧
        seqs.foldl (wipeStep buffer) start = lastIndexOfText buffer seq + seq.length) := by
  induction seqs generalizing start with
  | nil => simp
  | cons seq seqs ih =>
      rw [List.foldl_cons, wipeStep]
      split
      · next found =>
          rcases ih (lastIndexOfText buffer seq + seq.length) with ⟨le, each, attained⟩
          refine ⟨by omega, ?_, ?_⟩
          · rw [List.forall_mem_cons]
            exact ⟨fun _ => le, each⟩
          · right
            rcases attained with same | ⟨other, isOther, positive, same⟩
            · exact ⟨seq, List.mem_cons_self, found.1, same⟩
            · exact ⟨other, List.mem_cons_of_mem _ isOther, positive, same⟩
      · next notFound =>
          rcases ih start with ⟨le, each, attained⟩
          refine ⟨le, ?_, ?_⟩
          · rw [List.forall_mem_cons]
            exact ⟨fun positive => by omega, each⟩
          · rcases attained with same | ⟨other, isOther, positive, same⟩
            · exact .inl same
            · exact .inr ⟨other, List.mem_cons_of_mem _ isOther, positive, same⟩

theorem lastIndexOfText_nonneg {s token : Text} (found : 0 ≤ lastIndexOfText s token) :
    ∃ front rest, s = front ++ token ++ rest ∧ lastIndexOfText s token = front.length := by
  rw [lastIndexOfText] at found ⊢
  cases shape : lastOccurrence token s with
  | none =>
      rw [shape] at found
      simp at found
  | some i =>
      rcases lastOccurrence_eq_some shape with ⟨front, rest, whole, rfl⟩
      exact ⟨front, rest, whole, rfl⟩

theorem le_lastIndexOfText (token front rest : Text) :
    (front.length : ℤ) ≤ lastIndexOfText (front ++ token ++ rest) token := by
  rcases le_lastOccurrence token front rest with ⟨i, found, le⟩
  rw [lastIndexOfText, found]
  exact Int.ofNat_le.mpr le

/-- The search finds where the last clearing sequence ends. -/
theorem wipeEnd_eq (buffer : Text) :
    wipeEnd buffer =
      match clears.after buffer with
      | some rest => buffer.length - rest.length
      | none => -1 := by
  rcases wipe_foldl buffer clearSeqs (-1) with ⟨-, each, attained⟩
  rw [← wipeEnd, clearSeqs_eq] at each attained
  -- every sequence that was found has what follows the last one behind it
  have found {seq : Text} (isSeq : seq ∈ clears.tails.map (clears.opening :: ·))
      (positive : 0 ≤ lastIndexOfText buffer seq) :
      ∃ rest, clears.after buffer = some rest ∧
        lastIndexOfText buffer seq + seq.length ≤ buffer.length - rest.length := by
    rcases List.mem_map.mp isSeq with ⟨tail, isTail, rfl⟩
    rcases lastIndexOfText_nonneg positive with ⟨front, behind, whole, same⟩
    rw [same, whole]
    have isSome : (clears.after (front ++ clears.opening :: tail ++ behind)).isSome = true := by
      rw [Resets.after_append (Resets.closed_reset isTail front), Resets.after_reset isTail]
      cases clears.after behind <;> rfl
    rcases Option.isSome_iff_exists.mp isSome with ⟨rest, isAfter⟩
    refine ⟨rest, isAfter, ?_⟩
    have le := Resets.length_after_le isTail isAfter
    simp only [List.length_append]
    push_cast
    omega
  cases isAfter : clears.after buffer with
  | none =>
      rcases attained with nothing | ⟨seq, isSeq, positive, -⟩
      · exact nothing
      · rcases found isSeq positive with ⟨rest, other, -⟩
        rw [isAfter] at other
        cases other
  | some rest =>
      rcases Resets.after_eq_some isAfter with ⟨front, tail, isTail, whole, -⟩
      have isSeq : clears.opening :: tail ∈ clears.tails.map (clears.opening :: ·) :=
        List.mem_map_of_mem isTail
      have low := le_lastIndexOfText (clears.opening :: tail) front rest
      rw [← whole] at low
      have lower := each _ isSeq (by omega)
      have length := congrArg List.length whole
      simp only [List.length_append] at length
      rcases attained with nothing | ⟨seq, isSeq, positive, same⟩
      · simp only [nothing] at lower ⊢
        omega
      · rcases found isSeq positive with ⟨other, isOther, upper⟩
        rw [isAfter] at isOther
        cases isOther
        simp only at upper ⊢
        omega

/-- A line as it is shown. -/
def cleaned (line : Text) : Text := Ansi.strip (line.rdropWhile (· == carriageReturn))

/-- The line repeats the command that was sent. -/
def isEcho (echo : Option Text) (shown : Text) : Bool := echo = some (trim shown)

/-- The echo that is still awaited after the lines. -/
def echoAfter (echo : Option Text) (shown : List Text) : Option Text :=
  if shown.any (isEcho echo) then none else echo

/-- The lines without the one that is the echo. -/
def withoutEcho (echo : Option Text) (shown : List Text) : List Text := shown.eraseP (isEcho echo)

theorem withoutEcho_none (shown : List Text) : withoutEcho none shown = shown :=
  List.eraseP_of_forall_not fun _ _ => Bool.false_ne_true

theorem echoAfter_nil (echo : Option Text) : echoAfter echo [] = echo := rfl

theorem echoAfter_none (shown : List Text) : echoAfter none shown = none := ite_self none

theorem echoAfter_append (echo : Option Text) (first second : List Text) :
    echoAfter echo (first ++ second) = echoAfter (echoAfter echo first) second := by
  by_cases taken : first.any (isEcho echo) = true
  · rw [echoAfter, List.any_append, taken, Bool.true_or, if_pos rfl, echoAfter.eq_1 echo first,
      if_pos taken, echoAfter_none]
  · rw [echoAfter.eq_1 echo first, if_neg taken, echoAfter, List.any_append,
      Bool.eq_false_of_not_eq_true taken, Bool.false_or, echoAfter]

theorem withoutEcho_append (echo : Option Text) (first second : List Text) :
    withoutEcho echo (first ++ second) =
      withoutEcho echo first ++ withoutEcho (echoAfter echo first) second := by
  rw [withoutEcho, List.eraseP_append, echoAfter, withoutEcho]
  split
  · rw [withoutEcho_none]
  · next absent =>
      have kept : first.eraseP (isEcho echo) = first := by
        apply List.eraseP_of_forall_not
        intro shown mem isIt
        exact absent (List.any_eq_true.mpr ⟨shown, mem, isIt⟩)
      rw [kept]
      rfl

/-- The lines take their places, but for the echo. -/
theorem foldl_handleLine (limit : ℕ) (s : State) (lines : List Text) :
    lines.foldl (handleLine limit) s =
      { s with
        lines := ((withoutEcho s.pendingEcho (lines.map cleaned)).map (⟨·, .output⟩)).foldl
          (appendLine limit) s.lines
        pendingEcho := echoAfter s.pendingEcho (lines.map cleaned) } := by
  induction lines generalizing s with
  | nil => rfl
  | cons line lines ih =>
      rw [List.foldl_cons, ih, List.map_cons]
      by_cases taken : s.pendingEcho = some (trim (cleaned line))
      · have isIt : isEcho s.pendingEcho (cleaned line) = true := decide_eq_true taken
        have step : handleLine limit s line = { s with pendingEcho := none } := if_pos taken
        rw [step, withoutEcho_none, echoAfter_none, withoutEcho, List.eraseP_cons_of_pos isIt,
          echoAfter, List.any_cons, isIt]
        rfl
      · have isNot : isEcho s.pendingEcho (cleaned line) = false := decide_eq_false taken
        have step : handleLine limit s line =
            { s with lines := appendLine limit s.lines ⟨cleaned line, .output⟩ } := if_neg taken
        rw [step, withoutEcho.eq_1 _ (cleaned line :: _), List.eraseP_cons_of_neg (by simp [isNot]),
          echoAfter.eq_1 _ (cleaned line :: _), List.any_cons, isNot]
        rfl

/-- The loop takes the complete lines and leaves the rest. -/
theorem drainLines_eq (limit : ℕ) (s : State) :
    drainLines limit s =
      { (complete lineFeed s.pendingOut).foldl (handleLine limit) s with
        pendingOut := unfinished lineFeed s.pendingOut } := by
  fun_induction drainLines limit s with
  | case1 s noLine =>
      have absent : lineFeed ∉ s.pendingOut := by
        rw [List.dropWhile_eq_nil_iff] at noLine
        intro mem
        simpa using noLine lineFeed mem
      rw [complete_of_notMem absent, unfinished_of_notMem absent]
      rfl
  | case2 s c rest shape shorter ih =>
      have isFeed : c = lineFeed := by
        have head := List.head?_dropWhile_not (· != lineFeed) s.pendingOut
        rw [shape] at head
        simpa using head
      subst isFeed
      have whole : s.pendingOut = s.pendingOut.takeWhile (· != lineFeed) ++ lineFeed :: rest := by
        rw [← shape, List.takeWhile_append_dropWhile]
      have absent : lineFeed ∉ s.pendingOut.takeWhile (· != lineFeed) := by
        intro mem
        simpa using List.mem_takeWhile_imp mem
      rw [ih, pendingOut_handleLine]
      generalize s.pendingOut.takeWhile (· != lineFeed) = line at whole absent
      rw [whole, complete_append_cons, unfinished_append_cons, List.splitOn_eq_singleton absent,
        List.singleton_append, List.foldl_cons, foldl_handleLine, foldl_handleLine]
      simp only [handleLine]
      split <;> rfl

/-- The complete lines after the last clearing sequence, as they are shown. -/
def shownLines (text : Text) : List Text :=
  (complete lineFeed (clears.remaining text)).map cleaned

/-- What follows them. -/
def openLine (text : Text) : Text := unfinished lineFeed (clears.remaining text)

/-- The text is shown, after lines that have come and gone. -/
def display (limit : ℕ) (s : State) (gone : List Text) (text : Text) : State where
  lines := ((withoutEcho (echoAfter s.pendingEcho gone) (shownLines text)).map (⟨·, .output⟩)).foldl
    (appendLine limit) (if (clears.after text).isSome then [] else s.lines)
  pendingOut := openLine text
  pendingEcho := echoAfter s.pendingEcho (gone ++ shownLines text)
  partialLine := Ansi.strip (openLine text)

theorem drainOut_eq (limit : ℕ) (s : State) (chunk : Text) :
    drainOut limit s chunk = display limit s [] (s.pendingOut ++ chunk) := by
  have wiped : (if 0 ≤ wipeEnd (s.pendingOut ++ chunk) then
      { s with
        lines := []
        pendingOut := (s.pendingOut ++ chunk).drop (wipeEnd (s.pendingOut ++ chunk)).toNat }
      else { s with pendingOut := s.pendingOut ++ chunk } : State) =
      { s with
        lines := if (clears.after (s.pendingOut ++ chunk)).isSome then [] else s.lines
        pendingOut := clears.remaining (s.pendingOut ++ chunk) } := by
    rw [wipeEnd_eq, Resets.remaining]
    cases isAfter : clears.after (s.pendingOut ++ chunk) with
    | none => rfl
    | some rest =>
        rcases Resets.after_eq_some isAfter with ⟨front, tail, isTail, whole, -⟩
        have length : ((s.pendingOut ++ chunk).length : ℤ) - rest.length =
            (front ++ clears.opening :: tail).length := by
          rw [whole]
          simp only [List.length_append]
          push_cast
          omega
        simp only [length, Int.toNat_natCast, Option.isSome_some, if_true, Option.getD_some]
        rw [if_pos (Int.natCast_nonneg _), whole, List.drop_left]
  simp only [drainOut, wiped, drainLines_eq, foldl_handleLine]
  rfl

theorem after_openLine (text : Text) : clears.after (openLine text) = none :=
  Resets.after_eq_none_of_suffix (Resets.after_remaining text) (unfinished_suffix _)

theorem after_openLine_append (text later : Text) :
    clears.after (text ++ later) =
      (clears.after (openLine text ++ later)).or ((clears.after text).map (· ++ later)) :=
  Resets.after_continue lineFeed_ne_opening lineFeed_notMem text later

/-- If the screen is cleared later, what is shown in the end comes after that. -/
theorem display_cleared (limit : ℕ) (s : State) (gone : List Text) {text later : Text}
    (cleared : (clears.after (openLine text ++ later)).isSome = true) :
    display limit (display limit s [] text) gone (openLine text ++ later) =
      display limit s (shownLines text ++ gone) (text ++ later) := by
  rcases Option.isSome_iff_exists.mp cleared with ⟨rest, isAfter⟩
  have whole : clears.after (text ++ later) = some rest := by
    rw [after_openLine_append, isAfter, Option.some_or]
  have same : clears.remaining (openLine text ++ later) = clears.remaining (text ++ later) := by
    rw [Resets.remaining, Resets.remaining, isAfter, whole]
    rfl
  simp only [display, shownLines, openLine] at same isAfter ⊢
  simp only [same, isAfter, whole, List.nil_append, echoAfter_append, Option.isSome_some, if_true]

/-- If it is not, what comes later goes on from the unfinished line. -/
theorem display_continue (limit : ℕ) (s : State) {text later : Text}
    (notCleared : clears.after (openLine text ++ later) = none) :
    display limit (display limit s [] text) [] (openLine text ++ later) =
      display limit s [] (text ++ later) := by
  have whole : clears.after (text ++ later) = (clears.after text).map (· ++ later) := by
    rw [after_openLine_append, notCleared, Option.none_or]
  have isSome : (clears.after (text ++ later)).isSome = (clears.after text).isSome := by
    rw [whole, Option.isSome_map]
  have kept : clears.remaining (text ++ later) = clears.remaining text ++ later := by
    rw [Resets.remaining, Resets.remaining, whole]
    cases clears.after text <;> rfl
  have same : clears.remaining (openLine text ++ later) = openLine text ++ later := by
    rw [Resets.remaining, notCleared]
    rfl
  have lines : shownLines (text ++ later) =
      shownLines text ++ shownLines (openLine text ++ later) := by
    rw [shownLines, kept, complete_append, List.map_append, shownLines, shownLines, same]
    rfl
  have rest : openLine (openLine text ++ later) = openLine (text ++ later) := by
    rw [openLine, same, openLine.eq_1 (text ++ later), kept]
    exact (unfinished_append _ _).symm
  simp only [display, notCleared, isSome, lines, rest, List.nil_append, echoAfter_append,
    withoutEcho_append, List.map_append, List.foldl_append, Option.isSome_none,
    Bool.false_eq_true, if_false]
  rfl

/-- The lines that were complete before the piece with the last clearing sequence came. -/
def hidden : Text → List Text → List Text
  | _, [] => []
  | buffer, chunk :: later =>
      let text := buffer ++ chunk
      if (clears.after (openLine text ++ later.flatten)).isSome then
        shownLines text ++ hidden (openLine text) later
      else []

theorem hidden_of_not_cleared {buffer : Text} {chunks : List Text}
    (notCleared : clears.after (buffer ++ chunks.flatten) = none) : hidden buffer chunks = [] := by
  cases chunks with
  | nil => rfl
  | cons chunk later =>
      rw [List.flatten_cons, ← List.append_assoc, after_openLine_append,
        Option.or_eq_none_iff] at notCleared
      rw [hidden, notCleared.1]
      rfl

/-- What a stream in pieces displays. -/
theorem foldl_drainOut (limit : ℕ) (s : State) (chunk : Text) (later : List Text) :
    (chunk :: later).foldl (drainOut limit) s =
      display limit s (hidden s.pendingOut (chunk :: later))
        (s.pendingOut ++ (chunk :: later).flatten) := by
  -- the buffer after a piece is the unfinished line of what was displayed with it
  induction later generalizing s chunk with
  | nil =>
      have last : hidden s.pendingOut [chunk] = [] := by
        rw [hidden, List.flatten_nil, List.append_nil, after_openLine]
        rfl
      rw [last, List.foldl_cons, List.foldl_nil, drainOut_eq, List.flatten_singleton]
  | cons next later ih =>
      have whole : s.pendingOut ++ (chunk :: next :: later).flatten =
          s.pendingOut ++ chunk ++ (next :: later).flatten := by
        rw [List.flatten_cons, List.append_assoc]
      rw [List.foldl_cons, ih, drainOut_eq, whole, hidden.eq_2 s.pendingOut]
      change display limit (display limit s [] (s.pendingOut ++ chunk))
        (hidden (openLine (s.pendingOut ++ chunk)) (next :: later))
        (openLine (s.pendingOut ++ chunk) ++ (next :: later).flatten) = _
      split
      · next cleared => exact display_cleared limit s _ cleared
      · next notCleared =>
          rw [Option.not_isSome_iff_eq_none] at notCleared
          rw [hidden_of_not_cleared notCleared]
          exact display_continue limit s notCleared

/-- The texts of the reads that bring something. -/
def chunks (reads : List (List UInt8)) : List Text := (reads.filter (· ≠ [])).map decodeUtf8

theorem foldl_receive (limit : ℕ) (s : State) (reads : List (List UInt8)) :
    reads.foldl (receive limit) s = (chunks reads).foldl (drainOut limit) s := by
  rw [chunks]
  induction reads generalizing s with
  | nil => rfl
  | cons read reads ih =>
      by_cases isEmpty : read = []
      · subst isEmpty
        exact ih s
      · rw [List.filter_cons_of_pos (by simpa using isEmpty), List.map_cons, List.foldl_cons,
          List.foldl_cons, ih, receive, if_neg isEmpty]

theorem flatten_chunks_alike (reads : List (List UInt8)) :
    Alike ((chunks reads).flatten.map asciiView) (reads.flatten.map byteView) := by
  rw [chunks]
  induction reads with
  | nil => exact .nil
  | cons read reads ih =>
      by_cases isEmpty : read = []
      · subst isEmpty
        exact ih
      · rw [List.filter_cons_of_pos (by simpa using isEmpty), List.map_cons, List.flatten_cons,
          List.flatten_cons, List.map_append, List.map_append]
        exact (alike_decodeUtf8 read).append ih

/-- The same bytes after the same buffer, decoded in pieces and at once. -/
theorem alike_decoded (buffer : Text) (reads : List (List UInt8)) :
    Alike ((buffer ++ (chunks reads).flatten).map asciiView)
        ((buffer.map asciiView) ++ reads.flatten.map byteView) ∧
      Alike ((buffer ++ decodeUtf8 reads.flatten).map asciiView)
        ((buffer.map asciiView) ++ reads.flatten.map byteView) := by
  rw [List.map_append, List.map_append]
  exact ⟨(Alike.refl _).append (flatten_chunks_alike reads),
    (Alike.refl _).append (alike_decodeUtf8 _)⟩

theorem isSome_after_eq {s t : Text} {view : List (Option UInt16)}
    (first : Alike (s.map asciiView) view) (second : Alike (t.map asciiView) view) :
    (clears.after s).isSome = (clears.after t).isSome := by
  have same := (first.isSome_after clears).trans (second.isSome_after clears).symm
  rwa [after_asciiView asciiResets_clears, after_asciiView asciiResets_clears, Option.isSome_map,
    Option.isSome_map] at same

/-- There are as many lines either way. -/
theorem length_shownLines_eq {s t : Text} {view : List (Option UInt16)}
    (first : Alike (s.map asciiView) view) (second : Alike (t.map asciiView) view) :
    (shownLines s).length = (shownLines t).length := by
  have isAscii : lineFeed.toNat < 0x80 := by decide
  have same := ((first.remaining clears).count_eq lineFeed).trans
    ((second.remaining clears).count_eq lineFeed).symm
  rw [remaining_asciiView asciiResets_clears, remaining_asciiView asciiResets_clears,
    count_asciiView isAscii, count_asciiView isAscii] at same
  simpa only [shownLines, List.length_map, length_complete] using same

/-- The displayed lines, the unfinished line and the awaited echo are the same. -/
structure SameDisplay (s t : State) : Prop where
  lines : s.lines = t.lines
  partialLine : s.partialLine = t.partialLine
  pendingEcho : s.pendingEcho = t.pendingEcho

/-- No line that is complete before the read with the last clearing sequence is the echo. -/
def ClearsNoEcho (pendingOut : Text) (echo : Option Text) (reads : List (List UInt8)) : Prop :=
  ∀ shown ∈ hidden pendingOut (chunks reads), isEcho echo shown = false

/-- After the last clearing sequence, the reads decoded one by one give the same units as their
bytes decoded at once. -/
def DecodesWhole (pendingOut : Text) (reads : List (List UInt8)) : Prop :=
  clears.remaining (pendingOut ++ (chunks reads).flatten) =
    clears.remaining (pendingOut ++ decodeUtf8 reads.flatten)

theorem length_withoutEcho (echo : Option Text) (shown : List Text) :
    (withoutEcho echo shown).length + (if shown.any (isEcho echo) then 1 else 0) =
      shown.length := by
  rw [withoutEcho, List.length_eraseP]
  split
  · next taken =>
      rcases List.any_eq_true.mp taken with ⟨line, mem, -⟩
      exact Nat.sub_add_cancel (List.length_pos_of_mem mem)
  · rfl

theorem echoAfter_of_forall {echo : Option Text} {shown : List Text}
    (absent : ∀ line ∈ shown, isEcho echo line = false) : echoAfter echo shown = echo := by
  rw [echoAfter, if_neg]
  intro taken
  rcases List.any_eq_true.mp taken with ⟨line, mem, isIt⟩
  rw [absent line mem] at isIt
  cases isIt

/-- Were the echo gone, the first lines would all be shown, but of the second ones one would not. -/
theorem forall_not_isEcho {echo : Option Text} {gone first second : List Text}
    (length : first.length = second.length)
    (lines : withoutEcho (echoAfter echo gone) first = withoutEcho echo second)
    (sameEcho : echoAfter echo (gone ++ first) = echoAfter echo second) :
    ∀ shown ∈ gone, isEcho echo shown = false := by
  have absent : gone.any (isEcho echo) = false := by
    by_contra taken
    rw [Bool.not_eq_false] at taken
    have noEcho : echoAfter echo gone = none := if_pos taken
    have awaited : echo ≠ none := by
      rintro rfl
      rcases List.any_eq_true.mp taken with ⟨_, _, isIt⟩
      cases isIt
    have counts := length_withoutEcho echo second
    rw [noEcho, withoutEcho_none] at lines
    rw [echoAfter_append, noEcho, echoAfter_none, echoAfter] at sameEcho
    split at sameEcho
    · next takenLater =>
        rw [if_pos takenLater, ← lines] at counts
        omega
    · exact awaited sameEcho.symm
  simpa using absent

theorem any_isEcho_congr {echo : Option Text} {first second : List Text}
    (length : first.length = second.length)
    (lines : withoutEcho echo first = withoutEcho echo second) :
    first.any (isEcho echo) = second.any (isEcho echo) := by
  have counts := length_withoutEcho echo second
  have countsFirst := length_withoutEcho echo first
  rw [lines, length] at countsFirst
  rw [Bool.eq_iff_iff]
  constructor <;> intro taken <;> by_contra notTaken <;>
    simp only [taken, notTaken, if_true, if_false] at counts countsFirst <;> omega

/-- Displays of two texts, of which the first comes after lines that have gone. -/
theorem display_same_iff (s : State) (gone : List Text) {first second : Text}
    (cleared : (clears.after first).isSome = (clears.after second).isSome)
    (length : (shownLines first).length = (shownLines second).length) :
    (∀ limit, SameDisplay (display limit s gone first) (display limit s [] second)) ↔
      (∀ shown ∈ gone, isEcho s.pendingEcho shown = false) ∧
        withoutEcho s.pendingEcho (shownLines first) =
          withoutEcho s.pendingEcho (shownLines second) ∧
        Ansi.strip (openLine first) = Ansi.strip (openLine second) := by
  constructor
  · intro same
    have lines : withoutEcho (echoAfter s.pendingEcho gone) (shownLines first) =
        withoutEcho s.pendingEcho (shownLines second) := by
      -- a limit that is never reached shows everything
      have shown := (same (s.lines.length + (shownLines first).length +
        (shownLines second).length)).lines
      have fewer := length_withoutEcho (echoAfter s.pendingEcho gone) (shownLines first)
      have counts := length_withoutEcho s.pendingEcho (shownLines second)
      have start : (if (clears.after second).isSome then [] else s.lines).length ≤
          s.lines.length := by
        split
        · exact Nat.zero_le _
        · exact le_rfl
      simp only [display, cleared] at shown
      rw [foldl_appendLine_of_le _ (by rw [List.length_map]; omega),
        foldl_appendLine_of_le _
          (by rw [List.length_map]; simp only [echoAfter_nil]; omega)] at shown
      have lines := List.append_cancel_left shown
      exact List.map_injective_iff.mpr (fun a b eq => congrArg ShellLine.text eq) lines
    have kept := forall_not_isEcho length lines (same 0).pendingEcho
    rw [echoAfter_of_forall kept] at lines
    exact ⟨kept, lines, (same 0).partialLine⟩
  · rintro ⟨kept, lines, rest⟩ limit
    refine ⟨?_, rest, ?_⟩
    · simp only [display, cleared, echoAfter_of_forall kept, echoAfter_nil, lines]
    · simp only [display, echoAfter_append, echoAfter_of_forall kept, List.nil_append]
      rw [echoAfter, echoAfter, any_isEcho_congr length lines]

theorem chunks_eq_nil {reads : List (List UInt8)} (nothing : reads.flatten = []) :
    chunks reads = [] := by
  rw [List.flatten_eq_nil_iff] at nothing
  rw [chunks, List.filter_eq_nil_iff.mpr, List.map_nil]
  intro read mem
  simp [nothing read mem]

theorem chunks_ne_nil {reads : List (List UInt8)} (something : reads.flatten ≠ []) :
    chunks reads ≠ [] := by
  intro isNil
  apply something
  rw [chunks, List.map_eq_nil_iff, List.filter_eq_nil_iff] at isNil
  rw [List.flatten_eq_nil_iff]
  intro read mem
  simpa using isNil read mem

/-- A stream in reads is displayed as if it came at once if no cut goes through a character after
the last clearing sequence and no echo comes before the read that brings it, and only if no echo
does. -/
theorem receive_cut (s : State) (reads : List (List UInt8)) :
    (DecodesWhole s.pendingOut reads ∧ ClearsNoEcho s.pendingOut s.pendingEcho reads →
        ∀ limit, SameDisplay (reads.foldl (receive limit) s) (receive limit s reads.flatten)) ∧
      ((∀ limit, SameDisplay (reads.foldl (receive limit) s) (receive limit s reads.flatten)) →
        ClearsNoEcho s.pendingOut s.pendingEcho reads) := by
  by_cases nothing : reads.flatten = []
  · have noChunks := chunks_eq_nil nothing
    constructor
    · intro _ limit
      rw [foldl_receive, noChunks, receive, if_pos nothing]
      exact ⟨rfl, rfl, rfl⟩
    · intro _
      rw [ClearsNoEcho, noChunks]
      exact List.forall_mem_nil _
  · rcases alike_decoded s.pendingOut reads with ⟨first, second⟩
    have iff := display_same_iff s (hidden s.pendingOut (chunks reads))
      (isSome_after_eq first second) (length_shownLines_eq first second)
    rcases List.exists_cons_of_ne_nil (chunks_ne_nil nothing) with ⟨chunk, later, shape⟩
    have run (limit : ℕ) : reads.foldl (receive limit) s =
        display limit s (hidden s.pendingOut (chunks reads))
          (s.pendingOut ++ (chunks reads).flatten) := by
      rw [foldl_receive, shape]
      exact foldl_drainOut limit s chunk later
    have once (limit : ℕ) : receive limit s reads.flatten =
        display limit s [] (s.pendingOut ++ decodeUtf8 reads.flatten) := by
      rw [receive, if_neg nothing, drainOut_eq]
    simp only [run, once, iff]
    constructor
    · rintro ⟨whole, noEcho⟩
      refine ⟨noEcho, ?_, ?_⟩
      · rw [shownLines, whole, shownLines]
      · rw [openLine, whole, openLine]
    · rintro ⟨noEcho, -, -⟩
      exact noEcho

/-- A character is cut in two, and an echo comes before the screen is cleared: either way the lines
differ. -/
theorem receive_cut_differs :
    (¬ SameDisplay
        ([[0xC3], [0xA9, 0x0A]].foldl (receive maxLines) ⟨[], [], none, []⟩)
        (receive maxLines ⟨[], [], none, []⟩ [0xC3, 0xA9, 0x0A])) ∧
      ¬ SameDisplay
        ([[0x6C, 0x73, 0x0A], [0x1B, 0x5B, 0x32, 0x4A, 0x6C, 0x73, 0x0A]].foldl (receive maxLines)
          ⟨[], [], some (txt "ls"), []⟩)
        (receive maxLines ⟨[], [], some (txt "ls"), []⟩
          [0x6C, 0x73, 0x0A, 0x1B, 0x5B, 0x32, 0x4A, 0x6C, 0x73, 0x0A]) := by
  constructor
  · intro same
    have lines := same.lines
    simp only [List.foldl_cons, List.foldl_nil, receive, drainOut_eq] at lines
    revert lines
    decide +kernel
  · intro same
    have lines := same.lines
    simp only [List.foldl_cons, List.foldl_nil, receive, drainOut_eq] at lines
    revert lines
    decide +kernel

end GRoute.SshShell
