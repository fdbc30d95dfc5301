import GRoute.Foundation.LineReader
import GRoute.Foundation.Numeral
import GRoute.Foundation.Transition
import GRoute.ShellSession
import Mathlib.Data.Nat.Digits.Lemmas

/-!
# The local shell

`LocalShell` writes a command to the standard input of a shell, and after it a second command that
prints a marker. A line of the standard output that starts with the marker ends the wait. The
writing job, the shell and the reader take their steps in any order.

The flag is up exactly as long as something is outstanding, provided that no command reads the
standard input, that no line of its output starts with the marker, and that what it leaves of an
unfinished line does not stand before the marker.
-/

namespace GRoute.LocalShell

open Text Transition

def maxLines : ℕ := 3000

def maxHistory : ℕ := 100

def MARKER : Text := txt "__GRT_DONE__"

/-- What a command does, step by step. -/
inductive Action
  | print (text : Text)
  | readLine
deriving DecidableEq

/-- A command as it is typed, and what the shell does with it. -/
structure Command where
  text : Text
  actions : List Action
  status : UInt8
deriving DecidableEq

/-- A line on the standard input. -/
inductive Line
  | command (command : Command)
  | marker
deriving DecidableEq

inductive Shell
  | idle
  | running (actions : List Action) (status : UInt8)
deriving DecidableEq

/-- The session and the shell that it writes to. -/
structure State where
  lines : List ShellLine
  history : List Text
  running : Bool
  busy : Bool
  /-- What each of the jobs that `send` launched has still to write. -/
  jobs : List (List Line)
  stdin : List Line
  shell : Shell
  /-- `$?`. -/
  status : UInt8
  stdout : Text
  reader : LineReader
deriving DecidableEq

/-- After `start`. -/
def started (lines : List ShellLine) (history : List Text) : State where
  lines := lines
  history := history
  running := true
  busy := false
  jobs := []
  stdin := []
  shell := .idle
  status := 0
  stdout := []
  reader := .fresh

def append (s : State) (text : Text) (kind : ShellLineKind) : State :=
  let clean := if kind = .input then text else Ansi.strip text
  if clean = [] ∧ kind ≠ .input then s
  else { s with lines := appendLine maxLines s.lines ⟨clean, kind⟩ }

/-- The commands that the app carries out itself. -/
def isLocal (cmd : Text) : Bool := cmd == txt "clear" || cmd == txt "cls" || cmd == txt "reset"

/-- The entries of the history, the new one last and only there. -/
def remember (history : List Text) (cmd : Text) : List Text :=
  let next := history.filter (· ≠ cmd) ++ [cmd]
  next.drop (next.length - maxHistory)

def send (s : State) (command : Command) : State :=
  let cmd := trim command.text
  if cmd = [] then s
  else if s.busy then s
  else
    let shown := append s cmd .input
    let noted := { shown with history := remember s.history cmd }
    if isLocal cmd then { noted with lines := [] }
    else if s.running = false then append noted (txt "shell is not running") .error
    else { noted with busy := true, jobs := s.jobs ++ [[.command command, .marker]] }

/-- What `echo` prints. -/
def markerLine (status : UInt8) : Text := MARKER ++ decimal status.toNat ++ [0x0A]

/-- One line in `pump`. -/
def handleLine (s : State) (line : Text) : State :=
  if startsWith line MARKER then { s with busy := false } else append s line .output

/-- The reader takes one unit. -/
def deliver (s : State) (c : UInt16) (rest : Text) : State :=
  let next := s.reader.next c
  let moved := { s with stdout := rest, reader := next.2 }
  match next.1 with
  | some line => handleLine moved line
  | none => moved

/-- A call, a step of a job, or a step of the shell. -/
inductive Event
  | send (command : Command)
  | write (job : ℕ)
  | begin
  | act
  | finish
  | deliver

def step (s : State) : Event → Option State
  | .send command => some (send s command)
  | .write job =>
      match s.jobs[job]? with
      | some (line :: rest) =>
          some { s with
            jobs := if rest = [] then s.jobs.eraseIdx job else s.jobs.set job rest
            stdin := s.stdin ++ [line] }
      | _ => none
  | .begin =>
      match s.shell, s.stdin with
      | .idle, .command command :: rest =>
          some { s with stdin := rest, shell := .running command.actions command.status }
      | .idle, .marker :: rest =>
          some { s with stdin := rest, stdout := s.stdout ++ markerLine s.status, status := 0 }
      | _, _ => none
  | .act =>
      match s.shell, s.stdin with
      | .running (.print text :: rest) status, _ =>
          some { s with shell := .running rest status, stdout := s.stdout ++ text }
      | .running (.readLine :: rest) status, _ :: later =>
          some { s with shell := .running rest status, stdin := later }
      | _, _ => none
  | .finish =>
      match s.shell with
      | .running [] status => some { s with shell := .idle, status := status }
      | _ => none
  | .deliver =>
      match s.stdout with
      | c :: rest => some (deliver s c rest)
      | [] => none

/-- Nothing is outstanding: all is written, read, carried out and delivered. -/
structure Quiescent (s : State) : Prop where
  jobs : s.jobs = []
  stdin : s.stdin = []
  shell : s.shell = .idle
  stdout : s.stdout = []

def Action.printed : Action → Text
  | .print text => text
  | .readLine => []

def output (actions : List Action) : Text := actions.flatMap Action.printed

/-- The marker comes out where it is looked for, and nowhere else. -/
structure Tame (command : Command) : Prop where
  noRead : .readLine ∉ command.actions
  lines : ∀ line ∈ LineReader.lines .fresh (output command.actions), startsWith line MARKER = false
  last :
    startsWith ((LineReader.after .fresh (output command.actions)).line ++ MARKER) MARKER = true

/-- What is sent is tame; the other steps are free. -/
def TameEvent : Event → Prop
  | .send command => Tame command
  | _ => True

/-- A text that ends with the line feed of the first line that starts with the marker. -/
structure Closing (whole : Text) : Prop where
  exists_body : ∃ body, whole = body ++ [0x0A] ∧
    (∀ line ∈ LineReader.lines .fresh body, startsWith line MARKER = false) ∧
    startsWith (LineReader.after .fresh body).line MARKER = true ∧
    (LineReader.after .fresh body).skipLF = false

theorem inline_marker (status : UInt8) : LineReader.Inline (MARKER ++ decimal status.toNat) := by
  apply LineReader.Inline.append
  · have each : MARKER.all (fun c => c != 0x0A && c != 0x0D) = true := by decide
    intro c mem
    simpa using List.all_eq_true.mp each c mem
  · intro c mem
    rcases mem_decimal mem with ⟨d, lt, rfl⟩
    interval_cases d <;> decide

theorem closing_output {command : Command} (tame : Tame command) (status : UInt8) :
    Closing (output command.actions ++ markerLine status) := by
  have inline := inline_marker status
  have nonempty : MARKER ++ decimal status.toNat ≠ [] := by
    intro isEmpty
    exact absurd (List.append_eq_nil_iff.mp isEmpty).1 (by decide)
  refine ⟨output command.actions ++ (MARKER ++ decimal status.toNat), ?_, ?_, ?_, ?_⟩
  · simp [markerLine]
  · rw [LineReader.lines_append, LineReader.lines_inline inline, List.append_nil]
    exact tame.lines
  · rw [LineReader.after_append, LineReader.after_inline inline nonempty, ← List.append_assoc]
    rcases startsWith_iff.mp tame.last with ⟨rest, whole⟩
    rw [whole, List.append_assoc]
    exact startsWith_append _ _
  · rw [LineReader.after_append, LineReader.after_inline inline nonempty]

/-- Where the outstanding command is: the shell, its status and the lines that it has still to read
determine what it will print. -/
inductive Stage : Shell → UInt8 → List Line → Text → Prop
  | queued (command : Command) (noRead : .readLine ∉ command.actions) (status : UInt8) :
      Stage .idle status [.command command, .marker]
        (output command.actions ++ markerLine command.status)
  | running (actions : List Action) (noRead : .readLine ∉ actions) (old status : UInt8) :
      Stage (.running actions status) old [.marker] (output actions ++ markerLine status)
  | ended (status : UInt8) : Stage .idle status [.marker] (markerLine status)
  | echoed (status : UInt8) : Stage .idle status [] []

/-- What the shell has still to read. -/
def queue (s : State) : List Line := s.stdin ++ s.jobs.flatten

/-- One command is on its way; what was delivered, what is in the pipe and what will be printed make
a text that ends with its marker. -/
structure Outstanding (s : State) : Prop where
  running : s.running = true
  busy : s.busy = true
  jobs : s.jobs = [] ∨ ∃ line rest, s.jobs = [line :: rest]
  exists_text : ∃ future delivered, Stage s.shell s.status (queue s) future ∧
    Closing (delivered ++ (s.stdout ++ future)) ∧ s.stdout ++ future ≠ [] ∧
    (∀ line ∈ LineReader.lines .fresh delivered, startsWith line MARKER = false) ∧
    s.reader = LineReader.after .fresh delivered

structure Resting (s : State) : Prop extends Quiescent s where
  running : s.running = true
  busy : s.busy = false
  reader : s.reader = .fresh

def Inv (s : State) : Prop := Resting s ∨ Outstanding s

section Step

variable {s next : State}

theorem append_eq (s : State) (text : Text) (kind : ShellLineKind) :
    ∃ lines, append s text kind = { s with lines := lines } := by
  rw [append]
  generalize (if kind = .input then text else Ansi.strip text) = clean
  split
  · exact ⟨s.lines, rfl⟩
  · exact ⟨_, rfl⟩

/-- What `send` does with a command when the shell is at rest. -/
theorem send_resting (resting : Resting s) (command : Command) :
    (∃ lines history, send s command = { s with lines := lines, history := history }) ∨
      ∃ lines history, send s command =
        { s with
          lines := lines, history := history, busy := true
          jobs := [[.command command, .marker]] } := by
  rcases append_eq s (trim command.text) .input with ⟨lines, shown⟩
  by_cases isEmpty : trim command.text = []
  · exact .inl ⟨s.lines, s.history, if_pos isEmpty⟩
  rw [send, if_neg isEmpty, if_neg (by simp [resting.busy]), shown]
  by_cases carriedOut : isLocal (trim command.text) = true
  · rw [if_pos carriedOut]
    exact .inl ⟨[], _, rfl⟩
  · rw [if_neg carriedOut, if_neg (by simp [resting.running]), resting.jobs]
    exact .inr ⟨lines, _, rfl⟩

theorem inv_send (inv : Inv s) {command : Command} (tame : Tame command) :
    Inv (send s command) := by
  rcases inv with resting | outstanding
  · rcases send_resting resting command with ⟨lines, history, same⟩ | ⟨lines, history, same⟩
    · rw [same]
      exact .inl ⟨⟨resting.jobs, resting.stdin, resting.shell, resting.stdout⟩, resting.running,
        resting.busy, resting.reader⟩
    · rw [same]
      refine .inr ⟨resting.running, rfl, .inr ⟨_, _, rfl⟩,
        output command.actions ++ markerLine command.status, [], ?_, ?_, ?_, List.forall_mem_nil _,
        resting.reader⟩
      · simp only [resting.shell, queue, resting.stdin]
        exact .queued command tame.noRead s.status
      · simpa [resting.stdout] using closing_output tame command.status
      · simp [markerLine]
  · have kept : send s command = s := by
      simp only [send, outstanding.busy, if_true, ite_self]
    rw [kept]
    exact .inr outstanding

/-- The job that there is has moved its next line to the shell. -/
theorem Outstanding.write (outstanding : Outstanding s) {job : ℕ}
    (taken : step s (.write job) = some next) : Outstanding next := by
  rcases outstanding with ⟨running, busy, noJobs | ⟨line, rest, shape⟩, texts⟩
  · simp [step, noJobs] at taken
  · cases job with
    | succ job => simp [step, shape] at taken
    | zero =>
        simp only [step, shape, List.getElem?_cons_zero, Option.some.injEq] at taken
        subst taken
        have moved : queue
            { s with
              jobs := if rest = [] then List.eraseIdx [line :: rest] 0
                else List.set [line :: rest] 0 rest
              stdin := s.stdin ++ [line] } = queue s := by
          simp only [queue, shape]
          split_ifs with last
          · simp [last]
          · simp
        refine ⟨running, busy, ?_, ?_⟩
        · by_cases last : rest = []
          · simp [last]
          · rcases List.exists_cons_of_ne_nil last with ⟨first, others, rfl⟩
            exact .inr ⟨first, others, rfl⟩
        · rw [moved]
          exact texts

theorem Stage.idle_cons {status : UInt8} {line : Line} {later : List Line} {future : Text}
    (stage : Stage .idle status (line :: later) future) :
    (∃ command, line = .command command ∧ later = [.marker] ∧ .readLine ∉ command.actions ∧
        future = output command.actions ++ markerLine command.status) ∨
      line = .marker ∧ later = [] ∧ future = markerLine status := by
  cases stage with
  | queued command noRead => exact .inl ⟨command, rfl, rfl, noRead, rfl⟩
  | ended => exact .inr ⟨rfl, rfl, rfl⟩

theorem Outstanding.begin (outstanding : Outstanding s)
    (taken : step s .begin = some next) : Outstanding next := by
  rcases outstanding with ⟨running, busy, jobs, future, delivered, stage, texts⟩
  cases shell : s.shell with
  | running actions status => simp [step, shell] at taken
  | idle =>
      cases stdin : s.stdin with
      | nil => simp [step, shell, stdin] at taken
      | cons line rest =>
          have whole : queue s = line :: (rest ++ s.jobs.flatten) := by
            rw [queue, stdin]
            rfl
          rw [shell, whole] at stage
          rcases stage.idle_cons with ⟨command, rfl, later, noRead, rfl⟩ | ⟨rfl, later, rfl⟩
          · simp only [step, shell, stdin, Option.some.injEq] at taken
            subst taken
            refine ⟨running, busy, jobs, _, delivered, ?_, texts⟩
            simp only [queue, later]
            exact .running command.actions noRead s.status command.status
          · simp only [step, shell, stdin, Option.some.injEq] at taken
            subst taken
            refine ⟨running, busy, jobs, [], delivered, ?_, ?_⟩
            · simp only [queue, later]
              exact .echoed 0
            · simpa only [List.append_nil] using texts

theorem Outstanding.act (outstanding : Outstanding s)
    (taken : step s .act = some next) : Outstanding next := by
  rcases outstanding with ⟨running, busy, jobs, future, delivered, stage, texts⟩
  cases shell : s.shell with
  | idle => simp [step, shell] at taken
  | running actions status =>
      cases actions with
      | nil => simp [step, shell] at taken
      | cons action rest =>
          rw [shell] at stage
          generalize lines : queue s = left at stage
          cases stage with
          | running _ noRead =>
              rw [List.mem_cons, not_or] at noRead
              cases action with
              | readLine => exact absurd rfl noRead.1
              | print text =>
                  simp only [step, shell, Option.some.injEq] at taken
                  subst taken
                  refine ⟨running, busy, jobs, output rest ++ markerLine status, delivered, ?_, ?_⟩
                  · simp only [queue] at lines ⊢
                    rw [lines]
                    exact .running rest noRead.2 s.status status
                  · simpa [output, Action.printed] using texts

theorem Outstanding.finish (outstanding : Outstanding s)
    (taken : step s .finish = some next) : Outstanding next := by
  rcases outstanding with ⟨running, busy, jobs, future, delivered, stage, texts⟩
  cases shell : s.shell with
  | idle => simp [step, shell] at taken
  | running actions status =>
      cases actions with
      | cons action rest => simp [step, shell] at taken
      | nil =>
          rw [shell] at stage
          generalize lines : queue s = left at stage
          cases stage with
          | running _ noRead =>
              simp only [step, shell, Option.some.injEq] at taken
              subst taken
              refine ⟨running, busy, jobs, markerLine status, delivered, ?_, texts⟩
              simp only [queue] at lines ⊢
              rw [lines]
              exact .ended status

/-- Only a stage at its end has nothing to print. -/
theorem Stage.eq_nil {shell : Shell} {status : UInt8} {lines : List Line}
    (stage : Stage shell status lines []) : shell = .idle ∧ lines = [] := by
  generalize future : ([] : Text) = text at stage
  cases stage with
  | queued => simp [markerLine] at future
  | running => simp [markerLine] at future
  | ended => simp [markerLine] at future
  | echoed => exact ⟨rfl, rfl⟩

theorem Outstanding.deliver (outstanding : Outstanding s)
    (taken : step s .deliver = some next) : Inv next := by
  rcases outstanding with
    ⟨running, busy, jobs, future, delivered, stage, closing, -, quiet, reader⟩
  cases stdout : s.stdout with
  | nil => simp [step, stdout] at taken
  | cons c rest =>
      simp only [step, stdout, Option.some.injEq] at taken
      subst taken
      rcases closing.exists_body with ⟨body, whole, bodyQuiet, starts, noSkip⟩
      rw [stdout, List.cons_append] at whole
      by_cases last : rest ++ future = []
      · -- the line feed of the marker's line
        rw [last] at whole
        have parts := List.append_inj' whole rfl
        have isFeed : c = 0x0A := (List.cons.inj parts.2).1
        rw [← parts.1] at starts noSkip
        rw [List.append_eq_nil_iff] at last
        rw [last.2] at stage
        rcases stage.eq_nil with ⟨idle, empty⟩
        rw [queue, List.append_eq_nil_iff] at empty
        have noJobs : s.jobs = [] := by
          rcases jobs with isEmpty | ⟨line, others, shape⟩
          · exact isEmpty
          · simp [shape] at empty
        have read : s.reader.next c = (some s.reader.line, .fresh) := by
          rw [isFeed, LineReader.next, if_pos rfl, reader, noSkip]
          rfl
        rw [← reader] at starts
        left
        have ended : LocalShell.deliver s c rest =
            { s with stdout := rest, reader := .fresh, busy := false } := by
          rw [LocalShell.deliver, read]
          exact if_pos starts
        rw [ended]
        exact ⟨⟨noJobs, empty.1, idle, last.1⟩, running, rfl, rfl⟩
      · -- a unit before it
        have within : delivered ++ [c] <+: body := by
          rcases List.eq_nil_or_concat (rest ++ future) with isEmpty | ⟨front, final, shape⟩
          · exact absurd isEmpty last
          · rw [shape, List.concat_eq_append, ← List.cons_append, ← List.append_assoc] at whole
            rw [← (List.append_inj' whole rfl).1]
            exact ⟨front, by simp⟩
        have laterQuiet : ∀ line ∈ LineReader.lines .fresh (delivered ++ [c]),
            startsWith line MARKER = false := by
          rcases within with ⟨later, rfl⟩
          intro line mem
          apply bodyQuiet
          rw [LineReader.lines_append]
          exact List.mem_append_left _ mem
        have shown : ∃ lines, LocalShell.deliver s c rest =
            { s with lines := lines, stdout := rest, reader := (s.reader.next c).2 } := by
          simp only [LocalShell.deliver]
          cases ended : (s.reader.next c).1 with
          | none => exact ⟨s.lines, rfl⟩
          | some line =>
              have unmarked : startsWith line MARKER = false := by
                apply laterQuiet
                rw [LineReader.lines_append, LineReader.lines_singleton, ← reader, ended]
                exact List.mem_append_right _ (List.mem_singleton.mpr rfl)
              simp only [handleLine, unmarked]
              rcases append_eq { s with stdout := rest, reader := (s.reader.next c).2 } line .output
                with ⟨lines, same⟩
              exact ⟨lines, same⟩
        rcases shown with ⟨lines, same⟩
        rw [same]
        refine .inr ⟨running, busy, jobs, future, delivered ++ [c], stage, ?_, last, laterQuiet, ?_⟩
        · rw [stdout] at closing
          simpa using closing
        · rw [LineReader.after_append, ← reader]
          rfl

theorem Resting.step_eq_none (resting : Resting s) {event : Event}
    (taken : step s event = some next) : ∃ command, event = .send command := by
  cases event with
  | send command => exact ⟨command, rfl⟩
  | write job => simp [step, resting.jobs] at taken
  | begin => simp [step, resting.shell, resting.stdin] at taken
  | act => simp [step, resting.shell] at taken
  | finish => simp [step, resting.shell] at taken
  | deliver => simp [step, resting.stdout] at taken

theorem inv_step (event : Event) (inv : Inv s) (tame : TameEvent event)
    (taken : step s event = some next) : Inv next := by
  by_cases isSend : ∃ command, event = .send command
  · rcases isSend with ⟨command, rfl⟩
    rw [← Option.some.inj taken]
    exact inv_send inv tame
  · rcases inv with resting | outstanding
    · exact absurd (resting.step_eq_none taken) isSend
    · cases event with
      | send command => exact absurd ⟨command, rfl⟩ isSend
      | write job => exact .inr (outstanding.write taken)
      | begin => exact .inr (outstanding.begin taken)
      | act => exact .inr (outstanding.act taken)
      | finish => exact .inr (outstanding.finish taken)
      | deliver => exact outstanding.deliver taken

end Step

/-- A step of the writer, the shell or the reader. -/
def Event.Internal : Event → Prop
  | .send _ => False
  | _ => True

def Action.work : Action → ℕ
  | .print text => 1 + text.length
  | .readLine => 1

def Line.work : Line → ℕ
  | .command sent => 2 + (sent.actions.map Action.work).sum
  | .marker => 17

def Shell.work : Shell → ℕ
  | .idle => 0
  | .running actions _ => 1 + (actions.map Action.work).sum

/-- How many steps are left at most. -/
def work (s : State) : ℕ :=
  (s.jobs.map fun job => (job.map fun line => line.work + 1).sum).sum +
    (s.stdin.map Line.work).sum + s.shell.work + s.stdout.length

theorem length_markerLine_le (status : UInt8) : (markerLine status).length ≤ 16 := by
  have digits : (decimal status.toNat).length ≤ 3 := by
    rw [decimal, List.length_map]
    split
    · simp
    · rw [List.length_reverse, Nat.digits_length_le_iff (by norm_num)]
      have := status.toNat_lt
      omega
  have marker : MARKER.length = 12 := rfl
  simp only [markerLine, List.length_append, List.length_singleton]
  omega

theorem work_deliver (s : State) (c : UInt16) (rest : Text) :
    work (deliver s c rest) = work { s with stdout := rest } := by
  rw [deliver]
  cases (s.reader.next c).1 with
  | none => rfl
  | some line =>
      simp only [handleLine]
      split
      · rfl
      · rcases append_eq { s with stdout := rest, reader := (s.reader.next c).2 } line .output
          with ⟨lines, same⟩
        rw [same]
        rfl

theorem work_write {s : State} {job : ℕ} {line : Line} {rest : List Line}
    (found : s.jobs[job]? = some (line :: rest)) :
    ((if rest = [] then s.jobs.eraseIdx job else s.jobs.set job rest).map
        fun job => (job.map fun line => line.work + 1).sum).sum + (line.work + 1) =
      (s.jobs.map fun job => (job.map fun line => line.work + 1).sum).sum := by
  rcases List.getElem?_eq_some_iff.mp found with ⟨lt, entry⟩
  have whole : s.jobs = s.jobs.take job ++ (line :: rest) :: s.jobs.drop (job + 1) := by
    rw [← entry, ← List.drop_eq_getElem_cons lt, List.take_append_drop]
  have shape : (if rest = [] then s.jobs.eraseIdx job else s.jobs.set job rest) =
      s.jobs.take job ++ (if rest = [] then [] else [rest]) ++ s.jobs.drop (job + 1) := by
    split
    · rw [List.eraseIdx_eq_take_drop_succ, List.append_nil]
    · rw [List.set_eq_take_append_cons_drop, if_pos lt]
      simp
  rw [shape]
  nth_rewrite 3 [whole]
  split
  · next last => simp [last]; omega
  · simp; omega

/-- Every step of the system itself lowers the work that is left. -/
theorem work_lt {s next : State} {event : Event} (internal : event.Internal)
    (taken : step s event = some next) : work next < work s := by
  cases event with
  | send command => exact absurd internal id
  | write job =>
      simp only [step] at taken
      split at taken
      · next line rest found =>
          cases taken
          have moved := work_write found
          simp only [work, List.map_append, List.sum_append, List.map_cons, List.map_nil,
            List.sum_cons, List.sum_nil]
          omega
      · cases taken
  | begin =>
      simp only [step] at taken
      split at taken
      · next command rest shell stdin =>
          cases taken
          simp only [work, shell, stdin, Shell.work, List.map_cons, List.sum_cons, Line.work]
          omega
      · next rest shell stdin =>
          cases taken
          have short := length_markerLine_le s.status
          simp only [work, stdin, List.map_cons, List.sum_cons, Line.work, List.length_append]
          omega
      · cases taken
  | act =>
      simp only [step] at taken
      split at taken
      · next text rest status shell =>
          cases taken
          simp only [work, shell, Shell.work, List.map_cons, List.sum_cons, Action.work,
            List.length_append]
          omega
      · next rest status line later shell stdin =>
          cases taken
          simp only [work, shell, stdin, Shell.work, List.map_cons, List.sum_cons, Action.work]
          omega
      · cases taken
  | finish =>
      simp only [step] at taken
      split at taken
      · next status shell =>
          cases taken
          simp only [work, shell, Shell.work, List.map_nil, List.sum_nil]
          omega
      · cases taken
  | deliver =>
      simp only [step] at taken
      split at taken
      · next c rest stdout =>
          cases taken
          rw [work_deliver]
          simp only [work, stdout, List.length_cons]
          omega
      · cases taken

/-- As long as something is outstanding, something can happen. -/
theorem Outstanding.progress {s : State} (outstanding : Outstanding s) :
    ∃ event next, event.Internal ∧ step s event = some next := by
  rcases outstanding with ⟨-, -, jobs, future, delivered, stage, -, nonempty, -⟩
  rcases jobs with noJobs | ⟨line, rest, shape⟩
  · have onlyInput : queue s = s.stdin := by rw [queue, noJobs, List.flatten_nil, List.append_nil]
    rw [onlyInput] at stage
    generalize shell : s.shell = state at stage
    generalize stdin : s.stdin = lines at stage
    cases stage with
    | queued command => exact ⟨.begin, _, trivial, by simp only [step, shell, stdin]; rfl⟩
    | ended => exact ⟨.begin, _, trivial, by simp only [step, shell, stdin]; rfl⟩
    | echoed =>
        rw [List.append_nil] at nonempty
        rcases List.exists_cons_of_ne_nil nonempty with ⟨c, rest, stdout⟩
        exact ⟨.deliver, _, trivial, by simp only [step, stdout]; rfl⟩
    | running actions noRead =>
        cases actions with
        | nil => exact ⟨.finish, _, trivial, by simp only [step, shell]; rfl⟩
        | cons action rest =>
            cases action with
            | readLine => exact absurd List.mem_cons_self noRead
            | print text => exact ⟨.act, _, trivial, by simp only [step, shell]; rfl⟩
  · exact ⟨.write 0, _, trivial, by simp only [step, shape, List.getElem?_cons_zero]; rfl⟩

theorem Outstanding.not_quiescent {s : State} (outstanding : Outstanding s) : ¬ Quiescent s := by
  intro quiescent
  rcases outstanding.progress with ⟨event, next, internal, taken⟩
  cases event with
  | send command => exact internal
  | write job => simp [step, quiescent.jobs] at taken
  | begin => simp [step, quiescent.shell, quiescent.stdin] at taken
  | act => simp [step, quiescent.shell] at taken
  | finish => simp [step, quiescent.shell] at taken
  | deliver => simp [step, quiescent.stdout] at taken

theorem Inv.busy_iff {s : State} (inv : Inv s) : s.busy = true ↔ ¬ Quiescent s := by
  rcases inv with resting | outstanding
  · simp [resting.busy, resting.toQuiescent]
  · simp [outstanding.busy, outstanding.not_quiescent]

theorem inv_of_reaches {lines : List ShellLine} {history : List Text} {s : State}
    (reached : Reaches step (fun _ event => TameEvent event) (started lines history) s) : Inv s :=
  reached.invariant (.inl ⟨⟨rfl, rfl, rfl, rfl⟩, rfl, rfl, rfl⟩) inv_step

theorem Resting.accepts {s : State} (resting : Resting s) {command : Command}
    (nonempty : trim command.text ≠ []) (toShell : isLocal (trim command.text) = false) :
    (send s command).busy = true ∧ (send s command).jobs = [[.command command, .marker]] := by
  rw [send, if_neg nonempty, if_neg (by simp [resting.busy]), if_neg (by simp [toShell]),
    if_neg (by simp [resting.running]), resting.jobs]
  exact ⟨rfl, rfl⟩

/-- If all that is sent is tame, the flag is up exactly as long as something is outstanding; the
next command is taken when nothing is; and whatever order the writer, the shell and the reader take
their steps in, they come to that after finitely many of them. -/
theorem busy_faithful {lines : List ShellLine} {history : List Text} {s : State}
    (reached : Reaches step (fun _ event => TameEvent event) (started lines history) s) :
    (s.busy = true ↔ ¬ Quiescent s) ∧
      (Quiescent s → ∀ command : Command, trim command.text ≠ [] →
        isLocal (trim command.text) = false →
          (send s command).busy = true ∧ (send s command).jobs = [[.command command, .marker]]) ∧
      ∀ events next, (∀ event ∈ events, event.Internal) → run step s events = some next →
        events.length ≤ work s ∧
          ((∀ event, event.Internal → step next event = none) →
            Quiescent next ∧ next.busy = false) := by
  have inv := inv_of_reaches reached
  refine ⟨inv.busy_iff, ?_, ?_⟩
  · intro quiescent command nonempty toShell
    rcases inv with resting | outstanding
    · exact resting.accepts nonempty toShell
    · exact absurd quiescent outstanding.not_quiescent
  · intro events next internal ends
    have lowered := run_length_le (fun event mem taken => work_lt (internal event mem) taken) ends
    refine ⟨by omega, ?_⟩
    intro stuck
    have free : ∀ event ∈ events, ∀ _ : State, TameEvent event := by
      intro event mem _
      cases event with
      | send command => exact absurd (internal _ mem) id
      | write job => trivial
      | begin => trivial
      | act => trivial
      | finish => trivial
      | deliver => trivial
    rcases inv_of_reaches (reached.trans (reaches_of_run_of_forall free ends)) with
      resting | outstanding
    · exact ⟨resting.toQuiescent, resting.busy⟩
    · rcases outstanding.progress with ⟨event, later, isInternal, taken⟩
      rw [stuck event isInternal] at taken
      cases taken

/-- `echo hi`, delivered up to the line feed of its marker. -/
def echoHi : List Event :=
  [.send ⟨txt "echo hi", [.print (txt "hi" ++ [0x0A])], 0⟩, .write 0, .begin, .act, .write 0,
    .finish, .begin] ++ List.replicate 16 .deliver

theorem busy_faithful_echo :
    ∃ s, run step (started [] []) echoHi = some s ∧ (s.busy = true ↔ ¬ Quiescent s) ∧
      s.busy = true := by
  have tame : Tame ⟨txt "echo hi", [.print (txt "hi" ++ [0x0A])], 0⟩ := by
    refine ⟨by decide, ?_, by decide⟩
    have read : LineReader.lines .fresh (output [.print (txt "hi" ++ [0x0A])]) = [txt "hi"] := by
      decide
    intro line mem
    rw [read, List.mem_singleton] at mem
    rw [mem]
    decide
  have ends : run step (started [] []) echoHi = some
      { started [⟨txt "echo hi", .input⟩, ⟨txt "hi", .output⟩] [txt "echo hi"] with
        busy := true, stdout := [0x0A], reader := ⟨txt "__GRT_DONE__0", false⟩ } := by
    decide +kernel
  have allowed : ∀ event ∈ echoHi, ∀ _ : State, TameEvent event := by
    intro event mem _
    cases event with
    | send command =>
        have only :
            .send command ∈ [Event.send ⟨txt "echo hi", [.print (txt "hi" ++ [0x0A])], 0⟩] := by
          simpa [echoHi] using mem
        cases List.mem_singleton.mp only
        exact tame
    | write job => trivial
    | begin => trivial
    | act => trivial
    | finish => trivial
    | deliver => trivial
  exact ⟨_, ends, (busy_faithful (reaches_of_run_of_forall allowed ends)).1, rfl⟩

/-- `printf x` leaves its marker in the middle of a line, and a command that reads a line takes the
marker's command: in the end nothing is outstanding, and the flag is up. -/
theorem busy_forever :
    (∃ s, run step (started [] [])
        ([.send ⟨txt "printf x", [.print (txt "x")], 0⟩, .write 0, .write 0, .begin, .act, .finish,
          .begin] ++ List.replicate 15 .deliver) = some s ∧ Quiescent s ∧ s.busy = true) ∧
      ∃ s, run step (started [] [])
        [.send ⟨txt "read x", [.readLine], 0⟩, .write 0, .write 0, .begin, .act, .finish] = some s ∧
          Quiescent s ∧ s.busy = true := by
  refine ⟨⟨{ started [⟨txt "printf x", .input⟩, ⟨txt "x__GRT_DONE__0", .output⟩] [txt "printf x"]
    with busy := true }, ?_, ⟨rfl, rfl, rfl, rfl⟩, rfl⟩,
    ⟨{ started [⟨txt "read x", .input⟩] [txt "read x"] with busy := true }, ?_,
      ⟨rfl, rfl, rfl, rfl⟩, rfl⟩⟩
  · decide +kernel
  · decide +kernel

end GRoute.LocalShell
