import GRoute.VpnService
import Mathlib.Data.Int.Notation
import Mathlib.Logic.Function.Basic

/-!
# The core's descriptor

`gozarcore.go` keeps the descriptor of the tunnel and the running instance in two variables under a
mutex, so its calls happen one after the other. The kernel gives out the number of a closed
descriptor again, and other threads open and close descriptors between the calls. The core closes
numbers; that each number is still its own tunnel when it does is what has to be shown. It refines
the core of the service model, which knows interfaces and no numbers.

What the calls of xray-core do to the descriptors is a parameter. The results rest on the hypothesis
that they open and close no tunnel and no descriptor of the core.
-/

namespace GRoute.Gozarcore

open Transition VpnService

/-- Who may close a descriptor. -/
inductive Owner
  | app
  | core
  deriving DecidableEq, Repr

/-- What an open descriptor refers to. -/
inductive File
  | tun (iface : ℕ)
  | other
  deriving DecidableEq, Repr

/-- The open descriptors by their numbers. -/
abbrev Table := ℕ → Option (Owner × File)

/-- The calls of xray-core. -/
inductive Call
  | loadJSONConfig
  | new
  | start (inst : ℕ)
  | close (inst : ℕ)

/-- What the calls do to the descriptors of the process. -/
def Xray := Call → Table → Table

/-- A tunnel, or a descriptor of the core. -/
def IsTunnel : Owner × File → Prop
  | (.core, _) => True
  | (.app, .tun _) => True
  | (.app, .other) => False

/-- No call opens or closes a tunnel or a descriptor of the core. -/
def Xray.SparesTunnels (xray : Xray) : Prop :=
  ∀ call table fd entry, IsTunnel entry → (xray call table fd = some entry ↔ table fd = some entry)

/-- The process, as far as its descriptors and the variables of the core go. -/
structure Process where
  table : Table
  tunFd : ℤ := -1
  running : Option ℕ := none
  /-- The instances that `core.New` has made and on which `Close` was not called. -/
  live : List ℕ := []
  made : ℕ := 0
  /-- The interfaces that were handed to `Start`. -/
  handed : List ℕ := []
  /-- What each number that the core closed referred to. -/
  closed : List (Option (Owner × File)) := []

/-- How far a call of `Start` comes. -/
inductive Outcome
  | badConfig
  | notMade
  | notStarted
  | started
  deriving DecidableEq, Repr

namespace Process

variable (xray : Xray) (p : Process)

/-- `os.NewFile(uintptr(tunFd), "tun").Close()` and `tunFd = -1`, for a descriptor that is set. -/
def closeTun : Process :=
  if 0 ≤ p.tunFd then
    { p with
      table := Function.update p.table p.tunFd.toNat none
      closed := p.closed ++ [p.table p.tunFd.toNat]
      tunFd := -1 }
  else p

/-- A call of xray-core. -/
def call (call : Call) : Process := { p with table := xray call p.table }

/-- `instance.Close()` and `instance = nil`, for an instance that is running. -/
def closeInstance : Process :=
  match p.running with
  | none => p
  | some inst =>
      { p.call xray (.close inst) with
        live := p.live.filter fun other => other ≠ inst
        running := none }

/-- `core.New` with success. -/
def new : Process := { p.call xray .new with live := p.made :: p.live, made := p.made + 1 }

/-- `Start`. -/
def start (fd : ℕ) (outcome : Outcome) : Process :=
  let p := { (p.closeInstance xray).closeTun with tunFd := fd }.call xray .loadJSONConfig
  match outcome with
  | .badConfig => p
  | .notMade => p.call xray .new
  | .notStarted =>
      { ((p.new xray).call xray (.start p.made)).call xray (.close p.made) with
        live := (p.new xray).live.filter fun other => other ≠ p.made }
  | .started => { (p.new xray).call xray (.start p.made) with running := some p.made }

/-- `Stop`. -/
def stop : Process := p.closeTun.closeInstance xray

/-- The caller detaches the descriptor, which then belongs to the core. -/
def handOver (fd : ℕ) (iface : ℕ) : Process :=
  { p with
    table := Function.update p.table fd (some (.core, .tun iface))
    handed := p.handed ++ [iface] }

end Process

/-- What may happen next in the process. -/
inductive Event
  /-- Another thread opens a file, under any free number. -/
  | opened (fd : ℕ) (file : File)
  /-- Another thread closes a descriptor of its own. -/
  | closed (fd : ℕ)
  | start (fd : ℕ) (outcome : Outcome)
  | stop
  deriving DecidableEq, Repr

/-- A descriptor is opened under a free number, and `Start` is called with a tunnel of the app. -/
def step (xray : Xray) (p : Process) : Event → Option Process
  | .opened fd file =>
      if p.table fd = none then
        some { p with table := Function.update p.table fd (some (.app, file)) }
      else none
  | .closed fd =>
      match p.table fd with
      | some (.app, _) => some { p with table := Function.update p.table fd none }
      | _ => none
  | .start fd outcome =>
      match p.table fd with
      | some (.app, .tun iface) => some ((p.handOver fd iface).start xray fd outcome)
      | _ => none
  | .stop => some (p.stop xray)

namespace Process

/-- The core owns the descriptor `tunFd` and no other one. -/
structure Holds (p : Process) (files : List ℕ) (held : Option ℕ) : Prop where
  tunFd : match held with
    | none => p.tunFd = -1
    | some iface => 0 ≤ p.tunFd ∧ p.table p.tunFd.toNat = some (.core, .tun iface)
  owned : ∀ fd file, p.table fd = some (.core, file) → (fd : ℤ) = p.tunFd
  handed : p.handed = files ++ held.toList
  closed : p.closed = files.map fun iface => some (.core, .tun iface)

/-- The core owns the descriptor `tunFd` and the one that was handed over. -/
structure Receives (p : Process) (files : List ℕ) (held : Option ℕ) (fd iface : ℕ) : Prop where
  tunFd : match held with
    | none => p.tunFd = -1
    | some old => 0 ≤ p.tunFd ∧ p.tunFd.toNat ≠ fd ∧ p.table p.tunFd.toNat = some (.core, .tun old)
  new : p.table fd = some (.core, .tun iface)
  owned : ∀ other file, p.table other = some (.core, file) → (other : ℤ) = p.tunFd ∨ other = fd
  handed : p.handed = files ++ held.toList ++ [iface]
  closed : p.closed = files.map fun iface => some (.core, .tun iface)

/-- The only live instance is the running one. -/
structure OneInstance (p : Process) : Prop where
  live : p.live = p.running.toList
  made : ∀ inst ∈ p.running, inst < p.made

/-- The two processes differ in their instances and in descriptors that are no tunnels. -/
structure SameTunnels (p after : Process) : Prop where
  table : ∀ fd entry, IsTunnel entry → (after.table fd = some entry ↔ p.table fd = some entry)
  tunFd : after.tunFd = p.tunFd
  handed : after.handed = p.handed
  closed : after.closed = p.closed

variable {xray : Xray} {p after : Process} {files : List ℕ} {held : Option ℕ} {fd iface : ℕ}

theorem SameTunnels.refl (p : Process) : SameTunnels p p := ⟨fun _ _ _ => Iff.rfl, rfl, rfl, rfl⟩

theorem SameTunnels.trans {later : Process} (first : SameTunnels p after)
    (second : SameTunnels after later) : SameTunnels p later where
  table fd entry isTunnel := (second.table fd entry isTunnel).trans (first.table fd entry isTunnel)
  tunFd := second.tunFd.trans first.tunFd
  handed := second.handed.trans first.handed
  closed := second.closed.trans first.closed

theorem SameTunnels.core (same : SameTunnels p after) {fd : ℕ} {file : File} :
    after.table fd = some (.core, file) ↔ p.table fd = some (.core, file) :=
  same.table fd (.core, file) trivial

/-- What is said of the instances does not matter to the tunnels. -/
theorem SameTunnels.instances (same : SameTunnels p after) (running : Option ℕ) (live : List ℕ)
    (made : ℕ) : SameTunnels p { after with running := running, live := live, made := made } :=
  ⟨same.table, same.tunFd, same.handed, same.closed⟩

theorem sameTunnels_call (spares : xray.SparesTunnels) (p : Process) (call : Call) :
    SameTunnels p (p.call xray call) :=
  ⟨spares call p.table, rfl, rfl, rfl⟩

theorem sameTunnels_closeInstance (spares : xray.SparesTunnels) (p : Process) :
    SameTunnels p (p.closeInstance xray) := by
  rw [closeInstance]
  split
  · exact .refl p
  · exact (sameTunnels_call spares p _).instances _ _ _

theorem sameTunnels_new (spares : xray.SparesTunnels) (p : Process) :
    SameTunnels p (p.new xray) :=
  (sameTunnels_call spares p _).instances _ _ _

/-- After the descriptor is kept, `Start` leaves the tunnels alone, however far it comes. -/
theorem sameTunnels_start (spares : xray.SparesTunnels) (p : Process) (fd : ℕ) (outcome : Outcome) :
    SameTunnels { (p.closeInstance xray).closeTun with tunFd := fd } (p.start xray fd outcome) := by
  have loaded := sameTunnels_call spares { (p.closeInstance xray).closeTun with tunFd := fd }
    .loadJSONConfig
  have made := loaded.trans (sameTunnels_new spares _)
  have started := made.trans
    (sameTunnels_call spares _ (.start (p.closeInstance xray).closeTun.made))
  cases outcome with
  | badConfig => exact loaded
  | notMade => exact loaded.trans (sameTunnels_call spares _ .new)
  | notStarted => exact (started.trans (sameTunnels_call spares _ _)).instances _ _ _
  | started => exact started.instances _ _ _

theorem Holds.sameTunnels (holds : Holds p files held) (same : SameTunnels p after) :
    Holds after files held := by
  refine ⟨?_, ?_, same.handed.trans holds.handed, same.closed.trans holds.closed⟩
  · cases held with
    | none => exact same.tunFd.trans holds.tunFd
    | some iface =>
        rcases holds.tunFd with ⟨set, own⟩
        rw [same.tunFd]
        exact ⟨set, same.core.mpr own⟩
  · intro fd file owned
    rw [same.tunFd]
    exact holds.owned fd file (same.core.mp owned)

theorem Receives.sameTunnels (receives : Receives p files held fd iface)
    (same : SameTunnels p after) : Receives after files held fd iface := by
  refine ⟨?_, same.core.mpr receives.new, ?_, same.handed.trans receives.handed,
    same.closed.trans receives.closed⟩
  · cases held with
    | none => exact same.tunFd.trans receives.tunFd
    | some old =>
        rcases receives.tunFd with ⟨set, different, own⟩
        rw [same.tunFd]
        exact ⟨set, different, same.core.mpr own⟩
  · intro other file owned
    rw [same.tunFd]
    exact receives.owned other file (same.core.mp owned)

theorem Holds.tunFd_eq_neg_one (holds : Holds p files none) : p.tunFd = -1 := holds.tunFd

theorem closeTun_of_neg (unset : p.tunFd = -1) : p.closeTun = p := by
  rw [closeTun, if_neg (by omega)]

theorem Holds.closeTun (holds : Holds p files held) :
    Holds p.closeTun (files ++ held.toList) none := by
  cases held with
  | none =>
      rw [closeTun_of_neg holds.tunFd]
      exact ⟨holds.tunFd, holds.owned, by simp [holds.handed], by simp [holds.closed]⟩
  | some iface =>
      rcases holds.tunFd with ⟨set, entry⟩
      rw [Process.closeTun, if_pos set]
      refine ⟨rfl, ?_, by simp [holds.handed], by simp [holds.closed, entry]⟩
      intro fd file owned
      dsimp only at owned ⊢
      by_cases same : fd = p.tunFd.toNat
      · subst same
        rw [Function.update_self] at owned
        cases owned
      · rw [Function.update_of_ne same] at owned
        have equal := holds.owned fd file owned
        omega

/-- The previous tunnel is closed, and the one that was handed over is kept. -/
theorem Receives.closeTun (receives : Receives p files held fd iface) :
    Holds { p.closeTun with tunFd := fd } (files ++ held.toList) (some iface) := by
  cases held with
  | none =>
      rw [closeTun_of_neg receives.tunFd]
      refine ⟨⟨Int.natCast_nonneg fd, receives.new⟩, ?_, by simp [receives.handed],
        by simp [receives.closed]⟩
      intro other file owned
      rcases receives.owned other file owned with isOld | rfl
      · have unset : p.tunFd = -1 := receives.tunFd
        omega
      · rfl
  | some old =>
      rcases receives.tunFd with ⟨set, different, entry⟩
      rw [Process.closeTun, if_pos set]
      refine ⟨⟨Int.natCast_nonneg fd, ?_⟩, ?_, by simp [receives.handed],
        by simp [receives.closed, entry]⟩
      · exact (Function.update_of_ne different.symm ..).trans receives.new
      · intro other file owned
        dsimp only at owned ⊢
        by_cases same : other = p.tunFd.toNat
        · rw [same, Function.update_self] at owned
          cases owned
        · rw [Function.update_of_ne same] at owned
          rcases receives.owned other file owned with isOld | rfl
          · omega
          · rfl

/-- Another thread's descriptor is not the one that the core owns. -/
theorem Holds.ne_of_app {file : File} (holds : Holds p files held)
    (entry : p.table fd = some (.app, file)) (set : 0 ≤ p.tunFd) : p.tunFd.toNat ≠ fd := by
  rintro rfl
  cases held with
  | none =>
      have unset := holds.tunFd_eq_neg_one
      omega
  | some iface => cases entry.symm.trans holds.tunFd.2

/-- Other threads replace an entry of their own, or one that is free. -/
theorem Holds.update {entry : Option (Owner × File)} (holds : Holds p files held)
    (foreign : ∀ file, p.table fd ≠ some (.core, file))
    (stays : ∀ file, entry ≠ some (.core, file)) :
    Holds { p with table := Function.update p.table fd entry } files held := by
  refine ⟨?_, ?_, holds.handed, holds.closed⟩
  · cases held with
    | none => exact holds.tunFd
    | some iface =>
        rcases holds.tunFd with ⟨set, own⟩
        refine ⟨set, ?_⟩
        have different : p.tunFd.toNat ≠ fd := by
          rintro rfl
          exact foreign _ own
        exact (Function.update_of_ne different ..).trans own
  · intro other file owned
    dsimp only at owned ⊢
    by_cases same : other = fd
    · subst same
      rw [Function.update_self] at owned
      exact absurd owned (stays file)
    · rw [Function.update_of_ne same] at owned
      exact holds.owned other file owned

theorem Holds.handOver {file : File} (holds : Holds p files held)
    (entry : p.table fd = some (.app, file)) (iface : ℕ) :
    Receives (p.handOver fd iface) files held fd iface := by
  refine ⟨?_, Function.update_self .., ?_, ?_, holds.closed⟩
  · cases held with
    | none => exact holds.tunFd
    | some old =>
        have different := holds.ne_of_app entry holds.tunFd.1
        exact ⟨holds.tunFd.1, different,
          (Function.update_of_ne different ..).trans holds.tunFd.2⟩
  · intro other file owned
    dsimp only [Process.handOver] at owned
    by_cases same : other = fd
    · exact .inr same
    · rw [Function.update_of_ne same] at owned
      exact .inl (holds.owned other file owned)
  · rw [Process.handOver, holds.handed]

theorem Holds.start {file : File} (spares : xray.SparesTunnels) (holds : Holds p files held)
    (entry : p.table fd = some (.app, file)) (outcome : Outcome) :
    Holds ((p.handOver fd iface).start xray fd outcome) (files ++ held.toList) (some iface) := by
  have receives := (holds.handOver entry iface).sameTunnels (sameTunnels_closeInstance spares _)
  exact receives.closeTun.sameTunnels (sameTunnels_start spares _ fd outcome)

theorem Holds.stop (spares : xray.SparesTunnels) (holds : Holds p files held) :
    Holds (p.stop xray) (files ++ held.toList) none :=
  holds.closeTun.sameTunnels (sameTunnels_closeInstance spares _)

theorem closeTun_running (p : Process) : p.closeTun.running = p.running ∧
    p.closeTun.live = p.live ∧ p.closeTun.made = p.made := by
  unfold closeTun
  split <;> exact ⟨rfl, rfl, rfl⟩

theorem OneInstance.congr (one : OneInstance p) (running : after.running = p.running)
    (live : after.live = p.live) (made : after.made = p.made) : OneInstance after := by
  refine ⟨?_, ?_⟩
  · rw [live, running, one.live]
  · rw [running, made]
    exact one.made

theorem OneInstance.closeTun (one : OneInstance p) : OneInstance p.closeTun :=
  one.congr (closeTun_running p).1 (closeTun_running p).2.1 (closeTun_running p).2.2

/-- After an instance is closed there is none. -/
theorem OneInstance.closeInstance (one : OneInstance p) :
    (p.closeInstance xray).live = [] ∧ (p.closeInstance xray).running = none := by
  have live := one.live
  rw [Process.closeInstance]
  split
  · next none =>
      rw [none] at live
      exact ⟨live, none⟩
  · next inst isRunning =>
      rw [isRunning] at live
      simp [live]

theorem OneInstance.stop (one : OneInstance p) : OneInstance (p.stop xray) := by
  rcases one.closeTun.closeInstance with ⟨live, running⟩
  refine ⟨?_, ?_⟩
  · rw [Process.stop, live, running]
    rfl
  · rw [Process.stop, running]
    rintro inst ⟨⟩

theorem OneInstance.start (one : OneInstance p) (fd : ℕ) (outcome : Outcome) :
    OneInstance (p.start xray fd outcome) := by
  rcases closeTun_running (p.closeInstance xray) with ⟨sameRunning, sameLive, -⟩
  rw [one.closeInstance.1] at sameLive
  rw [one.closeInstance.2] at sameRunning
  unfold Process.start
  cases outcome with
  | badConfig | notMade => constructor <;> simp [call, sameLive, sameRunning]
  | notStarted => constructor <;> simp [call, new, sameLive, sameRunning]
  | started => constructor <;> simp [call, new, sameLive]

end Process

/-- A process in which the core has not been used. -/
structure Process.Unused (p : Process) : Prop where
  tunFd : p.tunFd = -1
  foreign : ∀ fd file, p.table fd ≠ some (.core, file)
  handed : p.handed = []
  closed : p.closed = []
  running : p.running = none
  live : p.live = []

/-- What holds between the calls. -/
structure Process.Disciplined (p : Process) : Prop where
  holds : ∃ files held, p.Holds files held
  one : p.OneInstance

theorem Process.Unused.disciplined {p : Process} (unused : p.Unused) : p.Disciplined where
  holds := by
    refine ⟨[], none, unused.tunFd, ?_, unused.handed, unused.closed⟩
    intro fd file owned
    exact absurd owned (unused.foreign fd file)
  one := by
    refine ⟨?_, ?_⟩
    · rw [unused.live, unused.running]
      rfl
    · rw [unused.running]
      rintro inst ⟨⟩

theorem Process.Disciplined.step {xray : Xray} {p after : Process} {event : Event}
    (spares : xray.SparesTunnels) (disciplined : p.Disciplined)
    (taken : step xray p event = some after) : after.Disciplined := by
  rcases disciplined with ⟨⟨files, held, holds⟩, one⟩
  cases event with
  | opened fd file =>
      rw [Gozarcore.step, Option.ite_none_right_eq_some, Option.some_inj] at taken
      rcases taken with ⟨free, rfl⟩
      refine ⟨⟨files, held, holds.update ?_ ?_⟩, one.congr rfl rfl rfl⟩
      · rw [free]
        rintro _ ⟨⟩
      · rintro _ ⟨⟩
  | closed fd =>
      simp only [Gozarcore.step] at taken
      split at taken
      · next file entry =>
          cases taken
          refine ⟨⟨files, held, holds.update ?_ ?_⟩, one.congr rfl rfl rfl⟩
          · rw [entry]
            rintro _ ⟨⟩
          · rintro _ ⟨⟩
      · cases taken
  | start fd outcome =>
      simp only [Gozarcore.step] at taken
      split at taken
      · next iface entry =>
          cases taken
          have handed : (p.handOver fd iface).OneInstance := one.congr rfl rfl rfl
          exact ⟨⟨_, _, holds.start spares entry outcome⟩, handed.start fd outcome⟩
      · cases taken
  | stop =>
      cases taken
      exact ⟨⟨_, _, holds.stop spares⟩, one.stop⟩

/-- In every run, with any number of failed starts, and whatever numbers the kernel gives out again:
each close of the core hits a tunnel that was handed to it, and every tunnel that was handed over
has been closed once, in the order of their coming, but for the last one, which is open under
`tunFd` or closed as well. The core owns no other descriptor, and `Close` was called on every
instance but the running one. -/
theorem core_closes_own {xray : Xray} (spares : xray.SparesTunnels) {start p : Process}
    (unused : start.Unused) (reached : Reaches (step xray) (fun _ _ => True) start p) :
    ∃ (files : List ℕ) (held : Option ℕ),
      p.closed = files.map (fun iface => some (.core, .tun iface)) ∧
      p.handed = files ++ held.toList ∧
      (∀ iface ∈ held, 0 ≤ p.tunFd ∧ p.table p.tunFd.toNat = some (.core, .tun iface)) ∧
      (held = none → p.tunFd = -1) ∧
      (∀ fd file, p.table fd = some (.core, file) → (fd : ℤ) = p.tunFd) ∧
      p.live = p.running.toList := by
  have disciplined : p.Disciplined := reached.invariant unused.disciplined
    fun _ disciplined _ taken => disciplined.step spares taken
  rcases disciplined with ⟨⟨files, held, holds⟩, one⟩
  refine ⟨files, held, holds.closed, holds.handed, ?_, ?_, holds.owned, one.live⟩
  · rintro iface ⟨⟩
    exact holds.tunFd
  · rintro rfl
    exact holds.tunFd

/-- A start that fails, one that succeeds, and a stop, after which the number is given out again. -/
def numberReused : List Event :=
  [.opened 5 (.tun 0), .start 5 .badConfig, .opened 6 (.tun 1), .start 6 .started, .opened 5 .other,
    .stop, .opened 6 .other, .stop]

/-- Instances that touch no descriptor. -/
def idleXray : Xray := fun _ table => table

theorem sparesTunnels_idleXray : idleXray.SparesTunnels := fun _ _ _ _ _ => Iff.rfl

/-- The process after these events. -/
def reusedProcess : Process := (run (step idleXray) { table := fun _ => none } numberReused).getD
  { table := fun _ => none }

theorem core_closes_own_reused :
    reusedProcess.table 6 = some (.app, .other) ∧ ∃ (files : List ℕ) (held : Option ℕ),
      reusedProcess.closed = files.map (fun iface => some (.core, .tun iface)) ∧
      reusedProcess.handed = files ++ held.toList := by
  have ends : (run (step idleXray) { table := fun _ => none } numberReused).isSome = true := by
    decide +kernel
  rcases Option.isSome_iff_exists.mp ends with ⟨p, isEnd⟩
  have reached : Reaches (step idleXray) (fun _ _ => True) { table := fun _ => none }
      reusedProcess := by
    rw [reusedProcess, isEnd]
    exact reaches_of_run_of_forall (fun _ _ _ => trivial) isEnd
  rcases core_closes_own sparesTunnels_idleXray ⟨rfl, by rintro _ _ ⟨⟩, rfl, rfl, rfl, rfl⟩
    reached with ⟨files, held, closed, handed, -⟩
  exact ⟨by decide +kernel, files, held, closed, handed⟩

namespace Process

/-- The interface is open, under some number. -/
def Open (p : Process) (iface : ℕ) : Prop := ∃ fd owner, p.table fd = some (owner, .tun iface)

/-- No interface is open under two numbers. -/
def Distinct (p : Process) : Prop :=
  ∀ fd owner other otherOwner iface, p.table fd = some (owner, .tun iface) →
    p.table other = some (otherOwner, .tun iface) → fd = other

/-- The interface that the core holds. -/
def coreIface (p : Process) : Option ℕ :=
  if 0 ≤ p.tunFd then
    match p.table p.tunFd.toNat with
    | some (_, .tun iface) => some iface
    | _ => none
  else none

variable {xray : Xray} {p after : Process} {files : List ℕ} {held : Option ℕ}

theorem update_none_entry {table : Table} {fd other : ℕ} {entry : Owner × File}
    (has : Function.update table fd none other = some entry) : table other = some entry := by
  by_cases same : other = fd
  · rw [same, Function.update_self] at has
    cases has
  · rwa [Function.update_of_ne same] at has

theorem Holds.coreIface (holds : Holds p files held) : p.coreIface = held := by
  cases held with
  | none =>
      have unset := holds.tunFd_eq_neg_one
      exact if_neg (by omega)
  | some iface =>
      rw [Process.coreIface, if_pos holds.tunFd.1, holds.tunFd.2]

/-- To hand a descriptor over changes its owner only. -/
theorem handOver_entry {fd pfd other iface : ℕ} {owner someone : Owner}
    (entry : p.table fd = some (owner, .tun pfd))
    (has : (p.handOver fd pfd).table other = some (someone, .tun iface)) :
    ∃ before, p.table other = some (before, .tun iface) := by
  dsimp only [Process.handOver] at has
  by_cases same : other = fd
  · subst same
    rw [Function.update_self] at has
    cases has
    exact ⟨owner, entry⟩
  · rw [Function.update_of_ne same] at has
    exact ⟨someone, has⟩

theorem closeTun_entry {fd : ℕ} {entry : Owner × File} (has : p.closeTun.table fd = some entry) :
    p.table fd = some entry := by
  unfold Process.closeTun at has
  split at has
  · exact update_none_entry has
  · exact has

theorem open_handOver {fd pfd iface : ℕ} {owner : Owner}
    (entry : p.table fd = some (owner, .tun pfd)) :
    (p.handOver fd pfd).Open iface ↔ p.Open iface := by
  constructor
  · rintro ⟨other, someone, has⟩
    rcases handOver_entry entry has with ⟨before, had⟩
    exact ⟨other, before, had⟩
  · rintro ⟨other, someone, has⟩
    by_cases same : other = fd
    · subst same
      cases entry.symm.trans has
      exact ⟨other, .core, Function.update_self ..⟩
    · exact ⟨other, someone, (Function.update_of_ne same ..).trans has⟩

theorem SameTunnels.open_iff (same : SameTunnels p after) {iface : ℕ} :
    after.Open iface ↔ p.Open iface := by
  have isTunnel (owner : Owner) : IsTunnel (owner, .tun iface) := by
    cases owner <;> trivial
  exact exists_congr fun fd => exists_congr fun owner => same.table fd _ (isTunnel owner)

/-- To close a tunnel closes its interface and no other one. -/
theorem open_closeTun (tunFd : match held with
      | none => p.tunFd = -1
      | some old => 0 ≤ p.tunFd ∧ ∃ owner, p.table p.tunFd.toNat = some (owner, .tun old))
    (distinct : p.Distinct) {iface : ℕ} :
    p.closeTun.Open iface ↔ p.Open iface ∧ some iface ≠ held := by
  cases held with
  | none =>
      rw [closeTun_of_neg tunFd]
      simp
  | some old =>
      rcases tunFd with ⟨set, owner, own⟩
      rw [Process.closeTun, if_pos set]
      constructor
      · rintro ⟨fd, owner, has⟩
        dsimp only at has
        by_cases same : fd = p.tunFd.toNat
        · rw [same, Function.update_self] at has
          cases has
        · rw [Function.update_of_ne same] at has
          refine ⟨⟨fd, owner, has⟩, ?_⟩
          rintro ⟨⟩
          exact same (distinct _ _ _ _ _ has own)
      · rintro ⟨⟨fd, owner, has⟩, different⟩
        refine ⟨fd, owner, (Function.update_of_ne ?_ ..).trans has⟩
        rintro rfl
        cases own.symm.trans has
        exact different rfl

theorem Holds.open_closeTun (holds : Holds p files held) (distinct : p.Distinct) {iface : ℕ} :
    p.closeTun.Open iface ↔ p.Open iface ∧ some iface ≠ held := by
  refine Process.open_closeTun ?_ distinct
  cases held with
  | none => exact holds.tunFd
  | some old => exact ⟨holds.tunFd.1, .core, holds.tunFd.2⟩

theorem Receives.open_closeTun {fd pfd : ℕ} (receives : Receives p files held fd pfd)
    (distinct : p.Distinct) {iface : ℕ} :
    p.closeTun.Open iface ↔ p.Open iface ∧ some iface ≠ held := by
  refine Process.open_closeTun ?_ distinct
  cases held with
  | none => exact receives.tunFd
  | some old => exact ⟨receives.tunFd.1, .core, receives.tunFd.2.2⟩

/-- Descriptors that are closed or change hands leave the interfaces distinct. -/
theorem Distinct.of_entries (distinct : p.Distinct)
    (entries : ∀ fd owner iface, after.table fd = some (owner, .tun iface) →
      ∃ before, p.table fd = some (before, .tun iface)) : after.Distinct := by
  intro fd owner other otherOwner iface has otherHas
  rcases entries fd owner iface has with ⟨_, had⟩
  rcases entries other otherOwner iface otherHas with ⟨_, otherHad⟩
  exact distinct _ _ _ _ _ had otherHad

theorem Distinct.sameTunnels (distinct : p.Distinct) (same : SameTunnels p after) :
    after.Distinct := by
  apply distinct.of_entries
  intro fd owner iface has
  have isTunnel : IsTunnel (owner, .tun iface) := by
    cases owner <;> trivial
  exact ⟨owner, (same.table fd _ isTunnel).mp has⟩

theorem Distinct.handOver {fd pfd : ℕ} {owner : Owner} (distinct : p.Distinct)
    (entry : p.table fd = some (owner, .tun pfd)) : (p.handOver fd pfd).Distinct :=
  distinct.of_entries fun _ _ _ has => handOver_entry entry has

theorem Distinct.closeTun (distinct : p.Distinct) : p.closeTun.Distinct :=
  distinct.of_entries fun _ owner _ has => ⟨owner, closeTun_entry has⟩

theorem Distinct.start {fd pfd : ℕ} {owner : Owner} (spares : xray.SparesTunnels)
    (distinct : p.Distinct) (entry : p.table fd = some (owner, .tun pfd)) (outcome : Outcome) :
    ((p.handOver fd pfd).start xray fd outcome).Distinct := by
  have closed := (distinct.handOver entry).sameTunnels (sameTunnels_closeInstance spares _)
  have kept : Distinct { ((p.handOver fd pfd).closeInstance xray).closeTun with tunFd := fd } :=
    closed.closeTun
  exact kept.sameTunnels (sameTunnels_start spares _ fd outcome)

end Process

/-- The descriptors of the process are the open interfaces of the service model, and both cores hold
the same one. -/
structure Refines (s : System) (p : Process) : Prop where
  opened : ∀ iface, iface ∈ s.opened ↔ p.Open iface
  coreFd : s.coreFd = p.coreIface

theorem mem_opened_close {s : System} {iface : ℕ} (held : Option ℕ) :
    iface ∈ (s.close held).opened ↔ iface ∈ s.opened ∧ some iface ≠ held := by
  simp [System.close]

theorem Refines.stop {xray : Xray} {s : System} {p : Process} {files : List ℕ} {held : Option ℕ}
    (spares : xray.SparesTunnels) (refines : Refines s p) (holds : p.Holds files held)
    (distinct : p.Distinct) : Refines s.stopCore (p.stop xray) where
  opened iface := by
    rw [Process.stop, (Process.sameTunnels_closeInstance spares _).open_iff,
      holds.open_closeTun distinct, ← refines.opened iface, System.stopCore, refines.coreFd,
      holds.coreIface]
    exact mem_opened_close held
  coreFd := (holds.stop spares).coreIface.symm

theorem Refines.start {xray : Xray} {s : System} {p : Process} {files : List ℕ} {held : Option ℕ}
    {fd pfd : ℕ} (spares : xray.SparesTunnels) (refines : Refines s p) (holds : p.Holds files held)
    (distinct : p.Distinct) (entry : p.table fd = some (.app, .tun pfd)) (outcome : Outcome) :
    Refines { s.close s.coreFd with coreFd := some pfd, detached := pfd :: s.detached }
      ((p.handOver fd pfd).start xray fd outcome) where
  opened iface := by
    have closed := Process.sameTunnels_closeInstance spares (p.handOver fd pfd)
    have receives := (holds.handOver entry pfd).sameTunnels closed
    have kept : Process.Open { ((p.handOver fd pfd).closeInstance xray).closeTun with tunFd := fd }
        iface ↔ ((p.handOver fd pfd).closeInstance xray).closeTun.Open iface := Iff.rfl
    rw [(Process.sameTunnels_start spares _ fd outcome).open_iff, kept,
      receives.open_closeTun ((distinct.handOver entry).sameTunnels closed), closed.open_iff,
      Process.open_handOver entry]
    change iface ∈ (s.close s.coreFd).opened ↔ p.Open iface ∧ some iface ≠ held
    rw [mem_opened_close, refines.coreFd, holds.coreIface, refines.opened]
  coreFd := (holds.start spares entry outcome).coreIface.symm

/-- An interface is opened once. -/
def OpensNew (p : Process) : Event → Prop
  | .opened _ (.tun iface) => ¬p.Open iface
  | _ => True

theorem Process.Distinct.open {p : Process} {fd : ℕ} {file : File} (distinct : p.Distinct)
    (new : OpensNew p (.opened fd file)) :
    Distinct { p with table := Function.update p.table fd (some (.app, file)) } := by
  intro first owner second otherOwner iface has otherHas
  dsimp only at has otherHas
  by_cases isFirst : first = fd <;> by_cases isSecond : second = fd
  · rw [isFirst, isSecond]
  · rw [isFirst, Function.update_self] at has
    rw [Function.update_of_ne isSecond] at otherHas
    cases has
    exact absurd ⟨second, otherOwner, otherHas⟩ new
  · rw [isSecond, Function.update_self] at otherHas
    rw [Function.update_of_ne isFirst] at has
    cases otherHas
    exact absurd ⟨first, owner, has⟩ new
  · rw [Function.update_of_ne isFirst] at has
    rw [Function.update_of_ne isSecond] at otherHas
    exact distinct _ _ _ _ _ has otherHas

theorem Process.Distinct.step {xray : Xray} {p after : Process} {event : Event}
    (spares : xray.SparesTunnels) (distinct : p.Distinct) (new : OpensNew p event)
    (taken : step xray p event = some after) : after.Distinct := by
  cases event with
  | opened fd file =>
      rw [Gozarcore.step, Option.ite_none_right_eq_some, Option.some_inj] at taken
      rcases taken with ⟨-, rfl⟩
      exact distinct.open new
  | closed fd =>
      simp only [Gozarcore.step] at taken
      split at taken
      · cases taken
        exact distinct.of_entries fun _ owner _ has => ⟨owner, update_none_entry has⟩
      · cases taken
  | start fd outcome =>
      simp only [Gozarcore.step] at taken
      split at taken
      · next iface entry =>
          cases taken
          exact distinct.start spares entry outcome
      · cases taken
  | stop =>
      cases taken
      exact distinct.closeTun.sameTunnels (sameTunnels_closeInstance spares _)

/-- The core with its numbers refines the core of the service model, after every run: what the
model's steps do to the open interfaces and to the core's one is what `Stop` and `Start` do, the
latter whether the instance starts or not. -/
theorem core_refines_service {xray : Xray} (spares : xray.SparesTunnels) {start p : Process}
    (unused : start.Unused) (distinct : start.Distinct)
    (reached : Reaches (step xray) OpensNew start p) {s : System} (refines : Refines s p)
    (ok : Bool) (rest : List Instr) :
    Refines (s.exec ok rest .stopCore).1 (p.stop xray) ∧
      ∀ fd pfd outcome, p.table fd = some (.app, .tun pfd) →
        Refines (s.exec ok rest (.startCore pfd)).1
          ((p.handOver fd pfd).start xray fd outcome) := by
  have disciplined : p.Disciplined := reached.invariant unused.disciplined
    fun _ disciplined _ taken => disciplined.step spares taken
  have distinct : p.Distinct := reached.invariant distinct
    fun _ distinct new taken => distinct.step spares new taken
  rcases disciplined.holds with ⟨files, held, holds⟩
  refine ⟨refines.stop spares holds distinct, ?_⟩
  intro fd pfd outcome entry
  have opened : pfd ∈ s.opened := (refines.opened pfd).mpr ⟨fd, .app, entry⟩
  have exec : (s.exec ok rest (.startCore pfd)).1 =
      { s.close s.coreFd with coreFd := some pfd, detached := pfd :: s.detached } := by
    rw [System.exec, if_pos opened]
  rw [exec]
  exact refines.start spares holds distinct entry outcome

/-- A process whose only descriptor is a tunnel that the service has established. -/
def establishedProcess : Process where
  table := Function.update (fun _ => none) 5 (some (.app, .tun 0))

theorem establishedProcess_entry {fd : ℕ} {entry : Owner × File}
    (has : establishedProcess.table fd = some entry) : fd = 5 ∧ entry = (.app, .tun 0) := by
  by_cases same : fd = 5
  · subst same
    cases has
    exact ⟨rfl, rfl⟩
  · dsimp only [establishedProcess] at has
    rw [Function.update_of_ne same] at has
    cases has

theorem refines_establishedProcess : Refines { opened := [0] } establishedProcess where
  opened iface := by
    rw [List.mem_singleton]
    constructor
    · rintro rfl
      exact ⟨5, .app, rfl⟩
    · rintro ⟨fd, owner, has⟩
      cases (establishedProcess_entry has).2
      rfl
  coreFd := rfl

theorem core_refines_service_established :
    Refines (({ opened := [0] } : System).exec true [] (.startCore 0)).1
      ((establishedProcess.handOver 5 0).start idleXray 5 .notStarted) := by
  refine (core_refines_service sparesTunnels_idleXray ⟨rfl, ?_, rfl, rfl, rfl, rfl⟩ ?_ .refl
    refines_establishedProcess true []).2 5 0 .notStarted rfl
  · intro fd file owned
    cases (establishedProcess_entry owned).2
  · intro fd owner other otherOwner iface has otherHas
    rw [(establishedProcess_entry has).1, (establishedProcess_entry otherHas).1]

end GRoute.Gozarcore
