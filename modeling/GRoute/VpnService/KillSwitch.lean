import GRoute.VpnService

/-!
# The kill switch

Traffic is captured while the interface that was established last is open. With the kill switch
on, `enterKillSwitch` stops the core and closes the tunnel before it establishes the interface
that blocks, so a failure of a tunnel leaves a gap; so can two starts that overlap, since one
stops the core of the other. Nothing else does.
-/

namespace GRoute.VpnService.System

open Transition

variable {s : System}

/-- Traffic does not pass by. -/
def Captured (s : System) : Prop := ∀ iface, s.latest = some iface → iface ∈ s.opened

/-- No start of a tunnel is under way. -/
def idle (s : System) : Bool := s.coroutines.all fun task => task = []

def establishes : List Instr → Bool
  | .establishTun :: _ | .establishBlock :: _ => true
  | _ => false

def failing : List Instr → Bool
  | .enterDie _ :: _ => true
  | _ => false

/-- The kill switch is on, nothing is stopped, and interfaces are established when asked for. -/
def InScope (s : System) : Event → Prop
  | .command .stop _ => False
  | .command _ killSwitch => killSwitch = true
  | .main ok => establishes s.main → ok
  | .coroutine index ok => ∀ task ∈ s.coroutines[index]?, establishes task → ok
  | _ => True

/-- No start of a tunnel fails, a start without a config is handled only while there is no tunnel
and no start is under way, and one with a config while no other is under way or there is a tunnel,
for which it is ignored. -/
def Undisturbed (s : System) : Event → Prop
  | .command (.start true) _ => s.idle ∨ s.tunFd ≠ none
  | .main _ => failing s.main → s.tunFd = none ∧ s.idle
  | .coroutine index _ => ∀ task ∈ s.coroutines[index]?, ¬failing task
  | _ => True

instance (s : System) : (event : Event) → Decidable (s.InScope event)
  | .command .stop _ => inferInstanceAs (Decidable False)
  | .command .warm killSwitch | .command (.start _) killSwitch =>
      inferInstanceAs (Decidable (killSwitch = true))
  | .main ok => inferInstanceAs (Decidable (establishes s.main → ok))
  | .coroutine index ok =>
      inferInstanceAs (Decidable (∀ task ∈ s.coroutines[index]?, establishes task → ok))
  | .kill | .deliver | .ui _ => inferInstanceAs (Decidable True)

instance (s : System) : (event : Event) → Decidable (s.Undisturbed event)
  | .command (.start true) _ => inferInstanceAs (Decidable (s.idle = true ∨ s.tunFd ≠ none))
  | .command (.start false) _ | .command .stop _ | .command .warm _ =>
      inferInstanceAs (Decidable True)
  | .main _ => inferInstanceAs (Decidable (failing s.main → s.tunFd = none ∧ s.idle))
  | .coroutine index _ =>
      inferInstanceAs (Decidable (∀ task ∈ s.coroutines[index]?, ¬failing task))
  | .kill | .deliver | .ui _ => inferInstanceAs (Decidable True)

/-- What a coroutine that is not done still has to do, and what holds of the descriptors then. -/
inductive Running (latest tunFd coreFd : Option ℕ) : List Instr → Prop
  | begun (noTun : tunFd = none) (noCore : coreFd = none) : Running latest tunFd coreFd startTunnel
  | established {pfd : ℕ} (isLatest : latest = some pfd) (noCore : coreFd = none) :
      Running latest tunFd coreFd (afterEstablish pfd)
  | assigned {pfd : ℕ} {task : List Instr}
      (isTask : task = [.startAether, .stopCore, .startCore pfd, .startTor, .sendConnected] ∨
        task = [.stopCore, .startCore pfd, .startTor, .sendConnected] ∨
        task = [.startCore pfd, .startTor, .sendConnected])
      (isLatest : latest = some pfd) (isTun : tunFd ≠ none) (noCore : coreFd = none) :
      Running latest tunFd coreFd task
  | started {task : List Instr}
      (isTask : task = [.startTor, .sendConnected] ∨ task = [.sendConnected] ∨
        task = [.enterDie true]) (isTun : tunFd ≠ none) : Running latest tunFd coreFd task

/-- What the main thread still has to do, and what holds then. -/
inductive Handling (idle : Bool) (tunFd : Option ℕ) : List Instr → Prop
  | done : Handling idle tunFd []
  | warm : Handling idle tunFd [.warm]
  | failed : Handling idle tunFd [.enterDie true]
  | check (allowed : idle ∨ tunFd ≠ none) : Handling idle tunFd [.checkTun, .launch]
  | launch (isIdle : idle) (noTun : tunFd = none) : Handling idle tunFd [.launch]
  | blocking {task : List Instr}
      (isTask : task = [.decideDie true] ∨ task = enterKillSwitch ∨
        task = [.closeTun, .establishBlock, .send true] ∨ task = [.establishBlock, .send true] ∨
        task = [.send true])
      (isIdle : idle) (noTun : tunFd = none) : Handling idle tunFd task

/-- A thread that is busy with a start of a tunnel leaves the main thread few places. -/
theorem Handling.of_busy {idle : Bool} {tunFd otherFd : Option ℕ} {task : List Instr}
    (handling : Handling idle tunFd task) (busy : idle = false) (otherIdle : Bool)
    (kept : tunFd ≠ none → otherFd ≠ none) : Handling otherIdle otherFd task := by
  cases handling with
  | done => exact .done
  | warm => exact .warm
  | failed => exact .failed
  | check allowed => exact .check (.inr (kept (allowed.resolve_left (by simp [busy]))))
  | launch isIdle noTun => simp [busy] at isIdle
  | blocking isTask isIdle noTun => simp [busy] at isIdle

/-- The invariant of the runs without a gap. -/
structure Gapless (s : System) : Prop where
  captured : s.Captured
  dead : s.alive = false → s.latest = none ∧ s.main = [] ∧ s.coroutines = []
  killSwitch : s.alive → s.killSwitch
  noKill : s.killPending = false
  core : s.tunFd = none → s.coreFd = none
  main : Handling s.idle s.tunFd s.main
  coroutines : ∃ only : ℕ, ∀ (index : ℕ) (task : List Instr), s.coroutines[index]? = some task →
    task = [] ∨ index = only ∧ Running s.latest s.tunFd s.coreFd task

theorem nil_of_idle {index : ℕ} {task : List Instr} (isIdle : s.idle)
    (isTask : s.coroutines[index]? = some task) : task = [] := by
  have all := List.all_eq_true.mp isIdle task (List.mem_of_getElem? isTask)
  exact of_decide_eq_true all

theorem not_idle {index : ℕ} {instr : Instr} {rest : List Instr}
    (isTask : s.coroutines[index]? = some (instr :: rest)) : s.idle = false := by
  by_contra busy
  cases nil_of_idle (Bool.not_eq_false _ ▸ busy) isTask

theorem close_none : s.close none = s := by
  simp [close]

theorem stopCore_of_none (noCore : s.coreFd = none) : s.stopCore = s := by
  rw [stopCore, noCore, close_none, ← noCore]

theorem closeTun_of_none (noTun : s.tunFd = none) : s.closeTun = s := by
  rw [closeTun, noTun, Option.filter_none, close_none, ← noTun]

theorem Captured.establish (s : System) : s.establish.Captured := by
  rintro iface ⟨⟩
  exact List.mem_cons_self

/-- A coroutine took a step: the rest of the process is as it was, but for the descriptors. -/
theorem Gapless.resume {t : System} {index : ℕ} {instr : Instr} {rest left : List Instr}
    (gapless : s.Gapless) (isTask : s.coroutines[index]? = some (instr :: rest))
    (captured : t.Captured) (core : t.tunFd = none → t.coreFd = none)
    (kept : s.tunFd ≠ none → t.tunFd ≠ none) (alive : t.alive = s.alive)
    (killSwitch : t.killSwitch = s.killSwitch) (noKill : t.killPending = s.killPending)
    (main : t.main = s.main)
    (coroutines : t.coroutines = s.coroutines)
    (goesOn : left = [] ∨ Running t.latest t.tunFd t.coreFd left) :
    ({ t with coroutines := t.coroutines.set index left } : System).Gapless := by
  rcases gapless.coroutines with ⟨only, others⟩
  have isOnly : index = only := by
    rcases others index _ isTask with done | ⟨isOnly, -⟩
    · cases done
    · exact isOnly
  refine ⟨captured, ?_, ?_, ?_, core, ?_, index, ?_⟩
  · intro dead
    have isDead : s.alive = false := alive ▸ dead
    rw [(gapless.dead isDead).2.2] at isTask
    cases isTask
  · intro isAlive
    rw [killSwitch]
    exact gapless.killSwitch (alive ▸ isAlive)
  · rw [noKill, gapless.noKill]
  · rw [main]
    exact gapless.main.of_busy (not_idle isTask) _ kept
  · intro other task isOther
    by_cases same : other = index
    · subst same
      rw [coroutines, List.getElem?_set_self (List.getElem?_eq_some_iff.mp isTask).1] at isOther
      cases isOther
      rcases goesOn with done | running
      · exact .inl done
      · exact .inr ⟨rfl, running⟩
    · rw [coroutines, List.getElem?_set_ne (Ne.symm same)] at isOther
      rcases others other task isOther with done | ⟨isOther, -⟩
      · exact .inl done
      · exact absurd (isOther.trans isOnly.symm) same

theorem Gapless.coroutine {next : System} {index : ℕ} {ok : Bool} (gapless : s.Gapless)
    (inScope : s.InScope (.coroutine index ok)) (undisturbed : s.Undisturbed (.coroutine index ok))
    (taken : s.step (.coroutine index ok) = some next) : next.Gapless := by
  simp only [step] at taken
  split at taken
  next instr rest isTask =>
    cases taken
    rcases gapless.coroutines with ⟨only, others⟩
    have running : Running s.latest s.tunFd s.coreFd (instr :: rest) := by
      rcases others index _ isTask with done | ⟨-, running⟩
      · cases done
      · exact running
    generalize isAll : instr :: rest = task at running
    cases running with
    | begun noTun noCore =>
        cases isAll
        have isOk : ok := inScope _ isTask rfl
        subst isOk
        exact gapless.resume isTask (Captured.establish s) gapless.core id rfl rfl rfl rfl rfl
          (.inr (.established rfl noCore))
    | established isLatest noCore =>
        cases isAll
        exact gapless.resume isTask gapless.captured (fun noTun => nomatch noTun)
          (fun _ => Option.some_ne_none _) rfl rfl rfl rfl rfl
          (.inr (.assigned (.inl rfl) isLatest (Option.some_ne_none _) noCore))
    | assigned isRest isLatest isTun noCore =>
        rename_i pfd
        rcases isRest with rfl | rfl | rfl
        · cases isAll
          refine gapless.resume isTask gapless.captured gapless.core id rfl rfl rfl rfl rfl
            (.inr ?_)
          cases ok with
          | true => exact .assigned (.inr (.inl rfl)) isLatest isTun noCore
          | false => exact .started (.inr (.inr rfl)) isTun
        · cases isAll
          simp only [exec, stopCore_of_none noCore]
          exact gapless.resume isTask gapless.captured gapless.core id rfl rfl rfl rfl rfl
            (.inr (.assigned (.inr (.inr rfl)) isLatest isTun noCore))
        · cases isAll
          simp only [exec, if_pos (gapless.captured pfd isLatest), noCore, close_none]
          have captured : ({ s with coreFd := some pfd, detached := pfd :: s.detached } :
              System).Captured := gapless.captured
          refine gapless.resume isTask captured (fun noTun => absurd noTun isTun) id
            rfl rfl rfl rfl rfl (.inr ?_)
          cases ok with
          | true => exact .started (.inl rfl) isTun
          | false => exact .started (.inr (.inr rfl)) isTun
    | started isRest isTun =>
        rcases isRest with rfl | rfl | rfl
        · cases isAll
          refine gapless.resume isTask gapless.captured gapless.core id rfl rfl rfl rfl rfl
            (.inr ?_)
          cases ok with
          | true => exact .started (.inr (.inl rfl)) isTun
          | false => exact .started (.inr (.inr rfl)) isTun
        · cases isAll
          exact gapless.resume isTask gapless.captured gapless.core id rfl rfl rfl rfl rfl
            (.inl rfl)
        · cases isAll
          exact absurd rfl (undisturbed _ isTask)
  next => cases taken

/-- The main thread is done, and has sent something at most. -/
theorem Gapless.done (gapless : s.Gapless) (isAlive : s.alive) (inflight : List Broadcast) :
    ({ s with inflight := inflight, main := [] } : System).Gapless := by
  refine ⟨gapless.captured, ?_, gapless.killSwitch, gapless.noKill, gapless.core, .done,
    gapless.coroutines⟩
  intro dead
  exact absurd isAlive (by simp [show s.alive = false from dead])

/-- The main thread took a step while no start is under way. -/
theorem Gapless.handled {t : System} {instr : Instr} {rest left : List Instr} (gapless : s.Gapless)
    (isMain : s.main = instr :: rest) (isIdle : s.idle) (captured : t.Captured)
    (core : t.tunFd = none → t.coreFd = none) (alive : t.alive = s.alive)
    (killSwitch : t.killSwitch = s.killSwitch) (noKill : t.killPending = s.killPending)
    (coroutines : t.coroutines = s.coroutines) (goesOn : Handling s.idle t.tunFd left) :
    ({ t with main := left } : System).Gapless := by
  have stillIdle : t.idle = s.idle := by
    rw [idle, coroutines, idle]
  refine ⟨captured, ?_, ?_, ?_, core, ?_, 0, ?_⟩
  · intro dead
    have isDead : s.alive = false := alive ▸ dead
    rw [(gapless.dead isDead).2.1] at isMain
    cases isMain
  · intro isAlive
    rw [killSwitch]
    exact gapless.killSwitch (alive ▸ isAlive)
  · rw [noKill, gapless.noKill]
  · have same : ({ t with main := left } : System).idle = s.idle := stillIdle
    rw [same]
    exact goesOn
  · intro index task isTask
    rw [coroutines] at isTask
    exact .inl (nil_of_idle isIdle isTask)

theorem Gapless.launch (gapless : s.Gapless) (isIdle : s.idle) (noTun : s.tunFd = none)
    (isAlive : s.alive) :
    ({ s with
        tearingDown := false
        coroutines := s.coroutines ++ [startTunnel]
        main := [] } : System).Gapless := by
  refine ⟨gapless.captured, ?_, gapless.killSwitch, gapless.noKill, gapless.core, .done,
    s.coroutines.length, ?_⟩
  · intro dead
    rw [isAlive] at dead
    cases dead
  · intro index task isTask
    rw [List.getElem?_append] at isTask
    split at isTask
    · exact .inl (nil_of_idle isIdle isTask)
    · next notOld =>
      rw [List.getElem?_singleton, Option.ite_none_right_eq_some] at isTask
      rcases isTask with ⟨isFirst, ⟨⟩⟩
      exact .inr ⟨by omega, .begun noTun (gapless.core noTun)⟩

/-- The kill switch is entered step by step. -/
theorem Gapless.blocking {ok : Bool} {instr : Instr} {rest : List Instr} (gapless : s.Gapless)
    (isMain : s.main = instr :: rest) (isAlive : s.alive) (inScope : s.InScope (.main ok))
    (isTask : instr :: rest = [.decideDie true] ∨ instr :: rest = enterKillSwitch ∨
      instr :: rest = [.closeTun, .establishBlock, .send true] ∨
      instr :: rest = [.establishBlock, .send true] ∨ instr :: rest = [.send true])
    (isIdle : s.idle) (noTun : s.tunFd = none) :
    ({ (s.exec ok rest instr).1 with main := (s.exec ok rest instr).2 } : System).Gapless := by
  rcases isTask with isTask | isTask | isTask | isTask | isTask
  · cases isTask
    have blocks : s.exec ok [] (.decideDie true) = (s, enterKillSwitch) := by
      simp [exec, gapless.killSwitch isAlive]
    rw [blocks]
    exact gapless.handled isMain isIdle gapless.captured gapless.core rfl rfl rfl rfl
      (.blocking (.inr (.inl rfl)) isIdle noTun)
  · cases isTask
    simp only [exec, stopCore_of_none (gapless.core noTun)]
    exact gapless.handled isMain isIdle gapless.captured gapless.core rfl rfl rfl rfl
      (.blocking (.inr (.inr (.inl rfl))) isIdle noTun)
  · cases isTask
    simp only [exec, closeTun_of_none noTun]
    exact gapless.handled isMain isIdle gapless.captured gapless.core rfl rfl rfl rfl
      (.blocking (.inr (.inr (.inr (.inl rfl)))) isIdle noTun)
  · cases isTask
    rw [InScope, isMain] at inScope
    have isOk : ok := inScope rfl
    subst isOk
    have captured : ({ s.establish with blockFd := some s.next } : System).Captured :=
      Captured.establish s
    exact gapless.handled isMain isIdle captured gapless.core rfl rfl rfl rfl
      (.blocking (.inr (.inr (.inr (.inr rfl)))) isIdle noTun)
  · cases isTask
    exact gapless.handled isMain isIdle gapless.captured gapless.core rfl rfl rfl rfl .done

theorem Gapless.mainStep {next : System} {ok : Bool} (gapless : s.Gapless)
    (inScope : s.InScope (.main ok)) (undisturbed : s.Undisturbed (.main ok))
    (taken : s.step (.main ok) = some next) : next.Gapless := by
  cases isMain : s.main with
  | nil => simp [step, isMain] at taken
  | cons instr rest =>
      have isAlive : s.alive := by
        by_contra dead
        rw [(gapless.dead (Bool.not_eq_true _ ▸ dead)).2.1] at isMain
        cases isMain
      simp only [step, isMain, Option.some.injEq] at taken
      subst taken
      have handling := gapless.main
      rw [isMain] at handling
      generalize isAll : instr :: rest = task at handling
      cases handling with
      | done => cases isAll
      | warm =>
          cases isAll
          rw [exec]
          split
          · exact gapless.done isAlive (s.inflight ++ [.connected])
          · exact gapless.done isAlive s.inflight
      | failed =>
          cases isAll
          rw [Undisturbed, isMain] at undisturbed
          rcases undisturbed rfl with ⟨noTun, isIdle⟩
          rw [exec]
          refine gapless.handled isMain isIdle gapless.captured gapless.core rfl rfl rfl rfl ?_
          split
          · exact .done
          · exact .blocking (.inl rfl) isIdle noTun
      | check allowed =>
          cases isAll
          rw [exec]
          split
          · exact gapless.done isAlive s.inflight
          · next notSet =>
            have noTun : s.tunFd = none := Option.not_isSome_iff_eq_none.mp notSet
            have isIdle : s.idle := allowed.resolve_right (not_not.mpr noTun)
            exact gapless.handled isMain isIdle gapless.captured gapless.core rfl rfl rfl rfl
              (.launch isIdle noTun)
      | launch isIdle noTun =>
          cases isAll
          exact gapless.launch isIdle noTun isAlive
      | blocking isTask isIdle noTun =>
          rw [← isAll] at isTask
          exact gapless.blocking isMain isAlive inScope isTask isIdle noTun

theorem handling_command {command : Command} {killSwitch isIdle : Bool} {tunFd : Option ℕ}
    (inScope : s.InScope (.command command killSwitch))
    (allowed : command = .start true → isIdle ∨ tunFd ≠ none) :
    Handling isIdle tunFd (onStartCommand command) := by
  cases command with
  | stop => exact absurd inScope id
  | warm => exact .warm
  | start hasConfig =>
      cases hasConfig with
      | true => exact .check (allowed rfl)
      | false => exact .failed

theorem Gapless.command {next : System} {command : Command} {killSwitch : Bool}
    (gapless : s.Gapless) (inScope : s.InScope (.command command killSwitch))
    (undisturbed : s.Undisturbed (.command command killSwitch))
    (taken : s.step (.command command killSwitch) = some next) : next.Gapless := by
  cases isAlive : s.alive with
  | true =>
      have notDead : s.alive ≠ false := by simp [isAlive]
      rw [step, if_pos isAlive, Option.ite_none_right_eq_some] at taken
      rcases taken with ⟨-, ⟨⟩⟩
      refine ⟨gapless.captured, fun dead => absurd dead notDead, gapless.killSwitch,
        gapless.noKill, gapless.core, ?_, gapless.coroutines⟩
      apply handling_command inScope
      rintro rfl
      exact undisturbed
  | false =>
      rw [step, if_neg (by simp [isAlive])] at taken
      cases taken
      have noneYet : s.latest = none := (gapless.dead isAlive).1
      refine ⟨?_, ?_, ?_, rfl, fun _ => rfl, ?_, 0, ?_⟩
      · intro iface isLatest
        exact absurd (noneYet.symm.trans isLatest) (Option.some_ne_none _).symm
      · intro dead
        cases dead
      · intro _
        cases command with
        | stop => exact absurd inScope id
        | warm => exact inScope
        | start hasConfig => exact inScope
      · exact handling_command inScope fun _ => .inl rfl
      · intro index task isTask
        cases isTask

theorem gapless_step {next : System} (event : Event) (gapless : s.Gapless)
    (inScope : s.InScope event) (undisturbed : s.Undisturbed event)
    (taken : s.step event = some next) : next.Gapless := by
  cases event with
  | command command killSwitch => exact gapless.command inScope undisturbed taken
  | main ok => exact gapless.mainStep inScope undisturbed taken
  | coroutine index ok => exact gapless.coroutine inScope undisturbed taken
  | kill => simp [step, gapless.noKill] at taken
  | deliver =>
      simp only [step] at taken
      split at taken
      · cases taken
      · cases taken
        exact ⟨gapless.captured, gapless.dead, gapless.killSwitch, gapless.noKill, gapless.core,
          gapless.main, gapless.coroutines⟩
  | ui connecting =>
      cases taken
      exact ⟨gapless.captured, gapless.dead, gapless.killSwitch, gapless.noKill, gapless.core,
        gapless.main, gapless.coroutines⟩

theorem captured_of_reaches
    (reached : Reaches step (fun s event => s.InScope event ∧ s.Undisturbed event) {} s) :
    s.Captured := by
  have gapless : s.Gapless := by
    apply reached.invariant
    · refine ⟨?_, fun _ => ⟨rfl, rfl, rfl⟩, ?_, rfl, fun _ => rfl, .done, 0, ?_⟩
      · intro iface isLatest
        cases isLatest
      · intro alive
        cases alive
      · intro index task isTask
        cases isTask
    · rintro state next event gapless ⟨inScope, undisturbed⟩ taken
      exact gapless_step event gapless inScope undisturbed taken
  exact gapless.captured

/-- A start without a config blocks, and a tunnel is started after it. -/
theorem captured_started :
    ∃ s : System, s.latest = some 1 ∧ s.coreFd = some 1 ∧ s.Captured := by
  have ends : run (guarded step fun s event => s.InScope event ∧ s.Undisturbed event) {}
      ([.command (.start false) true] ++ List.replicate 6 (.main true) ++
        [.command (.start true) true, .main true, .main true] ++
        List.replicate 7 (.coroutine 0 true)) =
        some { inflight := [.error, .connected], alive := true, killSwitch := true, tunFd := some 1,
               blockFd := some 0, coreFd := some 1, detached := [1], coroutines := [[]],
               opened := [1, 0], latest := some 1, next := 2 } := by decide
  exact ⟨_, rfl, rfl, captured_of_reaches (reaches_of_run ends)⟩

/-- The core fails to start: it is stopped, which closes the tunnel, before the interface that
blocks is established. -/
theorem not_captured_failure : ∃ s, Reaches step InScope {} s ∧ ¬ s.Captured := by
  have ends : run (guarded step InScope) {}
      ([.command (.start true) true, .main true, .main true] ++
        List.replicate 4 (.coroutine 0 true) ++ List.replicate 4 (.coroutine 0 false)) =
        some { alive := true, killSwitch := true, tunFd := some 0, detached := [0],
               coroutines := [[.closeTun, .establishBlock, .send true]], latest := some 0,
               next := 1 } := by decide
  refine ⟨_, reaches_of_run ends, ?_⟩
  intro captured
  cases captured 0 rfl

end GRoute.VpnService.System
