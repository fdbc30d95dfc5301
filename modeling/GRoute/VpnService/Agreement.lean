import GRoute.VpnService

/-!
# Agreement after a stop

When the process of the service is dead and all broadcasts have arrived, the app must not show a
connection. The state that the app will show is that of the last broadcast, so the question is
whether `Connected` can be the last one of a process that is torn down.
-/

namespace GRoute.VpnService.System

open Transition VpnState

variable {s : System}

/-- The app does not show a connection that has no process. -/
def Agrees (s : System) : Prop :=
  s.alive = false → s.inflight = [] → s.ui ≠ .connected

/-- The step sends `Connected`. -/
def sendsConnected (s : System) : List Instr → Bool
  | .sendConnected :: _ => true
  | .warm :: _ => s.tunFd.isSome
  | _ => false

/-- No `Connected` is sent by a process that `die` has begun to tear down. -/
def SparesDoomed (s : System) : Event → Prop
  | .main _ => s.doomed → s.sendsConnected s.main = false
  | .coroutine index _ => s.doomed → ∀ task ∈ s.coroutines[index]?, s.sendsConnected task = false
  | _ => True

instance (s : System) : (event : Event) → Decidable (s.SparesDoomed event)
  | .main _ => inferInstanceAs (Decidable (s.doomed → s.sendsConnected s.main = false))
  | .coroutine index _ => inferInstanceAs
      (Decidable (s.doomed → ∀ task ∈ s.coroutines[index]?, s.sendsConnected task = false))
  | .command _ _ | .kill | .deliver | .ui _ => inferInstanceAs (Decidable True)

/-- The state of the app once all broadcasts have arrived. -/
def settledUi (s : System) : Connection := (s.inflight.getLast?.map Broadcast.received).getD s.ui

theorem settledUi_broadcast (message : Broadcast) :
    (s.broadcast message).settledUi = message.received := by
  simp [settledUi, broadcast]

/-- A thread that will schedule the kill has not sent its broadcast yet, or the app will not show
a connection. -/
def TearsDown (s : System) (task : List Instr) : Prop :=
  s.doomed ∧ ((∃ failed, task = tearDown failed ∨ task = [.send failed, .scheduleKill]) ∨
    task = [.scheduleKill] ∧ s.settledUi ≠ .connected)

section Exec

variable (ok : Bool) (rest : List Instr) (instr : Instr)

theorem alive_exec : (s.exec ok rest instr).1.alive = s.alive := by
  cases instr <;> simp only [exec] <;> repeat' split
  all_goals rfl

theorem main_exec : (s.exec ok rest instr).1.main = s.main := by
  cases instr <;> simp only [exec] <;> repeat' split
  all_goals rfl

theorem coroutines_exec : (s.exec ok rest instr).1.coroutines =
    if instr = .launch then s.coroutines ++ [startTunnel] else s.coroutines := by
  cases instr with
  | launch => rfl
  | _ =>
      simp only [exec, reduceCtorEq, if_false]
      repeat' split
      all_goals rfl

theorem mem_coroutines_exec {task : List Instr}
    (mem : task ∈ (s.exec ok rest instr).1.coroutines) :
    task ∈ s.coroutines ∨ task = startTunnel := by
  rw [coroutines_exec] at mem
  split at mem
  · simpa using mem
  · exact .inl mem

theorem doomed_exec (doomed : s.doomed) : (s.exec ok rest instr).1.doomed := by
  cases instr <;> simp only [exec] <;> repeat' split
  all_goals first | exact doomed | rfl

theorem killPending_exec (scheduled : (s.exec ok rest instr).1.killPending) :
    s.killPending ∨ instr = .scheduleKill := by
  cases instr with
  | scheduleKill => exact .inr rfl
  | _ =>
      left
      revert scheduled
      simp only [exec]
      repeat' split
      all_goals exact id

theorem settledUi_exec (quiet : s.sendsConnected (instr :: rest) = false)
    (apart : s.settledUi ≠ .connected) : (s.exec ok rest instr).1.settledUi ≠ .connected := by
  cases instr with
  | sendConnected => cases quiet
  | warm =>
      rw [sendsConnected] at quiet
      simpa [exec, quiet] using apart
  | send failed =>
      rw [exec, settledUi_broadcast]
      cases failed <;> decide
  | _ =>
      simp only [exec]
      repeat' split
      all_goals exact apart

/-- Only `die` makes a thread schedule the kill. -/
theorem mem_exec_snd (will : .scheduleKill ∈ (s.exec ok rest instr).2) :
    .scheduleKill ∈ rest ∨ (s.exec ok rest instr).1.doomed ∧
      ∃ failed, (s.exec ok rest instr).2 = tearDown failed := by
  cases instr with
  | decideDie failed =>
      rw [exec] at will ⊢
      split at will
      · simp [enterKillSwitch] at will
      · next tears =>
        rw [if_neg tears]
        exact .inr ⟨rfl, failed, rfl⟩
  | _ =>
      left
      revert will
      simp only [exec]
      repeat' split
      all_goals simp [afterEstablish]

theorem tearsDown_exec (sound : .scheduleKill ∈ instr :: rest → s.TearsDown (instr :: rest))
    (will : .scheduleKill ∈ (s.exec ok rest instr).2) :
    (s.exec ok rest instr).1.TearsDown (s.exec ok rest instr).2 := by
  rcases mem_exec_snd ok rest instr will with inRest | ⟨doomed, failed, isTearDown⟩
  · rcases sound (List.mem_cons_of_mem _ inRest) with
      ⟨doomed, ⟨failed, before | before⟩ | ⟨before, -⟩⟩
    · rcases List.cons.inj before with ⟨rfl, rfl⟩
      exact ⟨doomed, .inl ⟨failed, .inr rfl⟩⟩
    · rcases List.cons.inj before with ⟨rfl, rfl⟩
      refine ⟨doomed, .inr ⟨rfl, ?_⟩⟩
      rw [exec, settledUi_broadcast]
      cases failed <;> decide
    · rcases List.cons.inj before with ⟨rfl, rfl⟩
      cases inRest
  · exact ⟨doomed, .inl ⟨failed, .inl isTearDown⟩⟩

end Exec

/-- What holds between any two steps. -/
structure Invariant (s : System) : Prop where
  dead : s.alive = false → s.main = [] ∧ s.coroutines = [] ∧ s.settledUi ≠ .connected
  pending : s.killPending → s.doomed ∧ s.settledUi ≠ .connected
  tasks : ∀ task ∈ s.main :: s.coroutines, .scheduleKill ∈ task → s.TearsDown task

theorem TearsDown.exec {ok : Bool} {rest task : List Instr} {instr : Instr}
    (tears : s.TearsDown task)
    (spares : s.doomed → s.sendsConnected (instr :: rest) = false) :
    (s.exec ok rest instr).1.TearsDown task := by
  rcases tears with ⟨doomed, notSent | ⟨isLast, apart⟩⟩
  · exact ⟨doomed_exec ok rest instr doomed, .inl notSent⟩
  · exact ⟨doomed_exec ok rest instr doomed,
      .inr ⟨isLast, settledUi_exec ok rest instr (spares doomed) apart⟩⟩

/-- A thread of the process takes a step: the others stay as they are, or a coroutine is new. -/
theorem Invariant.exec {ok : Bool} {rest : List Instr} {instr : Instr} {u : System}
    (invariant : s.Invariant) (isThread : instr :: rest ∈ s.main :: s.coroutines)
    (spares : s.doomed → s.sendsConnected (instr :: rest) = false)
    (sameAlive : u.alive = (s.exec ok rest instr).1.alive)
    (sameUi : u.settledUi = (s.exec ok rest instr).1.settledUi)
    (sameDoomed : u.doomed = (s.exec ok rest instr).1.doomed)
    (samePending : u.killPending = (s.exec ok rest instr).1.killPending)
    (threads : ∀ task ∈ u.main :: u.coroutines, task = (s.exec ok rest instr).2 ∨
      task ∈ s.main :: s.coroutines ∨ task = startTunnel) : u.Invariant := by
  refine ⟨?_, ?_, ?_⟩
  · intro dead
    rw [sameAlive, alive_exec] at dead
    rcases invariant.dead dead with ⟨noMain, noCoroutines, -⟩
    simp [noMain, noCoroutines] at isThread
  · intro scheduled
    rw [samePending] at scheduled
    rw [sameDoomed, sameUi]
    rcases killPending_exec ok rest instr scheduled with already | rfl
    · rcases invariant.pending already with ⟨doomed, apart⟩
      exact ⟨doomed_exec ok rest instr doomed, settledUi_exec ok rest instr (spares doomed) apart⟩
    · rcases invariant.tasks _ isThread List.mem_cons_self with
        ⟨doomed, ⟨failed, before | before⟩ | ⟨-, apart⟩⟩
      · cases before
      · cases before
      · exact ⟨doomed, apart⟩
  · intro task mem will
    have tears : (s.exec ok rest instr).1.TearsDown task := by
      rcases threads task mem with rfl | isOther | rfl
      · exact tearsDown_exec ok rest instr (invariant.tasks _ isThread) will
      · exact (invariant.tasks task isOther will).exec spares
      · simp [startTunnel] at will
    rw [TearsDown, sameDoomed, sameUi]
    exact tears

theorem settledUi_deliver {message : Broadcast} {rest : List Broadcast}
    (isInflight : s.inflight = message :: rest) :
    ({ s with ui := message.received, inflight := rest } : System).settledUi = s.settledUi := by
  rw [settledUi, settledUi, isInflight]
  cases rest with
  | nil => rfl
  | cons next rest =>
      rw [List.getLast?_cons_cons, List.getLast?_cons]
      rfl

theorem settledUi_ui {state : Connection} (notConnected : state ≠ .connected)
    (apart : s.settledUi ≠ .connected) :
    ({ s with ui := state } : System).settledUi ≠ .connected := by
  rw [settledUi] at apart ⊢
  cases isLast : s.inflight.getLast? with
  | none => exact notConnected
  | some message => simpa [isLast] using apart

/-- Nothing changes but what the app has seen. -/
theorem Invariant.seen (invariant : s.Invariant) {state : Connection} {inflight : List Broadcast}
    (stays : s.settledUi ≠ .connected →
      ({ s with ui := state, inflight := inflight } : System).settledUi ≠ .connected) :
    ({ s with ui := state, inflight := inflight } : System).Invariant := by
  refine ⟨?_, ?_, ?_⟩
  · intro dead
    rcases invariant.dead dead with ⟨noMain, noCoroutines, apart⟩
    exact ⟨noMain, noCoroutines, stays apart⟩
  · intro scheduled
    rcases invariant.pending scheduled with ⟨doomed, apart⟩
    exact ⟨doomed, stays apart⟩
  · intro task mem will
    rcases invariant.tasks task mem will with ⟨doomed, notSent | ⟨isLast, apart⟩⟩
    · exact ⟨doomed, .inl notSent⟩
    · exact ⟨doomed, .inr ⟨isLast, stays apart⟩⟩

/-- A command schedules no kill by itself. -/
theorem not_mem_onStartCommand (command : Command) : .scheduleKill ∉ onStartCommand command := by
  cases command with
  | start hasConfig => cases hasConfig <;> decide
  | _ => decide

theorem Invariant.command (invariant : s.Invariant) (isAlive : s.alive) (command : Command) :
    ({ s with main := onStartCommand command } : System).Invariant := by
  refine ⟨?_, invariant.pending, ?_⟩
  · intro dead
    cases isAlive.symm.trans dead
  · intro task mem will
    rcases List.mem_cons.mp mem with rfl | isCoroutine
    · exact absurd will (not_mem_onStartCommand command)
    · exact invariant.tasks task (List.mem_cons_of_mem _ isCoroutine) will

theorem invariant_spawn (killSwitch : Bool) (command : Command) :
    ({ s.spawn killSwitch with main := onStartCommand command } : System).Invariant := by
  refine ⟨?_, ?_, ?_⟩
  · intro dead
    cases dead
  · intro scheduled
    cases scheduled
  · intro task mem will
    rw [List.mem_singleton.mp mem] at will
    exact absurd will (not_mem_onStartCommand command)

/-- The coroutines after a step are threads of before, or new. -/
theorem mem_threads_exec {ok : Bool} {rest task : List Instr} {instr : Instr}
    (mem : task ∈ (s.exec ok rest instr).1.coroutines) :
    task ∈ s.main :: s.coroutines ∨ task = startTunnel := by
  rcases mem_coroutines_exec ok rest instr mem with isOld | isNew
  · exact .inl (List.mem_cons_of_mem _ isOld)
  · exact .inr isNew

theorem Invariant.kill (invariant : s.Invariant) (scheduled : s.killPending) :
    s.kill.Invariant := by
  refine ⟨fun _ => ⟨rfl, rfl, (invariant.pending scheduled).2⟩, ?_, ?_⟩
  · intro again
    cases again
  · intro task mem will
    rw [List.mem_singleton.mp mem] at will
    cases will

theorem invariant_step {next : System} (event : Event) (invariant : s.Invariant)
    (spares : s.SparesDoomed event) (taken : s.step event = some next) : next.Invariant := by
  cases event with
  | command command killSwitch =>
      simp only [step] at taken
      split at taken
      · next isAlive =>
          rw [Option.ite_none_right_eq_some, Option.some.injEq] at taken
          rcases taken with ⟨-, rfl⟩
          exact invariant.command isAlive command
      · cases taken
        exact invariant_spawn killSwitch command
  | main ok =>
      cases isMain : s.main with
      | nil => simp [step, isMain] at taken
      | cons instr rest =>
          simp only [step, isMain, Option.some.injEq] at taken
          subst taken
          rw [SparesDoomed, isMain] at spares
          refine invariant.exec (isMain ▸ List.mem_cons_self) spares rfl rfl rfl rfl ?_
          intro task mem
          rcases List.mem_cons.mp mem with isNext | isCoroutine
          · exact .inl isNext
          · exact .inr (mem_threads_exec isCoroutine)
  | coroutine index ok =>
      simp only [step] at taken
      split at taken
      next instr rest isTask =>
        cases taken
        have isThread : instr :: rest ∈ s.main :: s.coroutines :=
          List.mem_cons_of_mem _ (List.mem_of_getElem? isTask)
        have quiet : s.doomed → s.sendsConnected (instr :: rest) = false :=
          fun doomed => spares doomed _ isTask
        refine invariant.exec isThread quiet rfl rfl rfl rfl ?_
        intro task mem
        rcases List.mem_cons.mp mem with isMain | isCoroutine
        · rw [main_exec] at isMain
          exact .inr (.inl (List.mem_cons.mpr (.inl isMain)))
        · rcases List.mem_or_eq_of_mem_set isCoroutine with isOther | isNext
          · exact .inr (mem_threads_exec isOther)
          · exact .inl isNext
      next => cases taken
  | kill =>
      simp only [step, Option.ite_none_right_eq_some, Option.some.injEq] at taken
      rcases taken with ⟨scheduled, rfl⟩
      exact invariant.kill scheduled
  | deliver =>
      cases isInflight : s.inflight with
      | nil => simp [step, isInflight] at taken
      | cons message rest =>
          simp only [step, isInflight, Option.some.injEq] at taken
          subst taken
          apply invariant.seen
          rw [settledUi_deliver isInflight]
          exact id
  | ui connecting =>
      cases taken
      apply invariant.seen
      apply settledUi_ui
      cases connecting <;> decide

theorem agrees_of_reaches (reached : Reaches step SparesDoomed {} s) : s.Agrees := by
  have invariant : s.Invariant := by
    apply reached.invariant
    · refine ⟨fun _ => ⟨rfl, rfl, by decide⟩, ?_, ?_⟩
      · intro scheduled
        cases scheduled
      · intro task mem will
        rw [List.mem_singleton.mp mem] at will
        cases will
    · intro state next event invariant spares taken
      exact invariant_step event invariant spares taken
  intro dead arrived
  have apart := (invariant.dead dead).2.2
  rw [settledUi, arrived] at apart
  exact apart

/-- A tunnel is started and stopped again. -/
theorem agrees_stopped : ∃ s : System, s.alive = false ∧ s.inflight = [] ∧ s.Agrees := by
  have ends : run (guarded step SparesDoomed) {}
      ([.command (.start true) false, .main true, .main true] ++
        List.replicate 7 (.coroutine 0 true) ++ [.deliver, .command .stop false] ++
        List.replicate 6 (.main true) ++ [.kill, .deliver]) =
        some { latest := some 0, next := 1 } := by decide
  exact ⟨_, rfl, rfl, agrees_of_reaches (reaches_of_run ends)⟩

/-- The stop is handled when the core has started and before `Connected` is sent. -/
theorem not_agrees_stoppedMeanwhile :
    ∃ s, Reaches step (fun _ _ => True) {} s ∧ ¬ s.Agrees := by
  have ends : run (guarded step fun _ _ => True) {}
      ([.command (.start true) false, .main true, .main true] ++
        List.replicate 6 (.coroutine 0 true) ++ [.command .stop false] ++
        List.replicate 6 (.main true) ++ [.coroutine 0 true, .kill, .deliver, .deliver]) =
        some { ui := .connected, latest := some 0, next := 1 } := by decide
  exact ⟨_, reaches_of_run ends, fun agrees => agrees rfl rfl rfl⟩

end GRoute.VpnService.System
