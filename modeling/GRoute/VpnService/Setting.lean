import GRoute.VpnService

/-!
# The kill-switch setting in two processes

The app's process writes the setting to the preferences. The process of the service reads it when
`ConfigStore.get` first creates its store, and keeps that value as long as it lives. So it obeys
the user only if the setting is not changed while the service has a store.
-/

namespace GRoute.VpnService

open Transition

/-- The instructions in which `ConfigStore.get` is called: `applyPerApp` before an interface is
established, and `die`. -/
def Instr.usesStore : Instr → Bool
  | .establishTun | .establishBlock | .decideDie _ => true
  | _ => false

structure Processes where
  service : System := {}
  /-- The setting in the preferences, which is the one that the user made last. -/
  chosen : Bool := false
  /-- The setting in the store of the service's process, if there is one. -/
  cached : Option Bool := none
  deriving DecidableEq, Repr

namespace Processes

variable (p : Processes)

/-- The service's store, which is created at its first use. -/
def openStore : Processes :=
  { p with
    cached := some (p.cached.getD p.chosen)
    service := { p.service with killSwitch := p.cached.getD p.chosen } }

/-- The instruction that the event carries out. -/
def nextInstr : System.Event → Option Instr
  | .main _ => p.service.main.head?
  | .coroutine index _ => p.service.coroutines[index]?.bind List.head?
  | _ => none

inductive Event
  | setKillSwitch (enabled : Bool)
  | service (event : System.Event)
  deriving DecidableEq, Repr

/-- What the service finds when it carries out the instruction of the event. -/
def prepared (event : System.Event) : Processes :=
  if (p.nextInstr event).any Instr.usesStore then p.openStore else p

/-- The store is lost with the process. -/
def step : Event → Option Processes
  | .setKillSwitch enabled => some { p with chosen := enabled }
  | .service event =>
      ((p.prepared event).service.step event).map fun service =>
        { p.prepared event with
          service := service
          cached := if event = .kill then none else (p.prepared event).cached }

/-- The value with which a failure is handled is the one that the user set last. -/
def Obeys : Prop :=
  ∀ event, p.nextInstr event = some (.decideDie true) →
    (p.prepared event).service.killSwitch = p.chosen

/-- The setting is changed only while the service has no store, or to what the store has. -/
def ChangesUncached : Event → Prop
  | .setKillSwitch enabled => p.cached = none ∨ p.cached = some enabled
  | .service _ => True

instance : (event : Event) → Decidable (p.ChangesUncached event)
  | .setKillSwitch enabled =>
      inferInstanceAs (Decidable (p.cached = none ∨ p.cached = some enabled))
  | .service _ => inferInstanceAs (Decidable True)

/-- The store has the setting of the user. -/
def Fresh : Prop := p.cached.getD p.chosen = p.chosen

variable {p} {chosen : Bool}

theorem Fresh.prepared (fresh : p.Fresh) (event : System.Event) :
    (p.prepared event).chosen = p.chosen ∧ (p.prepared event).Fresh := by
  rw [Processes.prepared]
  split
  · exact ⟨rfl, fresh⟩
  · exact ⟨rfl, fresh⟩

theorem fresh_step {next : Processes} (event : Event) (fresh : p.Fresh)
    (allowed : p.ChangesUncached event) (taken : p.step event = some next) : next.Fresh := by
  cases event with
  | setKillSwitch enabled =>
      cases taken
      rcases allowed with none | same
      · rw [Fresh, none, Option.getD_none]
      · rw [Fresh, same, Option.getD_some]
  | service event =>
      rcases Option.map_eq_some_iff.mp taken with ⟨service, -, rfl⟩
      rcases fresh.prepared event with ⟨-, stillFresh⟩
      rw [Fresh]
      split
      · rfl
      · exact stillFresh

theorem Fresh.obeys (fresh : p.Fresh) : p.Obeys := by
  intro event handles
  rw [Processes.prepared, handles]
  exact fresh

theorem obeys_of_reaches (reached : Reaches step ChangesUncached { chosen := chosen } p) :
    p.Obeys := by
  have fresh : p.Fresh := by
    apply reached.invariant
    · rfl
    · intro state next event fresh allowed taken
      exact fresh_step event fresh allowed taken
  exact fresh.obeys

/-- The switch is turned on before the tunnel starts, and Aether fails. -/
theorem obeys_failing :
    ∃ p : Processes, p.nextInstr (.coroutine 0 true) = some (.decideDie true) ∧ p.chosen = true ∧
      p.Obeys := by
  have ends : run (guarded step ChangesUncached) { chosen := false }
      [.setKillSwitch true, .service (.command (.start true) false), .service (.main true),
        .service (.main true), .service (.coroutine 0 true), .service (.coroutine 0 true),
        .service (.coroutine 0 false), .service (.coroutine 0 true)] =
        some { service := { alive := true, killSwitch := true, tunFd := some 0,
                            coroutines := [[.decideDie true]], opened := [0], latest := some 0,
                            next := 1 }
               chosen := true
               cached := some true } := by decide
  exact ⟨_, rfl, rfl, obeys_of_reaches (reaches_of_run ends)⟩

/-- The switch is turned on while the tunnel starts, and the failure tears it down. -/
theorem not_obeys_changed :
    ∃ p, Reaches step (fun _ _ => True) { chosen := false } p ∧ ¬ p.Obeys := by
  have ends : run (guarded step fun _ _ => True) { chosen := false }
      [.service (.command (.start true) false), .service (.main true), .service (.main true),
        .service (.coroutine 0 true), .setKillSwitch true, .service (.coroutine 0 true),
        .service (.coroutine 0 false), .service (.coroutine 0 true)] =
        some { service := { alive := true, tunFd := some 0, coroutines := [[.decideDie true]],
                            opened := [0], latest := some 0, next := 1 }
               chosen := true
               cached := some false } := by decide
  refine ⟨_, reaches_of_run ends, ?_⟩
  intro obeys
  cases obeys (.coroutine 0 true) rfl

end Processes

end GRoute.VpnService
