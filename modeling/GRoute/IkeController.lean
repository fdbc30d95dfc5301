import GRoute.Foundation.Text
import GRoute.VpnService

/-!
# The IKEv2 controller

`IkeController` beside the rest of the app: the calls that `MainActivity` makes, the answers to
the consent dialog, the changes of strongSwan's state in their order, the watchdog, the rounds of
the loops that `claim` starts, and the broadcasts of the Xray service, which the receiver ignores
while `active` is set. All of it runs on the main thread of the app, one event after the other.

A callback carries the state that strongSwan has when the listener is called. The first call,
when the service is bound, is one of them. What the source asks other components for, such as a
profile or whether consent is needed, is an argument of the event. One instance of the activity
lives through the run, and the statistics, which change no state, are left out.
-/

namespace GRoute.IkeController

open Text Transition VpnState

/-- `VpnStateService.State`. -/
inductive SwanState
  | disabled
  | connecting
  | connected
  | disconnecting
  deriving DecidableEq, Repr

/-- `VpnStateService.ErrorState`. -/
inductive ErrorState
  | noError
  | authFailed
  | peerAuthFailed
  | lookupFailed
  | unreachable
  | genericError
  | passwordMissing
  | certificateUnavailable
  deriving DecidableEq, Repr

def errorKey : ErrorState → Text
  | .authFailed => txt "ike_err_auth"
  | .peerAuthFailed => txt "ike_err_peer"
  | .lookupFailed => txt "ike_err_lookup"
  | .unreachable => txt "ike_err_unreachable"
  | .passwordMissing => txt "ike_err_password"
  | .certificateUnavailable => txt "ike_err_cert"
  | .noError | .genericError => txt "ike_err_generic"

structure Callback where
  state : SwanState
  error : ErrorState := .noError
  deriving DecidableEq, Repr

/-- What `afterPermission` starts. -/
inductive AfterPermission
  | nothing
  | startIke (id : Text)
  | startTunnel
  deriving DecidableEq, Repr

/-- The controller, strongSwan and what is on its way. -/
structure System where
  /-- `VpnState.state`. -/
  state : Connection := .disconnected
  /-- `VpnState.error`. -/
  error : Option Text := none
  /-- `VpnState` was set last by strongSwan's `CONNECTED`. -/
  byIke : Bool := false
  active : Bool := false
  claimedId : Text := []
  /-- `IkeController.state`. -/
  swanState : SwanState := .disabled
  /-- `IkeController.error`. -/
  swanError : ErrorState := .noError
  watchdog : Bool := false
  /-- The ids of the loops of `claim` and the rounds that are left. -/
  loops : List (Text × ℕ) := []
  /-- The consent dialogs without an answer. -/
  dialogs : ℕ := 0
  afterPermission : AfterPermission := .nothing
  /-- Charon was started and has not been reported ended. -/
  charon : Bool := false
  /-- The callbacks on their way, the oldest first. -/
  callbacks : List Callback := []
  /-- The state that was delivered last. -/
  delivered : SwanState := .disabled
  deriving DecidableEq, Repr

namespace System

variable (s : System)

def setConnecting : System := { s with state := .connecting, error := none, byIke := false }

/-- `byIke` says on whose account. -/
def setConnected (byIke : Bool) : System := { s with state := .connected, byIke := byIke }

def setError (message : Text) : System :=
  { s with state := .error, error := some message, byIke := false }

def setDisconnected : System := { s with state := .disconnected, byIke := false }

def claim (id : Text) : System :=
  { s with active := true, claimedId := id, loops := s.loops ++ [(id, 12)] }.setConnecting

/-- `profile` says whether `profileFor` gives one, `started` whether `startService` succeeds. -/
def connect (profile started : Bool) : System × Bool :=
  if !profile then ({ s with active := false }, false)
  else
    let trying := { s with active := true, watchdog := true }.setConnecting
    if started then ({ trying with charon := true }, true)
    else ({ trying with active := false }, false)

def disconnect : System :=
  { s with active := false, claimedId := [], watchdog := false, swanState := .disabled }

/-- What `pushState` shows when an attempt has ended. -/
def showEnd (error : ErrorState) : System :=
  if error ≠ .noError then s.setError (errorKey error) else s.setDisconnected

def pushState (callback : Callback) : System :=
  let seen := { s with
    swanState := callback.state, swanError := callback.error, delivered := callback.state }
  match callback.state with
  | .connected => { seen with watchdog := false }.setConnected true
  | .connecting | .disconnecting => seen
  | .disabled =>
      if s.active then
        { seen with active := false, watchdog := false, charon := false }.showEnd callback.error
      else { seen with charon := false }

/-- The coroutine of the watchdog after its delay. -/
def timeOut : System :=
  if s.active ∧ s.swanState ≠ .connected then
    s.disconnect.setError (txt "ike_err_unreachable")
  else { s with watchdog := false }

/-- A round of the loop at `index`, which has `rounds` more to go. -/
def retry (index : ℕ) (id : Text) (rounds : ℕ) : System :=
  -- `return@launch` leaves no rounds
  if !s.active ∨ s.claimedId ≠ id ∨ s.swanState = .connected then
    { s with loops := s.loops.set index (id, 0) }
  else
    let later := { s with loops := s.loops.set index (id, rounds) }
    if s.state = .disconnected then later.setConnecting else later

/-- The local function of `proceedConnect`. -/
def startIke (profile started : Bool) : System :=
  match s.connect profile started with
  | (after, true) => after
  | (after, false) => after.setDisconnected

/-- `vpnPermission.launch`. -/
def ask (afterPermission : AfterPermission) : System :=
  { s with dialogs := s.dialogs + 1, afterPermission := afterPermission }

/-- `proceedConnect` for an IKEv2 config; `asks` says whether `VpnService.prepare` wants
consent. -/
def proceedIke (id : Text) (asks profile started : Bool) : System :=
  if s.state = .connected then s
  else if asks then (s.claim id).ask (.startIke id)
  else (s.claim id).startIke profile started

/-- `proceedConnect` for any other config. -/
def proceedXray (asks : Bool) : System :=
  if s.state = .connected then s
  else
    let connecting := (if s.active then s.disconnect else s).setConnecting
    if asks then connecting.ask .startTunnel else connecting

/-- The result of `vpnPermission`, which leaves `afterPermission` as it is. -/
def answer (granted profile started : Bool) : System :=
  let answered := { s with dialogs := s.dialogs - 1 }
  if granted then
    match s.afterPermission with
    | .startIke _ => answered.startIke profile started
    | .startTunnel | .nothing => answered
  else answered.setDisconnected

/-- `MainActivity.disconnect`. -/
def userDisconnect : System := if s.active then s.disconnect.setDisconnected else s

/-- The receiver of `VpnBridge`. -/
def receive (message : Broadcast) (error : Option Text) : System :=
  if s.active then s
  else
    match message with
    | .connected => s.setConnected false
    | .error => s.setError (error.getD (txt "Connection failed"))
    | .disconnected => s.setDisconnected

/-- A step of the app, of strongSwan or of the user. -/
inductive Event
  | proceedIke (id : Text) (asks profile started : Bool)
  | proceedXray (asks : Bool)
  | answer (granted profile started : Bool)
  | userDisconnect
  /-- strongSwan changes its state. -/
  | change (callback : Callback)
  | deliver
  | timeOut
  | retry (index : ℕ)
  | receive (message : Broadcast) (error : Option Text)
  /-- The tile, the auto selector, `launchConnect` or `switchTo` sets `VpnState`. -/
  | setByOther (connecting : Bool)
  deriving DecidableEq, Repr

def step : Event → Option System
  | .proceedIke id asks profile started => some (s.proceedIke id asks profile started)
  | .proceedXray asks => some (s.proceedXray asks)
  | .answer granted profile started =>
      if s.dialogs ≠ 0 then some (s.answer granted profile started) else none
  | .userDisconnect => some s.userDisconnect
  | .change callback => some { s with callbacks := s.callbacks ++ [callback] }
  | .deliver =>
      match s.callbacks with
      | [] => none
      | callback :: rest => some ({ s with callbacks := rest }.pushState callback)
  | .timeOut => if s.watchdog then some s.timeOut else none
  | .retry index =>
      match s.loops[index]? with
      | some (id, rounds + 1) => some (s.retry index id rounds)
      | _ => none
  | .receive message error => some (s.receive message error)
  | .setByOther connecting => some (if connecting then s.setConnecting else s.setDisconnected)

/-- A dialog is open whose consent starts IKEv2. -/
def ConsentPending : Prop := 0 < s.dialogs ∧ ∃ id, s.afterPermission = .startIke id

/-- Once strongSwan has ended, the app shows no connection of it, and `active` is set only while
an attempt is in progress. -/
def Agrees : Prop :=
  s.delivered = .disabled → s.callbacks = [] →
    ¬ (s.state = .connected ∧ s.byIke) ∧ (s.active → s.ConsentPending ∨ s.charon)

/-- `CONNECTED` is delivered only while `active` is set, and consent is refused only while it is
not, or while Charon runs. -/
def Orderly : Event → Prop
  | .deliver => ∀ callback ∈ s.callbacks.head?, callback.state = .connected → s.active
  | .answer false _ _ => s.active → s.charon
  | _ => True

instance : (event : Event) → Decidable (s.Orderly event)
  | .deliver => inferInstanceAs
      (Decidable (∀ callback ∈ s.callbacks.head?, callback.state = .connected → s.active))
  | .answer false _ _ => inferInstanceAs (Decidable (s.active → s.charon))
  | .answer true _ _ | .proceedIke _ _ _ _ | .proceedXray _ | .userDisconnect | .change _
  | .timeOut | .retry _ | .receive _ _ | .setByOther _ => inferInstanceAs (Decidable True)

structure Owned : Prop where
  shown : s.byIke → s.active ∧ s.delivered ≠ .disabled
  attempt : s.active → s.ConsentPending ∨ s.charon

variable {s}

theorem Owned.of_not_byIke (notByIke : s.byIke = false)
    (attempt : s.active → s.ConsentPending ∨ s.charon) : s.Owned := by
  refine ⟨?_, attempt⟩
  intro byIke
  rw [notByIke] at byIke
  cases byIke

theorem Owned.of_not_active (notByIke : s.byIke = false) (notActive : s.active = false) :
    s.Owned := by
  apply Owned.of_not_byIke notByIke
  intro active
  rw [notActive] at active
  cases active

theorem owned_startIke (profile started : Bool) : (s.startIke profile started).Owned := by
  cases profile with
  | false => exact .of_not_active rfl rfl
  | true =>
      cases started with
      | false => exact .of_not_active rfl rfl
      | true => exact .of_not_byIke rfl fun _ => .inr rfl

theorem Owned.proceedIke (owned : s.Owned) (id : Text) (asks profile started : Bool) :
    (s.proceedIke id asks profile started).Owned := by
  rw [System.proceedIke]
  split
  · exact owned
  · cases asks with
    | true => exact .of_not_byIke rfl fun _ => .inl ⟨Nat.succ_pos _, id, rfl⟩
    | false => exact owned_startIke profile started

theorem Owned.proceedXray (owned : s.Owned) (asks : Bool) : (s.proceedXray asks).Owned := by
  rw [System.proceedXray]
  split
  · exact owned
  · have released : (if s.active then s.disconnect else s).active = false := by
      split
      · rfl
      · next notActive => exact Bool.not_eq_true _ ▸ notActive
    cases asks with
    | true => exact .of_not_active rfl released
    | false => exact .of_not_active rfl released

/-- A dialog that is granted starts what was asked for last, and a dialog that is refused ends
no attempt. -/
theorem Owned.answer {granted profile started : Bool} (owned : s.Owned)
    (orderly : s.Orderly (.answer granted profile started)) :
    (s.answer granted profile started).Owned := by
  cases granted with
  | false => exact .of_not_byIke rfl fun active => .inr (orderly active)
  | true =>
      simp only [System.answer, if_true]
      split
      · exact owned_startIke profile started
      all_goals
        next isAfter =>
        refine ⟨owned.shown, ?_⟩
        intro active
        rcases owned.attempt active with ⟨-, id, startsIke⟩ | charon
        · rw [isAfter] at startsIke
          cases startsIke
        · exact .inr charon

theorem owned_showEnd (notActive : s.active = false) (error : ErrorState) :
    (s.showEnd error).Owned := by
  rw [showEnd]
  split
  · exact .of_not_active rfl notActive
  · exact .of_not_active rfl notActive

theorem Owned.pushState {callback : Callback} (owned : s.Owned)
    (orderly : callback.state = .connected → s.active) : (s.pushState callback).Owned := by
  rcases callback with ⟨state, error⟩
  cases state with
  | connected => exact ⟨fun _ => ⟨orderly rfl, SwanState.noConfusion⟩, owned.attempt⟩
  | connecting =>
      exact ⟨fun byIke => ⟨(owned.shown byIke).1, SwanState.noConfusion⟩, owned.attempt⟩
  | disconnecting =>
      exact ⟨fun byIke => ⟨(owned.shown byIke).1, SwanState.noConfusion⟩, owned.attempt⟩
  | disabled =>
      simp only [System.pushState]
      split
      · exact owned_showEnd rfl error
      · next notActive =>
        -- what is not active is not shown either
        refine ⟨?_, fun active => absurd active notActive⟩
        intro byIke
        exact absurd (owned.shown byIke).1 notActive

theorem Owned.timeOut (owned : s.Owned) : s.timeOut.Owned := by
  rw [System.timeOut]
  split
  · exact .of_not_active rfl rfl
  · exact ⟨owned.shown, owned.attempt⟩

theorem Owned.retry (owned : s.Owned) (index : ℕ) (id : Text) (rounds : ℕ) :
    (s.retry index id rounds).Owned := by
  simp only [System.retry]
  split
  · exact ⟨owned.shown, owned.attempt⟩
  · split
    · exact .of_not_byIke rfl owned.attempt
    · exact ⟨owned.shown, owned.attempt⟩

theorem Owned.receive (owned : s.Owned) (message : Broadcast) (error : Option Text) :
    (s.receive message error).Owned := by
  unfold System.receive
  split
  · exact owned
  · cases message with
    | connected => exact .of_not_byIke rfl owned.attempt
    | error => exact .of_not_byIke rfl owned.attempt
    | disconnected => exact .of_not_byIke rfl owned.attempt

theorem owned_step {next : System} (event : Event) (owned : s.Owned) (orderly : s.Orderly event)
    (taken : s.step event = some next) : next.Owned := by
  cases event with
  | proceedIke id asks profile started =>
      cases taken
      exact owned.proceedIke id asks profile started
  | proceedXray asks =>
      cases taken
      exact owned.proceedXray asks
  | answer granted profile started =>
      rw [step, Option.ite_none_right_eq_some] at taken
      rcases taken with ⟨-, ⟨⟩⟩
      exact owned.answer orderly
  | userDisconnect =>
      cases taken
      rw [userDisconnect]
      split
      · exact .of_not_active rfl rfl
      · exact owned
  | change callback =>
      cases taken
      exact ⟨owned.shown, owned.attempt⟩
  | deliver =>
      cases isQueue : s.callbacks with
      | nil => simp [step, isQueue] at taken
      | cons callback rest =>
          simp only [step, isQueue, Option.some.injEq] at taken
          subst taken
          have waiting : ({ s with callbacks := rest } : System).Owned :=
            ⟨owned.shown, owned.attempt⟩
          apply waiting.pushState
          rw [Orderly, isQueue] at orderly
          exact orderly callback rfl
  | timeOut =>
      rw [step, Option.ite_none_right_eq_some] at taken
      rcases taken with ⟨-, ⟨⟩⟩
      exact owned.timeOut
  | retry index =>
      simp only [step] at taken
      split at taken
      · cases taken
        exact owned.retry index _ _
      · cases taken
  | receive message error =>
      cases taken
      exact owned.receive message error
  | setByOther connecting =>
      cases taken
      cases connecting with
      | true => exact .of_not_byIke rfl owned.attempt
      | false => exact .of_not_byIke rfl owned.attempt

theorem swanAgrees_of_reaches (reached : Reaches step Orderly {} s) : s.Agrees := by
  have owned : s.Owned := by
    apply reached.invariant
    · exact .of_not_active rfl rfl
    · intro state next event owned orderly taken
      exact owned_step event owned orderly taken
  intro ended _
  refine ⟨?_, owned.attempt⟩
  rintro ⟨-, byIke⟩
  exact (owned.shown byIke).2 ended

/-- A connection is granted, made and ended by the user, and a broadcast is heard afterwards. -/
theorem swanAgrees_ended : ∃ s : System, s.state = .connected ∧ s.Agrees := by
  have ends : run (guarded step Orderly) {}
      [.proceedIke (txt "a") true true true, .answer true true true,
        .change ⟨.connecting, .noError⟩, .deliver, .change ⟨.connected, .noError⟩, .deliver,
        .userDisconnect,
        .change ⟨.disconnecting, .noError⟩, .change ⟨.disabled, .noError⟩, .deliver, .deliver,
        .receive .connected none] =
      some { state := .connected, loops := [(txt "a", 12)],
             afterPermission := .startIke (txt "a") } := by decide
  exact ⟨_, rfl, swanAgrees_of_reaches (reaches_of_run ends)⟩

/-- The user disconnects while `CONNECTED` is on its way: it is shown, and `DISABLED`, which
comes after it, is not, since `active` is no longer set. -/
theorem not_swanAgrees_lateConnected : ∃ s, Reaches step (fun _ _ => True) {} s ∧ ¬ s.Agrees := by
  have ends : run (guarded step fun _ _ => True) {}
      [.proceedIke (txt "a") false true true, .change ⟨.connecting, .noError⟩, .deliver,
        .change ⟨.connected, .noError⟩, .userDisconnect, .deliver, .change ⟨.disabled, .noError⟩,
        .deliver] =
      some { state := .connected, byIke := true, loops := [(txt "a", 12)] } := by decide
  refine ⟨_, reaches_of_run ends, ?_⟩
  intro agrees
  exact (agrees rfl rfl).1 ⟨rfl, rfl⟩

end System

end GRoute.IkeController
