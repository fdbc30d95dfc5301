import GRoute.Connect.Pinning
import GRoute.IkeController

/-!
# The last command

What the commands of the main screen and the tile leave for later: the pick of a config and the
fetch of its certificate before a connect, the wait and the delay of a switch, the two prompts for
permissions, the start of the tile and the probe of the auto switch. Each of them goes on at an
arbitrary later time. A stop goes to the service or to `IkeController`, and none of the pending
steps is linked to it.

`VpnState`, `IkeController` and the consent dialogs are those of the model of the controller. What
a step finds when it runs is an argument of its event. One instance of the activity lives through
the run.
-/

namespace GRoute

open Text Transition

/-- What the code finds when it goes on. -/
structure Device where
  store : ConfigStore := {}
  mixedPort : ℤ := 10626
  /-- The permission for notifications has to be asked for. -/
  prompts : Bool := false
  /-- `VpnService.prepare` wants consent. -/
  asks : Bool := false
  /-- `IkeController` has a profile for the config. -/
  profile : Bool := true
  /-- The service can be started. -/
  starts : Bool := true
  deriving DecidableEq, Repr

/-- The service, and the commands that are not carried out yet. -/
structure Commands where
  vpn : IkeController.System := {}
  /-- The config of `connectTo` while `pickJob` looks for a faster one. -/
  pickJob : Option ProxyConfig := none
  /-- The configs for which `launchConnect` fetches a certificate. -/
  fetching : List ProxyConfig := []
  /-- The configs to which `switchTo` will connect when the tunnel has ended. -/
  waiting : List ProxyConfig := []
  /-- The configs to which `switchTo` will connect after the delay. -/
  delayed : List ProxyConfig := []
  /-- The prompts for notifications without an answer. -/
  prompts : ℕ := 0
  /-- The config that `pendingConnect` connects. -/
  pendingConnect : Option ProxyConfig := none
  /-- The coroutines of the tile that will start a tunnel. -/
  tiles : ℕ := 0
  /-- A round of `autoSwitchJob` is probing. -/
  probing : Bool := false
  /-- How many tunnels were started. -/
  started : ℕ := 0
  deriving DecidableEq, Repr

namespace Commands

variable (platform : Platform) (s : Commands)

def start (starts : Bool) : Commands :=
  if starts then { s with started := s.started + 1 } else s

def proceedConnect (config : ProxyConfig) (device : Device) : Commands :=
  match Connect.proceedConnect platform device.store device.mixedPort
      (s.vpn.state = .connected) config with
  | .nothing => s
  | .ike config =>
      { s with vpn := s.vpn.proceedIke config.id device.asks device.profile device.starts }.start
        (!device.asks && device.profile && device.starts)
  | .core _ => { s with vpn := s.vpn.proceedXray device.asks }.start !device.asks

def proceedLaunch (config : ProxyConfig) (device : Device) : Commands :=
  if device.prompts then { s with pendingConnect := some config, prompts := s.prompts + 1 }
  else s.proceedConnect platform config device

def launchConnect (config : ProxyConfig) (device : Device) : Commands :=
  if Pinning.needsPin platform config then
    { s with vpn := s.vpn.setConnecting, fetching := s.fetching ++ [config] }
  else s.proceedLaunch platform config device

/-- `VpnState.state` is `CONNECTED` or `CONNECTING`. -/
def busy : Bool := s.vpn.state = .connected ∨ s.vpn.state = .connecting

def connectTo (config : ProxyConfig) (autoSelect : Bool) (device : Device) : Commands :=
  if s.busy then s
  else if autoSelect then { s with pickJob := some config }
  else s.launchConnect platform config device

/-- The coroutine runs up to its first suspension at once. -/
def switchTo (config : ProxyConfig) (device : Device) : Commands :=
  if s.busy then { s with vpn := s.vpn.userDisconnect, waiting := s.waiting ++ [config] }
  else s.launchConnect platform config device

/-- The ways to stop the tunnel. -/
inductive Stop
  /-- `MainActivity.disconnect`. -/
  | main
  /-- The action of the notification, which goes to the service alone. -/
  | notification
  /-- `QsTileService.stopTunnel`. -/
  | tile
  deriving DecidableEq, Repr

def stop : Stop → Commands
  | .main => { s with vpn := s.vpn.userDisconnect }
  | .notification => s
  | .tile => { s with vpn := s.vpn.setDisconnected }

/-- `chosen` is what the pick gives. -/
def picked (config : ProxyConfig) (chosen : Option ProxyConfig) (device : Device) : Commands :=
  { s with pickJob := none }.launchConnect platform (chosen.getD config) device

def fetched (config : ProxyConfig) (pin : Option Text) (device : Device) : Commands :=
  match pin.filter (!isBlank ·) with
  | none => s.proceedLaunch platform config device
  | some pin => s.proceedLaunch platform { config with pinnedCertSha256 := pin } device

def waited (config : ProxyConfig) : Commands :=
  { s with
    vpn := if s.vpn.state = .connected then s.vpn.setDisconnected else s.vpn
    delayed := s.delayed ++ [config] }

/-- The result of `notificationPermission`, whichever it is. -/
def prompted (device : Device) : Commands :=
  let answered := { s with prompts := s.prompts - 1, pendingConnect := none }
  match s.pendingConnect with
  | none => answered
  | some config => answered.proceedConnect platform config device

/-- The result of `vpnPermission`. -/
def consented (granted : Bool) (device : Device) : Commands :=
  { s with vpn := s.vpn.answer granted device.profile device.starts }.start
    (granted && match s.vpn.afterPermission with
      | .nothing => false
      | .startIke _ => device.profile && device.starts
      | .startTunnel => true)

/-- `QsTileService.startTunnel`. -/
def tileReady (device : Device) : Commands :=
  let ready := { s with tiles := s.tiles - 1 }
  match Connect.startTunnel platform device.store device.mixedPort !device.asks with
  | .core _ =>
      if device.starts then { ready with vpn := s.vpn.setConnecting }.start true
      else { ready with vpn := s.vpn.setDisconnected }
  | _ => ready

inductive Event
  | connectTo (config : ProxyConfig) (autoSelect : Bool) (device : Device)
  | switchTo (config : ProxyConfig) (device : Device)
  /-- `QsTileService.toggle` while the tile is not active. -/
  | toggle
  /-- The auto switch begins to probe. -/
  | autoSwitch
  | stop (stop : Stop)
  | cancelPick
  | picked (chosen : Option ProxyConfig) (device : Device)
  | fetched (index : ℕ) (pin : Option Text) (device : Device)
  | waited (index : ℕ)
  | launchDelayed (index : ℕ) (device : Device)
  | prompted (device : Device)
  | consented (granted : Bool) (device : Device)
  | tileReady (device : Device)
  /-- The auto switch has probed and switches to the config, if to any. -/
  | probed (best : Option ProxyConfig) (device : Device)
  /-- A broadcast, or something that strongSwan or `IkeController` does by itself. -/
  | outside (event : IkeController.System.Event)
  deriving DecidableEq, Repr

/-- What the service, strongSwan and the coroutines of `IkeController` do. -/
def isOutside : IkeController.System.Event → Bool
  | .change _ | .deliver | .timeOut | .retry _ | .receive _ _ => true
  | _ => false

def step : Event → Option Commands
  | .connectTo config autoSelect device => some (s.connectTo platform config autoSelect device)
  | .switchTo config device => some (s.switchTo platform config device)
  | .toggle => if s.busy then none else some { s with tiles := s.tiles + 1 }
  | .autoSwitch =>
      if s.vpn.state = .connected ∧ !s.probing then some { s with probing := true } else none
  | .stop stop => some (s.stop stop)
  | .cancelPick => some { s with pickJob := none }
  | .picked chosen device => s.pickJob.map fun config => s.picked platform config chosen device
  | .fetched index pin device => s.fetching[index]?.map fun config =>
      { s with fetching := s.fetching.eraseIdx index }.fetched platform config pin device
  | .waited index => s.waiting[index]?.map fun config =>
      { s with waiting := s.waiting.eraseIdx index }.waited config
  | .launchDelayed index device => s.delayed[index]?.map fun config =>
      { s with delayed := s.delayed.eraseIdx index }.launchConnect platform config device
  | .prompted device => if s.prompts ≠ 0 then some (s.prompted platform device) else none
  | .consented granted device =>
      if s.vpn.dialogs ≠ 0 then some (s.consented granted device) else none
  | .tileReady device => if s.tiles ≠ 0 then some (s.tileReady platform device) else none
  | .probed best device =>
      if !s.probing then none
      else
        match best with
        | none => some { s with probing := false }
        | some config => some ({ s with probing := false }.switchTo platform config device)
  | .outside event =>
      if isOutside event then (s.vpn.step event).map fun vpn => { s with vpn := vpn } else none

/-- A command to connect or to switch, or a round of the auto switch that begins. -/
def Event.isConnect : Event → Bool
  | .connectTo _ _ _ | .switchTo _ _ | .toggle | .autoSwitch => true
  | _ => false

def Continues (_ : Commands) (event : Event) : Prop := event.isConnect = false

instance (event : Event) : Decidable (s.Continues event) := inferInstanceAs (Decidable (_ = _))

/-- Nothing that goes on after the stop starts a tunnel. -/
def LastWins (stop : Stop) : Prop :=
  ∀ after, Reaches (step platform) Continues (s.stop stop) after → after.started = s.started

/-- No step is pending that can start a tunnel. -/
structure Quiet : Prop where
  pickJob : s.pickJob = none
  fetching : s.fetching = []
  waiting : s.waiting = []
  delayed : s.delayed = []
  pendingConnect : s.prompts = 0 ∨ s.pendingConnect = none
  afterPermission : s.vpn.dialogs = 0 ∨ s.vpn.afterPermission = .nothing
  tiles : s.tiles = 0
  probing : s.probing = false

variable {platform} {s} {next : Commands}

theorem quiet_vpn_iff {vpn : IkeController.System} (dialogs : vpn.dialogs = s.vpn.dialogs)
    (afterPermission : vpn.afterPermission = s.vpn.afterPermission) :
    ({ s with vpn := vpn } : Commands).Quiet ↔ s.Quiet := by
  have consent : vpn.dialogs = 0 ∨ vpn.afterPermission = .nothing ↔
      s.vpn.dialogs = 0 ∨ s.vpn.afterPermission = .nothing := by
    rw [dialogs, afterPermission]
  constructor
  · intro quiet
    exact { quiet with afterPermission := consent.mp quiet.afterPermission }
  · intro quiet
    exact { quiet with afterPermission := consent.mpr quiet.afterPermission }

theorem consent_of_isOutside {vpn after : IkeController.System} {event : IkeController.System.Event}
    (outside : isOutside event = true) (taken : vpn.step event = some after) :
    after.dialogs = vpn.dialogs ∧ after.afterPermission = vpn.afterPermission := by
  cases event with
  | change callback =>
      cases taken
      exact ⟨rfl, rfl⟩
  | deliver =>
      rw [IkeController.System.step] at taken
      split at taken
      · cases taken
      · next callback rest _ =>
          cases taken
          rcases callback with ⟨state, error⟩
          cases state with
          | connected => exact ⟨rfl, rfl⟩
          | connecting => exact ⟨rfl, rfl⟩
          | disconnecting => exact ⟨rfl, rfl⟩
          | disabled =>
              simp only [IkeController.System.pushState, IkeController.System.showEnd]
              split_ifs <;> exact ⟨rfl, rfl⟩
  | timeOut =>
      rw [IkeController.System.step, Option.ite_none_right_eq_some] at taken
      cases taken.2
      rw [IkeController.System.timeOut]
      split <;> exact ⟨rfl, rfl⟩
  | retry index =>
      rw [IkeController.System.step] at taken
      split at taken
      · cases taken
        simp only [IkeController.System.retry]
        split_ifs <;> exact ⟨rfl, rfl⟩
      · cases taken
  | receive message error =>
      cases taken
      simp only [IkeController.System.receive]
      split
      · exact ⟨rfl, rfl⟩
      · cases message <;> exact ⟨rfl, rfl⟩
  | proceedIke | proceedXray | answer | userDisconnect | setByOther => cases outside

theorem afterPermission_answer {vpn : IkeController.System} {granted profile starts : Bool}
    (nothing : vpn.afterPermission = .nothing) :
    (vpn.answer granted profile starts).afterPermission = .nothing := by
  cases granted with
  | false => exact nothing
  | true =>
      simp only [IkeController.System.answer, if_true]
      split
      · next startsIke => cases nothing.symm.trans startsIke
      · exact nothing
      · exact nothing

theorem quiet_stop_iff (stop : Stop) : (s.stop stop).Quiet ↔ s.Quiet := by
  cases stop with
  | main =>
      apply quiet_vpn_iff
      all_goals
        rw [IkeController.System.userDisconnect]
        split <;> rfl
  | notification => rfl
  | tile => exact quiet_vpn_iff rfl rfl

theorem started_stop (stop : Stop) : (s.stop stop).started = s.started := by
  cases stop <;> rfl

theorem Quiet.step {event : Event} (quiet : s.Quiet) (continues : s.Continues event)
    (taken : step platform s event = some next) :
    next.Quiet ∧ next.started = s.started := by
  cases event with
  | connectTo config autoSelect device => cases continues
  | switchTo config device => cases continues
  | toggle => cases continues
  | autoSwitch => cases continues
  | stop stop =>
      cases taken
      exact ⟨(quiet_stop_iff stop).mpr quiet, started_stop stop⟩
  | cancelPick =>
      cases taken
      exact ⟨{ quiet with pickJob := rfl }, rfl⟩
  | picked chosen device =>
      rw [Commands.step, quiet.pickJob] at taken
      cases taken
  | fetched index pin device =>
      rw [Commands.step, quiet.fetching] at taken
      cases taken
  | waited index =>
      rw [Commands.step, quiet.waiting] at taken
      cases taken
  | launchDelayed index device =>
      rw [Commands.step, quiet.delayed] at taken
      cases taken
  | prompted device =>
      rw [Commands.step, Option.ite_none_right_eq_some] at taken
      rcases taken with ⟨isOpen, taken⟩
      have nothing := quiet.pendingConnect.resolve_left isOpen
      rw [Commands.prompted, nothing] at taken
      cases taken
      exact ⟨{ quiet with pendingConnect := .inr rfl }, rfl⟩
  | consented granted device =>
      rw [Commands.step, Option.ite_none_right_eq_some] at taken
      rcases taken with ⟨isOpen, taken⟩
      have nothing := quiet.afterPermission.resolve_left isOpen
      rw [Commands.consented, nothing, Bool.and_false] at taken
      cases taken
      exact ⟨{ quiet with afterPermission := .inr (afterPermission_answer nothing) }, rfl⟩
  | tileReady device =>
      rw [Commands.step, if_neg (not_not.mpr quiet.tiles)] at taken
      cases taken
  | probed best device =>
      simp only [Commands.step, quiet.probing, Bool.not_false, if_true] at taken
      cases taken
  | outside event =>
      rw [Commands.step, Option.ite_none_right_eq_some] at taken
      rcases taken with ⟨outside, taken⟩
      rcases Option.map_eq_some_iff.mp taken with ⟨vpn, vpnTaken, rfl⟩
      rcases consent_of_isOutside outside vpnTaken with ⟨dialogs, afterPermission⟩
      exact ⟨(quiet_vpn_iff dialogs afterPermission).mpr quiet, rfl⟩

theorem Quiet.lastWins (quiet : s.Quiet) (stop : Stop) : s.LastWins platform stop := by
  intro after reached
  have both : after.Quiet ∧ after.started = s.started := by
    apply reached.invariant ⟨(quiet_stop_iff stop).mpr quiet, started_stop stop⟩
    rintro state next event ⟨quiet, started⟩ continues taken
    rcases quiet.step continues taken with ⟨nextQuiet, same⟩
    exact ⟨nextQuiet, same.trans started⟩
  exact both.2

variable (platform s) in
/-- Without another command to connect, a tunnel can be started. -/
def StartsLater : Prop :=
  ∃ after, Reaches (step platform) Continues s after ∧ s.started < after.started

theorem startsLater_of_step {event : Event} (taken : step platform s event = some next)
    (continues : s.Continues event)
    (later : s.started < next.started ∨ next.started = s.started ∧ next.StartsLater platform) :
    s.StartsLater platform := by
  have first : Reaches (step platform) Continues s next := Reaches.refl.tail event continues taken
  rcases later with now | ⟨same, after, reached, more⟩
  · exact ⟨next, first, now⟩
  · exact ⟨after, first.trans reached, same ▸ more⟩

theorem startsLater_of_proceedConnect {event : Event} {launching : Commands} {config : ProxyConfig}
    (taken : step platform s event = some (launching.proceedConnect platform config {}))
    (continues : s.Continues event) (same : launching.started = s.started)
    (unconnected : launching.vpn.state ≠ .connected) : s.StartsLater platform := by
  have starts : (launching.proceedConnect platform config {}).started = launching.started + 1 := by
    rw [proceedConnect, Connect.proceedConnect, decide_eq_false unconnected,
      if_neg Bool.false_ne_true]
    split_ifs <;> rfl
  apply startsLater_of_step taken continues
  left
  rw [starts, same]
  exact Nat.lt_succ_self _

theorem startsLater_of_fetching (unconnected : s.vpn.state ≠ .connected)
    (fetching : s.fetching ≠ []) : s.StartsLater platform := by
  rcases List.exists_cons_of_ne_nil fetching with ⟨config, rest, isCons⟩
  let launching : Commands := { s with fetching := rest }
  have taken : step platform s (.fetched 0 none {}) =
      some (launching.proceedConnect platform config {}) := by
    rw [step, isCons]
    rfl
  exact startsLater_of_proceedConnect taken rfl rfl unconnected

/-- A certificate is fetched before the connect, or not. -/
theorem startsLater_of_launchConnect {event : Event} {launching : Commands} {config : ProxyConfig}
    (taken : step platform s event = some (launching.launchConnect platform config {}))
    (continues : s.Continues event) (same : launching.started = s.started)
    (unconnected : launching.vpn.state ≠ .connected) : s.StartsLater platform := by
  rw [launchConnect] at taken
  split at taken
  · apply startsLater_of_step taken continues
    refine .inr ⟨same, startsLater_of_fetching ?_ ?_⟩
    · intro isConnected
      cases isConnected
    · exact List.append_ne_nil_of_right_ne_nil _ (List.cons_ne_nil _ _)
  · exact startsLater_of_proceedConnect taken continues same unconnected

theorem startsLater_of_delayed (unconnected : s.vpn.state ≠ .connected)
    (delayed : s.delayed ≠ []) : s.StartsLater platform := by
  rcases List.exists_cons_of_ne_nil delayed with ⟨config, rest, isCons⟩
  let launching : Commands := { s with delayed := rest }
  have taken : step platform s (.launchDelayed 0 {}) =
      some (launching.launchConnect platform config {}) := by
    rw [step, isCons]
    rfl
  exact startsLater_of_launchConnect taken rfl rfl unconnected

theorem startsLater_of_waiting (unconnected : s.vpn.state ≠ .connected)
    (waiting : s.waiting ≠ []) : s.StartsLater platform := by
  rcases List.exists_cons_of_ne_nil waiting with ⟨config, rest, isCons⟩
  have taken : step platform s (.waited 0) =
      some (({ s with waiting := rest } : Commands).waited config) := by
    rw [step, isCons]
    rfl
  apply startsLater_of_step taken rfl
  refine .inr ⟨rfl, startsLater_of_delayed ?_ ?_⟩
  · rw [waited, if_neg unconnected]
    exact unconnected
  · exact List.append_ne_nil_of_right_ne_nil _ (List.cons_ne_nil _ _)

theorem startsLater_of_pickJob (unconnected : s.vpn.state ≠ .connected)
    (picking : s.pickJob ≠ none) : s.StartsLater platform := by
  rcases Option.ne_none_iff_exists'.mp picking with ⟨config, isSome⟩
  let launching : Commands := { s with pickJob := none }
  have taken : step platform s (.picked none {}) =
      some (launching.launchConnect platform config {}) := by
    rw [step, isSome]
    rfl
  exact startsLater_of_launchConnect taken rfl rfl unconnected

/-- The round may switch to any config. -/
theorem startsLater_of_probing (unconnected : s.vpn.state ≠ .connected)
    (probing : s.probing ≠ false) : s.StartsLater platform := by
  let launching : Commands := { s with probing := false }
  let config := Pinning.tlsConfig false
  have taken : step platform s (.probed (some config) {}) =
      some (launching.switchTo platform config {}) := by
    simp only [step, Bool.eq_true_of_not_eq_false probing, Bool.not_true, if_neg Bool.false_ne_true]
    rfl
  rw [switchTo] at taken
  split at taken
  · apply startsLater_of_step taken rfl
    refine .inr ⟨rfl, startsLater_of_waiting ?_ ?_⟩
    · intro isConnected
      simp only [IkeController.System.userDisconnect] at isConnected
      split at isConnected
      · cases isConnected
      · exact unconnected isConnected
    · exact List.append_ne_nil_of_right_ne_nil _ (List.cons_ne_nil _ _)
  · exact startsLater_of_launchConnect taken rfl rfl unconnected

theorem startsLater_of_pendingConnect (unconnected : s.vpn.state ≠ .connected)
    (isOpen : s.prompts ≠ 0) (pending : s.pendingConnect ≠ none) : s.StartsLater platform := by
  rcases Option.ne_none_iff_exists'.mp pending with ⟨config, isSome⟩
  let launching : Commands := { s with prompts := s.prompts - 1, pendingConnect := none }
  have taken : step platform s (.prompted {}) =
      some (launching.proceedConnect platform config {}) := by
    rw [step, if_pos isOpen, prompted, isSome]
  exact startsLater_of_proceedConnect taken rfl rfl unconnected

theorem startsLater_of_afterPermission (isOpen : s.vpn.dialogs ≠ 0)
    (pending : s.vpn.afterPermission ≠ .nothing) : s.StartsLater platform := by
  have taken : step platform s (.consented true {}) = some (s.consented true {}) := if_pos isOpen
  apply startsLater_of_step taken rfl
  left
  rw [consented]
  cases after : s.vpn.afterPermission with
  | nothing => exact absurd after pending
  | startIke id => exact Nat.lt_succ_self _
  | startTunnel => exact Nat.lt_succ_self _

/-- The tile finds a config that is selected. -/
theorem startsLater_of_tiles (isOpen : s.tiles ≠ 0) : s.StartsLater platform := by
  let device : Device :=
    { store := { configs := [Pinning.tlsConfig false], selectedId := some (txt "a") } }
  have taken : step platform s (.tileReady device) = some (s.tileReady platform device) :=
    if_pos isOpen
  apply startsLater_of_step taken rfl
  left
  exact Nat.lt_succ_self _

theorem startsLater_of_not_quiet (unconnected : s.vpn.state ≠ .connected) (pending : ¬ s.Quiet) :
    s.StartsLater platform := by
  by_contra never
  apply pending
  constructor
  · by_contra picking
    exact never (startsLater_of_pickJob unconnected picking)
  · by_contra fetching
    exact never (startsLater_of_fetching unconnected fetching)
  · by_contra waiting
    exact never (startsLater_of_waiting unconnected waiting)
  · by_contra delayed
    exact never (startsLater_of_delayed unconnected delayed)
  · by_contra prompt
    rcases not_or.mp prompt with ⟨isOpen, connects⟩
    exact never (startsLater_of_pendingConnect unconnected isOpen connects)
  · by_contra dialog
    rcases not_or.mp dialog with ⟨isOpen, starts⟩
    exact never (startsLater_of_afterPermission isOpen starts)
  · by_contra isOpen
    exact never (startsLater_of_tiles isOpen)
  · by_contra probing
    exact never (startsLater_of_probing unconnected probing)

/-- A second stop, by the tile, brings `VpnState` to `DISCONNECTED` and ends nothing. -/
theorem LastWins.quiet {stop : Stop} (wins : s.LastWins platform stop) : s.Quiet := by
  by_contra pending
  have stopped : Reaches (step platform) Continues (s.stop stop) ((s.stop stop).stop .tile) :=
    Reaches.refl.tail (.stop .tile) rfl rfl
  have stillPending : ¬ ((s.stop stop).stop .tile).Quiet := by
    rw [quiet_stop_iff, quiet_stop_iff]
    exact pending
  have unconnected : ((s.stop stop).stop .tile).vpn.state ≠ .connected := by
    intro isConnected
    cases isConnected
  rcases startsLater_of_not_quiet unconnected stillPending with ⟨after, reached, more⟩
  rw [wins after (stopped.trans reached), started_stop, started_stop] at more
  exact lt_irrefl _ more

/-- The last command wins exactly if nothing was pending when it was given. -/
theorem lastWins_iff (stop : Stop) : s.LastWins platform stop ↔ s.Quiet :=
  ⟨LastWins.quiet, fun quiet => quiet.lastWins stop⟩

/-- The user connects and stops while the certificate is being fetched. -/
theorem not_lastWins_fetching : ∃ s : Commands,
    Reaches (step .ascii) (fun _ _ => True) {} s ∧
      ¬ s.LastWins .ascii .main ∧ ¬ s.LastWins .ascii .tile := by
  let config := Pinning.tlsConfig false
  let s : Commands := { vpn := { state := .connecting }, fetching := [config] }
  have connects : step .ascii {} (.connectTo config false {}) = some s := by decide +kernel
  have starts (stop : Stop) (isScreen : stop = .main ∨ stop = .tile) :
      ¬ s.LastWins .ascii stop := by
    intro wins
    have goesOn : step .ascii (s.stop stop) (.fetched 0 none {}) = some
        { vpn := { state := .connecting }, started := 1 } := by
      rcases isScreen with rfl | rfl <;> decide +kernel
    cases wins _ (Reaches.refl.tail (Event.fetched 0 none {}) rfl goesOn)
  exact ⟨s, Reaches.refl.tail _ trivial connects, starts .main (.inl rfl), starts .tile (.inr rfl)⟩

end Commands

end GRoute
