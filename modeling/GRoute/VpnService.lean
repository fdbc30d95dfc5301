import GRoute.Foundation.Transition

/-!
# The VPN service

`GozarVpnService` in its own process, the broadcasts of `VpnBridge` and the `VpnState` of the
app's process. The main thread of the service handles one command after the other, and every
start of a tunnel runs as a coroutine beside it. What a thread still has to do is a list of
steps, and the steps of all threads interleave. `ok` is the outcome of a step that can fail.

Interfaces are numbered as they are established. The descriptor of a tunnel belongs to the
`ParcelFileDescriptor` in `tunFd` until it is detached for the core, and then to the core, which
closes it when it is stopped or started again, also if it did not start.

IKEv2 is left out: `IkeController.active` is taken to be false. So are the counters, which do not
change the state, and the sidecars, of which only the outcome matters.
-/

namespace GRoute

inductive VpnState.Connection
  | disconnected
  | connecting
  | connected
  | error
  deriving DecidableEq, Repr

inductive Broadcast
  | connected
  | error
  | disconnected
  deriving DecidableEq, Repr

/-- The state after the receiver of `VpnBridge` has handled the broadcast. -/
def Broadcast.received : Broadcast → VpnState.Connection
  | connected => .connected
  | error => .error
  | disconnected => .disconnected

namespace VpnService

open VpnState

/-- A step of a thread. -/
inductive Instr
  /-- `if (tunFd != null) return` in `startTunnel`. -/
  | checkTun
  /-- `tearingDown = false` and `scope.launch`. -/
  | launch
  | warm
  | closeBlock
  | establishTun
  /-- `tunFd = pfd`. -/
  | assignTun (pfd : ℕ)
  | startAether
  | stopCore
  | startCore (pfd : ℕ)
  | startTor
  | sendConnected
  /-- `if (tearingDown) return` in `die`. -/
  | enterDie (failed : Bool)
  /-- The rest of `die` up to `tearingDown = true`. -/
  | decideDie (failed : Bool)
  | closeTun
  | establishBlock
  /-- `sendError` or `sendDisconnected`. -/
  | send (failed : Bool)
  | scheduleKill
  deriving DecidableEq, Repr

inductive Command
  | stop
  | warm
  | start (hasConfig : Bool)
  deriving DecidableEq, Repr

/-- What `onStartCommand` does. -/
def onStartCommand : Command → List Instr
  | .stop => [.closeBlock, .enterDie false]
  | .warm => [.warm]
  | .start true => [.checkTun, .launch]
  | .start false => [.enterDie true]

/-- The coroutine of `startTunnel`. -/
def startTunnel : List Instr := [.establishTun]

def afterEstablish (pfd : ℕ) : List Instr :=
  [.assignTun pfd, .startAether, .stopCore, .startCore pfd, .startTor, .sendConnected]

def enterKillSwitch : List Instr := [.stopCore, .closeTun, .establishBlock, .send true]

def tearDown (failed : Bool) : List Instr := [.stopCore, .send failed, .scheduleKill]

/-- The service, the app and what is on its way between them. -/
structure System where
  /-- `VpnState.state`. -/
  ui : Connection := .disconnected
  /-- The broadcasts on their way, the oldest first. -/
  inflight : List Broadcast := []
  alive : Bool := false
  /-- `ConfigStore.killSwitch` as the process reads it. -/
  killSwitch : Bool := false
  tunFd : Option ℕ := none
  blockFd : Option ℕ := none
  /-- The descriptor that the core holds. -/
  coreFd : Option ℕ := none
  detached : List ℕ := []
  tearingDown : Bool := false
  /-- `die` has begun to tear this process down. -/
  doomed : Bool := false
  killPending : Bool := false
  main : List Instr := []
  coroutines : List (List Instr) := []
  /-- The interfaces that are not closed. -/
  opened : List ℕ := []
  /-- The interface that was established last. -/
  latest : Option ℕ := none
  next : ℕ := 0
  deriving DecidableEq, Repr

namespace System

variable (s : System)

def close (iface : Option ℕ) : System :=
  { s with opened := s.opened.filter fun other => some other ≠ iface }

def establish : System :=
  { s with opened := s.next :: s.opened, latest := some s.next, next := s.next + 1 }

def broadcast (message : Broadcast) : System := { s with inflight := s.inflight ++ [message] }

/-- `Gozarcore.stop`. -/
def stopCore : System := { s.close s.coreFd with coreFd := none }

/-- A descriptor that was detached is not closed with its `ParcelFileDescriptor`. -/
def closeTun : System :=
  { s.close (s.tunFd.filter fun pfd => pfd ∉ s.detached) with tunFd := none }

/-- One step of a thread that then has the rest to do. -/
def exec (ok : Bool) (rest : List Instr) : Instr → System × List Instr
  | .checkTun => (s, if s.tunFd.isSome then [] else rest)
  | .launch => ({ s with tearingDown := false, coroutines := s.coroutines ++ [startTunnel] }, rest)
  | .warm => (if s.tunFd.isSome then s.broadcast .connected else s, rest)
  | .closeBlock => ({ s.close s.blockFd with blockFd := none }, rest)
  | .establishTun => if ok then (s.establish, afterEstablish s.next) else (s, [.enterDie true])
  | .assignTun pfd => ({ s with tunFd := some pfd }, rest)
  | .startAether => (s, if ok then rest else [.enterDie true])
  | .stopCore => (s.stopCore, rest)
  | .startCore pfd =>
      -- `detachFd` throws if another thread has closed the tunnel
      if pfd ∈ s.opened then
        ({ s.close s.coreFd with coreFd := some pfd, detached := pfd :: s.detached },
          if ok then rest else [.enterDie true])
      else (s, [.enterDie true])
  | .startTor => (s, if ok then rest else [.enterDie true])
  | .sendConnected => (s.broadcast .connected, rest)
  | .enterDie failed => (s, if s.tearingDown then [] else [.decideDie failed])
  | .decideDie failed =>
      if failed && s.killSwitch then (s, enterKillSwitch)
      else ({ s with tearingDown := true, doomed := true }, tearDown failed)
  | .closeTun => (s.closeTun, rest)
  | .establishBlock =>
      (if ok then { s.establish with blockFd := some s.next } else { s with blockFd := none }, rest)
  | .send failed => (s.broadcast (if failed then .error else .disconnected), rest)
  | .scheduleKill => ({ s with killPending := true }, rest)

/-- The process that a command creates if there is none. -/
def spawn (killSwitch : Bool) : System where
  ui := s.ui
  inflight := s.inflight
  alive := true
  killSwitch := killSwitch
  latest := s.latest
  next := s.next

/-- The death of the process closes all its descriptors. -/
def kill : System where
  ui := s.ui
  inflight := s.inflight
  latest := s.latest
  next := s.next

/-- A command, a step of a thread, the death of the process, or what the app does. -/
inductive Event
  | command (command : Command) (killSwitch : Bool)
  | main (ok : Bool)
  | coroutine (index : ℕ) (ok : Bool)
  | kill
  | deliver
  /-- `setConnecting` or `setDisconnected` by the app itself. -/
  | ui (connecting : Bool)
  deriving DecidableEq, Repr

def step : Event → Option System
  | .command command killSwitch =>
      if s.alive then
        if s.main = [] then some { s with main := onStartCommand command } else none
      else some { s.spawn killSwitch with main := onStartCommand command }
  | .main ok =>
      match s.main with
      | [] => none
      | instr :: rest => some { (s.exec ok rest instr).1 with main := (s.exec ok rest instr).2 }
  | .coroutine index ok =>
      match s.coroutines[index]? with
      | some (instr :: rest) =>
          let after := s.exec ok rest instr
          some { after.1 with coroutines := after.1.coroutines.set index after.2 }
      | _ => none
  | .kill => if s.killPending then some s.kill else none
  | .deliver =>
      match s.inflight with
      | [] => none
      | message :: rest => some { s with ui := message.received, inflight := rest }
  | .ui connecting => some { s with ui := if connecting then .connecting else .disconnected }

end System

end VpnService

end GRoute
