import Infrarust.Config.Types
import Infrarust.Lib.Dict
import Infrarust.Lib.Machine

/-!
# `Infrarust.ServerManager.Service`: the server manager and its monitor

`ServerManagerService` keeps an entry for each managed server. Its calls take the lock of the
entry for a few assignments at a time. They hold no lock while they wait for the provider, tell
the listeners of a change, or send a result to a waiter. So one of these parts is one step here,
and the calls and the monitoring task of a server interleave step by step. A `Call` and a
`MonitorPhase` say what comes next.

`ManagedServer` is one server with everything that is under way for it. The servers share nothing
and an entry is never removed, so a call finds the entry. What a provider answers, and when, is
part of the event. A waiter is the number of the call of `ensure_started` that waits.

`History` has what happened so far. Only `queriedAt` of a poll refers to it, and no step depends
on it.
-/

set_option autoImplicit false

namespace Infrarust

def ServerState.isStartable : ServerState → Bool
  | .sleeping | .crashed => true
  | _ => false

namespace ServerManager

inductive ProviderStatus where
  | running
  | stopped
  | starting
  | stopping
  | unknown
deriving DecidableEq, Repr

/-- `ServerState::from`. -/
def ProviderStatus.toState : ProviderStatus → ServerState
  | .running => .online
  | .stopped => .sleeping
  | .starting => .starting
  | .stopping => .stopping
  | .unknown => .unknown

/-- `ServerManagerError`. The errors of a provider are `other`. -/
inductive ServerManagerError where
  | invalidState (serverId : String) (state : ServerState) (action : String)
  | startTimeout (serverId : String) (timeout : Nat)
  | provider (serverId message : String)
  | other (message : String)
deriving DecidableEq, Repr

/-- `ServerEntry`, with times in milliseconds. -/
structure ServerEntry where
  state : ServerState
  shutdownAfter : Option Nat
  startTimeout : Nat
  pollInterval : Nat
  lastPlayerSeen : Option Nat
  waiters : List Nat
deriving DecidableEq, Repr

/-- Where `stop_server` is: before it tells the listeners that the server is stopping, in
`provider.stop`, or before it tells them how that ended. -/
inductive StopPhase where
  | fire (old : ServerState)
  | provider (old : ServerState)
  | fireRestored (old : ServerState) (e : String)
  | fireStopped
deriving DecidableEq, Repr

/-- Where a call is. -/
inductive Call where
  /-- `ensure_started` has set the state to Starting. -/
  | ensureFire (old : ServerState)
  /-- `ensure_started` is in `provider.start`. -/
  | ensureProvider
  /-- `provider.start` has failed, and the state is Crashed. -/
  | ensureFireCrashed (waiters : List Nat) (e : String)
  | ensureAnswer (left : List Nat) (e : String)
  /-- `ensure_started` waits for its result, since a time. -/
  | ensureWait (since : Nat)
  /-- `start_server` has set the state to Starting. -/
  | startFire (old : ServerState)
  /-- `start_server` is in `provider.start`. -/
  | startProvider
  | stop (phase : StopPhase)
  /-- `initial_health_check` is in `provider.check_status`. -/
  | healthProvider
  | healthFire (old new : ServerState)
deriving DecidableEq, Repr

/-- Where the monitoring task is. -/
inductive MonitorPhase where
  /-- It has not been started, or has been shut down. -/
  | idle
  | sleep (wakeAt : Nat)
  /-- Before `check_provider_status`. -/
  | query
  /-- In `provider.check_status`. -/
  | provider (queriedAt : Nat)
  /-- `update_state` has changed the state. -/
  | fire (queriedAt : Nat) (status : ProviderStatus) (old : ServerState)
  /-- Before `notify_waiters`. -/
  | notify (queriedAt : Nat) (status : ProviderStatus)
  | answer (queriedAt : Nat) (status : ProviderStatus) (left : List Nat)
  /-- The server runs. Before the players are counted. -/
  | count (queriedAt : Nat)
  /-- `check_auto_shutdown` has decided to stop the server. Before `stop_server`. -/
  | stopServer (queriedAt : Nat)
  | stop (phase : StopPhase)
deriving DecidableEq, Repr

structure Monitor where
  fastPoll : Bool
  phase : MonitorPhase
deriving DecidableEq, Repr

/-- What a poll of the monitor has found, and when: the status, if the check succeeded, and the
number of players, if the server ran. -/
structure Poll where
  time : Nat
  status : Option ProviderStatus
  players : Option Nat
deriving DecidableEq, Repr

/-- The operations that return a result. -/
inductive Operation where
  | ensureStarted
  | startServer
  | stopServer
deriving DecidableEq, Repr

structure History where
  /-- The number of steps so far. -/
  steps : Nat
  /-- The steps at which a call of `provider.start` by `ensure_started` returned Ok. -/
  started : List Nat
  /-- The steps at which the statuses that the monitor has obtained were queried. -/
  obtained : List Nat
  /-- The calls that have returned, with their results. -/
  returned : List (Operation × Nat × Except ServerManagerError Unit)
  polls : List Poll

structure ManagedServer where
  serverId : String
  now : Nat
  entry : ServerEntry
  calls : Dict Nat Call
  /-- The number of calls so far, which numbers the next one. -/
  count : Nat
  /-- The results that were sent to waiters and not received yet. -/
  answers : Dict Nat (Except ServerManagerError Unit)
  monitor : Monitor
  history : History

/-- What a call can meet. -/
inductive CallEvent where
  /-- `fire_state_change` has told all listeners. -/
  | fired
  /-- `provider.start` returns. -/
  | started (result : Except String Unit)
  /-- `provider.stop` returns. -/
  | stopped (result : Except String Unit)
  /-- `provider.check_status` returns. -/
  | checked (result : Except String ProviderStatus)
  /-- The next waiter gets its result, or there is none left. -/
  | answer
  /-- The call receives its result. -/
  | receive
  | timeout
deriving DecidableEq

/-- What the monitoring task can meet. -/
inductive MonitorEvent where
  | shutdown
  | wake
  | query
  | checked (result : Except String ProviderStatus)
  | fired
  | notify
  | answer
  /-- `count_by_server`, and what `check_auto_shutdown` does with the lock. -/
  | count (players : Nat)
  /-- `check_auto_shutdown` calls `stop_server`. -/
  | stopServer
  | stopped (result : Except String Unit)
deriving DecidableEq

inductive Event where
  | tick (ms : Nat)
  | ensureStarted
  | startServer
  | stopServer
  | initialHealthCheck
  | startMonitoring
  | call (id : Nat) (event : CallEvent)
  | monitor (event : MonitorEvent)
deriving DecidableEq

namespace ManagedServer

/-- A server as it is registered. -/
def new (serverId : String) (shutdownAfter : Option Nat) (startTimeout pollInterval : Nat) :
    ManagedServer where
  serverId
  now := 0
  entry := { state := .sleeping, shutdownAfter, startTimeout, pollInterval,
             lastPlayerSeen := none, waiters := [] }
  calls := ∅
  count := 0
  answers := ∅
  monitor := { fastPoll := false, phase := .idle }
  history := { steps := 0, started := [], obtained := [], returned := [], polls := [] }

variable (s : ManagedServer)

/-- A new call. -/
def enter (call : Call) : ManagedServer :=
  { s with calls := s.calls.insert s.count call, count := s.count + 1 }

/-- A call goes on. -/
def goOn (id : Nat) (call : Call) : ManagedServer := { s with calls := s.calls.insert id call }

/-- A call is over. -/
def leave (id : Nat) : ManagedServer :=
  { s with calls := s.calls.erase id, answers := s.answers.erase id }

/-- A call returns a result. -/
def record (operation : Operation) (id : Nat) (result : Except ServerManagerError Unit) :
    ManagedServer :=
  { s with history.returned := (operation, id, result) :: s.history.returned }

def finish (operation : Operation) (id : Nat) (result : Except ServerManagerError Unit) :
    ManagedServer :=
  (s.leave id).record operation id result

/-- A call that returns without having waited. -/
def atOnce (operation : Operation) (result : Except ServerManagerError Unit) : ManagedServer :=
  { s with count := s.count + 1 }.record operation s.count result

def setState (state : ServerState) : ManagedServer := { s with entry.state := state }

/-- `tx.send`, which is lost if the waiter has given up. -/
def send (waiter : Nat) (result : Except ServerManagerError Unit) : ManagedServer :=
  if (s.calls.lookup waiter).isSome then { s with answers := s.answers.insert waiter result }
  else s

/-! ### The calls -/

/-- The part of `ensure_started` before its first wait. -/
def ensureStarted : ManagedServer :=
  match s.entry.state with
  | .online => s.atOnce .ensureStarted (.ok ())
  | .stopping =>
    s.atOnce .ensureStarted (.error (.invalidState s.serverId .stopping "connect"))
  | .starting =>
    { s with entry.waiters := s.entry.waiters ++ [s.count] }.enter (.ensureWait s.now)
  | .sleeping | .crashed | .unknown =>
    { s with
      entry.state := .starting
      entry.waiters := s.entry.waiters ++ [s.count] }.enter (.ensureFire s.entry.state)

/-- The rest of `ensure_started`. -/
def ensureStep (id : Nat) : Call → CallEvent → Option ManagedServer
  | .ensureFire _, .fired => some (s.goOn id .ensureProvider)
  | .ensureProvider, .started (.ok ()) =>
    some { s.goOn id (.ensureWait s.now) with
      history.started := s.history.steps :: s.history.started }
  | .ensureProvider, .started (.error e) =>
    some ({ s with entry.state := .crashed, entry.waiters := [] }.goOn id
      (.ensureFireCrashed s.entry.waiters e))
  | .ensureFireCrashed waiters e, .fired => some (s.goOn id (.ensureAnswer waiters e))
  | .ensureAnswer (waiter :: left) e, .answer =>
    some ((s.send waiter (.error (.provider s.serverId "start failed"))).goOn id
      (.ensureAnswer left e))
  | .ensureAnswer [] e, .answer => some (s.finish .ensureStarted id (.error (.other e)))
  | .ensureWait _, .receive => (s.answers.lookup id).map (s.finish .ensureStarted id)
  -- a result that has come counts, even at the deadline
  | .ensureWait since, .timeout =>
    if s.answers.lookup id = none ∧ since + s.entry.startTimeout ≤ s.now then
      some (s.finish .ensureStarted id (.error (.startTimeout s.serverId s.entry.startTimeout)))
    else none
  | _, _ => none

/-- The part of `start_server` before its first wait. -/
def startServer : ManagedServer :=
  if s.entry.state.isStartable then
    (s.setState .starting).enter (.startFire s.entry.state)
  else s.atOnce .startServer (.error (.invalidState s.serverId s.entry.state "start"))

/-- The rest of `start_server`. A failed start leaves the state as it is. -/
def startStep (id : Nat) : Call → CallEvent → Option ManagedServer
  | .startFire _, .fired => some (s.goOn id .startProvider)
  | .startProvider, .started result =>
    some (s.finish .startServer id (result.mapError .other))
  | _, _ => none

/-- What `stop_server` does once `provider.stop` has returned. -/
def stopReturned (old : ServerState) : Except String Unit → ManagedServer × StopPhase
  | .error e => (s.setState old, .fireRestored old e)
  | .ok () =>
    ({ s with entry.state := .sleeping, entry.lastPlayerSeen := none }, .fireStopped)

/-- The part of `stop_server` before its first wait. -/
def stopServer : ManagedServer := (s.setState .stopping).enter (.stop (.fire s.entry.state))

/-- The rest of `stop_server`. -/
def stopStep (id : Nat) : StopPhase → CallEvent → Option ManagedServer
  | .fire old, .fired => some (s.goOn id (.stop (.provider old)))
  | .provider old, .stopped result =>
    let r := s.stopReturned old result
    some (r.1.goOn id (.stop r.2))
  | .fireRestored _ e, .fired => some (s.finish .stopServer id (.error (.other e)))
  | .fireStopped, .fired => some (s.finish .stopServer id (.ok ()))
  | _, _ => none

/-- `initial_health_check` for this server, after `provider.check_status`. -/
def healthStep (id : Nat) : Call → CallEvent → Option ManagedServer
  | .healthProvider, .checked (.ok status) =>
    let s' := s.setState status.toState
    if s.entry.state = status.toState then some (s'.leave id)
    else some (s'.goOn id (.healthFire s.entry.state status.toState))
  | .healthProvider, .checked (.error _) => some (s.leave id)
  | .healthFire _ _, .fired => some (s.leave id)
  | _, _ => none

def callStep (id : Nat) (call : Call) (event : CallEvent) : Option ManagedServer :=
  match call with
  | .ensureFire _ | .ensureProvider | .ensureFireCrashed _ _ | .ensureAnswer _ _ | .ensureWait _ =>
    s.ensureStep id call event
  | .startFire _ | .startProvider => s.startStep id call event
  | .stop phase => s.stopStep id phase event
  | .healthProvider | .healthFire _ _ => s.healthStep id call event

/-! ### The monitoring task -/

/-- The task goes on. -/
def setPhase (phase : MonitorPhase) : ManagedServer := { s with monitor.phase := phase }

/-- The next iteration of `monitor_server`. -/
def sleep (fastPoll : Bool) : ManagedServer :=
  let interval := if fastPoll then s.entry.pollInterval else s.entry.pollInterval * 6
  { s with monitor := { fastPoll, phase := .sleep (s.now + interval) } }

/-- A poll that did not find the server running. -/
def recordPoll (status : Option ProviderStatus) : ManagedServer :=
  { s with history.polls := ⟨s.now, status, none⟩ :: s.history.polls }

/-- The end of an iteration, after the state was updated and the waiters were told. -/
def afterUpdate (queriedAt : Nat) (status : ProviderStatus) (fastPoll : Bool) : ManagedServer :=
  if status = .running then
    { s with monitor := { fastPoll, phase := .count queriedAt } }
  else (s.recordPoll (some status)).sleep fastPoll

/-- `update_state`, with a status that was queried at `queriedAt`. -/
def updateState (queriedAt : Nat) (status : ProviderStatus) : ManagedServer :=
  let s' := { s with history.obtained := queriedAt :: s.history.obtained }
  if s.entry.state = status.toState then s'.afterUpdate queriedAt status s.monitor.fastPoll
  else (s'.setState status.toState).setPhase (.fire queriedAt status s.entry.state)

/-- The branches of `monitor_server` for a changed state. -/
def afterFire (queriedAt : Nat) (status : ProviderStatus) : ManagedServer :=
  match status with
  | .running | .stopped => s.setPhase (.notify queriedAt status)
  | .starting | .stopping => s.afterUpdate queriedAt status true
  | .unknown => s.afterUpdate queriedAt status s.monitor.fastPoll

/-- What `notify_waiters` sends for a status. -/
def notice (status : ProviderStatus) : Except ServerManagerError Unit :=
  if status = .running then .ok ()
  else .error (.provider s.serverId "server failed to start")

/-- What `check_auto_shutdown` decides. -/
def shouldStop (players : Nat) : Bool :=
  match s.entry.shutdownAfter, s.entry.lastPlayerSeen with
  | some shutdownAfter, some lastSeen => players = 0 && decide (lastSeen + shutdownAfter ≤ s.now)
  | _, _ => false

/-- `check_auto_shutdown` up to the call of `stop_server`. -/
def checkAutoShutdown (queriedAt players : Nat) : ManagedServer :=
  if s.shouldStop players then s.setPhase (.stopServer queriedAt)
  else if players > 0 then
    { s with entry.lastPlayerSeen := some s.now }.sleep s.monitor.fastPoll
  else if s.entry.shutdownAfter.isSome ∧ s.entry.lastPlayerSeen.isNone then
    { s with entry.lastPlayerSeen := some s.now }.sleep s.monitor.fastPoll
  else s.sleep s.monitor.fastPoll

/-- The part of `stop_server` before its first wait, called by the monitor. -/
def monitorStopServer : ManagedServer :=
  (s.setState .stopping).setPhase (.stop (.fire s.entry.state))

/-- The rest of `stop_server`, called by the monitor. -/
def monitorStopStep : StopPhase → MonitorEvent → Option ManagedServer
  | .fire old, .fired => some (s.setPhase (.stop (.provider old)))
  | .provider old, .stopped result =>
    let r := s.stopReturned old result
    some (r.1.setPhase (.stop r.2))
  | .fireRestored _ _, .fired => some (s.sleep s.monitor.fastPoll)
  | .fireStopped, .fired => some (s.sleep s.monitor.fastPoll)
  | _, _ => none

def monitorStep (event : MonitorEvent) : Option ManagedServer :=
  match s.monitor.phase, event with
  | .sleep _, .shutdown => some (s.setPhase .idle)
  | .sleep wakeAt, .wake =>
    if wakeAt ≤ s.now then
      -- a crashed server is not polled
      if s.entry.state = .crashed then some (s.sleep s.monitor.fastPoll)
      else some (s.setPhase .query)
    else none
  | .query, .query => some (s.setPhase (.provider s.history.steps))
  | .provider _, .checked (.error _) => some ((s.recordPoll none).sleep s.monitor.fastPoll)
  | .provider queriedAt, .checked (.ok status) => some (s.updateState queriedAt status)
  | .fire queriedAt status _, .fired => some (s.afterFire queriedAt status)
  | .notify queriedAt status, .notify =>
    some ({ s with entry.waiters := [] }.setPhase (.answer queriedAt status s.entry.waiters))
  | .answer queriedAt status (waiter :: left), .answer =>
    some ((s.send waiter (s.notice status)).setPhase (.answer queriedAt status left))
  | .answer queriedAt status [], .answer => some (s.afterUpdate queriedAt status false)
  | .count queriedAt, .count players =>
    some ({ s with
      history.polls := ⟨s.now, some .running, some players⟩ :: s.history.polls
      }.checkAutoShutdown queriedAt players)
  | .stopServer _, .stopServer => some s.monitorStopServer
  | .stop phase, event => s.monitorStopStep phase event
  | _, _ => none

/-! ### The server -/

def step (event : Event) : Option ManagedServer :=
  match event with
  | .tick ms => some { s with now := s.now + ms }
  | .ensureStarted => some s.ensureStarted
  | .startServer => some s.startServer
  | .stopServer => some s.stopServer
  | .initialHealthCheck => some (s.enter .healthProvider)
  | .startMonitoring => if s.monitor.phase = .idle then some (s.sleep false) else none
  | .call id event => (s.calls.lookup id).bind fun call => s.callStep id call event
  | .monitor event => s.monitorStep event

def next (event : Event) : Option ManagedServer :=
  (s.step event).map fun s' => { s' with history.steps := s.history.steps + 1 }

end ManagedServer

/-! ### The listeners -/

/-- The state that `stop_server` is telling the listeners. -/
def StopPhase.fires : StopPhase → Option ServerState
  | .fire _ => some .stopping
  | .provider _ => none
  | .fireRestored old _ => some old
  | .fireStopped => some .sleeping

/-- The state that a call is telling the listeners. -/
def Call.fires : Call → Option ServerState
  | .ensureFire _ => some .starting
  | .ensureFireCrashed _ _ => some .crashed
  | .startFire _ => some .starting
  | .stop phase => phase.fires
  | .healthFire _ new => some new
  | .ensureProvider | .ensureAnswer _ _ | .ensureWait _ | .startProvider | .healthProvider => none

/-- The state that the monitoring task is telling the listeners. -/
def MonitorPhase.fires : MonitorPhase → Option ServerState
  | .fire _ status _ => some status.toState
  | .stop phase => phase.fires
  | _ => none

/-- Who calls `fire_state_change`. -/
inductive Source where
  | call (id : Nat)
  | monitor
deriving DecidableEq, Repr

/-- The event that `fire_state_change` has returned. -/
def Source.fired : Source → Event
  | .call id => .call id .fired
  | .monitor => .monitor .fired

namespace ManagedServer

/-- The state that the listeners are being told. -/
def fires (s : ManagedServer) : Source → Option ServerState
  | .call id => (s.calls.lookup id).bind Call.fires
  | .monitor => s.monitor.phase.fires

end ManagedServer

/-! ### The notifications, with the old states -/

def StopPhase.notification : StopPhase → Option (ServerState × ServerState)
  | .fire old => some (old, .stopping)
  | .provider _ => none
  | .fireRestored old _ => some (.stopping, old)
  | .fireStopped => some (.stopping, .sleeping)

/-- The old and the new state that a call passes to `fire_state_change`. -/
def Call.notification : Call → Option (ServerState × ServerState)
  | .ensureFire old | .startFire old => some (old, .starting)
  | .ensureFireCrashed _ _ => some (.starting, .crashed)
  | .stop phase => phase.notification
  | .healthFire old new => some (old, new)
  | .ensureProvider | .ensureAnswer _ _ | .ensureWait _ | .startProvider | .healthProvider => none

def MonitorPhase.notification : MonitorPhase → Option (ServerState × ServerState)
  | .fire _ status old => some (old, status.toState)
  | .stop phase => phase.notification
  | _ => none

namespace ManagedServer

variable (s : ManagedServer)

def notification : Source → Option (ServerState × ServerState)
  | .call id => (s.calls.lookup id).bind Call.notification
  | .monitor => s.monitor.phase.notification

/-- What a listener hears in a step. -/
def heard : Event → List (ServerState × ServerState)
  | .call id .fired => (s.notification (.call id)).toList
  | .monitor .fired => (s.notification .monitor).toList
  | _ => []

end ManagedServer

end ServerManager

end Infrarust
