import Infrarust.ServerManager.Service

/-!
# `Infrarust.Proofs.ServerManager.Steps`: what a step of a managed server can do

`callStep` and `monitorStep` are tables of what a call and the monitoring task do next. `CallStep`
and `MonitorStep` have one constructor for each way through a line of a table, and `EventStep` puts
them together. The results about runs go through these, and unfold none of the functions that the
tables call.
-/

set_option autoImplicit false

namespace Infrarust

/-- `ensure_started` starts a server in this state. -/
def ServerState.wakes : ServerState → Bool
  | .sleeping | .crashed | .unknown => true
  | _ => false

namespace ServerManager

namespace ManagedServer

variable {s s' : ManagedServer}

/-- The results after one was sent to a waiter. -/
def sent (s : ManagedServer) (waiter : Nat) (result : Except ServerManagerError Unit) :
    Dict Nat (Except ServerManagerError Unit) :=
  if (s.calls.lookup waiter).isSome then s.answers.insert waiter result else s.answers

theorem send_eq {s : ManagedServer} {waiter result} :
    s.send waiter result = { s with answers := s.sent waiter result } := by
  unfold send sent
  split <;> rfl

/-- The lines of `callStep`. -/
inductive CallStep (s : ManagedServer) (id : Nat) : Call → CallEvent → ManagedServer → Prop where
  | ensureFired (old) : CallStep s id (.ensureFire old) .fired (s.goOn id .ensureProvider)
  | ensureStarted :
    CallStep s id .ensureProvider (.started (.ok ()))
      { s.goOn id (.ensureWait s.now) with
        history.started := s.history.steps :: s.history.started }
  | ensureFailed (e) :
    CallStep s id .ensureProvider (.started (.error e))
      ({ s with entry.state := .crashed, entry.waiters := [] }.goOn id
        (.ensureFireCrashed s.entry.waiters e))
  | ensureFiredCrashed (waiters e) :
    CallStep s id (.ensureFireCrashed waiters e) .fired (s.goOn id (.ensureAnswer waiters e))
  | ensureAnswered (waiter left e) :
    CallStep s id (.ensureAnswer (waiter :: left) e) .answer
      ({ s with answers := s.sent waiter (.error (.provider s.serverId "start failed")) }.goOn id
        (.ensureAnswer left e))
  | ensureRejected (e) :
    CallStep s id (.ensureAnswer [] e) .answer (s.finish .ensureStarted id (.error (.other e)))
  | ensureReceived (since result) :
    s.answers.lookup id = some result →
    CallStep s id (.ensureWait since) .receive (s.finish .ensureStarted id result)
  | ensureTimedOut (since) :
    CallStep s id (.ensureWait since) .timeout
      (s.finish .ensureStarted id (.error (.startTimeout s.serverId s.entry.startTimeout)))
  | startFired (old) : CallStep s id (.startFire old) .fired (s.goOn id .startProvider)
  | startReturned (result) :
    CallStep s id .startProvider (.started result)
      (s.finish .startServer id (result.mapError .other))
  | stopFired (old) : CallStep s id (.stop (.fire old)) .fired (s.goOn id (.stop (.provider old)))
  | stopFailed (old e) :
    CallStep s id (.stop (.provider old)) (.stopped (.error e))
      ((s.setState old).goOn id (.stop (.fireRestored old e)))
  | stopSucceeded (old) :
    CallStep s id (.stop (.provider old)) (.stopped (.ok ()))
      ({ s with entry.state := .sleeping, entry.lastPlayerSeen := none }.goOn id
        (.stop .fireStopped))
  | stopRestored (old e) :
    CallStep s id (.stop (.fireRestored old e)) .fired (s.finish .stopServer id (.error (.other e)))
  | stopStopped : CallStep s id (.stop .fireStopped) .fired (s.finish .stopServer id (.ok ()))
  | healthSame (status) : s.entry.state = status.toState →
    CallStep s id .healthProvider (.checked (.ok status)) ((s.setState status.toState).leave id)
  | healthChanged (status) : s.entry.state ≠ status.toState →
    CallStep s id .healthProvider (.checked (.ok status))
      ((s.setState status.toState).goOn id (.healthFire s.entry.state status.toState))
  | healthFailed (e) : CallStep s id .healthProvider (.checked (.error e)) (s.leave id)
  | healthFired (old new) : CallStep s id (.healthFire old new) .fired (s.leave id)

section

variable {id : Nat} {call : Call} {event : CallEvent}

theorem ensureStep_inv (h : s.ensureStep id call event = some s') :
    CallStep s id call event s' := by
  unfold ensureStep at h
  split at h
  case h_5 =>
    rw [send_eq] at h
    cases h
    constructor
  case h_7 =>
    obtain ⟨result, hres, rfl⟩ := Option.map_eq_some_iff.mp h
    exact .ensureReceived _ result hres
  case h_8 =>
    split at h <;> cases h
    exact .ensureTimedOut _
  case h_9 => cases h
  all_goals
    cases h
    constructor

theorem startStep_inv (h : s.startStep id call event = some s') : CallStep s id call event s' := by
  unfold startStep at h
  split at h
  case h_3 => cases h
  all_goals
    cases h
    constructor

theorem stopStep_inv {phase} (h : s.stopStep id phase event = some s') :
    CallStep s id (.stop phase) event s' := by
  unfold stopStep at h
  split at h
  case h_2 old result => cases result <;> cases h <;> constructor
  case h_5 => cases h
  all_goals
    cases h
    constructor

theorem healthStep_inv (h : s.healthStep id call event = some s') :
    CallStep s id call event s' := by
  unfold healthStep at h
  split at h
  case h_1 status =>
    split at h <;> cases h
    case isTrue hsame => exact .healthSame status hsame
    case isFalse hchg => exact .healthChanged status hchg
  case h_4 => cases h
  all_goals
    cases h
    constructor

theorem callStep_inv (h : s.callStep id call event = some s') : CallStep s id call event s' := by
  cases call with
  | ensureFire old => exact ensureStep_inv h
  | ensureProvider => exact ensureStep_inv h
  | ensureFireCrashed waiters e | ensureAnswer left e | ensureWait since => exact ensureStep_inv h
  | startFire old | startProvider => exact startStep_inv h
  | stop phase => exact stopStep_inv h
  | healthProvider | healthFire old new => exact healthStep_inv h

end

/-- A poll has obtained a status. -/
def obtainStatus (s : ManagedServer) (queriedAt : Nat) : ManagedServer :=
  { s with history.obtained := queriedAt :: s.history.obtained }

/-- A poll has found the server running. -/
def recordCount (s : ManagedServer) (players : Nat) : ManagedServer :=
  { s with history.polls := ⟨s.now, some .running, some players⟩ :: s.history.polls }

/-- The lines of `monitorStep`. -/
inductive MonitorStep (s : ManagedServer) : MonitorPhase → MonitorEvent → ManagedServer → Prop where
  | shutdown (wakeAt) : MonitorStep s (.sleep wakeAt) .shutdown (s.setPhase .idle)
  | skip (wakeAt) : MonitorStep s (.sleep wakeAt) .wake (s.sleep s.monitor.fastPoll)
  | wake (wakeAt) : MonitorStep s (.sleep wakeAt) .wake (s.setPhase .query)
  | query : MonitorStep s .query .query (s.setPhase (.provider s.history.steps))
  | failed (queriedAt e) :
    MonitorStep s (.provider queriedAt) (.checked (.error e))
      ((s.recordPoll none).sleep s.monitor.fastPoll)
  | runs (queriedAt) : s.entry.state = .online →
    MonitorStep s (.provider queriedAt) (.checked (.ok .running))
      ((s.obtainStatus queriedAt).setPhase (.count queriedAt))
  | same (queriedAt status) : status ≠ .running →
    MonitorStep s (.provider queriedAt) (.checked (.ok status))
      (((s.obtainStatus queriedAt).recordPoll (some status)).sleep s.monitor.fastPoll)
  | changed (queriedAt status) : s.entry.state ≠ status.toState →
    MonitorStep s (.provider queriedAt) (.checked (.ok status))
      (((s.obtainStatus queriedAt).setState status.toState).setPhase
        (.fire queriedAt status s.entry.state))
  | firedNotifies (queriedAt status old) :
    MonitorStep s (.fire queriedAt status old) .fired (s.setPhase (.notify queriedAt status))
  | firedSleeps (queriedAt status old) :
    status ≠ .running → status ≠ .stopped → (fastPoll : Bool) →
    MonitorStep s (.fire queriedAt status old) .fired ((s.recordPoll (some status)).sleep fastPoll)
  | notify (queriedAt status) :
    MonitorStep s (.notify queriedAt status) .notify
      ({ s with entry.waiters := [] }.setPhase (.answer queriedAt status s.entry.waiters))
  | answer (queriedAt status waiter left) :
    MonitorStep s (.answer queriedAt status (waiter :: left)) .answer
      ({ s with answers := s.sent waiter (s.notice status) }.setPhase
        (.answer queriedAt status left))
  | answeredCounts (queriedAt) :
    MonitorStep s (.answer queriedAt .running []) .answer
      { s with monitor := { fastPoll := false, phase := .count queriedAt } }
  | answeredSleeps (queriedAt status) : status ≠ .running →
    MonitorStep s (.answer queriedAt status []) .answer ((s.recordPoll (some status)).sleep false)
  | countStops (queriedAt d t₀) : s.entry.shutdownAfter = some d →
    s.entry.lastPlayerSeen = some t₀ → t₀ + d ≤ s.now →
    MonitorStep s (.count queriedAt) (.count 0) ((s.recordCount 0).setPhase (.stopServer queriedAt))
  | countSeen (queriedAt players) :
    MonitorStep s (.count queriedAt) (.count players)
      ({ s.recordCount players with entry.lastPlayerSeen := some s.now }.sleep s.monitor.fastPoll)
  | countQuiet (queriedAt) :
    MonitorStep s (.count queriedAt) (.count 0) ((s.recordCount 0).sleep s.monitor.fastPoll)
  | stopServer (queriedAt) : MonitorStep s (.stopServer queriedAt) .stopServer s.monitorStopServer
  | stopFired (old) : MonitorStep s (.stop (.fire old)) .fired (s.setPhase (.stop (.provider old)))
  | stopFailed (old e) :
    MonitorStep s (.stop (.provider old)) (.stopped (.error e))
      ((s.setState old).setPhase (.stop (.fireRestored old e)))
  | stopSucceeded (old) :
    MonitorStep s (.stop (.provider old)) (.stopped (.ok ()))
      ({ s with entry.state := .sleeping, entry.lastPlayerSeen := none }.setPhase
        (.stop .fireStopped))
  | stopRestored (old e) :
    MonitorStep s (.stop (.fireRestored old e)) .fired (s.sleep s.monitor.fastPoll)
  | stopStopped : MonitorStep s (.stop .fireStopped) .fired (s.sleep s.monitor.fastPoll)

variable {event : MonitorEvent} {queriedAt : Nat} {status : ProviderStatus}

theorem updateState_inv :
    MonitorStep s (.provider queriedAt) (.checked (.ok status)) (s.updateState queriedAt status) := by
  unfold updateState afterUpdate
  split
  case isTrue hsame =>
    split
    case isTrue hrng =>
      subst hrng
      exact .runs queriedAt hsame
    case isFalse hrng => exact .same queriedAt status hrng
  case isFalse hchg => exact .changed queriedAt status hchg

theorem checkAutoShutdown_inv {players} :
    MonitorStep s (.count queriedAt) (.count players)
      ((s.recordCount players).checkAutoShutdown queriedAt players) := by
  unfold checkAutoShutdown
  split
  case isTrue hstop =>
    unfold shouldStop at hstop
    split at hstop
    case h_1 d t₀ hd ht₀ =>
      rw [Bool.and_eq_true, decide_eq_true_iff, decide_eq_true_iff] at hstop
      obtain ⟨rfl, hlong⟩ := hstop
      exact .countStops queriedAt d t₀ hd ht₀ hlong
    case h_2 => cases hstop
  case isFalse =>
    split
    case isTrue => exact .countSeen queriedAt players
    case isFalse hplayers =>
      obtain rfl := Nat.eq_zero_of_not_pos hplayers
      split
      case isTrue => exact .countSeen queriedAt 0
      case isFalse => exact .countQuiet queriedAt

theorem monitorStep_inv (h : s.monitorStep event = some s') :
    MonitorStep s s.monitor.phase event s' := by
  unfold monitorStep at h
  split at h
  case h_2 wakeAt hph =>
    rw [hph]
    split at h
    case isFalse => cases h
    case isTrue => split at h <;> cases h <;> constructor
  case h_5 queriedAt status hph =>
    rw [hph]
    cases h
    exact updateState_inv
  case h_6 queriedAt status old hph =>
    rw [hph]
    cases h
    cases status with
    | running | stopped => exact .firedNotifies queriedAt _ old
    | starting | stopping | unknown => refine .firedSleeps queriedAt _ old ?_ ?_ _ <;> nofun
  case h_8 hph =>
    rw [hph]
    rw [send_eq] at h
    cases h
    constructor
  case h_9 queriedAt status hph =>
    rw [hph]
    cases h
    unfold afterUpdate
    split
    case isTrue hrng =>
      subst hrng
      exact .answeredCounts queriedAt
    case isFalse hrng => exact .answeredSleeps queriedAt status hrng
  case h_10 queriedAt players hph =>
    rw [hph]
    cases h
    exact checkAutoShutdown_inv
  case h_12 phase hph =>
    rw [hph]
    unfold monitorStopStep at h
    split at h
    case h_2 old result => cases result <;> cases h <;> constructor
    case h_5 => cases h
    all_goals
      cases h
      constructor
  case h_13 => cases h
  all_goals
    rename_i hph
    rw [hph]
    cases h
    constructor

/-- What an event does to a server, up to the number of its steps. -/
inductive EventStep (s : ManagedServer) : Event → ManagedServer → Prop where
  | tick (ms) : EventStep s (.tick ms) { s with now := s.now + ms }
  | ensureOnline : s.entry.state = .online →
    EventStep s .ensureStarted (s.atOnce .ensureStarted (.ok ()))
  | ensureRefused (e) : EventStep s .ensureStarted (s.atOnce .ensureStarted (.error e))
  | ensureJoins : s.entry.state = .starting →
    EventStep s .ensureStarted
      ({ s with entry.waiters := s.entry.waiters ++ [s.count] }.enter (.ensureWait s.now))
  | ensureWakes : s.entry.state.wakes = true →
    EventStep s .ensureStarted
      ({ s with entry.state := .starting, entry.waiters := s.entry.waiters ++ [s.count] }.enter
        (.ensureFire s.entry.state))
  | startServer : s.entry.state.isStartable = true →
    EventStep s .startServer ((s.setState .starting).enter (.startFire s.entry.state))
  | startRefused (e) : EventStep s .startServer (s.atOnce .startServer (.error e))
  | stopServer : EventStep s .stopServer s.stopServer
  | initialHealthCheck : EventStep s .initialHealthCheck (s.enter .healthProvider)
  | startMonitoring : s.monitor.phase = .idle → EventStep s .startMonitoring (s.sleep false)
  | call (id call) (event : CallEvent) (s' : ManagedServer) :
    s.calls.lookup id = some call → CallStep s id call event s' → EventStep s (.call id event) s'
  | monitor (event : MonitorEvent) (s' : ManagedServer) :
    MonitorStep s s.monitor.phase event s' → EventStep s (.monitor event) s'

theorem ensureStarted_inv : EventStep s .ensureStarted s.ensureStarted := by
  unfold ensureStarted
  split
  case h_1 hst => exact .ensureOnline hst
  case h_2 => exact .ensureRefused _
  case h_3 hst => exact .ensureJoins hst
  all_goals exact .ensureWakes (by simp only [*]; rfl)

theorem startServer_inv : EventStep s .startServer s.startServer := by
  unfold startServer
  split
  case isTrue hcan => exact .startServer hcan
  case isFalse => exact .startRefused _

theorem step_inv {event} (h : s.step event = some s') : EventStep s event s' := by
  unfold step at h
  split at h
  case h_2 => cases h; exact ensureStarted_inv
  case h_3 => cases h; exact startServer_inv
  case h_6 =>
    split at h <;> cases h
    case isTrue hidle => exact .startMonitoring hidle
  case h_7 id event =>
    obtain ⟨call, hcall, hstep⟩ := Option.bind_eq_some_iff.mp h
    exact .call id call event s' hcall (callStep_inv hstep)
  case h_8 event => exact .monitor event s' (monitorStep_inv h)
  all_goals
    cases h
    constructor

theorem next_inv {event} (h : s.next event = some s') :
    ∃ s₁, EventStep s event s₁ ∧ s' = { s₁ with history.steps := s.history.steps + 1 } := by
  obtain ⟨s₁, hstep, rfl⟩ := Option.map_eq_some_iff.mp h
  exact ⟨s₁, step_inv hstep, rfl⟩

/-- A step of the monitoring task leaves the calls alone, and none of them returns. -/
theorem MonitorStep.frame {phase} (h : MonitorStep s phase event s') :
    s'.calls = s.calls ∧ s'.count = s.count ∧ s'.history.returned = s.history.returned := by
  cases h <;> exact ⟨rfl, rfl, rfl⟩

end ManagedServer

end ServerManager

end Infrarust
