import Infrarust.Proofs.ServerManager.Steps

/-!
# `Infrarust.Proofs.ServerManager.Waiters`: who answers the waiters

A call of `ensure_started` that finds the server asleep sets the state to Starting and becomes a
waiter. The waiters get their results from the monitor, once it finds the server running or
stopped, and from a call whose start fails. `stop_server`, the health check and a poll that finds
the server stopping or in an unknown state take it out of Starting and leave the waiters to their
timeouts (`waiters_left_behind`).

If these meet no waiters (`SparesWaiters`), then waiters are there only while the server is
starting, and a call that still waits when it is not has its result (`waiters_imply_starting`).
The invariant is that every call that needs a result is accounted for: it is in the list of
waiters, in a list that somebody is working through, or has its result.
-/

set_option autoImplicit false

namespace Infrarust.ServerManager

open List Machine AList Dict

/-- The call of `ensure_started` needs a result. -/
def Call.awaits : Call → Bool
  | .ensureFire _ | .ensureProvider | .ensureWait _ => true
  | _ => false

/-- The waiters that the call has taken and not answered. -/
def Call.left : Call → List Nat
  | .ensureFireCrashed waiters _ => waiters
  | .ensureAnswer left _ => left
  | _ => []

/-- The waiters that the monitor has taken and not answered. -/
def MonitorPhase.left : MonitorPhase → List Nat
  | .answer _ _ left => left
  | _ => []

/-- The monitor has changed the state and is about to take the waiters. -/
def MonitorPhase.notifies : MonitorPhase → Bool
  | .fire _ status _ => status = .running || status = .stopped
  | .notify _ _ => true
  | _ => false

/-- The call waits for its result. -/
def Call.atRest : Call → Bool
  | .ensureWait _ => true
  | _ => false

def MonitorPhase.atRest : MonitorPhase → Bool
  | .idle | .sleep _ => true
  | _ => false

namespace ManagedServer

section Definitions

variable (s : ManagedServer)

/-- No operation is in the middle of its steps. A call may wait for its result. -/
def Quiescent : Prop :=
  s.monitor.phase.atRest = true ∧ ∀ id call, s.calls.lookup id = some call → call.atRest = true
deriving Decidable

/-- There are no waiters, or the monitor is about to take them. -/
def Unwaited : Prop := s.entry.waiters = [] ∨ s.monitor.phase.notifies = true
deriving Decidable

/-- An operation that takes the server out of Starting and tells no waiters meets none. -/
def SparesWaiters : Event → Prop
  | .stopServer => s.Unwaited
  | .call _ (.stopped _) => s.Unwaited
  | .call _ (.checked (.ok status)) => status = .starting ∨ s.Unwaited
  | .monitor (.checked (.ok status)) =>
    status = .stopping ∨ status = .unknown → s.entry.waiters = []
  | .monitor .stopServer => s.entry.waiters = []
  | .monitor (.stopped _) => s.entry.waiters = []
  | _ => True

instance : DecidablePred s.SparesWaiters := fun event => by
  unfold SparesWaiters
  split <;> infer_instance

def Step (event : Event) (s' : ManagedServer) : Prop := s.next event = some s'

def SparingStep (event : Event) (s' : ManagedServer) : Prop :=
  s.SparesWaiters event ∧ s.next event = some s'

/-- Somebody is to answer the call, or it has its result. -/
def Accounted (id : Nat) : Prop :=
  id ∈ s.entry.waiters ∨ id ∈ s.monitor.phase.left ∨
    (∃ other call, s.calls.lookup other = some call ∧ id ∈ call.left) ∨
    (s.answers.lookup id).isSome = true

structure WaitersInv : Prop where
  fresh : ∀ id call, s.calls.lookup id = some call → id < s.count
  waited : s.Unwaited ∨ s.entry.state = .starting
  accounted : ∀ id call, s.calls.lookup id = some call → call.awaits = true → s.Accounted id

end Definitions

variable {s s' : ManagedServer} {id : Nat}

/-! ### Calls -/

/-- A call is still accounted for after another call has gone on, if that one keeps the call in
its list or has answered it. -/
theorem Accounted.goOn {call call' : Call} {other} (hcall : s.calls.lookup other = some call)
    (hleft : id ∈ call.left → id ∈ call'.left ∨ (s.answers.lookup id).isSome = true)
    (h : s.Accounted id) : (s.goOn other call').Accounted id := by
  obtain h | h | ⟨n, c, hc, hmem⟩ | h := h
  · exact .inl h
  · exact .inr (.inl h)
  · by_cases hn : n = other
    · subst hn
      cases hcall.symm.trans hc
      obtain hmem | hanswered := hleft hmem
      · exact .inr (.inr (.inl ⟨n, call', lookup_insert _, hmem⟩))
      · exact .inr (.inr (.inr hanswered))
    · exact .inr (.inr (.inl ⟨n, c, (lookup_insert_ne hn).trans hc, hmem⟩))
  · exact .inr (.inr (.inr h))

namespace WaitersInv

variable {call : Call} {operation : Operation} {result : Except ServerManagerError Unit}
  {state : ServerState} {lastPlayerSeen : Option Nat} {monitor : Monitor} {history : History}

section

variable (hs : s.WaitersInv)

include hs

/-- A call goes on. Whom it no longer has to answer has the result, or has given up. -/
theorem goOn {call' : Call} (hcall : s.calls.lookup id = some call)
    (hawaits : call'.awaits = true → call.awaits = true)
    (hleft : ∀ n ∈ call.left, (s.calls.lookup n).isSome = true →
      n ∈ call'.left ∨ (s.answers.lookup n).isSome = true) :
    (s.goOn id call').WaitersInv where
  fresh := forall_insert hs.fresh (hs.fresh id call hcall)
  waited := hs.waited
  accounted n c hc hneeds := by
    obtain ⟨rfl, rfl⟩ | ⟨-, hc⟩ := lookup_insert_inv hc
    · exact (hs.accounted n call hcall (hawaits hneeds)).goOn hcall
        fun hmem => hleft n hmem (by rw [hcall]; rfl)
    · exact (hs.accounted n c hc hneeds).goOn hcall fun hmem => hleft n hmem (by rw [hc]; rfl)

/-- A call that has answered everybody is over. -/
theorem leave (hcall : s.calls.lookup id = some call) (hleft : call.left = []) :
    (s.leave id).WaitersInv where
  fresh n c hc := hs.fresh n c (lookup_erase_inv hc).2
  waited := hs.waited
  accounted n c hc hneeds := by
    obtain ⟨hn, hc⟩ := lookup_erase_inv hc
    obtain h | h | ⟨m, c', hc', hmem⟩ | h := hs.accounted n c hc hneeds
    · exact .inl h
    · exact .inr (.inl h)
    · refine .inr (.inr (.inl ⟨m, c', ?_, hmem⟩))
      -- whoever has it to answer is not the call that leaves
      have hm : m ≠ id := by
        rintro rfl
        cases hcall.symm.trans hc'
        rw [hleft] at hmem
        cases hmem
      exact (lookup_erase_ne hm).trans hc'
    · refine .inr (.inr (.inr ?_))
      show ((s.answers.erase id).lookup n).isSome = true
      rwa [lookup_erase_ne hn]

theorem finish (hcall : s.calls.lookup id = some call) (hleft : call.left = []) :
    (s.finish operation id result).WaitersInv :=
  have hleave := hs.leave hcall hleft
  { hleave with }

/-- A new call, which does not wait or is among the waiters. -/
theorem enter (hawaits : call.awaits = true → s.count ∈ s.entry.waiters) :
    (s.enter call).WaitersInv where
  fresh := forall_insert (fun n c hc => Nat.lt_succ_of_lt (hs.fresh n c hc)) (Nat.lt_succ_self _)
  waited := hs.waited
  accounted n c hc hneeds := by
    obtain ⟨rfl, rfl⟩ | ⟨-, hc⟩ := lookup_insert_inv hc
    · exact .inl (hawaits hneeds)
    · obtain h | h | ⟨m, c', hc', hmem⟩ | h := hs.accounted n c hc hneeds
      · exact .inl h
      · exact .inr (.inl h)
      · -- the number of the new call is not in use
        have hm : m ≠ s.count := Nat.ne_of_lt (hs.fresh m c' hc')
        exact .inr (.inr (.inl ⟨m, c', (lookup_insert_ne hm).trans hc', hmem⟩))
      · exact .inr (.inr (.inr h))

/-- A call that is over at once. -/
theorem atOnce : (s.atOnce operation result).WaitersInv where
  fresh n c hc := Nat.lt_succ_of_lt (hs.fresh n c hc)
  waited := hs.waited
  accounted := hs.accounted

theorem setState (h : s.Unwaited ∨ state = .starting) :
    WaitersInv { s with entry.state := state, entry.lastPlayerSeen := lastPlayerSeen } :=
  ⟨hs.fresh, h, hs.accounted⟩

/-- One more waiter, who finds the server starting or starts it. -/
theorem addWaiter {n : Nat} :
    WaitersInv { s with entry.state := .starting, entry.waiters := s.entry.waiters ++ [n] } where
  fresh := hs.fresh
  waited := .inr rfl
  accounted m c hc hneeds := by
    obtain h | h := hs.accounted m c hc hneeds
    · exact .inl (mem_append_left _ h)
    · exact .inr h

/-- The waiters are taken by somebody who will answer them. -/
theorem takeWaiters (htaken : ∀ n ∈ s.entry.waiters, n ∈ s.monitor.phase.left ∨
      ∃ other call, s.calls.lookup other = some call ∧ n ∈ call.left) :
    WaitersInv { s with entry.state := state, entry.waiters := [] } where
  fresh := hs.fresh
  waited := .inl (.inl rfl)
  accounted n c hc hneeds := by
    obtain h | h := hs.accounted n c hc hneeds
    · obtain h | h := htaken n h
      · exact .inr (.inl h)
      · exact .inr (.inr (.inl h))
    · exact .inr h

/-- A result is sent. -/
theorem send {waiter : Nat} : WaitersInv { s with answers := s.sent waiter result } := by
  refine ⟨hs.fresh, hs.waited, fun n c hc hneeds => ?_⟩
  obtain h | h | h | h := hs.accounted n c hc hneeds
  · exact .inl h
  · exact .inr (.inl h)
  · exact .inr (.inr (.inl h))
  · refine .inr (.inr (.inr ?_))
    show ((s.sent waiter result).lookup n).isSome = true
    unfold sent
    split
    · rw [lookup_insert_eq]
      split
      · rfl
      · exact h
    · exact h

/-- The task goes on. Whom it no longer has to answer has the result, or has given up. -/
theorem setMonitor (hleft : ∀ n ∈ s.monitor.phase.left, (s.calls.lookup n).isSome = true →
      n ∈ monitor.phase.left ∨ (s.answers.lookup n).isSome = true)
    (hnotifies : s.monitor.phase.notifies = true → monitor.phase.notifies = true) :
    WaitersInv { s with monitor, history, entry.lastPlayerSeen := lastPlayerSeen } where
  fresh := hs.fresh
  waited := by
    obtain (h | h) | h := hs.waited
    · exact .inl (.inl h)
    · exact .inl (.inr (hnotifies h))
    · exact .inr h
  accounted n c hc hneeds := by
    obtain h | h | h | h := hs.accounted n c hc hneeds
    · exact .inl h
    · obtain h | h := hleft n h (by rw [hc]; rfl)
      · exact .inr (.inl h)
      · exact .inr (.inr (.inr h))
    · exact .inr (.inr (.inl h))
    · exact .inr (.inr (.inr h))

/-- The task goes on from a phase in which it has nobody to answer. -/
theorem moveOn (hleft : s.monitor.phase.left = []) (hnotifies : s.monitor.phase.notifies = false) :
    WaitersInv { s with monitor, history, entry.lastPlayerSeen := lastPlayerSeen } := by
  refine hs.setMonitor (fun n hn _ => ?_) fun h => ?_
  · rw [hleft] at hn
    cases hn
  · rw [hnotifies] at h
    cases h

end

end WaitersInv

/-- A waiter that has not given up has its result after it was sent. -/
theorem answered_of_sent {waiter result} (h : (s.calls.lookup waiter).isSome = true) :
    ((s.sent waiter result).lookup waiter).isSome = true := by
  unfold sent
  rw [if_pos h, lookup_insert]
  rfl

/-! ### Steps -/

theorem waitersInv_health {status : ProviderStatus} (hs : s.WaitersInv) (hspr : status = .starting ∨ s.Unwaited) :
    (s.setState status.toState).WaitersInv := by
  obtain rfl | hspr := hspr
  · exact hs.setState (.inr rfl)
  · exact hs.setState (.inl hspr)

theorem waitersInv_callStep {call : Call} {event} (hs : s.WaitersInv)
    (hcall : s.calls.lookup id = some call) (hspr : s.SparesWaiters (.call id event))
    (h : CallStep s id call event s') : s'.WaitersInv := by
  -- a call that answers nobody in this step
  have hkeep : ∀ {call' : Call}, (call'.awaits = true → call.awaits = true) →
      call.left ⊆ call'.left → (s.goOn id call').WaitersInv :=
    fun hawaits hleft => hs.goOn hcall hawaits fun n hn _ => .inl (hleft hn)
  cases h with
  | ensureFired old => exact hkeep (fun _ => rfl) (List.Subset.refl _)
  | ensureStarted =>
    have hwaits : (s.goOn id (.ensureWait s.now)).WaitersInv :=
      hkeep (fun _ => rfl) (List.Subset.refl _)
    exact { hwaits with }
  | ensureFailed e =>
    have htaken : (s.goOn id (.ensureFireCrashed s.entry.waiters e)).WaitersInv :=
      hkeep nofun (nil_subset _)
    exact htaken.takeWaiters fun n hn => .inr ⟨id, _, lookup_insert _, hn⟩
  | ensureFiredCrashed | startFired | stopFired =>
    exact hkeep nofun (List.Subset.refl _)
  | ensureAnswered waiter left e =>
    refine hs.send.goOn hcall nofun fun n hn halive => ?_
    obtain rfl | hn := mem_cons.mp hn
    · exact .inr (answered_of_sent halive)
    · exact .inl hn
  | stopFailed | stopSucceeded =>
    exact (hs.setState (.inl hspr)).goOn hcall nofun
      fun n hn => (not_mem_nil hn).elim
  | healthSame status _ => exact (waitersInv_health hs hspr).leave hcall rfl
  | healthChanged status _ =>
    exact (waitersInv_health hs hspr).goOn hcall nofun
      fun n hn => (not_mem_nil hn).elim
  | ensureRejected | ensureReceived | ensureTimedOut | startReturned | stopRestored
  | stopStopped => exact hs.finish hcall rfl
  | healthFailed | healthFired => exact hs.leave hcall rfl

theorem waitersInv_monitorStep {event} (hs : s.WaitersInv) (hspr : s.SparesWaiters (.monitor event))
    (h : MonitorStep s s.monitor.phase event s') : s'.WaitersInv := by
  generalize hph : s.monitor.phase = phase at h
  have hleft : phase.left = [] → s.monitor.phase.left = [] := by rw [hph]; exact id
  have hquiet : phase.notifies = false → s.monitor.phase.notifies = false := by
    rw [hph]
    exact id
  cases h with
  | changed queriedAt status _ =>
    have hmoved : WaitersInv { s with monitor.phase := .fire queriedAt status s.entry.state } :=
      hs.moveOn (hleft rfl) (hquiet rfl)
    refine ⟨hs.fresh, ?_, hmoved.accounted⟩
    cases status with
    | running | stopped => exact .inl (.inr rfl)
    | starting => exact .inr rfl
    | stopping => exact .inl (.inl (hspr (.inl rfl)))
    | unknown => exact .inl (.inl (hspr (.inr rfl)))
  | firedNotifies queriedAt status old =>
    refine hs.setMonitor (fun n hn _ => ?_) fun _ => rfl
    rw [hleft rfl] at hn
    cases hn
  | firedSleeps queriedAt status old hrng hstop =>
    refine hs.moveOn (hleft rfl) (hquiet ?_)
    exact Bool.or_eq_false_iff.mpr ⟨decide_eq_false hrng, decide_eq_false hstop⟩
  | notify queriedAt status =>
    refine ⟨hs.fresh, .inl (.inl rfl), fun n c hc hneeds => ?_⟩
    obtain h | h | h | h := hs.accounted n c hc hneeds
    · exact .inr (.inl h)
    · rw [hleft rfl] at h
      cases h
    · exact .inr (.inr (.inl h))
    · exact .inr (.inr (.inr h))
  | answer queriedAt status waiter left =>
    refine hs.send.setMonitor (fun n hn halive => ?_) fun h => ?_
    · rw [hph] at hn
      obtain rfl | hn := mem_cons.mp hn
      · exact .inr (answered_of_sent halive)
      · exact .inl hn
    · rw [hquiet rfl] at h
      cases h
  | stopServer | stopFailed | stopSucceeded =>
    exact (hs.setState (.inl (.inl hspr))).moveOn (hleft rfl) (hquiet rfl)
  | _ => exact hs.moveOn (hleft rfl) (hquiet rfl)

/-! ### Runs -/

theorem sparingStep_inv {event} (h : s.SparingStep event s') (hs : s.WaitersInv) :
    s'.WaitersInv := by
  obtain ⟨hspr, hnext⟩ := h
  obtain ⟨s₁, hstep, rfl⟩ := next_inv hnext
  -- the number of steps plays no part
  suffices hs₁ : s₁.WaitersInv from { hs₁ with }
  cases hstep with
  | tick ms =>
    exact { hs with }
  | ensureJoins hst =>
    have hjoined := hs.addWaiter (n := s.count)
    rw [← hst] at hjoined
    exact hjoined.enter fun _ => mem_append_right _ mem_cons_self
  | ensureWakes =>
    exact hs.addWaiter.enter fun _ => mem_append_right _ mem_cons_self
  | startServer =>
    exact (hs.setState (.inr rfl)).enter nofun
  | ensureOnline | ensureRefused | startRefused => exact hs.atOnce
  | stopServer =>
    exact (hs.setState (.inl hspr)).enter nofun
  | initialHealthCheck =>
    exact hs.enter nofun
  | startMonitoring hidle =>
    exact hs.moveOn (by rw [hidle]; rfl) (by rw [hidle]; rfl)
  | call id call event s₁ hcall hstep =>
    exact waitersInv_callStep hs hcall hspr hstep
  | monitor event s₁ hstep => exact waitersInv_monitorStep hs hspr hstep

/-- In a run all of whose steps spare the waiters, there are waiters only while the server is
starting, except between `update_state` and `notify_waiters` of a poll. When nothing is in the
middle of its steps and the server is not starting, every call that waits has its result. -/
theorem waiters_imply_starting {serverId : String} {shutdownAfter : Option Nat}
    {startTimeout pollInterval : Nat} {events : List Event}
    (hrun : Run SparingStep (new serverId shutdownAfter startTimeout pollInterval) events
      s) :
    (s.monitor.phase.notifies = false → s.entry.waiters ≠ [] → s.entry.state = .starting) ∧
    (s.Quiescent → s.entry.state ≠ .starting →
      ∀ id call, s.calls.lookup id = some call → (s.answers.lookup id).isSome = true) := by
  have hs : s.WaitersInv :=
    hrun.invariant (fun _ _ _ hstep => sparingStep_inv hstep)
      { fresh := nofun, waited := .inl (.inl rfl), accounted := nofun }
  have hstg : s.monitor.phase.notifies = false → s.entry.waiters ≠ [] →
      s.entry.state = .starting := by
    intro hquiet hwaiters
    refine hs.waited.resolve_left ?_
    rintro (h | h)
    · exact hwaiters h
    · rw [hquiet] at h
      cases h
  refine ⟨hstg, ?_⟩
  rintro ⟨hrest, hwait⟩ hst id call hcall
  have hrested : s.monitor.phase.left = [] ∧ s.monitor.phase.notifies = false := by
    revert hrest
    cases s.monitor.phase with
    | idle | sleep wakeAt => exact fun _ => ⟨rfl, rfl⟩
    | _ => exact nofun
  have hrests : ∀ {call : Call}, call.atRest = true → call.awaits = true ∧ call.left = [] := by
    intro call hcall
    cases call with
    | ensureWait since => exact ⟨rfl, rfl⟩
    | _ => cases hcall
  obtain h | h | ⟨other, call, hother, hmem⟩ | h :=
    hs.accounted id call hcall (hrests (hwait id call hcall)).1
  · exact absurd (hstg hrested.2 (ne_nil_of_mem h)) hst
  · rw [hrested.1] at h
    cases h
  · rw [(hrests (hwait other call hother)).2] at hmem
    cases hmem
  · exact h

/-! ### Waiters that are left, and one that is answered -/

/-- A server that is polled every five seconds while it starts, and otherwise every thirty. -/
def survival : ManagedServer := new "survival" none 120000 5000

/-- A player wakes the server, and the provider accepts. -/
def waking : List Event := [.ensureStarted, .call 0 .fired, .call 0 (.started (.ok ()))]

/-- A poll of the sleeping monitor with this status, up to its effect on the state. -/
def poll (status : ProviderStatus) : List Event :=
  [.tick 30000, .monitor .wake, .monitor .query, .monitor (.checked (.ok status)), .monitor .fired]

/-- The server is stopped while a player waits for it, or a poll does not know its state. The
player waits on, and nobody will answer them. -/
theorem waiters_left_behind :
    (∃ s, Run Step survival
      (waking ++ [.stopServer, .call 1 .fired, .call 1 (.stopped (.ok ())), .call 1 .fired]) s ∧
      s.Quiescent ∧ s.entry.waiters = [0] ∧ s.entry.state = .sleeping) ∧
    ∃ s, Run Step survival (.startMonitoring :: waking ++ poll .unknown) s ∧
      s.Quiescent ∧ s.entry.waiters = [0] ∧ s.entry.state = .unknown := by
  constructor <;> exact exists_run (fun _ _ _ h => h) (by decide)

/-- The next poll finds the server running, and the player has the result. -/
theorem waiters_imply_starting_woken :
    ∃ s, Run SparingStep survival (.startMonitoring :: waking ++ poll .running ++
        [.monitor .notify, .monitor .answer, .monitor .answer, .monitor (.count 0)]) s ∧
      s.Quiescent ∧ s.entry.state = .online ∧ (s.calls.lookup 0).isSome = true ∧
      ∀ id call, s.calls.lookup id = some call → (s.answers.lookup id).isSome = true := by
  refine exists_run_guarded
    (P := fun s => s.Quiescent ∧ s.entry.state = .online ∧ (s.calls.lookup 0).isSome = true)
    (by decide) ?_
  rintro s hrun ⟨hquiescent, hst, hcall⟩
  refine ⟨hquiescent, hst, hcall, ?_⟩
  exact (waiters_imply_starting hrun).2 hquiescent (by rw [hst]; decide)

end ManagedServer

end Infrarust.ServerManager
