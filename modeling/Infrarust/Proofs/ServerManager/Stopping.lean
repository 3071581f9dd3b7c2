import Infrarust.Proofs.ServerManager.Waiters

/-!
# `Infrarust.Proofs.ServerManager.Stopping`: a server while it is being stopped

`stop_server` sets the state to Stopping, waits for the provider without the lock, and then sets
the state to Sleeping. Nothing keeps the others away in between. A poll that finds the server
still running sets the state back to Online, and `ensure_started` lets players in
(`polled_online_while_stopping`).

`Uninterrupted` is the condition under which a stop is not disturbed, and `stays_stopping` says
that then the state stays Stopping, and `ensure_started` returns no Ok, until the provider has
returned. An Ok may also have been on its way when the stop began, so the invariant is about those
as well (`NoOk`).
-/

set_option autoImplicit false

namespace Infrarust.ServerManager

open Machine Dict

/-- `provider.stop` has not returned. -/
def StopPhase.underWay : StopPhase → Bool
  | .fire _ | .provider _ => true
  | _ => false

def Call.stops : Call → Bool
  | .stop phase => phase.underWay
  | _ => false

def MonitorPhase.stops : MonitorPhase → Bool
  | .stop phase => phase.underWay
  | _ => false

/-- The monitor is about to tell waiters that the server is online. -/
def MonitorPhase.tellsOk : MonitorPhase → Bool
  | .fire _ status _ | .notify _ status | .answer _ status _ => status = .running
  | _ => false

namespace ManagedServer

section Definitions

variable (s : ManagedServer)

/-- A `stop_server` has set the state, and its `provider.stop` has not returned. -/
def StopUnderWay : Prop :=
  s.monitor.phase.stops = true ∨ ∃ id call, s.calls.lookup id = some call ∧ call.stops = true
deriving Decidable

/-- No Ok is on its way to a waiter. -/
def NoOk : Prop :=
  s.monitor.phase.tellsOk = false ∧
    ∀ id result, s.answers.lookup id = some result → result.isOk = false
deriving Decidable

/-- When a stop begins, no Ok is on its way to a waiter. Until the provider has returned, no
status other than Stopping arrives, no start fails, and no other stop returns. -/
def Uninterrupted : Event → Prop
  | .stopServer => s.NoOk
  | .call id (.started (.error _)) => s.StopUnderWay → s.calls.lookup id ≠ some .ensureProvider
  | .call id (.stopped _) => s.monitor.phase.stops = false ∧
      ∀ other call, s.calls.lookup other = some call → call.stops = true → other = id
  | .call _ (.checked (.ok status)) => s.StopUnderWay → status = .stopping
  | .monitor (.checked (.ok status)) => s.StopUnderWay → status = .stopping
  | .monitor .stopServer => s.NoOk
  | .monitor (.stopped _) => ∀ id call, s.calls.lookup id = some call → call.stops = false
  | _ => True

instance : DecidablePred s.Uninterrupted := fun event => by
  unfold Uninterrupted
  rcases event with _ | _ | _ | _ | _ | _ | ⟨_, _ | (_ | _) | _ | (_ | _) | _⟩ |
    (_ | _ | _ | (_ | _) | _ | _ | _ | _ | _ | _) <;> infer_instance

def UninterruptedStep (event : Event) (s' : ManagedServer) : Prop :=
  s.Uninterrupted event ∧ s.next event = some s'

def StopInv : Prop := s.StopUnderWay → s.entry.state = .stopping ∧ s.NoOk

end Definitions

variable {s s' : ManagedServer} {id : Nat}

/-- A step that begins no stop, and in the middle of one changes neither the state nor what is on
its way. -/
theorem StopInv.keep (hs : s.StopInv) (hbegins : s'.StopUnderWay → s.StopUnderWay)
    (hst : s.StopUnderWay → s'.entry.state = s.entry.state)
    (hok : s.StopUnderWay → s.NoOk → s'.NoOk) : s'.StopInv := by
  intro h
  have hstop := hbegins h
  obtain ⟨hstopping, hno⟩ := hs hstop
  exact ⟨(hst hstop).trans hstopping, hok hstop hno⟩

/-! ### Calls -/

variable {call : Call} {event : CallEvent}

theorem stopUnderWay_of_goOn {call' : Call} (hcall : s.calls.lookup id = some call)
    (hstops : call'.stops = true → call.stops = true) (h : (s.goOn id call').StopUnderWay) :
    s.StopUnderWay := by
  obtain h | ⟨n, c, hc, hstop⟩ := h
  · exact .inl h
  · obtain ⟨rfl, rfl⟩ | ⟨-, hc⟩ := lookup_insert_inv hc
    · exact .inr ⟨n, call, hcall, hstops hstop⟩
    · exact .inr ⟨n, c, hc, hstop⟩

theorem stopUnderWay_of_leave (h : (s.leave id).StopUnderWay) : s.StopUnderWay := by
  obtain h | ⟨n, c, hc, hstop⟩ := h
  · exact .inl h
  · exact .inr ⟨n, c, (lookup_erase_inv hc).2, hstop⟩

theorem stopUnderWay_of_enter (hstops : call.stops = false) (h : (s.enter call).StopUnderWay) :
    s.StopUnderWay := by
  obtain h | ⟨n, c, hc, hstop⟩ := h
  · exact .inl h
  · obtain ⟨-, rfl⟩ | ⟨-, hc⟩ := lookup_insert_inv hc
    · rw [hstops] at hstop
      cases hstop
    · exact .inr ⟨n, c, hc, hstop⟩

theorem NoOk.leave (h : s.NoOk) : (s.leave id).NoOk :=
  ⟨h.1, fun n result hres => h.2 n result (lookup_erase_inv hres).2⟩

theorem NoOk.send {waiter : Nat} {result : Except ServerManagerError Unit} (h : s.NoOk)
    (hres : result.isOk = false) : NoOk { s with answers := s.sent waiter result } := by
  refine ⟨h.1, fun n r (hr : (s.sent waiter result).lookup n = some r) => ?_⟩
  unfold sent at hr
  split at hr
  case isFalse => exact h.2 n r hr
  case isTrue => exact forall_insert h.2 hres n r hr

/-- The last `stop_server` gets its answer. -/
theorem not_stopUnderWay_of_goOn (hstops : call.stops = false)
    (hmon : s.monitor.phase.stops = false)
    (hothers : ∀ other c, s.calls.lookup other = some c → c.stops = true → other = id) :
    ¬(s.goOn id call).StopUnderWay := by
  rintro (h | ⟨n, c, hc, hstop⟩)
  · exact absurd (h.symm.trans hmon) (by decide)
  · obtain ⟨-, rfl⟩ | ⟨hn, hc⟩ := lookup_insert_inv hc
    · exact absurd (hstop.symm.trans hstops) (by decide)
    · exact hn (hothers n c hc hstop)

theorem stopInv_callStep (hs : s.StopInv) (hcall : s.calls.lookup id = some call)
    (hcalm : s.Uninterrupted (.call id event)) (h : CallStep s id call event s') :
    s'.StopInv := by
  have hgoOn : ∀ {call' : Call}, (call'.stops = true → call.stops = true) →
      (s.goOn id call').StopInv := fun hstops =>
    hs.keep (stopUnderWay_of_goOn hcall hstops) (fun _ => rfl) fun _ hno => hno
  have hleave : (s.leave id).StopInv :=
    hs.keep stopUnderWay_of_leave (fun _ => rfl) fun _ hno => hno.leave
  cases h with
  | ensureStarted =>
    have hwaits : (s.goOn id (.ensureWait s.now)).StopInv := hgoOn nofun
    exact hwaits
  | ensureFailed e =>
    refine hs.keep (stopUnderWay_of_goOn hcall nofun) (fun hstop => ?_)
      fun _ hno => hno
    exact absurd hcall (hcalm hstop)
  | ensureAnswered waiter left e =>
    have hstops : (Call.ensureAnswer left e).stops = true →
        (Call.ensureAnswer (waiter :: left) e).stops = true := nofun
    exact hs.keep (stopUnderWay_of_goOn hcall hstops) (fun _ => rfl) fun _ hno => hno.send rfl
  | stopFired old => exact hgoOn fun _ => rfl
  | stopFailed | stopSucceeded =>
    -- it was the only one
    exact fun h => absurd h (not_stopUnderWay_of_goOn rfl hcalm.1 hcalm.2)
  | healthSame status hsame =>
    refine hs.keep stopUnderWay_of_leave (fun _ => hsame.symm) fun _ hno => hno.leave
  | healthChanged status hchg =>
    have hstops : (Call.healthFire s.entry.state status.toState).stops = true →
        Call.healthProvider.stops = true := nofun
    refine hs.keep (stopUnderWay_of_goOn hcall hstops) (fun hstop => ?_) fun _ hno => hno
    obtain rfl := hcalm hstop
    exact (hs hstop).1.symm
  | ensureFired | ensureFiredCrashed | startFired => exact hgoOn nofun
  | ensureRejected | ensureReceived | ensureTimedOut | startReturned | stopRestored | stopStopped
  | healthFailed | healthFired => exact hleave

/-! ### The monitoring task -/

/-- The task goes on, and begins no stop. -/
theorem StopInv.moveOn {monitor : Monitor} {history} {lastPlayerSeen : Option Nat}
    {waiters : List Nat} (hs : s.StopInv)
    (hbegins : monitor.phase.stops = true → s.monitor.phase.stops = true)
    (htells : monitor.phase.tellsOk = true → s.monitor.phase.tellsOk = true) :
    StopInv { s with
      monitor, history, entry.lastPlayerSeen := lastPlayerSeen, entry.waiters := waiters } := by
  refine hs.keep (Or.imp_left hbegins) (fun _ => rfl) fun _ hno => ⟨?_, hno.2⟩
  exact Bool.eq_false_iff.mpr fun h => Bool.false_ne_true (hno.1.symm.trans (htells h))

theorem stopInv_monitorStep {event} (hs : s.StopInv) (hcalm : s.Uninterrupted (.monitor event))
    (h : MonitorStep s s.monitor.phase event s') : s'.StopInv := by
  generalize hph : s.monitor.phase = phase at h
  have htells : phase.tellsOk = true → s.monitor.phase.tellsOk = true := by
    rw [hph]
    exact id
  cases h with
  | changed queriedAt status hchg =>
    rintro (h | h)
    · cases h
    · -- the status is Stopping then, which is no change
      have hstop : s.StopUnderWay := .inr h
      obtain rfl := hcalm hstop
      exact absurd (hs hstop).1 hchg
  | firedNotifies | notify => exact hs.moveOn nofun htells
  | answer queriedAt status waiter left =>
    refine hs.keep ?_ (fun _ => rfl) fun _ hno => ?_
    · rintro (h | h)
      · cases h
      · exact .inr h
    · -- the task is not about to tell anybody Ok
      have hfalse : status ≠ .running := by
        rintro rfl
        exact Bool.false_ne_true (hno.1.symm.trans (htells rfl))
      have herr : (s.notice status).isOk = false := by
        unfold notice
        rw [if_neg hfalse]
        rfl
      exact ⟨decide_eq_false hfalse, (hno.send herr).2⟩
  | stopServer queriedAt => exact fun _ => ⟨rfl, rfl, hcalm.2⟩
  | stopFired old => exact hs.moveOn (fun _ => by rw [hph]; rfl) nofun
  | stopFailed | stopSucceeded =>
    rintro (h | ⟨id, call, hcall, hstop⟩)
    · cases h
    · exact absurd (hstop.symm.trans (hcalm id call hcall)) (by decide)
  | _ => exact hs.moveOn nofun nofun

/-! ### Runs -/

theorem uninterruptedStep_inv {event} (h : s.UninterruptedStep event s')
    (hs : s.StopInv) : s'.StopInv := by
  obtain ⟨hcalm, hnext⟩ := h
  obtain ⟨s₁, hstep, rfl⟩ := next_inv hnext
  suffices hs₁ : s₁.StopInv from hs₁
  cases hstep with
  | tick | ensureOnline | ensureRefused | startRefused => exact hs
  | ensureJoins | initialHealthCheck =>
    exact hs.keep (stopUnderWay_of_enter rfl) (fun _ => rfl) fun _ hno => hno
  | ensureWakes hwakes =>
    intro h
    have hstop : s.StopUnderWay := stopUnderWay_of_enter (s := { s with
      entry.state := .starting, entry.waiters := s.entry.waiters ++ [s.count] }) rfl h
    rw [(hs hstop).1] at hwakes
    cases hwakes
  | startServer hcan =>
    intro h
    have hstop : s.StopUnderWay := stopUnderWay_of_enter (s := s.setState .starting) rfl h
    rw [(hs hstop).1] at hcan
    cases hcan
  | stopServer =>
    exact fun _ => ⟨rfl, hcalm⟩
  | startMonitoring =>
    exact hs.moveOn nofun nofun
  | call id call event s₁ hcall hstep =>
    exact stopInv_callStep hs hcall hcalm hstep
  | monitor event s₁ hstep => exact stopInv_monitorStep hs hcalm hstep

/-! ### Results of `ensure_started` -/

/-- The result of `ensure_started` is Ok only if the server is online or an Ok was sent. -/
theorem ensured_of_callStep {n} (h : CallStep s id call event s')
    (hmem : (.ensureStarted, n, .ok ()) ∈ s'.history.returned) :
    (.ensureStarted, n, .ok ()) ∈ s.history.returned ∨ s.answers.lookup id = some (.ok ()) := by
  have hfinish : ∀ {operation : Operation} {result : Except ServerManagerError Unit},
      (.ensureStarted, n, .ok ()) ∈ (s.finish operation id result).history.returned →
      (operation = .ensureStarted ∧ result = .ok ()) ∨
        (.ensureStarted, n, .ok ()) ∈ s.history.returned := by
    intro operation result h
    obtain h | h := List.mem_cons.mp h
    · cases h
      exact .inl ⟨rfl, rfl⟩
    · exact .inr h
  cases h with
  | ensureReceived since result hres =>
    obtain ⟨-, rfl⟩ | h := hfinish hmem
    · exact .inr hres
    · exact .inl h
  | ensureRejected | ensureTimedOut =>
    exact .inl ((hfinish hmem).resolve_left fun h => nomatch h.2)
  | startReturned | stopRestored | stopStopped =>
    exact .inl ((hfinish hmem).resolve_left fun h => nomatch h.1)
  | _ => exact .inl hmem

theorem ensured_of_next {event n} (h : s.next event = some s')
    (hmem : (.ensureStarted, n, .ok ()) ∈ s'.history.returned) :
    (.ensureStarted, n, .ok ()) ∈ s.history.returned ∨ s.entry.state = .online ∨
      ∃ id, s.answers.lookup id = some (.ok ()) := by
  obtain ⟨s₁, hstep, rfl⟩ := next_inv h
  replace hmem : (.ensureStarted, n, .ok ()) ∈ s₁.history.returned := hmem
  cases hstep with
  | ensureOnline hst => exact .inr (.inl hst)
  | ensureRefused | startRefused =>
    obtain h | h := List.mem_cons.mp hmem
    · cases h
    · exact .inl h
  | call id call event s₁ hcall hstep =>
    obtain h | h := ensured_of_callStep hstep hmem
    · exact .inl h
    · exact .inr (.inr ⟨id, h⟩)
  | monitor event s₁ hstep =>
    rw [hstep.frame.2.2] at hmem
    exact .inl hmem
  | _ => exact .inl hmem

/-- In a run in which no stop is interrupted, the server is Stopping from the moment `stop_server`
has said so until `provider.stop` has returned, and no step in between returns Ok to a caller of
`ensure_started`. -/
theorem stays_stopping {serverId : String} {shutdownAfter : Option Nat}
    {startTimeout pollInterval : Nat} {events : List Event}
    (hrun : Run UninterruptedStep (new serverId shutdownAfter startTimeout pollInterval)
      events s)
    (hstop : s.StopUnderWay) :
    s.entry.state = .stopping ∧
    ∀ event s', s.next event = some s' → ∀ id, (.ensureStarted, id, .ok ()) ∈ s'.history.returned →
      (.ensureStarted, id, .ok ()) ∈ s.history.returned := by
  have hs : s.StopInv := by
    refine hrun.invariant (fun _ _ _ hstep => uninterruptedStep_inv hstep) ?_
    rintro (h | ⟨id, call, h, -⟩) <;> cases h
  obtain ⟨hstopping, hno⟩ := hs hstop
  refine ⟨hstopping, fun event s' hnext id hmem => ?_⟩
  obtain h | h | ⟨n, h⟩ := ensured_of_next hnext hmem
  · exact h
  · rw [hstopping] at h
    cases h
  · cases hno.2 n _ h

/-! ### A stop that a poll interrupts, and one that it does not -/

/-- A poll finds the server running, and the next poll has asked the provider when the server is
stopped. -/
def stoppedWhilePolled : List Event :=
  .startMonitoring :: poll .running ++
    [.monitor .notify, .monitor .answer, .monitor (.count 0), .tick 30000, .monitor .wake,
      .monitor .query, .stopServer, .call 0 .fired]

/-- The provider has answered the poll before it stops the server. The server is Online again
while it is being stopped, and a player is let in. -/
theorem polled_online_while_stopping :
    ∃ s, Run Step survival
        (stoppedWhilePolled ++ [.monitor (.checked (.ok .running)), .ensureStarted]) s ∧
      s.StopUnderWay ∧ s.entry.state = .online ∧
      s.history.returned = [(.ensureStarted, 1, .ok ())] := by
  exact exists_run (fun _ _ _ h => h) (by decide)

/-- A provider that says the server is stopping does no harm. -/
theorem stays_stopping_polled :
    ∃ s, Run UninterruptedStep survival
        (stoppedWhilePolled ++ [.monitor (.checked (.ok .stopping)), .ensureStarted]) s ∧
      s.StopUnderWay ∧ s.entry.state = .stopping ∧
      ∀ event s', s.next event = some s' → ∀ id,
        (.ensureStarted, id, .ok ()) ∈ s'.history.returned →
        (.ensureStarted, id, .ok ()) ∈ s.history.returned := by
  exact exists_run_guarded (P := StopUnderWay) (by decide)
    fun s hrun hstop => ⟨hstop, stays_stopping hrun hstop⟩

end ManagedServer

end Infrarust.ServerManager
