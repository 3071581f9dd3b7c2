import Infrarust.Proofs.ServerManager.Stopping

/-!
# `Infrarust.Proofs.ServerManager.Listeners`: what the listeners are told

An operation that changes the state of a server releases the lock and then tells the listeners.
`next_notifies` says what a step does to this: who is telling something goes on with it until it is
done, and whoever changes the state is telling the new one afterwards. So a listener hears of every
change, and may hear of it when the state is another one again (`next_tells`).
-/

set_option autoImplicit false

namespace Infrarust.ServerManager

open AList

namespace ManagedServer

/-- The numbers of the calls are used up. -/
def Fresh (s : ManagedServer) : Prop := ∀ id call, s.calls.lookup id = some call → id < s.count

/-- What a step does to what the listeners are told. -/
structure Tells (s : ManagedServer) (event : Event) (s' : ManagedServer) : Prop where
  fresh : s'.Fresh
  keeps : ∀ source state, s.fires source = some state → event ≠ source.fired →
    s'.fires source = some state
  changes : s'.entry.state = s.entry.state ∨
    ∃ source, s.fires source = none ∧ s'.fires source = some s'.entry.state

/-- Nobody is telling the listeners anything. -/
def Silent (s : ManagedServer) : Prop := ∀ source, s.notification source = none

/-- Whoever is about to notify finds that nobody else is at it, and the state that it will
report as the old one. -/
def InOrder (s : ManagedServer) : Event → Prop
  | .ensureStarted => s.entry.state.wakes = true → s.Silent
  | .startServer => s.entry.state.isStartable = true → s.Silent
  | .stopServer | .monitor .stopServer => s.Silent
  | .call id (.started (.error _)) =>
    s.calls.lookup id = some .ensureProvider → s.entry.state = .starting ∧ s.Silent
  | .call _ (.stopped _) | .monitor (.stopped _) => s.entry.state = .stopping ∧ s.Silent
  | .call _ (.checked (.ok status)) | .monitor (.checked (.ok status)) =>
    s.entry.state ≠ status.toState → s.Silent
  | _ => True

/-- What a step does to the notification of the one that takes it. -/
inductive Notifies (s : ManagedServer) (event : Event) (s' : ManagedServer) (source : Source) :
    Prop where
  | quiet : s.heard event = [] → s'.notification source = s.notification source →
    s'.entry.state = s.entry.state → Notifies s event s' source
  | told (n : ServerState × ServerState) : event = source.fired → s.notification source = some n →
    s'.notification source = none → s'.entry.state = s.entry.state → Notifies s event s' source
  | begins (old : ServerState) : s.heard event = [] → s.notification source = none →
    s'.notification source = some (old, s'.entry.state) →
    (s.InOrder event → old = s.entry.state ∧ s.Silent) → Notifies s event s' source

variable {s s' : ManagedServer} {id : Nat} {call : Call}

theorem fires_eq (source) : s.fires source = (s.notification source).map Prod.snd := by
  have hstop (phase : StopPhase) : phase.fires = phase.notification.map Prod.snd := by
    cases phase <;> rfl
  cases source with
  | monitor =>
    show s.monitor.phase.fires = s.monitor.phase.notification.map Prod.snd
    cases s.monitor.phase with
    | stop phase => exact hstop phase
    | _ => rfl
  | call id =>
    rw [fires, notification]
    cases s.calls.lookup id with
    | none => rfl
    | some call =>
      cases call with
      | stop phase => exact hstop phase
      | _ => rfl

/-! ### Calls -/

section

variable {event : CallEvent} (h : CallStep s id call event s')

include h

theorem CallStep.others {n} (hn : n ≠ id) : s'.calls.lookup n = s.calls.lookup n := by
  cases h with
  | ensureRejected | ensureReceived | ensureTimedOut | startReturned | stopRestored | stopStopped
  | healthSame | healthFailed | healthFired => exact lookup_erase_ne hn
  | _ => exact lookup_insert_ne hn

theorem CallStep.frame : s'.count = s.count ∧ s'.monitor = s.monitor := by
  cases h <;> exact ⟨rfl, rfl⟩

end

theorem notification_goOn : (s.goOn id call).notification (.call id) = call.notification := by
  show ((s.calls.insert id call).lookup id).bind Call.notification = _
  rw [lookup_insert]
  rfl

theorem notification_leave : (s.leave id).notification (.call id) = none := by
  show ((s.calls.erase id).lookup id).bind Call.notification = none
  rw [lookup_erase]
  rfl

theorem notifies_callStep {event} (hcall : s.calls.lookup id = some call)
    (h : CallStep s id call event s') : Notifies s (.call id event) s' (.call id) := by
  have hnow : s.notification (.call id) = call.notification := by
    rw [notification, hcall]
    rfl
  cases h with
  | ensureStarted | ensureAnswered => exact .quiet rfl (notification_goOn.trans hnow.symm) rfl
  | ensureRejected | ensureReceived | ensureTimedOut | startReturned | healthFailed =>
    exact .quiet rfl (notification_leave.trans hnow.symm) rfl
  | healthSame status hsame => exact .quiet rfl (notification_leave.trans hnow.symm) hsame.symm
  | ensureFired | ensureFiredCrashed | startFired | stopFired =>
    exact .told _ rfl hnow notification_goOn rfl
  | stopRestored | stopStopped | healthFired => exact .told _ rfl hnow notification_leave rfl
  | ensureFailed e =>
    exact .begins _ rfl hnow notification_goOn fun h => (h hcall).imp_left Eq.symm
  | stopFailed | stopSucceeded =>
    exact .begins _ rfl hnow notification_goOn fun h => h.imp_left Eq.symm
  | healthChanged status hchanged =>
    exact .begins _ rfl hnow notification_goOn fun h => ⟨rfl, h hchanged⟩

/-! ### The monitoring task -/

theorem notifies_monitorStep {event} (h : MonitorStep s s.monitor.phase event s') :
    Notifies s (.monitor event) s' .monitor := by
  generalize hph : s.monitor.phase = phase at h
  have hnow : s.notification .monitor = phase.notification := by
    rw [notification, hph]
  cases h with
  | firedNotifies | firedSleeps | stopFired | stopRestored | stopStopped =>
    exact .told _ rfl hnow rfl rfl
  | changed queriedAt status hchanged => exact .begins _ rfl hnow rfl fun h => ⟨rfl, h hchanged⟩
  | stopServer => exact .begins _ rfl hnow rfl fun h => ⟨rfl, h⟩
  | stopFailed | stopSucceeded => exact .begins _ rfl hnow rfl fun h => h.imp_left Eq.symm
  | _ => exact .quiet rfl hnow.symm rfl

/-! ### Steps -/

variable {event : Event}

theorem next_fresh (hfresh : s.Fresh) (h : s.next event = some s') : s'.Fresh := by
  obtain ⟨s₁, hstep, rfl⟩ := next_inv h
  show s₁.Fresh
  cases hstep with
  | tick | startMonitoring => exact hfresh
  | ensureOnline | ensureRefused | startRefused =>
    exact fun n c hc => Nat.lt_succ_of_lt (hfresh n c hc)
  | ensureJoins | ensureWakes | startServer | stopServer | initialHealthCheck =>
    exact Dict.forall_insert (fun n c hc => Nat.lt_succ_of_lt (hfresh n c hc)) (Nat.lt_succ_self _)
  | call id call event s₁ hcall hstep =>
    intro n c hc
    rw [hstep.frame.1]
    by_cases hn : n = id
    · exact hn ▸ hfresh id call hcall
    · exact hfresh n c (hstep.others hn ▸ hc)
  | monitor event s₁ hstep =>
    obtain ⟨hcalls, hcount, -⟩ := hstep.frame
    rw [Fresh, hcalls, hcount]
    exact hfresh

/-- A new call. -/
theorem notification_enter :
    (s.enter call).notification (.call s.count) = call.notification ∧
      ∀ other ≠ .call s.count, (s.enter call).notification other = s.notification other := by
  refine ⟨notification_goOn, fun other hother => ?_⟩
  cases other with
  | monitor => rfl
  | call n =>
    show ((s.calls.insert s.count call).lookup n).bind _ = _
    rw [lookup_insert_ne (fun h => hother (congrArg _ h))]
    rfl

theorem next_notifies (hfresh : s.Fresh) (h : s.next event = some s') :
    ∃ source, Notifies s event s' source ∧
      ∀ other ≠ source, s'.notification other = s.notification other := by
  obtain ⟨s₁, hstep, rfl⟩ := next_inv h
  suffices h₁ : ∃ source, Notifies s event s₁ source ∧
      ∀ other ≠ source, s₁.notification other = s.notification other by
    obtain ⟨source, hsrc, hothers⟩ := h₁
    refine ⟨source, ?_, hothers⟩
    cases hsrc with
    | quiet hheard hsame hst => exact .quiet hheard hsame hst
    | told n hev hnow hnone hst => exact .told n hev hnow hnone hst
    | begins old hheard hnow hnew hold => exact .begins old hheard hnow hnew hold
  have hcount : s.notification (.call s.count) = none := by
    cases hc : s.calls.lookup s.count with
    | none => rw [notification, hc]; rfl
    | some c => exact absurd (hfresh _ c hc) (Nat.lt_irrefl _)
  cases hstep with
  | tick | ensureOnline | ensureRefused | startRefused =>
    exact ⟨.monitor, .quiet rfl rfl rfl, fun _ _ => rfl⟩
  | startMonitoring hidle =>
    refine ⟨.monitor, .quiet rfl ?_ rfl, fun other hother => ?_⟩
    · rw [notification, notification, hidle]
      rfl
    · cases other with
      | monitor => exact absurd rfl hother
      | call n => rfl
  | ensureJoins | initialHealthCheck =>
    exact ⟨.call s.count, .quiet rfl (notification_enter.1.trans hcount.symm) rfl,
      notification_enter.2⟩
  | ensureWakes hwakes =>
    exact ⟨.call s.count, .begins _ rfl hcount notification_enter.1 fun h => ⟨rfl, h hwakes⟩,
      notification_enter.2⟩
  | startServer hcan =>
    exact ⟨.call s.count, .begins _ rfl hcount notification_enter.1 fun h => ⟨rfl, h hcan⟩,
      notification_enter.2⟩
  | stopServer =>
    exact ⟨.call s.count, .begins _ rfl hcount notification_enter.1 fun h => ⟨rfl, h⟩,
      notification_enter.2⟩
  | call id call event s₁ hcall hstep =>
    refine ⟨.call id, notifies_callStep hcall hstep, fun other hother => ?_⟩
    cases other with
    | monitor => rw [notification, hstep.frame.2]; rfl
    | call n => rw [notification, hstep.others fun h => hother (congrArg _ h)]; rfl
  | monitor event s₁ hstep =>
    refine ⟨.monitor, notifies_monitorStep hstep, fun other hother => ?_⟩
    cases other with
    | monitor => exact absurd rfl hother
    | call n => rw [notification, hstep.frame.1]; rfl

theorem next_tells (hfresh : s.Fresh) (h : s.next event = some s') : Tells s event s' := by
  obtain ⟨source, hsrc, hothers⟩ := next_notifies hfresh h
  refine ⟨next_fresh hfresh h, fun other state hfires hev => ?_, ?_⟩
  · rw [fires_eq] at hfires ⊢
    by_cases hother : other = source
    · subst hother
      cases hsrc with
      | quiet _ hsame _ => rw [hsame, hfires]
      | told n hfired => exact absurd hfired hev
      | begins old _ hnow => rw [hnow] at hfires; cases hfires
    · rw [hothers other hother, hfires]
  · cases hsrc with
    | quiet _ _ hst | told _ _ _ _ hst => exact .inl hst
    | begins old _ hnow hnew =>
      refine .inr ⟨source, ?_, ?_⟩
      · rw [fires_eq, hnow]; rfl
      · rw [fires_eq, hnew]; rfl

end ManagedServer

end Infrarust.ServerManager
