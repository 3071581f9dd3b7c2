import Infrarust.Proofs.ServerManager.Stopping

/-!
# `Infrarust.Proofs.ServerManager.Starts`: starts and the polls that were asked before them

A poll asks the provider without the lock and applies the answer when it comes. If
`ensure_started` starts the server in between, the answer is older than the start. An answer that
says Stopped then puts the server back to sleep, fails the player who has just started it, and the
next player starts it again (`started_twice`).

`Timely` is the condition that no answer older than a start puts the server to sleep. `starts_once`
is about the runs of `ensure_started` and the monitor that meet it. The invariant says that a
server `ensure_started` would start has no start under way, and that the provider has been asked
since the last one (`Settled`).
-/

set_option autoImplicit false

namespace Infrarust.ServerManager

open Machine Dict List

/-- The call has set the state to Starting, and its `provider.start` has not returned. -/
def Call.starting : Call → Bool
  | .ensureFire _ | .ensureProvider => true
  | _ => false

/-- A call of `ensure_started`. -/
def Call.ensures : Call → Bool
  | .ensureFire _ | .ensureProvider | .ensureFireCrashed _ _ | .ensureAnswer _ _ | .ensureWait _ =>
    true
  | _ => false

/-- The step at which the provider was asked, while its answer is awaited. -/
def MonitorPhase.askedAt : MonitorPhase → Option Nat
  | .provider queriedAt => some queriedAt
  | _ => none

/-- The step at which the provider was asked, while its answer is worked on. -/
def MonitorPhase.obtainedAt : MonitorPhase → Option Nat
  | .fire queriedAt _ _ | .notify queriedAt _ | .answer queriedAt _ _ | .count queriedAt
  | .stopServer queriedAt => some queriedAt
  | _ => none

/-- The monitor is about to fail the waiters. -/
def MonitorPhase.fails : MonitorPhase → Bool
  | .fire _ status _ | .notify _ status => status = .stopped
  | _ => false

/-- `ensure_started` and what the monitor does. -/
def Event.wakesOrPolls : Event → Bool
  | .startServer | .stopServer | .initialHealthCheck => false
  | _ => true

namespace ManagedServer

section Definitions

variable (s : ManagedServer)

def StartUnderWay : Prop := ∃ id call, s.calls.lookup id = some call ∧ call.starting = true
deriving Decidable

/-- Each start was followed by a query whose answer has come. -/
def Confirmed : Prop := ∀ t ∈ s.history.started, ∃ q ∈ s.history.obtained, t ≤ q

def Settled : Prop := ¬s.StartUnderWay ∧ s.Confirmed

/-- A query at step `q` is later than every start. -/
def Current (q : Nat) : Prop := ¬s.StartUnderWay ∧ ∀ t ∈ s.history.started, t ≤ q
deriving Decidable

/-- An answer that puts the server to sleep, or lets the monitor stop it, is later than every
start. No start begins while the monitor is about to fail the waiters. -/
def Timely : Event → Prop
  | .ensureStarted => s.entry.state.wakes = true → s.monitor.phase.fails = false
  | .monitor (.checked (.ok status)) => status = .stopped ∨ status = .unknown →
      ∀ q ∈ s.monitor.phase.askedAt, s.Current q
  | .monitor .stopServer => ∀ q ∈ s.monitor.phase.obtainedAt, s.Current q
  | event => event.wakesOrPolls = true

instance : DecidablePred s.Timely := fun event => by
  unfold Timely
  rcases event with _ | _ | _ | _ | _ | _ | _ | (_ | _ | _ | (_ | _) | _ | _ | _ | _ | _ | _) <;> infer_instance

def TimelyStep (event : Event) (s' : ManagedServer) : Prop :=
  s.Timely event ∧ s.next event = some s'

structure StartInv : Prop where
  ensures : ∀ id call, s.calls.lookup id = some call → call.ensures = true
  single : ∀ id call, s.calls.lookup id = some call → call.starting = true →
    ∀ other call', s.calls.lookup other = some call' → call'.starting = true → other = id
  settled : s.entry.state.wakes = true → s.Settled
  confirmed : s.StartUnderWay → s.Confirmed
  obtained : ∀ q ∈ s.monitor.phase.obtainedAt, q ∈ s.history.obtained
  failing : s.monitor.phase.fails = true → ∀ q ∈ s.monitor.phase.obtainedAt, s.Current q
  stopping : s.monitor.phase.stops = true → s.entry.state = .stopping ∧ s.Settled

end Definitions

variable {s s' : ManagedServer} {id : Nat}

theorem startInv_new {serverId shutdownAfter startTimeout pollInterval} :
    (new serverId shutdownAfter startTimeout pollInterval).StartInv where
  ensures := nofun
  single := nofun
  settled _ := by
    refine ⟨?_, nofun⟩
    rintro ⟨id, call, h, -⟩
    cases h
  confirmed := by
    rintro ⟨id, call, h, -⟩
    cases h
  obtained := nofun
  failing := nofun
  stopping := nofun

/-- A query later than every start confirms them. -/
theorem Current.settled {q} (h : s.Current q) (hq : q ∈ s.history.obtained) : s.Settled :=
  ⟨h.1, fun t ht => ⟨q, hq, h.2 t ht⟩⟩

/-! ### Steps that begin no start -/

/-- No start has begun or succeeded between the two states. -/
structure Narrows (s s' : ManagedServer) : Prop where
  ensures : ∀ id call, s'.calls.lookup id = some call → call.ensures = true
  starting : ∀ id call', s'.calls.lookup id = some call' → call'.starting = true →
    ∃ call, s.calls.lookup id = some call ∧ call.starting = true
  started : s'.history.started = s.history.started
  obtained : s.history.obtained ⊆ s'.history.obtained

namespace Narrows

theorem startUnderWay (h : Narrows s s') (hunder : s'.StartUnderWay) : s.StartUnderWay := by
  obtain ⟨id, call', hcall', hstg⟩ := hunder
  obtain ⟨call, hcall⟩ := h.starting id call' hcall' hstg
  exact ⟨id, call, hcall⟩

theorem confirmed (h : Narrows s s') (hs : s.Confirmed) : s'.Confirmed := by
  intro t ht
  rw [h.started] at ht
  obtain ⟨q, hq, hle⟩ := hs t ht
  exact ⟨q, h.obtained hq, hle⟩

theorem settled (h : Narrows s s') (hs : s.Settled) : s'.Settled :=
  ⟨mt h.startUnderWay hs.1, h.confirmed hs.2⟩

theorem current {q} (h : Narrows s s') (hs : s.Current q) : s'.Current q :=
  ⟨mt h.startUnderWay hs.1, h.started.symm ▸ hs.2⟩

/-- A call begins or goes on. -/
theorem insert {call} (hs : s.StartInv) (hcalls : s'.calls = s.calls.insert id call)
    (hhist : s'.history = s.history) (hensures : call.ensures = true)
    (hstg : call.starting = true → ∃ c, s.calls.lookup id = some c ∧ c.starting = true) :
    Narrows s s' where
  ensures := hcalls ▸ forall_insert hs.ensures hensures
  starting := hcalls ▸ forall_insert (fun _ c hc h => ⟨c, hc, h⟩) hstg
  started := congrArg History.started hhist
  obtained := hhist ▸ List.Subset.refl _

theorem leave (hs : s.StartInv) : Narrows s (s.leave id) where
  ensures n c hc := hs.ensures n c (lookup_erase_inv hc).2
  starting _ c hc h := ⟨c, (lookup_erase_inv hc).2, h⟩
  started := rfl
  obtained := List.Subset.refl _

/-- A step of the monitor. -/
theorem ofCalls (hs : s.StartInv) (hcalls : s'.calls = s.calls)
    (hstd : s'.history.started = s.history.started)
    (hobt : s.history.obtained ⊆ s'.history.obtained) : Narrows s s' where
  ensures n c hc := hs.ensures n c (hcalls ▸ hc)
  starting _ c hc h := ⟨c, hcalls ▸ hc, h⟩
  started := hstd
  obtained := hobt

end Narrows

namespace StartInv

/-- What a step that begins no start leaves to be shown: the effect on the state and the
monitor. -/
theorem narrow (hs : s.StartInv) (h : Narrows s s')
    (hset : s'.entry.state.wakes = true → s'.Settled)
    (hobt : ∀ q ∈ s'.monitor.phase.obtainedAt, q ∈ s'.history.obtained)
    (hfailing : s'.monitor.phase.fails = true → ∀ q ∈ s'.monitor.phase.obtainedAt, s'.Current q)
    (hstop : s'.monitor.phase.stops = true → s'.entry.state = .stopping ∧ s'.Settled) :
    s'.StartInv where
  ensures := h.ensures
  single n c hc hstg m c' hc' hstg' := by
    obtain ⟨call, hcall, h₁⟩ := h.starting n c hc hstg
    obtain ⟨call', hcall', h₂⟩ := h.starting m c' hc' hstg'
    exact hs.single n call hcall h₁ m call' hcall' h₂
  settled := hset
  confirmed hunder := h.confirmed (hs.confirmed (h.startUnderWay hunder))
  obtained := hobt
  failing := hfailing
  stopping := hstop

/-- A step of a call that leaves the state as it is. -/
theorem keep (hs : s.StartInv) (h : Narrows s s') (hst : s'.entry.state = s.entry.state)
    (hmon : s'.monitor = s.monitor) : s'.StartInv := by
  refine hs.narrow h (fun hwakes => ?_) (fun q hq => ?_) (fun hfails q hq => ?_) fun hstops => ?_
  · exact h.settled (hs.settled (hst ▸ hwakes))
  · exact h.obtained (hs.obtained q (hmon ▸ hq))
  · exact h.current (hs.failing (hmon ▸ hfails) q (hmon ▸ hq))
  · obtain ⟨hstop, hset⟩ := hs.stopping (hmon ▸ hstops)
    exact ⟨hst.trans hstop, h.settled hset⟩

/-- A step that changes nothing the invariant is about. -/
theorem same (hs : s.StartInv) (hcalls : s'.calls = s.calls)
    (hstd : s'.history.started = s.history.started)
    (hobt : s'.history.obtained = s.history.obtained)
    (hst : s'.entry.state = s.entry.state) (hmon : s'.monitor = s.monitor) :
    s'.StartInv :=
  hs.keep (Narrows.ofCalls hs hcalls hstd (hobt ▸ List.Subset.refl _)) hst hmon

/-- The monitor goes on, and is not about to fail the waiters or to stop the server. -/
theorem moveOn (hs : s.StartInv) (hcalls : s'.calls = s.calls)
    (hstd : s'.history.started = s.history.started)
    (hsubset : s.history.obtained ⊆ s'.history.obtained)
    (hst : s'.entry.state = s.entry.state)
    (hobt : ∀ q ∈ s'.monitor.phase.obtainedAt, q ∈ s'.history.obtained)
    (hfails : s'.monitor.phase.fails = false) (hstops : s'.monitor.phase.stops = false) :
    s'.StartInv := by
  have hnar : Narrows s s' := Narrows.ofCalls hs hcalls hstd hsubset
  refine hs.narrow hnar (fun h => ?_) hobt (fun h => ?_) fun h => ?_
  · exact hnar.settled (hs.settled (hst ▸ h))
  · exact absurd (hfails.symm.trans h) (by decide)
  · exact absurd (hstops.symm.trans h) (by decide)

end StartInv

/-! ### Calls -/

section

variable (hs : s.StartInv)

include hs

theorem startInv_wake {waiters : List Nat} (hwakes : s.entry.state.wakes = true)
    (hfails : s.monitor.phase.fails = false) :
    StartInv ({ s with entry.state := .starting, entry.waiters := waiters }.enter
      (.ensureFire s.entry.state)) where
  ensures := forall_insert hs.ensures rfl
  single n c hc hstg m c' hc' hstg' := by
    -- nobody else starts the server
    have hother : ∀ n c, s.calls.lookup n = some c → c.starting = true → False :=
      fun n c hc h => (hs.settled hwakes).1 ⟨n, c, hc, h⟩
    obtain ⟨rfl, -⟩ | ⟨-, hc⟩ := lookup_insert_inv hc
    · obtain ⟨rfl, -⟩ | ⟨-, hc'⟩ := lookup_insert_inv hc'
      · rfl
      · exact (hother m c' hc' hstg').elim
    · exact (hother n c hc hstg).elim
  settled := nofun
  confirmed _ := (hs.settled hwakes).2
  obtained := hs.obtained
  failing h := absurd (hfails.symm.trans h) (by decide)
  stopping h := by
    rw [(hs.stopping h).1] at hwakes
    cases hwakes

/-- The only start has ended. -/
theorem not_startUnderWay_of_goOn {call call' : Call}
    (hcall : s.calls.lookup id = some call) (hstg : call.starting = true)
    (hends : call'.starting = false) : ¬(s.goOn id call').StartUnderWay := by
  rintro ⟨n, c, hc, h⟩
  obtain ⟨-, rfl⟩ | ⟨hn, hc⟩ := lookup_insert_inv hc
  · exact absurd (hends.symm.trans h) (by decide)
  · exact hn (hs.single id call hcall hstg n c hc h)

/-- While a start is under way the monitor neither fails the waiters nor stops the server. -/
theorem StartInv.monitor_of_startUnderWay (hunder : s.StartUnderWay) :
    s.monitor.phase.fails = false ∧ s.monitor.phase.stops = false := by
  constructor
  · refine Bool.eq_false_iff.mpr fun h => ?_
    have hph : ∃ q, q ∈ s.monitor.phase.obtainedAt := by
      revert h
      cases s.monitor.phase with
      | fire q status old | notify q status => exact fun _ => ⟨q, rfl⟩
      | _ => exact nofun
    obtain ⟨q, hq⟩ := hph
    exact (hs.failing h q hq).1 hunder
  · exact Bool.eq_false_iff.mpr fun h => (hs.stopping h).2.1 hunder

theorem startInv_started (hcall : s.calls.lookup id = some .ensureProvider) :
    StartInv { s.goOn id (.ensureWait s.now) with
      history.started := s.history.steps :: s.history.started } := by
  have hunder : s.StartUnderWay := ⟨id, _, hcall, rfl⟩
  have hends : ¬(s.goOn id (.ensureWait s.now)).StartUnderWay :=
    not_startUnderWay_of_goOn hs hcall rfl rfl
  have hnar : Narrows s (s.goOn id (.ensureWait s.now)) := Narrows.insert hs rfl rfl rfl nofun
  obtain ⟨hfails, hstops⟩ := hs.monitor_of_startUnderWay hunder
  -- the new start is confirmed by nothing, so no other start may be under way or begin
  refine ⟨hnar.ensures, ?_, ?_, ?_, hs.obtained, ?_, ?_⟩
  · exact fun n c hc h => (hends ⟨n, c, hc, h⟩).elim
  · exact fun hwakes => absurd hunder (hs.settled hwakes).1
  · exact fun h => (hends h).elim
  · exact fun h => absurd (hfails.symm.trans h) (by decide)
  · exact fun h => absurd (hstops.symm.trans h) (by decide)

theorem startInv_failed {e : String} (hcall : s.calls.lookup id = some .ensureProvider) :
    StartInv ({ s with entry.state := .crashed, entry.waiters := [] }.goOn id
      (.ensureFireCrashed s.entry.waiters e)) := by
  have hunder : s.StartUnderWay := ⟨id, _, hcall, rfl⟩
  have hends : ¬(s.goOn id (.ensureFireCrashed s.entry.waiters e)).StartUnderWay :=
    not_startUnderWay_of_goOn hs hcall rfl rfl
  obtain ⟨hfails, hstops⟩ := hs.monitor_of_startUnderWay hunder
  -- a crashed server may be started again, so that the starts before must be confirmed
  refine hs.narrow (Narrows.insert hs rfl rfl rfl nofun)
    (fun _ => ⟨hends, hs.confirmed hunder⟩) hs.obtained (fun h => ?_) fun h => ?_
  · exact absurd (hfails.symm.trans h) (by decide)
  · exact absurd (hstops.symm.trans h) (by decide)

theorem startInv_callStep {call event}
    (hcall : s.calls.lookup id = some call) (h : CallStep s id call event s') : s'.StartInv := by
  have hensures := hs.ensures id call hcall
  have hgoOn : ∀ {call' : Call} {answers : Dict Nat (Except ServerManagerError Unit)},
      call'.ensures = true → (call'.starting = true → call.starting = true) →
      StartInv { s.goOn id call' with answers } := fun hensures hstg =>
    hs.keep (Narrows.insert hs rfl rfl hensures fun h => ⟨call, hcall, hstg h⟩) rfl rfl
  cases h with
  | ensureFired old => exact hgoOn rfl fun _ => rfl
  | ensureStarted => exact startInv_started hs hcall
  | ensureFailed e => exact startInv_failed hs hcall
  | ensureFiredCrashed | ensureAnswered => exact hgoOn rfl nofun
  | ensureRejected | ensureReceived | ensureTimedOut =>
    have hleave : Narrows s (s.leave id) := Narrows.leave hs
    exact hs.keep ⟨hleave.ensures, hleave.starting, rfl, List.Subset.refl _⟩ rfl rfl
  | _ => cases hensures

/-! ### The monitoring task -/

/-- A poll applies its answer. One that puts the server to sleep is later than every start. -/
theorem startInv_changed {queriedAt status}
    (htimely : status = .stopped ∨ status = .unknown → s.Current queriedAt) :
    StartInv (((s.obtainStatus queriedAt).setState status.toState).setPhase
      (.fire queriedAt status s.entry.state)) := by
  have hnar : Narrows s (((s.obtainStatus queriedAt).setState status.toState).setPhase
      (.fire queriedAt status s.entry.state)) :=
    Narrows.ofCalls hs rfl rfl (subset_cons_self _ _)
  refine hs.narrow hnar (fun hwakes => ?_) (fun q hq => ?_) (fun hfails q hq => ?_)
    nofun
  · -- only these two leave a state from which the next call starts the server
    have hsleeps : status = .stopped ∨ status = .unknown := by
      revert hwakes
      cases status with
      | stopped => exact fun _ => .inl rfl
      | unknown => exact fun _ => .inr rfl
      | _ => exact nofun
    exact (hnar.current (htimely hsleeps)).settled mem_cons_self
  · cases hq
    exact mem_cons_self
  · cases hq
    exact hnar.current (htimely (.inl (of_decide_eq_true hfails)))

theorem startInv_monitorStep {event}
    (htimely : s.Timely (.monitor event)) (h : MonitorStep s s.monitor.phase event s') :
    s'.StartInv := by
  have hobt := hs.obtained
  have hfailing := hs.failing
  generalize hph : s.monitor.phase = phase at h hobt hfailing
  have hsame : List.Subset s.history.obtained s.history.obtained := List.Subset.refl _
  cases h with
  | runs queriedAt =>
    refine hs.moveOn rfl rfl (subset_cons_self _ _) rfl (fun q hq => ?_) rfl rfl
    cases hq
    exact mem_cons_self
  | same queriedAt status =>
    exact hs.moveOn rfl rfl (subset_cons_self _ _) rfl nofun rfl rfl
  | changed queriedAt status =>
    exact startInv_changed hs fun h => htimely h queriedAt (by rw [hph]; rfl)
  | firedNotifies queriedAt status old =>
    exact hs.narrow (Narrows.ofCalls hs rfl rfl hsame) hs.settled hobt hfailing
      nofun
  | notify | answer | answeredCounts | countStops =>
    exact hs.moveOn rfl rfl hsame rfl hobt rfl rfl
  | stopServer queriedAt =>
    -- after an answer that is later than every start
    have hset : s.Settled := (htimely queriedAt (by rw [hph]; rfl)).settled (hobt queriedAt rfl)
    exact hs.narrow (Narrows.ofCalls hs rfl rfl hsame) nofun
      nofun nofun fun _ => ⟨rfl, hset⟩
  | stopFired old =>
    obtain ⟨hst, hset⟩ := hs.stopping (by rw [hph]; rfl)
    exact hs.narrow (Narrows.ofCalls hs rfl rfl hsame) hs.settled
      nofun nofun fun _ => ⟨hst, hset⟩
  | stopFailed | stopSucceeded =>
    -- nothing was started since the stop began
    obtain ⟨-, hset⟩ := hs.stopping (by rw [hph]; rfl)
    exact hs.narrow (Narrows.ofCalls hs rfl rfl hsame) (fun _ => hset)
      nofun nofun nofun
  | _ => exact hs.moveOn rfl rfl hsame rfl nofun rfl rfl

end

/-! ### Runs -/

theorem timelyStep_inv {event} (h : s.TimelyStep event s') (hs : s.StartInv) : s'.StartInv := by
  obtain ⟨htimely, hnext⟩ := h
  obtain ⟨s₁, hstep, rfl⟩ := next_inv hnext
  suffices hs₁ : s₁.StartInv from
    hs₁.same rfl rfl rfl rfl rfl
  cases hstep with
  | tick | ensureOnline | ensureRefused => exact hs.same rfl rfl rfl rfl rfl
  | ensureJoins => exact hs.keep (Narrows.insert hs rfl rfl rfl nofun) rfl rfl
  | ensureWakes hwakes => exact startInv_wake hs hwakes (htimely hwakes)
  | startServer | startRefused | stopServer | initialHealthCheck => cases htimely
  | startMonitoring =>
    exact hs.moveOn rfl rfl (List.Subset.refl _) rfl nofun rfl rfl
  | call id call event s₁ hcall hstep =>
    exact startInv_callStep hs hcall hstep
  | monitor event s₁ hstep => exact startInv_monitorStep hs htimely hstep

/-- In a run of `ensure_started` and the monitor in which every answer that counts is timely:
when a call is about to call `provider.start`, nobody else is in it, and each start that succeeded
was followed by a query whose answer has come. And a status for which the monitor fails the
waiters was asked for after every start. -/
theorem starts_once {serverId : String} {shutdownAfter : Option Nat}
    {startTimeout pollInterval : Nat} {events : List Event}
    (hrun : Run TimelyStep (new serverId shutdownAfter startTimeout pollInterval) events
      s) :
    (∀ id old, s.calls.lookup id = some (.ensureFire old) →
      (∀ other, s.calls.lookup other ≠ some .ensureProvider) ∧
      ∀ t ∈ s.history.started, ∃ q ∈ s.history.obtained, t ≤ q) ∧
    ∀ q, s.monitor.phase = .notify q .stopped →
      ¬s.StartUnderWay ∧ ∀ t ∈ s.history.started, t ≤ q := by
  have hs : s.StartInv := hrun.invariant (fun _ _ _ hstep => timelyStep_inv hstep) (startInv_new)
  constructor
  · intro id old hcall
    refine ⟨fun other hother => ?_, hs.confirmed ⟨id, _, hcall, rfl⟩⟩
    obtain rfl := hs.single id _ hcall rfl other _ hother rfl
    cases hcall.symm.trans hother
  · intro q hph
    exact hs.failing (by rw [hph]; rfl) q (by rw [hph]; rfl)

/-! ### A poll that is answered late, and one that is not -/

/-- The provider is asked, the server is started, and the answer comes while `provider.start` runs.
A second player starts the server as well, and the first start succeeds. -/
def startedMeanwhile : List Event :=
  [.startMonitoring, .tick 30000, .monitor .wake, .monitor .query, .ensureStarted, .call 0 .fired,
    .monitor (.checked (.ok .stopped)), .ensureStarted, .call 0 (.started (.ok ()))]

/-- The second call is about to start the server, which was started at step 8, and the provider was
asked last at step 3. The monitor then fails both players for the answer to that. -/
theorem started_twice :
    (∃ s, Run Step survival startedMeanwhile s ∧
      s.calls.lookup 1 = some (.ensureFire .sleeping) ∧
      s.history.started = [8] ∧ s.history.obtained = [3]) ∧
    (∃ s, Run Step survival (startedMeanwhile ++ [.call 1 .fired, .monitor .fired]) s ∧
      s.calls.lookup 1 = some .ensureProvider ∧
      s.monitor.phase = .notify 3 .stopped ∧ s.entry.waiters = [0, 1]) ∧
    ∀ event ∈ startedMeanwhile ++ [.call 1 .fired, .monitor .fired], event.wakesOrPolls = true := by
  refine ⟨?_, ?_, by decide⟩ <;> exact exists_run (fun _ _ _ h => h) (by decide)

/-- A poll after the start finds the server stopped. The waiter is failed, and the next player may
start the server again. -/
theorem starts_once_polled :
    ∃ s, Run TimelyStep survival (.startMonitoring :: waking ++ poll .stopped ++
        [.monitor .notify, .monitor .answer, .monitor .answer, .ensureStarted]) s ∧
      s.calls.lookup 1 = some (.ensureFire .sleeping) ∧ s.history.started = [3] ∧
      ∀ t ∈ s.history.started, ∃ q ∈ s.history.obtained, t ≤ q := by
  refine exists_run_guarded
    (P := fun s => s.calls.lookup 1 = some (.ensureFire .sleeping) ∧ s.history.started = [3])
    (by decide) ?_
  rintro s hrun ⟨hcall, hstd⟩
  exact ⟨hcall, hstd, ((starts_once hrun).1 1 .sleeping hcall).2⟩

end ManagedServer

end Infrarust.ServerManager
