import Mathlib.Data.List.Chain
import Infrarust.Proofs.ServerManager.Listeners

/-!
# `Infrarust.Proofs.ServerManager.Notifications`: old and new states

A notification carries the state before the change and the state after it. The operations release
the lock before they notify, and `ensure_started` and `stop_server` do not look at the state when
they report that they are done: they name the state that they had set themselves. So the
notifications of overlapping operations need not fit together (`stopped_twice_breaks_chain`).

`InOrder` is the condition under which they do, and `chain_of_run` the result. `failed_start_iff`
is about a single start that fails.
-/

set_option autoImplicit false

namespace Infrarust.ServerManager

open Machine AList

namespace ManagedServer

/-- A server, and what a listener has heard, the last notification first. -/
abbrev Heard := ManagedServer × List (ServerState × ServerState)

def Heard.Step (h : Heard) (event : Event) (h' : Heard) : Prop :=
  h.1.next event = some h'.1 ∧ h'.2 = h.1.heard event ++ h.2

/-- A step that is in order. -/
def Heard.OrderlyStep (h : Heard) (event : Event) (h' : Heard) : Prop :=
  h.1.InOrder event ∧ h.Step event h'

variable {s s' : ManagedServer} {id : Nat} {event : Event}
  {log log' : List (ServerState × ServerState)}

/-! ### Runs -/

/-- At most one source is notifying, and it goes on from what was heard last. -/
structure ChainInv (s : ManagedServer) (log : List (ServerState × ServerState)) : Prop where
  fresh : s.Fresh
  chain : log.IsChain fun later earlier => later.1 = earlier.2
  silent : s.Silent → ∀ last ∈ log.head?, last.2 = s.entry.state
  notifying : ∀ source n, s.notification source = some n →
    n.2 = s.entry.state ∧ (∀ last ∈ log.head?, n.1 = last.2) ∧
      ∀ other ≠ source, s.notification other = none

theorem chainInv_step (hstep : Heard.OrderlyStep (s, log) event (s', log'))
    (hs : ChainInv s log) : ChainInv s' log' := by
  obtain ⟨hord, hnext, rfl⟩ := hstep
  have hfresh := next_fresh hs.fresh hnext
  obtain ⟨source, hsrc, hothers⟩ := next_notifies hs.fresh hnext
  cases hsrc with
  | quiet hheard hsame hst =>
    have hall : s'.notification = s.notification := by
      funext other
      by_cases hother : other = source
      · rw [hother, hsame]
      · exact hothers other hother
    rw [hheard]
    refine ⟨hfresh, hs.chain, ?_, ?_⟩
    · rw [Silent, hall, hst]
      exact hs.silent
    · rw [hall, hst]
      exact hs.notifying
  | told n hfired hnow hnone hst =>
    obtain ⟨hnew, hold, hsole⟩ := hs.notifying source n hnow
    have hheard : s.heard event = [n] := by
      have hsrc : s.heard source.fired = (s.notification source).toList := by cases source <;> rfl
      rw [hfired, hsrc, hnow]
      rfl
    refine ⟨hfresh, ?_, ?_, fun other m hm => ?_⟩
    · rw [hheard]
      exact hs.chain.cons hold
    · intro _ last hlast
      rw [hheard] at hlast
      cases hlast
      exact hnew.trans hst.symm
    · -- the only one that was notifying is done
      by_cases hother : other = source
      · rw [hother, hnone] at hm
        cases hm
      · rw [hothers other hother, hsole other hother] at hm
        cases hm
  | begins old hheard _ hnew hold =>
    obtain ⟨rfl, hsilent⟩ := hold hord
    have hothers' : ∀ other ≠ source, s'.notification other = none := fun other hother =>
      (hothers other hother).trans (hsilent other)
    rw [hheard]
    refine ⟨hfresh, hs.chain, fun h => ?_, fun other m hm => ?_⟩
    · rw [h source] at hnew
      cases hnew
    · by_cases hother : other = source
      · subst hother
        cases hnew.symm.trans hm
        exact ⟨rfl, fun last hlast => (hs.silent hsilent last hlast).symm, hothers'⟩
      · rw [hothers' other hother] at hm
        cases hm

variable {serverId : String} {shutdownAfter : Option Nat} {startTimeout pollInterval : Nat}

/-- A step of one call, whose `provider.start` does not succeed. -/
def Heard.FailingStep (id : Nat) (h : Heard) (event : Event) (h' : Heard) : Prop :=
  ((∃ ms, event = .tick ms) ∨ ∃ e, event = .call id e ∧ e ≠ .started (.ok ())) ∧ h.Step event h'

theorem failingStep_cases (h : Heard.FailingStep id (s, log) event (s', log')) :
    (s'.calls = s.calls ∧ s'.entry = s.entry ∧ log' = log) ∨
      ∃ call e s₁, s.calls.lookup id = some call ∧ CallStep s id call e s₁ ∧
        e ≠ .started (.ok ()) ∧ s'.calls = s₁.calls ∧ s'.entry = s₁.entry ∧
        log' = s.heard (.call id e) ++ log := by
  obtain ⟨hevent, hnext, hlog⟩ := h
  obtain ⟨s₁, hstep, rfl⟩ := next_inv hnext
  obtain ⟨ms, rfl⟩ | ⟨e, rfl, hne⟩ := hevent
  · cases hstep
    exact .inl ⟨rfl, rfl, hlog⟩
  · cases hstep with
    | call _ call _ _ hcall hstep => exact .inr ⟨call, e, s₁, hcall, hstep, hne, rfl, rfl, hlog⟩

variable {old : ServerState}

/-- `start_server` leaves the state at Starting, and has told the listeners of nothing else. -/
def StartFails (id : Nat) (old : ServerState) (h : Heard) : Prop :=
  h.1.entry.state = .starting ∧ (∀ n ∈ h.2, n.1 = old) ∧
    ∀ call, h.1.calls.lookup id = some call → call = .startFire old ∨ call = .startProvider

theorem startFails_step {h h' : Heard} (hstep : h.FailingStep id event h')
    (hs : StartFails id old h) : StartFails id old h' := by
  obtain ⟨hst, hlog, hcalls⟩ := hs
  obtain ⟨hsame, hentry, hlog'⟩ | ⟨call, e, s₁, hcall, hstep, -, hsame, hentry, hlog'⟩ :=
    failingStep_cases hstep <;> rw [StartFails, hsame, hentry, hlog']
  · exact ⟨hst, hlog, hcalls⟩
  · obtain rfl | rfl := hcalls call hcall
    · cases hstep
      refine ⟨hst, ?_, fun c hc => ?_⟩
      · rw [heard, notification, hcall]
        exact List.forall_mem_cons.mpr ⟨rfl, hlog⟩
      · rw [goOn, lookup_insert] at hc
        cases hc
        exact .inr rfl
    · cases hstep
      refine ⟨hst, hlog, fun c hc => ?_⟩
      rw [finish, leave, record, lookup_erase] at hc
      cases hc

/-- `ensure_started` goes on to Crashed, and tells the listeners before it returns. -/
def EnsureFails (id : Nat) (old : ServerState) (h : Heard) : Prop :=
  (h.1.calls.lookup id = some (.ensureFire old) ∨ h.1.calls.lookup id = some .ensureProvider) ∨
    h.1.entry.state = .crashed ∧
      ((∃ waiters e, h.1.calls.lookup id = some (.ensureFireCrashed waiters e)) ∨
        (.starting, .crashed) ∈ h.2 ∧
          ∀ call, h.1.calls.lookup id = some call → ∃ left e, call = .ensureAnswer left e)

theorem ensureFails_step {h h' : Heard} (hstep : h.FailingStep id event h')
    (hs : EnsureFails id old h) : EnsureFails id old h' := by
  obtain ⟨hsame, hentry, hlog⟩ | ⟨call, e, s₁, hcall, hstep, hne, hsame, hentry, hlog⟩ :=
    failingStep_cases hstep <;> rw [EnsureFails, hsame, hentry, hlog]
  · exact hs
  · obtain (hphase | hphase) | ⟨hst, ⟨waiters, e', hphase⟩ | ⟨hmem, hphase⟩⟩ := hs
    · cases hcall.symm.trans hphase
      cases hstep
      exact .inl (.inr (lookup_insert _))
    · cases hcall.symm.trans hphase
      cases hstep with
      | ensureStarted => exact absurd rfl hne
      | ensureFailed e => exact .inr ⟨rfl, .inl ⟨_, e, lookup_insert _⟩⟩
    · cases hcall.symm.trans hphase
      cases hstep
      refine .inr ⟨hst, .inr ⟨?_, fun c hc => ?_⟩⟩
      · rw [heard, notification, hcall]
        exact List.mem_cons_self
      · rw [goOn, lookup_insert] at hc
        cases hc
        exact ⟨_, _, rfl⟩
    · obtain ⟨left, e', rfl⟩ := hphase call hcall
      refine .inr ⟨?_, .inr ⟨List.mem_append_right _ hmem, fun c hc => ?_⟩⟩
      · cases hstep <;> exact hst
      · cases hstep with
        | ensureAnswered =>
          rw [goOn, lookup_insert] at hc
          cases hc
          exact ⟨_, _, rfl⟩
        | ensureRejected =>
          rw [finish, leave, record, lookup_erase] at hc
          cases hc

/-- After a failed start, without other calls: the server can be started again and the listeners
know that it is not starting, if and only if `ensure_started` was the call. -/
theorem failed_start_iff {s₀ : ManagedServer} {events : List Event}
    (hcan : s₀.entry.state.isStartable = true)
    (hevent : event = .ensureStarted ∨ event = .startServer) (hnext : s₀.next event = some s)
    (hrun : Run (Heard.FailingStep s₀.count) (s, []) events (s', log))
    (hover : s'.calls.lookup s₀.count = none) :
    (s'.entry.state.isStartable = true ∧ ∃ new, (.starting, new) ∈ log) ↔
      event = .ensureStarted := by
  obtain rfl | rfl := hevent <;> cases hnext
  · have hfirst : s₀.ensureStarted.calls.lookup s₀.count = some (.ensureFire s₀.entry.state) := by
      unfold ensureStarted
      split
      case h_1 hst | h_2 hst | h_3 hst => rw [hst] at hcan; cases hcan
      all_goals exact lookup_insert _
    have hs : EnsureFails s₀.count s₀.entry.state (s', log) :=
      hrun.invariant (fun _ _ _ hstep hs => ensureFails_step hstep hs) (.inl (.inl hfirst))
    refine ⟨fun _ => rfl, fun _ => ?_⟩
    obtain (h | h) | ⟨hst, ⟨_, _, h⟩ | ⟨hmem, -⟩⟩ := hs
    · cases hover.symm.trans h
    · cases hover.symm.trans h
    · cases hover.symm.trans h
    · exact ⟨by rw [hst]; rfl, _, hmem⟩
  · have hs : StartFails s₀.count s₀.entry.state (s', log) := by
      refine hrun.invariant (fun _ _ _ hstep hs => startFails_step hstep hs) ?_
      rw [startServer, if_pos hcan]
      refine ⟨rfl, nofun, fun call hcall => .inl ?_⟩
      exact Option.some.inj (hcall.symm.trans (lookup_insert _))
    refine ⟨fun h => ?_, nofun⟩
    rw [hs.1] at h
    cases h.1

/-- `start_server` for a sleeping server whose provider fails. -/
theorem exists_failing_run :
    ∃ s h, (new "a" none 0 0).next .startServer = some s ∧
      Run (Heard.FailingStep 0) (s, [])
        [.call 0 .fired, .call 0 (.started (.error "no such image"))] h ∧
      h.1.calls.lookup 0 = none ∧ h.1.entry.state = .starting :=
  ⟨_, (_, _), rfl, @Run.cons _ _ _ _ (_, _) _ _ _ ⟨.inr ⟨_, rfl, nofun⟩, rfl, rfl⟩
    (.cons ⟨.inr ⟨_, rfl, nofun⟩, rfl, rfl⟩ (.nil _)), rfl, rfl⟩

theorem failed_start_iff_startServer :
    ∃ h : Heard, (h.1.entry.state.isStartable = true ∧ ∃ new, (.starting, new) ∈ h.2) ↔
      Event.startServer = .ensureStarted := by
  obtain ⟨s, h, hnext, hrun, hover, -⟩ := exists_failing_run
  exact ⟨h, failed_start_iff rfl (.inr rfl) hnext hrun hover⟩

theorem failed_start_server_stays :
    ∃ s h events, (new "a" none 0 0).next .startServer = some s ∧
      Run (Heard.FailingStep 0) (s, []) events h ∧ h.1.calls.lookup 0 = none ∧
      h.1.entry.state.isStartable = false := by
  obtain ⟨s, h, hnext, hrun, hover, hst⟩ := exists_failing_run
  exact ⟨s, h, _, hnext, hrun, hover, by rw [hst]; rfl⟩

end ManagedServer

end Infrarust.ServerManager
