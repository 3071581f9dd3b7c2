import Infrarust.Lib.Dict

/-!
# `Infrarust.Core.Services.Scheduler`: tasks that run later

`SchedulerImpl` starts a task of the runtime for every call and keeps a handle to abort it under the
number that it returns. The tasks of the runtime are part of the state here, under the same
numbers: `running` has those that were started and have neither finished nor been aborted.
-/

set_option autoImplicit false

namespace Infrarust

/-- The three ways to schedule a task. Times are in milliseconds. -/
inductive TaskTiming where
  | delay (duration : Nat)
  | interval (period : Nat)
  | intervalWithDelay (period delay : Nat)
deriving DecidableEq, Repr

/-- A task of the runtime. -/
structure ScheduledTask (T : Type) where
  timing : TaskTiming
  task : T
deriving DecidableEq, Repr

/-- `SchedulerImpl`, and the tasks of the runtime. -/
structure Scheduler (T : Type) where
  /-- The handles under which there is something to abort. -/
  tasks : Dict Nat Unit
  nextId : Nat
  running : Dict Nat (ScheduledTask T)

namespace Scheduler

variable {T : Type}

def new : Scheduler T where
  tasks := ∅
  nextId := 1
  running := ∅

/-- `delay`, `interval` and `interval_with_delay`, with the handle that is returned. -/
def schedule (scheduler : Scheduler T) (task : ScheduledTask T) : Scheduler T × Nat :=
  ({ tasks := scheduler.tasks.insert scheduler.nextId ()
     nextId := scheduler.nextId + 1
     running := scheduler.running.insert scheduler.nextId task }, scheduler.nextId)

/-- A delayed task has run. It removes its handle from a clone of the table, so the table itself
keeps it. -/
def finish (scheduler : Scheduler T) (handle : Nat) : Scheduler T :=
  { scheduler with running := scheduler.running.erase handle }

def cancel (scheduler : Scheduler T) (handle : Nat) : Scheduler T :=
  match scheduler.tasks.lookup handle with
  | some () =>
    { scheduler with
      tasks := scheduler.tasks.erase handle
      running := scheduler.running.erase handle }
  | none => scheduler

/-! ### Calls and tasks that overlap -/

inductive Event (T : Type) where
  /-- A call takes a handle and spawns its task. -/
  | start (task : ScheduledTask T)
  /-- The call puts its handle into the table and returns. -/
  | returned (handle : Nat)
  | finish (handle : Nat)
  | cancel (handle : Nat)

/-- The scheduler, the handles of the calls that have not returned and of the delayed tasks that
have not run, and what has happened. An aborted task goes on to its next `await`, so it may still
finish. -/
structure System (T : Type) where
  scheduler : Scheduler T := .new
  pending : List Nat := []
  delayed : List Nat := []
  scheduled : List Nat := []
  finished : List Nat := []
  cancelled : List Nat := []

def System.next (s : System T) : Event T → Option (System T)
  | .start task =>
    let handle := s.scheduler.nextId
    some { s with
      scheduler := { s.scheduler with
        nextId := handle + 1, running := s.scheduler.running.insert handle task }
      pending := handle :: s.pending
      delayed := match task.timing with
        | .delay _ => handle :: s.delayed
        | _ => s.delayed }
  | .returned handle =>
    if handle ∈ s.pending then
      some { s with
        scheduler := { s.scheduler with tasks := s.scheduler.tasks.insert handle () }
        pending := s.pending.filter (· ≠ handle)
        scheduled := handle :: s.scheduled }
    else none
  | .finish handle =>
    if handle ∈ s.delayed then
      some { s with
        scheduler := s.scheduler.finish handle
        delayed := s.delayed.filter (· ≠ handle)
        finished := handle :: s.finished }
    else none
  | .cancel handle =>
    some { s with
      scheduler := s.scheduler.cancel handle
      cancelled := if handle ∈ s.scheduled then handle :: s.cancelled else s.cancelled }

end Scheduler

end Infrarust
