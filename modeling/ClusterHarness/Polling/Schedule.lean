import ClusterHarness.Polling.Machine

/-!
# Several polls on one clock

Each task is a poll that may be dropped at an instant of its own.  The clock jumps to the earliest
instant at which any task has an event; a poll that is due when it would be dropped is resumed
first.
-/

namespace ClusterHarness

namespace Polling

structure Task (ε : Type) where
  job : Job ε
  machine : Machine ε
  /-- The first tick at which the poll may be dropped. -/
  dropAt : Option Nat
  /-- When it was dropped. -/
  droppedAt : Option Nat

variable {ε : Type}

namespace Task

/-- A task that has not begun; it is dropped at the first tick not before `drop`. -/
def start (job : Job ε) (drop : Option Nat) : Task ε where
  job := job
  machine := job.initial
  dropAt := drop.map (job.clock.wakes job.start)
  droppedAt := none

/-- The instant of the next event of a task: a step of its poll, or its being dropped. -/
def nextEvent (task : Task ε) : Option Nat :=
  match task.droppedAt, task.machine.due with
  | none, some due => some (min due (task.dropAt.getD due))
  | _, _ => none

/-- The event of a task at an instant. -/
def fire (now : Nat) (task : Task ε) : Task ε :=
  if task.machine.due = some now then
    { task with machine := task.machine.resume task.job now }
  else { task with droppedAt := some now }

/-- How a poll left the clock, and when: with an outcome, or dropped without one. -/
def result? (task : Task ε) : Option (Option (Outcome ε) × Nat) :=
  match task.machine.stage, task.droppedAt with
  | .ended outcome at_, _ => some (some outcome, at_)
  | _, some at_ => some (none, at_)
  | _, none => none

end Task

namespace Schedule

def earliest (tasks : List (Task ε)) : Option Nat :=
  (tasks.filterMap Task.nextEvent).min?

def fireFirst (now : Nat) : List (Task ε) → List (Task ε)
  | [] => []
  | task :: rest =>
    if task.nextEvent = some now then task.fire now :: rest else task :: fireFirst now rest

/-- The tasks after at most so many events. -/
def run : Nat → List (Task ε) → List (Task ε)
  | 0, tasks => tasks
  | events + 1, tasks =>
    match earliest tasks with
    | some now => run events (fireFirst now tasks)
    | none => tasks

end Schedule

end Polling

end ClusterHarness
