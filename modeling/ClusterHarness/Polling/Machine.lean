import ClusterHarness.Polling.Clock

/-!
# A poll as a machine

A poll is asleep until its next evaluation, or evaluating, or ended.  Each stage but the last has
an instant at which it is over; resumed at that instant, the machine takes one step.
-/

namespace ClusterHarness

namespace Polling

/-- One evaluation of a scripted condition: how long it sleeps, if it does, and what it finds. -/
structure Evaluation (ε : Type) where
  takes : Option Nat
  finds : Check ε

structure Job (ε : Type) where
  clock : Clock
  spec : Spec
  script : Nat → Evaluation ε
  draws : Nat → Binary64
  start : Nat
  /-- How long each evaluation works before it sleeps. -/
  busy : Nat → Nat := fun _ => 0
  /-- By how much the timer before each evaluation is late. -/
  late : Nat → Nat := fun _ => 0

inductive Stage (ε : Type) where
  | asleep (wake : Nat)
  | evaluating (ends : Nat)
  | ended (outcome : Outcome ε) (at_ : Nat)

/-- The state of a poll: when its evaluations began, the latest first, and its stage. -/
structure Machine (ε : Type) where
  begun : List Nat
  stage : Stage ε

variable {ε : Type}

namespace Job

/-- A script that is polled once a second from the start of a clock of milliseconds. -/
def eachSecond (timeout : Nat) (script : Nat → Evaluation ε) : Job ε where
  clock := .millisecond
  spec := .eachSecond timeout
  script := script
  draws _ := Binary64.zero false
  start := 0

def deadline (job : Job ε) : Option Nat := Polling.deadline job.clock job.spec job.start

/-- When the sleep ends that begins now, before the evaluation of the given index. -/
def wake (job : Job ε) (now : Nat) (index : Nat) : Nat :=
  job.clock.fires now
    (nextStart job.clock job.deadline now (job.spec.delay (job.draws index))) + job.late index

def evaluated (job : Job ε) (now : Nat) (index : Nat) : Nat :=
  match (job.script index).takes with
  | some d => job.clock.wakes (now + job.busy index) d
  | none => now + job.busy index

/-- A poll at its start: about to evaluate, or asleep for one interval. -/
def initial (job : Job ε) : Machine ε where
  begun := []
  stage := .asleep (if job.spec.immediate then job.start else job.wake job.start 0)

end Job

namespace Machine

/-- The instant at which the machine has its next step; an ended one has none. -/
def due (m : Machine ε) : Option Nat :=
  match m.stage with
  | .asleep wake => some wake
  | .evaluating ends => some ends
  | .ended .. => none

/-- The evaluations made so far, by the instants at which they began. -/
def calls (m : Machine ε) : List Nat := m.begun.reverse

/-- One step at the given instant. -/
def resume (job : Job ε) (now : Nat) (m : Machine ε) : Machine ε :=
  match m.stage with
  | .asleep _ =>
    { begun := now :: m.begun, stage := .evaluating (job.evaluated now m.begun.length) }
  | .evaluating _ =>
    match verdict job.start job.deadline now (job.script (m.begun.length - 1)).finds with
    | some outcome => { m with stage := .ended outcome now }
    | none => { m with stage := .asleep (job.wake now m.begun.length) }
  | .ended .. => m

/-- The step that is due, if there is one. -/
def advance (job : Job ε) (m : Machine ε) : Machine ε :=
  match m.due with
  | some now => m.resume job now
  | none => m

/-- The machine after at most so many steps, each taken when it is due. -/
def run (job : Job ε) : Nat → Machine ε → Machine ε
  | 0, m => m
  | steps + 1, m => run job steps (m.advance job)

theorem run_succ (job : Job ε) (steps : Nat) (m : Machine ε) :
    run job (steps + 1) m = (run job steps m).advance job := by
  induction steps generalizing m with
  | zero => rfl
  | succ steps ih => exact ih (m.advance job)

theorem run_of_ended (job : Job ε) (steps : Nat) {m : Machine ε} (ended : m.due = none) :
    run job steps m = m := by
  induction steps with
  | zero => rfl
  | succ steps ih => rw [run_succ, ih, advance, ended]

end Machine

end Polling

end ClusterHarness
