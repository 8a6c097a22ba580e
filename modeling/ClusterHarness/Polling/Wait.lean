import ClusterHarness.Polling.Clock

/-!
# Polling in a world

The same poll where evaluating the condition acts on a world: each evaluation and each sleep takes
the world to its next state.  What the condition saw last is carried along, so that a wait in vain
can say so.
-/

namespace ClusterHarness

namespace Polling

/-- A world with a clock: `now` reads it, `sleepUntil` lets time pass up to a tick, `draw` gives
the next random number of the unit interval.  A poll without a deadline is followed for `patience`
evaluations. -/
structure Clocked (σ : Type) where
  clock : Clock
  now : σ → Nat
  sleepUntil : Nat → σ → σ
  draw : σ → Binary64 × σ
  patience : Nat

variable {σ ε : Type}

namespace Clocked

/-- Sleeps before the next evaluation. -/
def pause (world : Clocked σ) (spec : Spec) (deadline : Option Nat) (s : σ) : σ :=
  let (draw, s) := world.draw s
  let now := world.now s
  world.sleepUntil
    (world.clock.fires now (nextStart world.clock deadline now (spec.delay draw))) s

/-- Sleeps for some length. -/
def sleep (world : Clocked σ) (d : Nat) (s : σ) : σ :=
  world.sleepUntil (world.clock.wakes (world.now s) d) s

/-- Evaluates and sleeps in turn, for at most so many evaluations; `none` if they do not end
the poll. -/
def rounds (world : Clocked σ) (spec : Spec) (start : Nat) (deadline : Option Nat)
    (condition : σ → Check ε × σ) : Nat → σ → Option (Outcome ε) × σ
  | 0, s => (none, s)
  | count + 1, s =>
    let (check, s) := condition s
    match verdict start deadline (world.now s) check with
    | some outcome => (some outcome, s)
    | none => rounds world spec start deadline condition count (world.pause spec deadline s)

/-- How many evaluations a poll is followed for: all that fit before a deadline. -/
def evaluations (world : Clocked σ) (spec : Spec) (start : Nat) (deadline : Option Nat) : Nat :=
  match deadline with
  | some d => (d - start) / spec.interval + 2
  | none => world.patience

/-- Evaluates a condition until it is done, fails, or the deadline has passed. -/
def poll (world : Clocked σ) (spec : Spec) (condition : σ → Check ε × σ) (s : σ) :
    Option (Outcome ε) × σ :=
  let start := world.now s
  let deadline := Polling.deadline world.clock spec start
  let s := if spec.immediate then s else world.pause spec deadline s
  world.rounds spec start deadline condition (world.evaluations spec start deadline) s

def withText (world : Clocked σ) : Clocked (String × σ) where
  clock := world.clock
  now s := world.now s.2
  sleepUntil at_ s := (s.1, world.sleepUntil at_ s.2)
  draw s := let (draw, rest) := world.draw s.2; (draw, (s.1, rest))
  patience := world.patience

end Clocked

/-- The finding of an evaluation and what it recorded of the state it saw, if anything. -/
structure Finding (ε : Type) where
  check : Check ε
  seen : Option String

/-- How a wait ended: a poll's outcome and the last state recorded. -/
structure Report (ε : Type) where
  outcome : Outcome ε
  lastSeen : String

/-- Polls a condition that records what it sees; at first nothing has been seen. -/
def watch (world : Clocked σ) (spec : Spec) (condition : σ → Finding ε × σ) (s : σ) :
    Option (Report ε) × σ :=
  let step (state : String × σ) : Check ε × (String × σ) :=
    let (finding, s) := condition state.2
    (finding.check, (finding.seen.getD state.1, s))
  let (outcome, (seen, s)) := world.withText.poll spec step ("", s)
  (outcome.map fun outcome => ⟨outcome, seen⟩, s)

end Polling

end ClusterHarness
