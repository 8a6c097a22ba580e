import ClusterHarness.Polling.Spec
import ClusterHarness.Polling.Check

/-!
# The clock and the pauses of a poll

A clock moves in ticks and has a horizon past which no instant can be named.  A timer fires at
the first tick that is not before the requested instant.
-/

namespace ClusterHarness

namespace Polling

structure Clock where
  /-- Nanoseconds between two ticks. -/
  resolution : Nat
  /-- The first instant that cannot be named. -/
  horizon : Nat
  /-- How far away a timer is set that has no nameable instant. -/
  remote : Nat
  resolution_pos : 0 < resolution

namespace Clock

/-- The first tick that is not before an instant. -/
def tick (clock : Clock) (at_ : Nat) : Nat :=
  (at_ + (clock.resolution - 1)) / clock.resolution * clock.resolution

/-- The instant a duration later, if it can be named. -/
def add? (clock : Clock) (now : Nat) (d : Nat) : Option Nat :=
  if now + d < clock.horizon then some (now + d) else none

/-- When a timer for an instant fires that is set now. -/
def fires (clock : Clock) (now requested : Nat) : Nat := max now (clock.tick requested)

/-- When a sleep of some length ends that starts now. -/
def wakes (clock : Clock) (now : Nat) (d : Nat) : Nat :=
  clock.fires now ((clock.add? now d).getD (now + clock.remote))

/-! ## Ticks and timers -/

theorem resolution_dvd_tick (clock : Clock) (at_ : Nat) : clock.resolution ∣ clock.tick at_ :=
  Nat.dvd_mul_left _ _

theorem le_tick (clock : Clock) (at_ : Nat) : at_ ≤ clock.tick at_ := by
  have positive := clock.resolution_pos
  have above := Nat.lt_div_mul_add positive (a := at_ + (clock.resolution - 1))
  unfold tick
  omega

theorem tick_le (clock : Clock) {at_ t : Nat} (onTick : clock.resolution ∣ t) (le : at_ ≤ t) :
    clock.tick at_ ≤ t := by
  obtain ⟨count, rfl⟩ := onTick
  have positive := clock.resolution_pos
  have few : (at_ + (clock.resolution - 1)) / clock.resolution < count + 1 := by
    rw [Nat.div_lt_iff_lt_mul positive, Nat.add_mul, Nat.mul_comm count]
    omega
  rw [tick, Nat.mul_comm clock.resolution]
  exact Nat.mul_le_mul_right _ (Nat.le_of_lt_succ few)

theorem add?_eq_some (clock : Clock) {now d at_ : Nat} :
    clock.add? now d = some at_ ↔ now + d < clock.horizon ∧ now + d = at_ := by
  unfold add?
  split <;> simp [*]

theorem le_fires (clock : Clock) (now requested : Nat) : now ≤ clock.fires now requested :=
  Nat.le_max_left _ _

/-- A timer that is set for no earlier instant fires at a tick. -/
theorem fires_eq_tick (clock : Clock) {now requested : Nat} (le : now ≤ requested) :
    clock.fires now requested = clock.tick requested :=
  Nat.max_eq_right (Nat.le_trans le (clock.le_tick requested))

theorem le_wakes (clock : Clock) (now d : Nat) : now ≤ clock.wakes now d :=
  clock.le_fires _ _

/-- Ticks of a millisecond, named with 63 bits of seconds. -/
def millisecond : Clock where
  resolution := Duration.nanosPerMilli
  horizon := Nat.pow 2 63 * Duration.nanosPerSecond
  remote := Duration.ofSecs (86400 * 365 * 30)
  resolution_pos := by decide

end Clock

/-- The deadline of a poll that starts now; one past the horizon is none. -/
def deadline (clock : Clock) (spec : Spec) (start : Nat) : Option Nat :=
  spec.timeout.bind (clock.add? start)

theorem deadline_eq_some {clock : Clock} {spec : Spec} {start d : Nat} :
    deadline clock spec start = some d ↔
      ∃ timeout, spec.timeout = some timeout ∧ start + timeout < clock.horizon ∧
        start + timeout = d := by
  simp only [deadline, Option.bind_eq_some_iff, Clock.add?_eq_some]

/-- A timeout of zero and one past the end of the clock are no deadline. -/
theorem deadline_of_timeout {spec : Spec} {timeout : Nat}
    (timed : spec.timeout = Spec.deadlineOf timeout) (clock : Clock) (start : Nat) :
    deadline clock spec start =
      if timeout = 0 ∨ clock.horizon ≤ start + timeout then none else some (start + timeout) := by
  rw [deadline, timed, Spec.deadlineOf]
  by_cases zero : timeout = 0
  · simp [zero]
  · by_cases past : clock.horizon ≤ start + timeout
    · simp [zero, past, Clock.add?]
    · simp [zero, past, Clock.add?, Nat.lt_of_not_le past]

/-- The instant requested for the next evaluation: the sleep is cut at the deadline. -/
def nextStart (clock : Clock) (deadline : Option Nat) (now : Nat) (delay : Nat) :
    Nat :=
  match deadline with
  | some deadline => ((clock.add? now delay).map (min · deadline)).getD deadline
  | none => (clock.add? now delay).getD (now + clock.remote)

/-- Before a deadline that can be named, a sleep that cannot be named is cut like any other. -/
theorem nextStart_eq {clock : Clock} {deadline : Option Nat} {now delay : Nat}
    (named : ∀ d, deadline = some d → d < clock.horizon)
    (fits : deadline = none → now + delay < clock.horizon) :
    nextStart clock deadline now delay = deadline.elim (now + delay) (min (now + delay)) := by
  cases deadline with
  | none => simp [nextStart, Clock.add?, fits rfl]
  | some d =>
      have near := named d rfl
      by_cases overflow : now + delay < clock.horizon
      · simp [nextStart, Clock.add?, overflow]
      · have cut : min (now + delay) d = d := Nat.min_eq_right (by omega)
        simp [nextStart, Clock.add?, overflow, cut]

/-- Whether an evaluation that ended now with a finding ends the poll, and how. -/
def verdict {ε : Type} (start : Nat) (deadline : Option Nat) (now : Nat) :
    Check ε → Option (Outcome ε)
  | .done => some .success
  | .failed cause => some (.failed cause)
  | .pending =>
    if deadline.any (· ≤ now) then some (.timedOut (now - start)) else none

theorem verdict_eq_success {ε : Type} {start : Nat} {deadline : Option Nat} {now : Nat}
    {finds : Check ε} : verdict start deadline now finds = some .success ↔ finds = .done := by
  cases finds <;> simp [verdict]

theorem verdict_eq_failed {ε : Type} {start : Nat} {deadline : Option Nat} {now : Nat}
    {finds : Check ε} {cause : ε} :
    verdict start deadline now finds = some (.failed cause) ↔ finds = .failed cause := by
  cases finds <;> simp [verdict]

theorem verdict_eq_timedOut {ε : Type} {start : Nat} {deadline : Option Nat} {now : Nat}
    {finds : Check ε} {elapsed : Nat} :
    verdict start deadline now finds = some (.timedOut elapsed) ↔
      finds = .pending ∧ (∃ d, deadline = some d ∧ d ≤ now) ∧ now - start = elapsed := by
  cases finds <;> cases deadline <;> simp [verdict]

theorem verdict_eq_none {ε : Type} {start : Nat} {deadline : Option Nat} {now : Nat}
    {finds : Check ε} :
    verdict start deadline now finds = none ↔
      finds = .pending ∧ ∀ d, deadline = some d → now < d := by
  cases finds <;> cases deadline <;> simp [verdict]

end Polling

end ClusterHarness
