import ClusterHarness.Duration.Basic
import ClusterHarness.Numeric.Decimal

/-!
# Settings of a poll

A spec has a positive interval that is a duration, a deadline that is absent or positive, and a
jitter factor that is finite and not negative; a value of the type has these properties.
-/

namespace ClusterHarness

namespace Polling

inductive SpecError where
  | zeroInterval
  | invalidJitter (factor : Binary64)
  deriving DecidableEq, Repr

def SpecError.message : SpecError → String
  | .zeroInterval => "poll interval must be greater than zero"
  | .invalidJitter factor =>
    "jitter factor must be finite and non-negative, got " ++ factor.plain

/-- Whether a factor may stretch sleeps. -/
def validJitter (factor : Binary64) : Bool := factor.isFinite && factor.isNonnegative

structure Spec where
  interval : Nat
  timeout : Option Nat
  immediate : Bool
  jitter : Binary64
  interval_pos : 0 < interval
  interval_le_max : interval ≤ Duration.max
  timeout_pos : ∀ t, timeout = some t → 0 < t
  jitter_valid : validJitter jitter = true

namespace Spec

/-- A timeout of zero is no deadline. -/
def deadlineOf (timeout : Nat) : Option Nat :=
  if timeout = 0 then none else some timeout

theorem deadlineOf_pos (timeout : Nat) :
    ∀ t, deadlineOf timeout = some t → 0 < t := by
  intro t h
  unfold deadlineOf at h
  split at h
  · cases h
  · injection h with h
    omega

def everyPositive (interval timeout : Nat) (positive : 0 < interval)
    (short : interval ≤ Duration.max) : Spec where
  interval := interval
  timeout := deadlineOf timeout
  immediate := true
  jitter := Binary64.zero false
  interval_pos := positive
  interval_le_max := short
  timeout_pos := deadlineOf_pos timeout
  jitter_valid := rfl

/-- Polls at an interval until the timeout, starting right away.  A number of nanoseconds past the
longest duration stands for the longest one. -/
def every (interval timeout : Nat) : Except SpecError Spec :=
  if positive : 0 < interval then
    .ok (everyPositive (min interval Duration.max) timeout
      (Nat.lt_min.mpr ⟨positive, by decide⟩) (Nat.min_le_right _ _))
  else .error .zeroInterval

def forever (interval : Nat) : Except SpecError Spec := every interval 0

def eachSecond (timeout : Nat) : Spec :=
  everyPositive (Duration.ofSecs 1) timeout (by decide) (by decide)

/-- Whether the first evaluation comes before the first sleep. -/
def withImmediate (spec : Spec) (immediate : Bool) : Spec := { spec with immediate }

/-- Stretches every sleep by up to `factor` intervals. -/
def withJitter (spec : Spec) (factor : Binary64) : Except SpecError Spec :=
  if valid : validJitter factor = true then
    .ok { spec with jitter := factor, jitter_valid := valid }
  else .error (.invalidJitter factor)

/-- Equality of settings, jitter factors compared as numbers. -/
def same (a b : Spec) : Bool :=
  a.interval == b.interval && a.timeout == b.timeout && a.immediate == b.immediate
    && a.jitter.numericEq b.jitter

/-- The sleep before the next evaluation, stretched by `draw` jitters; never shorter than the
interval. -/
def delay (spec : Spec) (draw : Binary64) : Nat :=
  if spec.jitter.isZero then spec.interval
  else
    let extra := ((Duration.toSeconds spec.interval).mul draw).mul spec.jitter
    Duration.saturatingAdd spec.interval ((Duration.ofSeconds? extra).getD Duration.max)

/-- Jitter never shortens a sleep. -/
theorem interval_le_delay (spec : Spec) (draw : Binary64) : spec.interval ≤ spec.delay draw := by
  unfold delay
  split
  · exact Nat.le_refl _
  · exact Nat.le_min.mpr ⟨Nat.le_add_right _ _, spec.interval_le_max⟩

end Spec

end Polling

end ClusterHarness
