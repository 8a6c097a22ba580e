import ClusterHarness.Proofs.Polling.Outcome
import ClusterHarness.Proofs.Polling.Spacing
import Mathlib.Algebra.Order.Floor.Div

/-!
# How many evaluations a poll makes

Every pause brings a poll one interval further or to its deadline, however long its evaluations
take.  So the intervals that it takes to fill the timeout bound the pauses, and the poll ends.
Where evaluations take no time and all pauses are whole ticks, the bound is the number.
-/

namespace ClusterHarness

namespace Polling

variable {ε : Type}

namespace Clock

theorem tick_lt (clock : Clock) (at_ : Nat) : clock.tick at_ < at_ + clock.resolution := by
  have positive := clock.resolution_pos
  have below := Nat.div_mul_le_self (at_ + (clock.resolution - 1)) clock.resolution
  unfold tick
  omega

end Clock

namespace Spec

/-- The evaluations that a timeout leaves room for: one after each pause, and one before the first
pause if the poll starts with it. -/
def rounds (spec : Spec) (timeout : Nat) : Nat :=
  timeout ⌈/⌉ spec.interval + if spec.immediate then 1 else 0

/-- How many pauses there are before the evaluation of an index. -/
def pauses (spec : Spec) (index : Nat) : Nat := if spec.immediate then index else index + 1

theorem pauses_succ (spec : Spec) (index : Nat) :
    spec.pauses (index + 1) = spec.pauses index + 1 := by
  unfold pauses
  split <;> rfl

theorem lt_rounds_iff (spec : Spec) {timeout index : Nat} :
    index < spec.rounds timeout ↔ spec.pauses index ≤ timeout ⌈/⌉ spec.interval := by
  unfold rounds pauses
  split <;> omega

/-- The pauses before an evaluation fill the timeout exactly from the last round on. -/
theorem rounds_le_succ_iff (spec : Spec) {timeout index : Nat} :
    spec.rounds timeout ≤ index + 1 ↔ timeout ≤ spec.pauses index * spec.interval := by
  rw [Nat.mul_comm, ← ceilDiv_le_iff_le_mul spec.interval_pos]
  unfold rounds pauses
  split <;> omega

theorem rounds_pos (spec : Spec) {timeout : Nat} (positive : 0 < timeout) :
    0 < spec.rounds timeout := by
  rw [lt_rounds_iff]
  unfold pauses
  split
  · exact Nat.zero_le _
  · refine Nat.pos_of_ne_zero fun none => ?_
    have covered := (ceilDiv_le_iff_le_mul spec.interval_pos).mp (Nat.le_of_eq none)
    omega

end Spec

namespace Job

/-! ## The number of evaluations -/

/-- The poll ends after exactly so many evaluations. -/
structure Makes (job : Job ε) (count : Nat) : Prop where
  ends : ∃ outcome instant, job.Ends outcome instant
  calls_iff : ∀ index, (∃ instant, job.Calls index instant) ↔ index < count

theorem Last.makes {job : Job ε} {k : Nat} (last : job.Last k) : job.Makes (k + 1) where
  ends := ⟨_, _, last.ends_iff.mpr ⟨rfl, rfl⟩⟩
  calls_iff := by
    intro index
    constructor
    · rintro ⟨instant, called⟩
      exact Nat.lt_succ_of_le (last.calls_iff.mp called).1
    · intro lower
      exact ⟨_, last.calls_iff.mpr ⟨Nat.le_of_lt_succ lower, rfl⟩⟩

/-! ## The bound -/

/-- A pause lasts for the interval unless the deadline comes before. -/
theorem le_wake_of_deadline {job : Job ε} {d : Nat} (limited : job.deadline = some d)
    (now index : Nat) : min (now + job.spec.interval) d ≤ job.wake now index := by
  have named : ∀ e, job.deadline = some e → e < job.clock.horizon :=
    fun _ => job.deadline_lt_horizon
  have requested := nextStart_eq named (job.fits_of_deadline limited now index)
  have stretched : job.spec.interval ≤ job.sleep index := job.spec.interval_le_delay _
  rw [limited] at requested
  calc
    min (now + job.spec.interval) d ≤ min (now + job.sleep index) d := by omega
    _ = nextStart job.clock job.deadline now (job.sleep index) := by rw [limited, requested]; rfl
    _ ≤ job.clock.tick _ := job.clock.le_tick _
    _ ≤ job.clock.fires now _ := Nat.le_max_right _ _
    _ ≤ job.wake now index := Nat.le_add_right _ _

/-- Each pause brings a poll one interval further or to the deadline. -/
theorem le_begins_of_deadline {job : Job ε} {d : Nat} (limited : job.deadline = some d)
    (index : Nat) :
    min (job.start + job.spec.pauses index * job.spec.interval) d ≤ job.begins index := by
  induction index with
  | zero =>
      unfold begins Spec.pauses
      split
      · simp
      · simpa using le_wake_of_deadline limited job.start 0
  | succ index ih =>
      have paused := le_wake_of_deadline limited (job.ends index) (index + 1)
      have worked := job.begins_le_ends index
      rw [begins_succ, Spec.pauses_succ, Nat.succ_mul]
      omega

/-- An evaluation after pauses that fill the timeout is decisive, so one of those that the timeout
leaves room for is the last. -/
theorem exists_last_lt_rounds {job : Job ε} {timeout : Nat}
    (timed : job.spec.timeout = some timeout)
    (named : job.start + timeout < job.clock.horizon) :
    ∃ k < job.spec.rounds timeout, job.Last k := by
  have limited : job.deadline = some (job.start + timeout) :=
    deadline_eq_some.mpr ⟨timeout, timed, named, rfl⟩
  obtain ⟨index, same⟩ := Nat.exists_eq_succ_of_ne_zero
    (Nat.ne_of_gt (job.spec.rounds_pos (job.spec.timeout_pos timeout timed)))
  have filled : timeout ≤ job.spec.pauses index * job.spec.interval :=
    job.spec.rounds_le_succ_iff.mp (Nat.le_of_eq same)
  have late : job.start + timeout ≤ job.ends index := by
    have reached := le_begins_of_deadline limited index
    have worked := job.begins_le_ends index
    omega
  have decisive : job.Decisive index := Or.inr ⟨_, limited, late⟩
  obtain ⟨k, last⟩ := exists_last decisive
  refine ⟨k, ?_, last⟩
  rw [same]
  exact Nat.lt_succ_of_le (Nat.le_of_not_lt fun beyond => last.2 index beyond decisive)

/-! ## The bound is reached -/

/-- Nothing is ever found, and each time at once; timers are punctual, nothing stretches a pause, and
interval and timeout are whole ticks. -/
structure Regular (job : Job ε) (timeout : Nat) : Prop where
  pending : ∀ index, (job.script index).finds = .pending
  instant : ∀ index, job.ends index = job.begins index
  punctual : job.Punctual
  unstretched : job.spec.jitter.isZero = true
  interval_ticks : job.clock.resolution ∣ job.spec.interval
  timeout_ticks : job.clock.resolution ∣ timeout

namespace Regular

variable {job : Job ε} {timeout : Nat} (regular : job.Regular timeout)
include regular

theorem sleep_eq (index : Nat) : job.sleep index = job.spec.interval := by
  unfold sleep Spec.delay
  rw [if_pos regular.unstretched]

/-- A tick that leaves room for some pauses comes before the deadline if they do not fill the
timeout. -/
theorem tick_lt_deadline {count : Nat} (unfilled : count * job.spec.interval < timeout) :
    job.clock.tick (job.start + count * job.spec.interval) < job.start + timeout := by
  have ticked := job.clock.tick_lt (job.start + count * job.spec.interval)
  obtain ⟨width, interval⟩ := regular.interval_ticks
  obtain ⟨ticks, same⟩ := regular.timeout_ticks
  have room : count * job.spec.interval + job.clock.resolution ≤ timeout := by
    rw [interval, same, Nat.mul_left_comm] at unfilled ⊢
    have fewer : count * width < ticks := Nat.lt_of_mul_lt_mul_left unfilled
    exact Nat.mul_succ job.clock.resolution _ ▸ Nat.mul_le_mul_left _ fewer
  omega

/-- No evaluation begins after a tick that leaves room for the pauses before it. -/
theorem begins_le (limited : job.deadline = some (job.start + timeout)) {index t : Nat}
    (unfilled : job.spec.pauses index * job.spec.interval < timeout)
    (onTick : job.clock.resolution ∣ t)
    (le : job.start + job.spec.pauses index * job.spec.interval ≤ t) : job.begins index ≤ t := by
  have early (d : Nat) (same : job.deadline = some d) : job.start + timeout ≤ d :=
    Nat.le_of_eq (Option.some.inj (limited.symm.trans same))
  have cut (instant : Nat) : job.cut instant ≤ instant := by
    rw [Job.cut, limited]
    exact Nat.min_le_left _ _
  induction index generalizing t with
  | zero =>
      cases immediate : job.spec.immediate with
      | true =>
          rw [begins_zero_of_immediate immediate]
          exact Nat.le_trans (Nat.le_add_right _ _) le
      | false =>
          rw [begins_zero_eq_tick regular.punctual immediate (fits_of_deadline limited _ _)]
          refine job.clock.tick_le onTick (Nat.le_trans (cut _) ?_)
          rw [regular.sleep_eq]
          simpa [Spec.pauses, immediate] using le
  | succ index ih =>
      rw [Spec.pauses_succ, Nat.succ_mul] at unfilled le
      -- the evaluation before began by a tick one interval earlier, and so before the deadline
      have before := ih (t := t - job.spec.interval) (by omega)
        (Nat.dvd_sub onTick regular.interval_ticks) (by omega)
      have undecided : job.begins index < job.start + timeout :=
        Nat.lt_of_le_of_lt (ih (by omega) (job.clock.resolution_dvd_tick _) (job.clock.le_tick _))
          (regular.tick_lt_deadline (by omega))
      rw [begins_succ, regular.instant, wake_eq_tick regular.punctual
        (fun d same => Nat.le_trans (Nat.le_of_lt undecided) (early d same))
        (fits_of_deadline limited _ _), regular.sleep_eq]
      exact job.clock.tick_le onTick (Nat.le_trans (cut _) (by omega))

/-- A regular poll goes on as long as its pauses do not fill the timeout. -/
theorem not_decisive (limited : job.deadline = some (job.start + timeout)) {index : Nat}
    (unfilled : job.spec.pauses index * job.spec.interval < timeout) : ¬ job.Decisive index := by
  refine (not_decisive_iff_of_deadline limited index).mpr ⟨regular.pending index, ?_⟩
  rw [regular.instant]
  exact Nat.lt_of_le_of_lt
    (regular.begins_le limited unfilled (job.clock.resolution_dvd_tick _) (job.clock.le_tick _))
    (regular.tick_lt_deadline unfilled)

end Regular

/-- A poll with a deadline ends, and makes no more evaluations than its timeout leaves room for; a
regular one makes as many. -/
theorem ends_within_rounds (job : Job ε) {timeout : Nat}
    (timed : job.spec.timeout = some timeout)
    (named : job.start + timeout < job.clock.horizon) :
    (∃ count ≤ job.spec.rounds timeout, job.Makes count) ∧
      (job.Regular timeout → job.Makes (job.spec.rounds timeout)) := by
  obtain ⟨k, within, last⟩ := exists_last_lt_rounds timed named
  refine ⟨⟨k + 1, within, last.makes⟩, ?_⟩
  intro regular
  have limited : job.deadline = some (job.start + timeout) :=
    deadline_eq_some.mpr ⟨timeout, timed, named, rfl⟩
  have filled : timeout ≤ job.spec.pauses k * job.spec.interval :=
    Nat.le_of_not_lt fun unfilled => regular.not_decisive limited unfilled last.1
  have all : k + 1 = job.spec.rounds timeout :=
    Nat.le_antisymm within (job.spec.rounds_le_succ_iff.mpr filled)
  exact all ▸ last.makes

def fruitless : Job String := eachSecond (Duration.ofMillis 2500) fun _ => ⟨none, .pending⟩

/-- The evaluations begin after 0, 1, 2 and 2.5 seconds. -/
theorem fruitless_makes :
    fruitless.spec.timeout = some (Duration.ofMillis 2500) ∧
      fruitless.start + Duration.ofMillis 2500 < fruitless.clock.horizon ∧
      fruitless.Regular (Duration.ofMillis 2500) ∧ fruitless.Makes 4 := by
  have timed : fruitless.spec.timeout = some (Duration.ofMillis 2500) := by decide
  have named : fruitless.start + Duration.ofMillis 2500 < fruitless.clock.horizon := by decide
  have regular : fruitless.Regular (Duration.ofMillis 2500) := by
    constructor
    case pending => exact fun _ => rfl
    case instant => exact fun _ => rfl
    case punctual => exact fun _ => rfl
    all_goals decide
  exact ⟨timed, named, regular, (fruitless.ends_within_rounds timed named).2 regular⟩

end Job

end Polling

end ClusterHarness
