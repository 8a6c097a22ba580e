import ClusterHarness.Polling.Schedule
import Mathlib.Data.Nat.Find

/-!
# The timeline of a poll

The evaluations of a poll follow one another, each beginning when the pause after the one before
is over.  The timeline says when each evaluation would begin and end if the poll got that far.
A run of the machine follows the timeline up to the first evaluation that decides the poll, and
then stands still.
-/

namespace ClusterHarness

namespace Polling

variable {ε : Type}

namespace Job

/-! ## Instants -/

def begins (job : Job ε) : Nat → Nat
  | 0 => if job.spec.immediate then job.start else job.wake job.start 0
  | index + 1 => job.wake (job.evaluated (begins job index) index) (index + 1)

def ends (job : Job ε) (index : Nat) : Nat := job.evaluated (job.begins index) index

theorem begins_succ (job : Job ε) (index : Nat) :
    job.begins (index + 1) = job.wake (job.ends index) (index + 1) :=
  rfl

theorem le_wake (job : Job ε) (now index : Nat) : now ≤ job.wake now index :=
  Nat.le_trans (job.clock.le_fires now _) (Nat.le_add_right _ _)

theorem le_evaluated (job : Job ε) (now index : Nat) : now ≤ job.evaluated now index := by
  have worked := Nat.le_add_right now (job.busy index)
  unfold evaluated
  cases (job.script index).takes with
  | none => exact worked
  | some d => exact Nat.le_trans worked (job.clock.le_wakes _ d)

theorem begins_le_ends (job : Job ε) (index : Nat) : job.begins index ≤ job.ends index :=
  job.le_evaluated _ _

theorem ends_le_begins_succ (job : Job ε) (index : Nat) :
    job.ends index ≤ job.begins (index + 1) :=
  job.le_wake _ _

theorem start_le_begins (job : Job ε) (index : Nat) : job.start ≤ job.begins index := by
  induction index with
  | zero =>
      unfold begins
      split
      · exact Nat.le_refl _
      · exact job.le_wake _ _
  | succ index ih =>
      exact Nat.le_trans ih
        (Nat.le_trans (job.begins_le_ends index) (job.ends_le_begins_succ index))

theorem ends_le_begins (job : Job ε) {i j : Nat} (lower : i < j) : job.ends i ≤ job.begins j := by
  induction lower with
  | refl => exact job.ends_le_begins_succ i
  | step _ ih =>
      exact Nat.le_trans ih
        (Nat.le_trans (job.begins_le_ends _) (job.ends_le_begins_succ _))

theorem deadline_lt_horizon (job : Job ε) {d : Nat} (limited : job.deadline = some d) :
    d < job.clock.horizon := by
  obtain ⟨timeout, _, named, rfl⟩ := deadline_eq_some.mp limited
  exact named

theorem start_lt_deadline (job : Job ε) {d : Nat} (limited : job.deadline = some d) :
    job.start < d := by
  obtain ⟨timeout, given, _, rfl⟩ := deadline_eq_some.mp limited
  exact Nat.lt_add_of_pos_right (job.spec.timeout_pos timeout given)

/-! ## Decisions -/

/-- An evaluation decides the poll when its finding is final or when it ends at or after the
deadline. -/
def Decisive (job : Job ε) (index : Nat) : Prop :=
  (job.script index).finds ≠ .pending ∨ ∃ d, job.deadline = some d ∧ d ≤ job.ends index

/-- The first evaluation that decides the poll. -/
def Last (job : Job ε) (index : Nat) : Prop :=
  job.Decisive index ∧ ∀ i < index, ¬ job.Decisive i

theorem not_decisive_iff (job : Job ε) (index : Nat) :
    ¬ job.Decisive index ↔
      (job.script index).finds = .pending ∧ ∀ d, job.deadline = some d → job.ends index < d := by
  simp only [Decisive, not_or, ne_eq, Classical.not_not, not_exists, not_and, Nat.not_le]

theorem not_decisive_iff_of_deadline {job : Job ε} {d : Nat} (limited : job.deadline = some d)
    (index : Nat) :
    ¬ job.Decisive index ↔ (job.script index).finds = .pending ∧ job.ends index < d := by
  simp only [not_decisive_iff, limited, Option.some.injEq, forall_eq']

/-- Nothing but the deadline makes an evaluation decisive that found nothing. -/
theorem Decisive.passed {job : Job ε} {index : Nat} (decisive : job.Decisive index)
    (found : (job.script index).finds = .pending) :
    ∃ d, job.deadline = some d ∧ d ≤ job.ends index :=
  decisive.resolve_left (absurd found)

theorem Last.unique {job : Job ε} {i j : Nat} (first : job.Last i) (second : job.Last j) :
    i = j := by
  rcases Nat.lt_trichotomy i j with lower | same | higher
  · exact absurd first.1 (second.2 i lower)
  · exact same
  · exact absurd second.1 (first.2 j higher)

theorem exists_last {job : Job ε} {index : Nat} (decisive : job.Decisive index) :
    ∃ k, job.Last k := by
  classical
  have decided : ∃ n, job.Decisive n := ⟨index, decisive⟩
  exact ⟨Nat.find decided, Nat.find_spec decided, fun i lower => Nat.find_min decided lower⟩

/-- How the poll ends if the evaluation of an index decides it. -/
def conclusion (job : Job ε) (index : Nat) : Outcome ε :=
  match (job.script index).finds with
  | .done => .success
  | .failed cause => .failed cause
  | .pending => .timedOut (job.ends index - job.start)

theorem verdict_ends (job : Job ε) {index : Nat} (decisive : job.Decisive index) :
    verdict job.start job.deadline (job.ends index) (job.script index).finds =
      some (job.conclusion index) := by
  unfold conclusion
  cases found : (job.script index).finds with
  | done => rfl
  | failed cause => rfl
  | pending =>
      obtain ⟨d, limited, passed⟩ := decisive.passed found
      simp [verdict, limited, passed]

/-! ## Stages -/

/-- The instants at which the first so many evaluations begin, the latest first. -/
def begun (job : Job ε) (count : Nat) : List Nat := ((List.range count).map job.begins).reverse

@[simp] theorem length_begun (job : Job ε) (count : Nat) : (job.begun count).length = count := by
  simp [begun]

theorem begun_succ (job : Job ε) (count : Nat) :
    job.begun (count + 1) = job.begins count :: job.begun count := by
  simp [begun, List.range_succ]

def resting (job : Job ε) (index : Nat) : Machine ε :=
  ⟨job.begun index, .asleep (job.begins index)⟩

def working (job : Job ε) (index : Nat) : Machine ε :=
  ⟨job.begun (index + 1), .evaluating (job.ends index)⟩

def finished (job : Job ε) (index : Nat) : Machine ε :=
  ⟨job.begun (index + 1), .ended (job.conclusion index) (job.ends index)⟩

theorem advance_resting (job : Job ε) (index : Nat) :
    (job.resting index).advance job = job.working index := by
  simp [resting, working, Machine.advance, Machine.due, Machine.resume, begun_succ, ends]

theorem advance_working_of_decisive (job : Job ε) {index : Nat}
    (decisive : job.Decisive index) :
    (job.working index).advance job = job.finished index := by
  simp [working, finished, Machine.advance, Machine.due, Machine.resume,
    job.verdict_ends decisive]

theorem advance_working_of_not_decisive (job : Job ε) {index : Nat}
    (undecided : ¬ job.Decisive index) :
    (job.working index).advance job = job.resting (index + 1) := by
  have goesOn : verdict job.start job.deadline (job.ends index) (job.script index).finds = none :=
    verdict_eq_none.mpr ((job.not_decisive_iff index).mp undecided)
  simp [working, resting, Machine.advance, Machine.due, Machine.resume, goesOn, begins_succ]

theorem advance_finished (job : Job ε) (index : Nat) :
    (job.finished index).advance job = job.finished index :=
  rfl

/-! ## Runs -/

def after (job : Job ε) (steps : Nat) : Machine ε := Machine.run job steps job.initial

theorem after_succ (job : Job ε) (steps : Nat) :
    job.after (steps + 1) = (job.after steps).advance job :=
  Machine.run_succ job steps job.initial

/-- Two steps for each evaluation that decides nothing lead to the next one. -/
theorem after_two_mul (job : Job ε) {index : Nat}
    (undecided : ∀ i < index, ¬ job.Decisive i) : job.after (2 * index) = job.resting index := by
  induction index with
  | zero => rfl
  | succ index ih =>
      have rested := ih fun i lower => undecided i (Nat.lt_succ_of_lt lower)
      rw [Nat.mul_succ, after_succ, after_succ, rested, advance_resting,
        advance_working_of_not_decisive job (undecided index (Nat.lt_succ_self index))]

theorem after_two_mul_succ (job : Job ε) {index : Nat}
    (undecided : ∀ i < index, ¬ job.Decisive i) :
    job.after (2 * index + 1) = job.working index := by
  rw [after_succ, after_two_mul job undecided, advance_resting]

/-- Once the poll is decided it no longer changes. -/
theorem after_last (job : Job ε) {k : Nat} (last : job.Last k) (more : Nat) :
    job.after (2 * (k + 1) + more) = job.finished k := by
  induction more with
  | zero =>
      rw [Nat.add_zero, Nat.mul_succ, after_succ, after_two_mul_succ job last.2,
        advance_working_of_decisive job last.1]
  | succ more ih => rw [← Nat.add_assoc, after_succ, ih, advance_finished]

/-- A poll is asleep, evaluating or ended, always as the timeline has it. -/
theorem after_cases (job : Job ε) (steps : Nat) :
    (∃ n, (∀ i < n, ¬ job.Decisive i) ∧ job.after steps = job.resting n) ∨
      (∃ n, (∀ i < n, ¬ job.Decisive i) ∧ job.after steps = job.working n) ∨
      ∃ k, job.Last k ∧ job.after steps = job.finished k := by
  induction steps with
  | zero => exact Or.inl ⟨0, fun i lower => absurd lower (Nat.not_lt_zero i), rfl⟩
  | succ steps ih =>
      rw [after_succ]
      rcases ih with ⟨n, undecided, here⟩ | ⟨n, undecided, here⟩ | ⟨k, last, here⟩
      · exact Or.inr (Or.inl ⟨n, undecided, by rw [here, advance_resting]⟩)
      · by_cases decisive : job.Decisive n
        · exact Or.inr (Or.inr ⟨n, ⟨decisive, undecided⟩,
            by rw [here, advance_working_of_decisive job decisive]⟩)
        · exact Or.inl ⟨n + 1, Nat.forall_lt_succ_right.mpr ⟨undecided, decisive⟩,
            by rw [here, advance_working_of_not_decisive job decisive]⟩
      · exact Or.inr (Or.inr ⟨k, last, by rw [here, advance_finished]⟩)

/-- A poll that is alone on the clock and is not dropped takes its own steps. -/
theorem run_alone (job : Job ε) (steps : Nat) :
    Schedule.run steps [Task.start job none] = [⟨job, job.after steps, none, none⟩] := by
  have alone (m : Machine ε) : Schedule.run steps [⟨job, m, none, none⟩] =
      [⟨job, Machine.run job steps m, none, none⟩] := by
    induction steps generalizing m with
    | zero => rfl
    | succ steps ih =>
        cases due : m.due with
        | none =>
            rw [Machine.run_of_ended job _ due]
            simp [Schedule.run, Schedule.earliest, Task.nextEvent, due]
        | some now =>
            have moved : m.advance job = m.resume job now := by simp [Machine.advance, due]
            rw [Machine.run, moved, ← ih]
            simp [Schedule.run, Schedule.earliest, Schedule.fireFirst, Task.nextEvent, Task.fire, due]
  exact alone job.initial

/-! ## What is seen of a poll -/

/-- At some time the poll has made its evaluation of an index, which began at an instant. -/
def Calls (job : Job ε) (index instant : Nat) : Prop :=
  ∃ steps, (job.after steps).calls[index]? = some instant

def Ends (job : Job ε) (outcome : Outcome ε) (instant : Nat) : Prop :=
  ∃ steps, (job.after steps).stage = .ended outcome instant

theorem getElem?_begun_reverse {job : Job ε} {count index instant : Nat} :
    (job.begun count).reverse[index]? = some instant ↔
      index < count ∧ job.begins index = instant := by
  rw [begun, List.reverse_reverse, List.getElem?_map]
  by_cases lower : index < count <;> simp [lower]

/-- An evaluation is made exactly when none before it decided the poll, and then when the timeline
has it. -/
theorem calls_iff {job : Job ε} {index instant : Nat} :
    job.Calls index instant ↔
      instant = job.begins index ∧ ∀ i < index, ¬ job.Decisive i := by
  constructor
  · rintro ⟨steps, seen⟩
    rcases job.after_cases steps with
      ⟨n, undecided, here⟩ | ⟨n, undecided, here⟩ | ⟨k, last, here⟩ <;>
      rw [here] at seen <;>
      obtain ⟨lower, same⟩ := getElem?_begun_reverse.mp seen
    · exact ⟨same.symm, fun i below => undecided i (Nat.lt_trans below lower)⟩
    · exact ⟨same.symm, fun i below =>
        undecided i (Nat.lt_of_lt_of_le below (Nat.le_of_lt_succ lower))⟩
    · exact ⟨same.symm, fun i below =>
        last.2 i (Nat.lt_of_lt_of_le below (Nat.le_of_lt_succ lower))⟩
  · rintro ⟨rfl, undecided⟩
    refine ⟨2 * index + 1, ?_⟩
    rw [after_two_mul_succ job undecided]
    exact getElem?_begun_reverse.mpr ⟨Nat.lt_succ_self index, rfl⟩

/-- A poll ends exactly with the first evaluation that decides it. -/
theorem ends_iff {job : Job ε} {outcome : Outcome ε} {instant : Nat} :
    job.Ends outcome instant ↔
      ∃ k, job.Last k ∧ outcome = job.conclusion k ∧ instant = job.ends k := by
  constructor
  · rintro ⟨steps, seen⟩
    rcases job.after_cases steps with ⟨n, _, here⟩ | ⟨n, _, here⟩ | ⟨k, last, here⟩ <;>
      rw [here] at seen <;> cases seen
    exact ⟨k, last, rfl, rfl⟩
  · rintro ⟨k, last, rfl, rfl⟩
    exact ⟨2 * (k + 1), congrArg Machine.stage (job.after_last last 0)⟩

theorem Last.calls_iff {job : Job ε} {k : Nat} (last : job.Last k) {index instant : Nat} :
    job.Calls index instant ↔ index ≤ k ∧ instant = job.begins index := by
  rw [Job.calls_iff, and_comm]
  refine and_congr_left fun _ => ⟨fun undecided => ?_, fun le i lower => ?_⟩
  · exact Nat.le_of_not_lt fun beyond => undecided k beyond last.1
  · exact last.2 i (Nat.lt_of_lt_of_le lower le)

theorem Last.ends_iff {job : Job ε} {k : Nat} (last : job.Last k) {outcome : Outcome ε}
    {instant : Nat} :
    job.Ends outcome instant ↔ outcome = job.conclusion k ∧ instant = job.ends k := by
  rw [Job.ends_iff]
  constructor
  · rintro ⟨other, first, same⟩
    rwa [first.unique last] at same
  · intro same
    exact ⟨k, last, same⟩

end Job

end Polling

end ClusterHarness
