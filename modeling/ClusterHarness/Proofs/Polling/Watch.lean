import ClusterHarness.Polling.Wait
import Mathlib.Logic.Function.Iterate

/-!
# Polls that act on a world

A condition that is polled in a world takes it from state to state, so its evaluations are known by
the states in which they begin and end.  The report of a poll is read off the first evaluation
whose verdict is final.  Where time passes a deadline is reached after boundedly many evaluations,
so that following a poll for as many loses nothing.
-/

namespace ClusterHarness

namespace Polling

variable {σ ε : Type}

/-! ## Worlds in which time passes -/

namespace Clocked

/-- No sleep is over before its time, and drawing a number does not set the clock back. -/
structure Timely (world : Clocked σ) : Prop where
  now_le_draw : ∀ s, world.now s ≤ world.now (world.draw s).2
  le_sleepUntil : ∀ at_ s, at_ ≤ world.now (world.sleepUntil at_ s)

namespace Timely

variable {world : Clocked σ} (timely : world.Timely)
include timely

theorem now_le_pause (spec : Spec) (deadline : Option Nat) (s : σ) :
    world.now s ≤ world.now (world.pause spec deadline s) :=
  calc
    world.now s ≤ world.now (world.draw s).2 := timely.now_le_draw s
    _ ≤ _ := world.clock.le_fires _ _
    _ ≤ _ := timely.le_sleepUntil _ _

/-- A pause lasts for the interval unless the deadline comes before. -/
theorem le_pause (spec : Spec) {d : Nat} (named : d < world.clock.horizon) (s : σ) :
    min (world.now s + spec.interval) d ≤ world.now (world.pause spec (some d) s) := by
  have drawn := timely.now_le_draw s
  have long := spec.interval_le_delay (world.draw s).1
  have requested :
      nextStart world.clock (some d) (world.now (world.draw s).2) (spec.delay (world.draw s).1) =
        min (world.now (world.draw s).2 + spec.delay (world.draw s).1) d :=
    nextStart_eq (fun _ same => Option.some.inj same ▸ named) nofun
  calc
    min (world.now s + spec.interval) d
        ≤ min (world.now (world.draw s).2 + spec.delay (world.draw s).1) d := by omega
    _ = nextStart world.clock (some d) (world.now (world.draw s).2)
          (spec.delay (world.draw s).1) := requested.symm
    _ ≤ world.clock.tick _ := world.clock.le_tick _
    _ ≤ world.clock.fires _ _ := Nat.le_max_right _ _
    _ ≤ _ := timely.le_sleepUntil _ _

end Timely

end Clocked

/-! ## Evaluations -/

/-- A condition that is polled in a world from some state on. -/
structure Watch (σ ε : Type) where
  world : Clocked σ
  spec : Spec
  condition : σ → Finding ε × σ
  state : σ

namespace Watch

def start (w : Watch σ ε) : Nat := w.world.now w.state

def deadline (w : Watch σ ε) : Option Nat := Polling.deadline w.world.clock w.spec w.start

/-- An evaluation and the pause behind it. -/
def turn (w : Watch σ ε) (s : σ) : σ := w.world.pause w.spec w.deadline (w.condition s).2

/-- The state in which the evaluation of an index begins, if the poll gets that far. -/
def enters (w : Watch σ ε) (k : Nat) : σ :=
  w.turn^[k] (if w.spec.immediate then w.state else w.world.pause w.spec w.deadline w.state)

def leaves (w : Watch σ ε) (k : Nat) : σ := (w.condition (w.enters k)).2

def finds (w : Watch σ ε) (k : Nat) : Finding ε := (w.condition (w.enters k)).1

/-- Whether the evaluation of an index ends the poll, and how. -/
def verdict (w : Watch σ ε) (k : Nat) : Option (Outcome ε) :=
  Polling.verdict w.start w.deadline (w.world.now (w.leaves k)) (w.finds k).check

def seen (w : Watch σ ε) : Nat → String
  | 0 => ""
  | k + 1 => (w.finds k).seen.getD (seen w k)

/-- None of so many evaluations ends the poll. -/
def Open (w : Watch σ ε) (count : Nat) : Prop := ∀ i < count, w.verdict i = none

/-- The first evaluation that ends the poll, and how. -/
def Last (w : Watch σ ε) (k : Nat) (outcome : Outcome ε) : Prop :=
  w.Open k ∧ w.verdict k = some outcome

/-- How many evaluations the poll is followed for. -/
def evaluations (w : Watch σ ε) : Nat := w.world.evaluations w.spec w.start w.deadline

def report (w : Watch σ ε) : Option (Report ε) × σ :=
  Polling.watch w.world w.spec w.condition w.state

theorem enters_succ (w : Watch σ ε) (k : Nat) :
    w.enters (k + 1) = w.world.pause w.spec w.deadline (w.leaves k) :=
  Function.iterate_succ_apply' w.turn k _

theorem open_succ {w : Watch σ ε} {count : Nat} :
    w.Open (count + 1) ↔ w.Open count ∧ w.verdict count = none :=
  Nat.forall_lt_succ_right

/-- Of so many evaluations one is the last, or the poll goes on. -/
theorem last_or_open (w : Watch σ ε) (count : Nat) :
    (∃ k < count, ∃ outcome, w.Last k outcome) ∨ w.Open count := by
  induction count with
  | zero => exact Or.inr nofun
  | succ count ih =>
      rcases ih with ⟨k, early, outcome, last⟩ | undecided
      · exact Or.inl ⟨k, Nat.lt_succ_of_lt early, outcome, last⟩
      · cases decided : w.verdict count with
        | none => exact Or.inr (open_succ.mpr ⟨undecided, decided⟩)
        | some outcome =>
            exact Or.inl ⟨count, Nat.lt_succ_self count, outcome, undecided, decided⟩

/-! ## The report -/

/-- The rounds that are left when the evaluation of an index begins. -/
def roundsFrom (w : Watch σ ε) (count k : Nat) : Option (Outcome ε) × (String × σ) :=
  w.world.withText.rounds w.spec w.start w.deadline
    (fun state => let (finding, s) := w.condition state.2
      (finding.check, (finding.seen.getD state.1, s)))
    count (w.seen k, w.enters k)

theorem roundsFrom_succ (w : Watch σ ε) (count k : Nat) :
    w.roundsFrom (count + 1) k =
      match w.verdict k with
      | some outcome => (some outcome, (w.seen (k + 1), w.leaves k))
      | none => w.roundsFrom count (k + 1) := by
  rw [roundsFrom, roundsFrom, enters_succ]
  rfl

theorem roundsFrom_of_last {w : Watch σ ε} {n : Nat} {outcome : Outcome ε}
    (last : w.Last n outcome) (count k : Nat) (notAfter : k ≤ n) (within : n < k + count) :
    w.roundsFrom count k = (some outcome, (w.seen (n + 1), w.leaves n)) := by
  induction count generalizing k with
  | zero => omega
  | succ count ih =>
      rw [roundsFrom_succ]
      rcases Nat.lt_or_eq_of_le notAfter with before | rfl
      · rw [last.1 k before]
        exact ih (k + 1) before (by omega)
      · rw [last.2]

theorem roundsFrom_of_open {w : Watch σ ε} (count k : Nat) (undecided : w.Open (k + count)) :
    (w.roundsFrom count k).1 = none := by
  induction count generalizing k with
  | zero => rfl
  | succ count ih =>
      rw [roundsFrom_succ, undecided k (by omega)]
      exact ih (k + 1) (by rwa [Nat.add_right_comm])

theorem report_eq (w : Watch σ ε) :
    w.report =
      ((w.roundsFrom w.evaluations 0).1.map fun outcome =>
          ⟨outcome, (w.roundsFrom w.evaluations 0).2.1⟩,
        (w.roundsFrom w.evaluations 0).2.2) := by
  have begins : (if w.spec.immediate then (("", w.state) : String × σ) else
      w.world.withText.pause w.spec w.deadline ("", w.state)) = (w.seen 0, w.enters 0) := by
    unfold enters
    split <;> rfl
  rw [roundsFrom, ← begins]
  rfl

/-- A poll that is followed as far as its last evaluation reports what that one decided and what
was recorded up to then. -/
theorem report_of_last {w : Watch σ ε} {k : Nat} {outcome : Outcome ε} (last : w.Last k outcome)
    (followed : k < w.evaluations) :
    w.report = (some ⟨outcome, w.seen (k + 1)⟩, w.leaves k) := by
  rw [report_eq, roundsFrom_of_last last _ 0 (Nat.zero_le k) (by omega)]
  rfl

theorem report_of_open {w : Watch σ ε} (undecided : w.Open w.evaluations) :
    w.report.1 = none := by
  rw [report_eq, roundsFrom_of_open _ 0 (by rwa [Nat.zero_add])]
  rfl

/-- Whatever is reported is what some last evaluation left behind. -/
theorem report_eq_some {w : Watch σ ε} {r : Report ε} {t : σ} :
    w.report = (some r, t) ↔
      ∃ k < w.evaluations, w.Last k r.outcome ∧ r.lastSeen = w.seen (k + 1) ∧ t = w.leaves k := by
  constructor
  · intro reported
    rcases w.last_or_open w.evaluations with ⟨k, followed, outcome, last⟩ | undecided
    · rw [report_of_last last followed] at reported
      cases reported
      exact ⟨k, followed, last, rfl, rfl⟩
    · have nothing := report_of_open undecided
      rw [reported] at nothing
      cases nothing
  · rintro ⟨k, followed, last, text, rfl⟩
    rw [report_of_last last followed, ← text]

/-! ## Deadlines -/

/-- The world is timely, and evaluating the condition does not set the clock back. -/
structure Steady (w : Watch σ ε) : Prop where
  timely : w.world.Timely
  now_le_condition : ∀ s, w.world.now s ≤ w.world.now (w.condition s).2

namespace Steady

variable {w : Watch σ ε} (steady : w.Steady)
include steady

theorem start_le_enters (k : Nat) : w.start ≤ w.world.now (w.enters k) := by
  induction k with
  | zero =>
      unfold enters
      split
      · exact Nat.le_refl _
      · exact steady.timely.now_le_pause _ _ _
  | succ k ih =>
      rw [enters_succ]
      have worked := steady.now_le_condition (w.enters k)
      have paused := steady.timely.now_le_pause w.spec w.deadline (w.leaves k)
      exact Nat.le_trans ih (Nat.le_trans worked paused)

/-- Each evaluation takes place an interval after the one before or at the deadline. -/
theorem le_enters {d : Nat} (limited : w.deadline = some d) (k : Nat) :
    min (w.start + k * w.spec.interval) d ≤ w.world.now (w.enters k) := by
  obtain ⟨_, _, inTime, rfl⟩ := deadline_eq_some.mp limited
  induction k with
  | zero => exact Nat.le_trans (Nat.min_le_left _ _) (by simpa using steady.start_le_enters 0)
  | succ k ih =>
      have paused := steady.timely.le_pause w.spec inTime (w.leaves k)
      have worked := steady.now_le_condition (w.enters k)
      rw [enters_succ, limited, Nat.succ_mul]
      unfold leaves at *
      omega

/-- No evaluation from the deadline on leaves the poll open. -/
theorem verdict_ne_none {d k : Nat} (limited : w.deadline = some d)
    (late : (d - w.start) / w.spec.interval < k) : w.verdict k ≠ none := by
  intro undecided
  have early : w.world.now (w.leaves k) < d := (verdict_eq_none.mp undecided).2 d limited
  have reached := steady.le_enters limited k
  have worked : w.world.now (w.enters k) ≤ w.world.now (w.leaves k) :=
    steady.now_le_condition _
  have far : d - w.start < k * w.spec.interval :=
    (Nat.div_lt_iff_lt_mul w.spec.interval_pos).mp late
  omega

/-- A poll with a deadline has a last evaluation. -/
theorem exists_last {d : Nat} (limited : w.deadline = some d) :
    ∃ k outcome, w.Last k outcome := by
  rcases w.last_or_open ((d - w.start) / w.spec.interval + 2) with ⟨k, _, last⟩ | undecided
  · exact ⟨k, last⟩
  · exact absurd (undecided _ (Nat.lt_succ_self _))
      (steady.verdict_ne_none limited (Nat.lt_succ_self _))

/-- A poll is followed as far as its last evaluation if it has a deadline, and else as far as
patience goes. -/
theorem lt_evaluations_iff {k : Nat} {outcome : Outcome ε} (last : w.Last k outcome) :
    k < w.evaluations ↔ (w.deadline = none → k < w.world.patience) := by
  unfold evaluations Clocked.evaluations
  cases limited : w.deadline with
  | none => simp
  | some d =>
      have notLate : ¬ (d - w.start) / w.spec.interval + 1 < k := fun late =>
        steady.verdict_ne_none limited (Nat.lt_succ_self _) (last.1 _ late)
      simp only [reduceCtorEq, false_implies, iff_true]
      omega

end Steady

end Watch

end Polling

end ClusterHarness
