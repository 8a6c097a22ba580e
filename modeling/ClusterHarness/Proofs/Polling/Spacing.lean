import ClusterHarness.Proofs.Polling.Timeline
import Mathlib.Order.Bounds.Basic

/-!
# When evaluations begin

Timers that are never late let each evaluation begin at the first tick not before the end of the
sleep, and no sleep goes past the deadline.  So all pauses are at least the interval, but for one
that the deadline cuts short, and the evaluation after that one is the last.
-/

namespace ClusterHarness

namespace Polling

variable {ε : Type}

namespace Clock

def FirstTick (clock : Clock) (instant t : Nat) : Prop :=
  IsLeast {t | clock.resolution ∣ t ∧ instant ≤ t} t

theorem firstTick_tick (clock : Clock) (instant : Nat) :
    clock.FirstTick instant (clock.tick instant) :=
  ⟨⟨clock.resolution_dvd_tick instant, clock.le_tick instant⟩,
    fun _ later => clock.tick_le later.1 later.2⟩

end Clock

namespace Job

/-! ## Sleeps -/

/-- No timer is late. -/
def Punctual (job : Job ε) : Prop := ∀ index, job.late index = 0

/-- The length of the sleep before the evaluation of an index. -/
def sleep (job : Job ε) (index : Nat) : Nat := job.spec.delay (job.draws index)

/-- Unless there is a deadline, the end of the sleep that starts now can be named. -/
def Fits (job : Job ε) (now index : Nat) : Prop :=
  job.deadline = none → now + job.sleep index < job.clock.horizon

/-- An instant, or the deadline if that comes first. -/
def cut (job : Job ε) (instant : Nat) : Nat := job.deadline.elim instant (min instant)

theorem fits_of_deadline {job : Job ε} {d : Nat} (limited : job.deadline = some d)
    (now index : Nat) : job.Fits now index := by
  intro free
  rw [limited] at free
  cases free

theorem cut_le_deadline (job : Job ε) (instant : Nat) {d : Nat}
    (limited : job.deadline = some d) : job.cut instant ≤ d := by
  rw [cut, limited]
  exact Nat.min_le_right _ _

theorem wake_eq_tick {job : Job ε} (punctual : job.Punctual) {now index : Nat}
    (early : ∀ d, job.deadline = some d → now ≤ d) (fits : job.Fits now index) :
    job.wake now index = job.clock.tick (job.cut (now + job.sleep index)) := by
  have requested : nextStart job.clock job.deadline now (job.spec.delay (job.draws index)) =
      job.cut (now + job.sleep index) :=
    nextStart_eq (fun _ limited => job.deadline_lt_horizon limited) fits
  have later : now ≤ job.cut (now + job.sleep index) := by
    have slept := Nat.le_add_right now (job.sleep index)
    unfold cut
    cases limited : job.deadline with
    | none => exact slept
    | some d => exact Nat.le_min.mpr ⟨slept, early d limited⟩
  rw [wake, requested, punctual index, Nat.add_zero, job.clock.fires_eq_tick later]

theorem begins_zero_of_immediate {job : Job ε} (immediate : job.spec.immediate = true) :
    job.begins 0 = job.start := by
  simp [begins, immediate]

theorem begins_zero_eq_tick {job : Job ε} (punctual : job.Punctual)
    (delayed : job.spec.immediate = false) (fits : job.Fits job.start 0) :
    job.begins 0 = job.clock.tick (job.cut (job.start + job.sleep 0)) := by
  have early (d : Nat) (limited : job.deadline = some d) : job.start ≤ d :=
    Nat.le_of_lt (job.start_lt_deadline limited)
  simp only [begins, delayed, Bool.false_eq_true, if_false]
  exact wake_eq_tick punctual early fits

theorem begins_succ_eq_tick {job : Job ε} (punctual : job.Punctual) {index : Nat}
    (undecided : ¬ job.Decisive index) (fits : job.Fits (job.ends index) (index + 1)) :
    job.begins (index + 1) = job.clock.tick (job.cut (job.ends index + job.sleep (index + 1))) := by
  have before := ((job.not_decisive_iff index).mp undecided).2
  exact wake_eq_tick punctual (fun d limited => Nat.le_of_lt (before d limited)) fits

/-- No evaluation begins after the first tick at or after the deadline. -/
theorem begins_le_of_deadline_le {job : Job ε} (punctual : job.Punctual) {d t index : Nat}
    (limited : job.deadline = some d) (onTick : job.clock.resolution ∣ t) (le : d ≤ t)
    (undecided : ∀ i < index, ¬ job.Decisive i) : job.begins index ≤ t := by
  have fits := fits_of_deadline limited
  have cutBy (instant : Nat) : job.clock.tick (job.cut instant) ≤ t :=
    job.clock.tick_le onTick (Nat.le_trans (job.cut_le_deadline instant limited) le)
  cases index with
  | zero =>
      cases immediate : job.spec.immediate with
      | true =>
          rw [begins_zero_of_immediate immediate]
          exact Nat.le_trans (Nat.le_of_lt (job.start_lt_deadline limited)) le
      | false =>
          rw [begins_zero_eq_tick punctual immediate (fits _ _)]
          exact cutBy _
  | succ index =>
      rw [begins_succ_eq_tick punctual (undecided index (Nat.lt_succ_self index)) (fits _ _)]
      exact cutBy _

/-! ## Pauses -/

/-- The pause after the evaluation of an index, which is followed by another one, is shorter than
the interval. -/
def ShortPause (job : Job ε) (index : Nat) : Prop :=
  ∃ b c, job.Calls index b ∧ job.Calls (index + 1) c ∧
    job.Fits (job.evaluated b index) (index + 1) ∧ c < job.evaluated b index + job.spec.interval

/-- Only the deadline can cut a pause short. -/
theorem begins_of_short {job : Job ε} (punctual : job.Punctual) {index : Nat}
    (undecided : ¬ job.Decisive index) (fits : job.Fits (job.ends index) (index + 1))
    (short : job.begins (index + 1) < job.ends index + job.spec.interval) :
    ∃ d, job.deadline = some d ∧ job.begins (index + 1) = job.clock.tick d := by
  have begun := begins_succ_eq_tick punctual undecided fits
  have stretched : job.spec.interval ≤ job.sleep (index + 1) := job.spec.interval_le_delay _
  have ticked := job.clock.le_tick (job.cut (job.ends index + job.sleep (index + 1)))
  unfold cut at begun ticked
  cases limited : job.deadline with
  | none =>
      simp only [limited, Option.elim] at begun ticked
      omega
  | some d =>
      simp only [limited, Option.elim] at begun ticked
      have least : min (job.ends index + job.sleep (index + 1)) d = d := by omega
      exact ⟨d, rfl, by rw [begun, least]⟩

theorem ShortPause.last {job : Job ε} (punctual : job.Punctual) {index : Nat}
    (short : job.ShortPause index) :
    ∃ d, job.deadline = some d ∧ job.begins (index + 1) = job.clock.tick d ∧
      job.Last (index + 1) := by
  obtain ⟨b, c, called, next, fits, pause⟩ := short
  obtain ⟨rfl, _⟩ := calls_iff.mp called
  obtain ⟨rfl, undecided⟩ := calls_iff.mp next
  obtain ⟨d, limited, begun⟩ :=
    begins_of_short punctual (undecided index (Nat.lt_succ_self index)) fits pause
  have late : d ≤ job.ends (index + 1) := by
    refine Nat.le_trans (job.clock.le_tick d) ?_
    rw [← begun]
    exact job.begins_le_ends _
  exact ⟨d, limited, begun, Or.inr ⟨d, limited, late⟩, undecided⟩

/-- When the evaluations of a poll begin. -/
structure FollowsSchedule (job : Job ε) : Prop where
  first_immediate : job.spec.immediate = true → job.Calls 0 job.start
  first_delayed : job.spec.immediate = false → job.Fits job.start 0 →
    ∃ b, job.Calls 0 b ∧ job.clock.FirstTick (job.cut (job.start + job.sleep 0)) b
  /-- An evaluation that found nothing before the deadline is followed by another one. -/
  next : ∀ i b, job.Calls i b → (job.script i).finds = .pending →
    (∀ d, job.deadline = some d → job.evaluated b i < d) →
    job.Fits (job.evaluated b i) (i + 1) →
    ∃ c, job.Calls (i + 1) c ∧
      job.clock.FirstTick (job.cut (job.evaluated b i + job.sleep (i + 1))) c
  once : ∀ i b c, job.Calls i b → job.Calls i c → b = c
  not_late : ∀ d, job.deadline = some d → ∀ t, job.clock.FirstTick d t →
    ∀ i b, job.Calls i b → b ≤ t
  /-- An evaluation after a short pause begins at the deadline and is the last. -/
  short_at_deadline : ∀ i, job.ShortPause i →
    (∃ d, job.deadline = some d ∧ ∀ c, job.Calls (i + 1) c → job.clock.FirstTick d c) ∧
      ∀ n b, job.Calls n b → n ≤ i + 1
  one_short : ∀ i j, job.ShortPause i → job.ShortPause j → i = j

/-- Every poll whose timers are punctual follows its schedule. -/
theorem follows_schedule (job : Job ε) (punctual : job.Punctual) : job.FollowsSchedule where
  first_immediate immediate :=
    calls_iff.mpr ⟨(begins_zero_of_immediate immediate).symm, fun _ lower => nomatch lower⟩
  first_delayed delayed fits := by
    refine ⟨_, calls_iff.mpr ⟨rfl, fun _ lower => nomatch lower⟩, ?_⟩
    rw [begins_zero_eq_tick punctual delayed fits]
    exact job.clock.firstTick_tick _
  next := by
    intro i b called found before fits
    obtain ⟨rfl, undecided⟩ := calls_iff.mp called
    have goesOn : ¬ job.Decisive i := (job.not_decisive_iff i).mpr ⟨found, before⟩
    refine ⟨_, calls_iff.mpr ⟨rfl, Nat.forall_lt_succ_right.mpr ⟨undecided, goesOn⟩⟩, ?_⟩
    rw [begins_succ_eq_tick punctual goesOn fits]
    exact job.clock.firstTick_tick _
  once := by
    intro i b c first second
    rw [(calls_iff.mp first).1, (calls_iff.mp second).1]
  not_late := by
    intro d limited t ticked i b called
    obtain ⟨rfl, undecided⟩ := calls_iff.mp called
    exact begins_le_of_deadline_le punctual limited ticked.1.1 ticked.1.2 undecided
  short_at_deadline := by
    intro i short
    obtain ⟨d, limited, begun, last⟩ := short.last punctual
    refine ⟨⟨d, limited, ?_⟩, fun n b called => (last.calls_iff.mp called).1⟩
    intro c called
    rw [(last.calls_iff.mp called).2, begun]
    exact job.clock.firstTick_tick d
  one_short := by
    intro i j first second
    obtain ⟨_, _, _, lastOfFirst⟩ := first.last punctual
    obtain ⟨_, _, _, lastOfSecond⟩ := second.last punctual
    exact Nat.succ.inj (lastOfFirst.unique lastOfSecond)

/-- Nothing is ever found, each time in half a second, until 2.2 seconds have passed. -/
def halfSeconds : Job String := eachSecond (Duration.ofMillis 2200) fun _ =>
  ⟨some (Duration.ofMillis 500), .pending⟩

/-- The evaluations begin after 0, 1.5 and 2.2 seconds, the last one after a pause of 0.2. -/
theorem halfSeconds_follows :
    halfSeconds.Punctual ∧ halfSeconds.ShortPause 1 ∧
      halfSeconds.Calls 2 (Duration.ofMillis 2200) ∧ ∀ n b, halfSeconds.Calls n b → n ≤ 2 := by
  have punctual : halfSeconds.Punctual := fun _ => rfl
  have limit : halfSeconds.deadline = some (Duration.ofMillis 2200) := by decide
  have undecided : ∀ i < 2, ¬ halfSeconds.Decisive i := by
    intro i lower
    have early : ∀ i < 2, halfSeconds.ends i < Duration.ofMillis 2200 := by decide
    exact (not_decisive_iff_of_deadline limit i).mpr ⟨rfl, early i lower⟩
  have third : halfSeconds.Calls 2 (Duration.ofMillis 2200) :=
    calls_iff.mpr ⟨by decide, undecided⟩
  have short : halfSeconds.ShortPause 1 := by
    exact ⟨_, _, calls_iff.mpr ⟨rfl, fun i lower => undecided i (Nat.lt_succ_of_lt lower)⟩,
      third, fits_of_deadline limit _ _, by decide⟩
  obtain ⟨_, last⟩ := (halfSeconds.follows_schedule punctual).short_at_deadline 1 short
  exact ⟨punctual, short, third, last⟩

end Job

end Polling

end ClusterHarness
