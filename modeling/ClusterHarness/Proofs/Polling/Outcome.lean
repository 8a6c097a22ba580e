import ClusterHarness.Proofs.Polling.Timeline

/-!
# How polls end

The outcome of a poll is decided by its first evaluation that finds something final or that ends at
or after the deadline; up to that evaluation all are made, and none after it.  A poll none of whose
evaluations is decisive never ends.
-/

namespace ClusterHarness

namespace Polling

variable {ε : Type}

/-! ## Settings that can be made -/

namespace Spec

/-- The settings that are made for a timeout by the operations on settings. -/
inductive Made (timeout : Nat) : Spec → Prop where
  | every {interval : Nat} {spec : Spec} (made : Spec.every interval timeout = .ok spec) :
      Made timeout spec
  | immediate {spec : Spec} (made : Made timeout spec) (immediate : Bool) :
      Made timeout (spec.withImmediate immediate)
  | jitter {spec stretched : Spec} {factor : Binary64} (made : Made timeout spec)
      (stretch : spec.withJitter factor = .ok stretched) : Made timeout stretched

theorem every_eq_ok {interval timeout : Nat} {spec : Spec}
    (made : every interval timeout = .ok spec) : spec.timeout = deadlineOf timeout := by
  unfold every at made
  split at made
  · cases made
    rfl
  · cases made

theorem withJitter_eq_ok {spec stretched : Spec} {factor : Binary64}
    (stretch : spec.withJitter factor = .ok stretched) :
    ∃ valid, stretched = { spec with jitter := factor, jitter_valid := valid } := by
  unfold withJitter at stretch
  split at stretch
  · cases stretch
    exact ⟨_, rfl⟩
  · cases stretch

/-- Only the timeout that settings were made for tells whether they have a deadline. -/
theorem Made.timeout_eq {timeout : Nat} {spec : Spec} (made : Made timeout spec) :
    spec.timeout = deadlineOf timeout := by
  induction made with
  | every made => exact every_eq_ok made
  | immediate _ _ ih => exact ih
  | jitter _ stretch ih =>
      obtain ⟨valid, rfl⟩ := withJitter_eq_ok stretch
      exact ih

/-- All settings can be made. -/
theorem exists_made (spec : Spec) : ∃ timeout, Made timeout spec := by
  have plain : every spec.interval (spec.timeout.getD 0) =
      .ok { spec with immediate := true, jitter := Binary64.zero false, jitter_valid := rfl } := by
    have whole : min spec.interval Duration.max = spec.interval :=
      Nat.min_eq_left spec.interval_le_max
    have same : deadlineOf (spec.timeout.getD 0) = spec.timeout := by
      cases given : spec.timeout with
      | none => rfl
      | some timeout => exact if_neg (Nat.ne_of_gt (spec.timeout_pos timeout given))
    simp [every, spec.interval_pos, everyPositive, whole, same]
  have stretch : Spec.withJitter (.withImmediate
      { spec with immediate := true, jitter := Binary64.zero false, jitter_valid := rfl }
      spec.immediate) spec.jitter = .ok spec := by
    simp [withJitter, withImmediate, spec.jitter_valid]
  exact ⟨_, .jitter (.immediate (.every plain) spec.immediate) stretch⟩

theorem made_eachSecond (timeout : Nat) : Made timeout (eachSecond timeout) := by
  have made : every (Duration.ofSecs 1) timeout = .ok (eachSecond timeout) := rfl
  exact .every made

end Spec

namespace Job

/-! ## The outcome -/

theorem conclusion_eq_timedOut {job : Job ε} {k elapsed : Nat} :
    job.conclusion k = .timedOut elapsed ↔
      (job.script k).finds = .pending ∧ job.ends k - job.start = elapsed := by
  unfold conclusion
  cases (job.script k).finds <;> simp

theorem deadline_eq {job : Job ε} {timeout : Nat} (made : Spec.Made timeout job.spec) :
    job.deadline = if timeout = 0 ∨ job.clock.horizon ≤ job.start + timeout then none
      else some (job.start + timeout) :=
  deadline_of_timeout made.timeout_eq job.clock job.start

/-- A poll that times out has lasted for its timeout. -/
theorem Last.timeout_le {job : Job ε} {timeout k : Nat} (made : Spec.Made timeout job.spec)
    (last : job.Last k) (found : (job.script k).finds = .pending) :
    timeout ≤ job.ends k - job.start := by
  obtain ⟨d, limited, passed⟩ := last.1.passed found
  rw [deadline_eq made] at limited
  split at limited
  · cases limited
  · injection limited with same
    omega

/-- The evaluations of a poll are those up to the first decisive one, one after the other, and its
outcome is what that one found, or a timeout if it found nothing.  Without a decisive evaluation the
poll goes on for ever. -/
theorem ends_with_first_decisive (job : Job ε) {timeout : Nat}
    (made : Spec.Made timeout job.spec) :
    (job.deadline = if timeout = 0 ∨ job.clock.horizon ≤ job.start + timeout then none
      else some (job.start + timeout)) ∧
    (∀ index, job.spec.interval ≤ job.spec.delay (job.draws index)) ∧
    (∀ k, job.Last k →
      (∀ index instant, job.Calls index instant ↔ index ≤ k ∧ instant = job.begins index) ∧
      (∀ index ≤ k, job.start ≤ job.begins index ∧ job.begins index ≤ job.ends index ∧
        ∀ earlier < index, job.ends earlier ≤ job.begins index) ∧
      (∀ outcome instant, job.Ends outcome instant ↔
        outcome = job.conclusion k ∧ instant = job.ends k) ∧
      ((job.script k).finds = .pending → timeout ≤ job.ends k - job.start)) ∧
    ((∃ outcome instant, job.Ends outcome instant) ↔ ∃ k, job.Decisive k) := by
  refine ⟨deadline_eq made, fun index => job.spec.interval_le_delay _, ?_, ?_⟩
  · intro k last
    refine ⟨fun _ _ => last.calls_iff, ?_, fun _ _ => last.ends_iff, last.timeout_le made⟩
    intro index _
    exact ⟨job.start_le_begins index, job.begins_le_ends index, fun _ lower =>
      job.ends_le_begins lower⟩
  · constructor
    · rintro ⟨outcome, instant, ended⟩
      obtain ⟨k, last, _⟩ := ends_iff.mp ended
      exact ⟨k, last.1⟩
    · rintro ⟨n, decisive⟩
      obtain ⟨k, last⟩ := exists_last decisive
      exact ⟨_, _, last.ends_iff.mpr ⟨rfl, rfl⟩⟩

def lateFailure : Job String := eachSecond (Duration.ofSecs 3) fun
  | 0 => ⟨some (Duration.ofMillis 1500), .pending⟩
  | _ => ⟨some (Duration.ofSecs 2), .failed "late"⟩

/-- A failure counts as such after the deadline as well. -/
theorem lateFailure_ends :
    Spec.Made (Duration.ofSecs 3) lateFailure.spec ∧ lateFailure.Last 1 ∧
      lateFailure.Ends (.failed "late") (Duration.ofMillis 4500) := by
  have made : Spec.Made (Duration.ofSecs 3) lateFailure.spec := Spec.made_eachSecond _
  have limit : lateFailure.deadline = some (Duration.ofSecs 3) := by decide
  have last : lateFailure.Last 1 := by
    refine ⟨Or.inl nofun, ?_⟩
    intro index lower
    obtain rfl : index = 0 := by omega
    exact (not_decisive_iff_of_deadline limit 0).mpr ⟨rfl, by decide⟩
  obtain ⟨_, _, decided, _⟩ := lateFailure.ends_with_first_decisive made
  exact ⟨made, last, ((decided 1 last).2.2.1 _ _).mpr ⟨rfl, rfl⟩⟩

/-! ## The final evaluation -/

/-- Whenever the poll times out, its last evaluation begins at or after an instant. -/
def LooksFrom (job : Job ε) (d : Nat) : Prop :=
  ∀ elapsed instant, job.Ends (.timedOut elapsed) instant →
    ∃ k b, job.Calls k b ∧ (∀ i c, job.Calls i c → i ≤ k) ∧ d ≤ b

/-- Nothing is found up to the evaluation of an index, during which an instant passes. -/
def Straddles (job : Job ε) (d k : Nat) : Prop :=
  (∀ i ≤ k, (job.script i).finds = .pending) ∧ job.begins k < d ∧ d ≤ job.ends k

theorem Straddles.last {job : Job ε} {d k : Nat} (limited : job.deadline = some d)
    (straddles : job.Straddles d k) : job.Last k := by
  obtain ⟨pending, before, after⟩ := straddles
  refine ⟨Or.inr ⟨d, limited, after⟩, ?_⟩
  intro i lower
  have early : job.ends i < d := Nat.lt_of_le_of_lt (job.ends_le_begins lower) before
  exact (not_decisive_iff_of_deadline limited i).mpr ⟨pending i (Nat.le_of_lt lower), early⟩

theorem Straddles.ends {job : Job ε} {d k : Nat} (limited : job.deadline = some d)
    (straddles : job.Straddles d k) :
    job.Ends (.timedOut (job.ends k - job.start)) (job.ends k) :=
  (straddles.last limited).ends_iff.mpr
    ⟨(conclusion_eq_timedOut.mpr ⟨straddles.1 k (Nat.le_refl k), rfl⟩).symm, rfl⟩

/-- Of the evaluations that decide a poll by the deadline, one begins before it only if it is in
progress when the deadline passes. -/
theorem Last.straddles {job : Job ε} {d k : Nat} (limited : job.deadline = some d)
    (last : job.Last k) (found : (job.script k).finds = .pending) (before : job.begins k < d) :
    job.Straddles d k := by
  refine ⟨?_, before, ?_⟩
  · intro i le
    rcases Nat.lt_or_eq_of_le le with lower | rfl
    · exact ((job.not_decisive_iff i).mp (last.2 i lower)).1
    · exact found
  · obtain ⟨e, limit, passed⟩ := last.1.passed found
    obtain rfl := Option.some.inj (limited.symm.trans limit)
    exact passed

/-- A poll that times out looks at its condition when the time is up, except when the deadline
passes during an evaluation. -/
theorem looksFrom_deadline_iff (job : Job ε) {d : Nat} (limited : job.deadline = some d) :
    job.LooksFrom d ↔ ¬ ∃ k, job.Straddles d k := by
  constructor
  · rintro looks ⟨k, straddles⟩
    have last := straddles.last limited
    obtain ⟨other, b, called, latest, le⟩ := looks _ _ (straddles.ends limited)
    obtain ⟨notBeyond, rfl⟩ := last.calls_iff.mp called
    have notBefore := latest k _ (last.calls_iff.mpr ⟨Nat.le_refl k, rfl⟩)
    obtain rfl := Nat.le_antisymm notBeyond notBefore
    exact Nat.not_lt_of_le le straddles.2.1
  · intro unbroken elapsed instant ended
    obtain ⟨k, last, timedOut, _⟩ := ends_iff.mp ended
    have found := (conclusion_eq_timedOut.mp timedOut.symm).1
    refine ⟨k, job.begins k, last.calls_iff.mpr ⟨Nat.le_refl k, rfl⟩, ?_, ?_⟩
    · intro i c called
      exact (last.calls_iff.mp called).1
    · exact Nat.le_of_not_lt fun before => unbroken ⟨k, last.straddles limited found before⟩

/-- Evaluations that take no time are never in progress when the deadline passes. -/
theorem pending_looksFrom :
    (eachSecond (Duration.ofSecs 3) fun _ => (⟨none, .pending⟩ : Evaluation String)).deadline =
        some (Duration.ofSecs 3) ∧
      (eachSecond (Duration.ofSecs 3) fun _ => (⟨none, .pending⟩ : Evaluation String)).LooksFrom
        (Duration.ofSecs 3) := by
  have limited : (eachSecond (Duration.ofSecs 3) fun _ =>
      (⟨none, .pending⟩ : Evaluation String)).deadline = some (Duration.ofSecs 3) := by decide
  refine ⟨limited, (looksFrom_deadline_iff _ limited).mpr ?_⟩
  rintro ⟨k, _, before, after⟩
  exact Nat.not_lt_of_le after before

/-- Nothing is found in one and a half seconds, nor ever after. -/
def slowStart : Job String := eachSecond (Duration.ofSecs 1) fun
  | 0 => ⟨some (Duration.ofMillis 1500), .pending⟩
  | _ => ⟨none, .pending⟩

/-- A poll whose deadline passes during its first evaluation makes no other. -/
theorem slowStart_not_looksFrom :
    slowStart.deadline = some (Duration.ofSecs 1) ∧
      slowStart.Ends (.timedOut (Duration.ofMillis 1500)) (Duration.ofMillis 1500) ∧
      ¬ slowStart.LooksFrom (Duration.ofSecs 1) := by
  have limited : slowStart.deadline = some (Duration.ofSecs 1) := by decide
  have straddles : slowStart.Straddles (Duration.ofSecs 1) 0 := by
    refine ⟨?_, by decide, by decide⟩
    intro i le
    obtain rfl := Nat.le_zero.mp le
    rfl
  have last := straddles.last limited
  have ended := straddles.ends limited
  refine ⟨limited, ended, ?_⟩
  intro looks
  obtain ⟨k, b, called, _, le⟩ := looks _ _ ended
  obtain ⟨notBeyond, rfl⟩ := last.calls_iff.mp called
  obtain rfl := Nat.le_zero.mp notBeyond
  exact Nat.not_lt_of_le le straddles.2.1

end Job

end Polling

end ClusterHarness
