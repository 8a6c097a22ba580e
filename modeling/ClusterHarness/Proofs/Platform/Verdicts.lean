import ClusterHarness.Proofs.Platform.Evaluations
import ClusterHarness.Rehearsal.Cluster

/-!
# What waits come to

A wait goes on until an evaluation sees the awaited state or sees that it cannot come, or until one
ends at or after the deadline.  Its result is the verdict of that evaluation, whatever the look-ups
before it gave: a failed one is no verdict, and neither is an earlier sight of something else.
-/

namespace ClusterHarness

open Polling

variable {σ : Type}

/-! ## Results of polls in a world -/

def Polling.Report.result (what : String) : Report Error → Except Error Unit
  | ⟨.success, _⟩ => .ok ()
  | ⟨.failed cause, _⟩ => .error cause
  | ⟨.timedOut elapsed, seen⟩ =>
    .error (.waitTimedOut what elapsed (if seen = "" then "nothing observed" else seen))

theorem Polling.Report.result_eq_ok {what : String} {r : Report Error} :
    r.result what = .ok () ↔ r.outcome = .success := by
  obtain ⟨_ | _ | _, _⟩ := r
  · exact ⟨fun _ => rfl, fun _ => rfl⟩
  · exact ⟨nofun, nofun⟩
  · exact ⟨nofun, nofun⟩

theorem World.waitFor_run (w : World σ) (what : String) (spec : Spec)
    (condition : StateM σ (Finding Error)) (s : σ) :
    (w.waitFor what spec condition).run s =
      ((⟨w.toClocked, spec, condition, s⟩ : Watch σ Error).report.1.elim
          (.error (.unsettled what)) (Report.result what),
        (⟨w.toClocked, spec, condition, s⟩ : Watch σ Error).report.2) := by
  unfold waitFor Watch.report
  rw [ExceptT.run_mk]
  obtain ⟨_ | ⟨_ | elapsed | cause, seen⟩, t⟩ := watch w.toClocked spec condition s <;> rfl

/-- The error tells that a wait was in vain. -/
def Error.Vain (cause : Error) : Prop :=
  (∃ what elapsed seen, cause = .waitTimedOut what elapsed seen) ∨ ∃ what, cause = .unsettled what

theorem World.get_error {α : Type} [HasKind α] (w : World σ) {ns name : String} {s : σ}
    {cause : Error} (failed : ((w.get α ns name).run s).1 = .error cause) :
    (∃ action source, cause = .call action source) ∨
      ∃ kind name ns, cause = .notFound kind name ns := by
  unfold get getOpt Session.during at failed
  rw [exceptT_run_bind, ExceptT.run_mk, stateM_bind_apply] at failed
  generalize ExceptT.run (w.lookUp (α := α) _) s = looked at failed
  obtain ⟨source | _ | found, t⟩ := looked
  · cases failed
    exact Or.inl ⟨_, source, rfl⟩
  · cases failed
    exact Or.inr ⟨_, _, _, rfl⟩
  · cases failed

namespace Wait

def watch (wait : Wait) (w : World σ) (s : σ) : Watch σ Error :=
  ⟨w.toClocked, wait.spec, wait.condition w, s⟩

def result (wait : Wait) (w : World σ) (s : σ) : Except Error Unit := ((wait.session w).run s).1

def looks (wait : Wait) (w : World σ) (s : σ) (k : Nat) : Except Error wait.Subject × σ :=
  (wait.look w).run ((wait.watch w s).enters k)

/-- The evaluation of an index sees the awaited state. -/
def ReachedAt (wait : Wait) (w : World σ) (s : σ) (k : Nat) : Prop :=
  wait.Reached (wait.looks w s k).1

/-- The evaluation of an index sees that the awaited state cannot come. -/
def FatalAt (wait : Wait) (w : World σ) (s : σ) (k : Nat) (cause : Error) : Prop :=
  wait.Fatal w (wait.looks w s k).1 (wait.looks w s k).2 cause

/-- The evaluation of an index sees neither. -/
def NeitherAt (wait : Wait) (w : World σ) (s : σ) (k : Nat) : Prop :=
  ¬ wait.ReachedAt w s k ∧ ∀ cause, ¬ wait.FatalAt w s k cause

/-- The evaluation of an index is made: those before it saw neither and ended before the deadline.
Without a deadline a wait is followed as far as patience goes. -/
def Made (wait : Wait) (w : World σ) (s : σ) (k : Nat) : Prop :=
  ((wait.watch w s).deadline = none → k < w.patience) ∧
    ∀ i < k, wait.NeitherAt w s i ∧
      ∀ d, (wait.watch w s).deadline = some d → w.now (wait.looks w s i).2 < d

theorem deadline_eq (wait : Wait) (w : World σ) (s : σ) :
    (wait.watch w s).deadline =
      if wait.timeout = 0 ∨ w.clock.horizon ≤ w.now s + wait.timeout then none
      else some (w.now s + wait.timeout) :=
  deadline_of_timeout rfl w.clock (w.now s)

section

variable {wait : Wait} {w : World σ} {s : σ}

/-! ## Verdicts of evaluations -/

theorem judged_at (wait : Wait) (w : World σ) (s : σ) (k : Nat) :
    Judged w wait (wait.looks w s k).1 (wait.looks w s k).2
      ((wait.watch w s).finds k, (wait.watch w s).leaves k) :=
  judged w wait _

theorem verdict_eq_success {k : Nat} :
    (wait.watch w s).verdict k = some .success ↔ wait.ReachedAt w s k := by
  rw [Watch.verdict, Polling.verdict_eq_success]
  exact (judged_at wait w s k).check_eq_done

theorem verdict_eq_failed {k : Nat} {cause : Error} :
    (wait.watch w s).verdict k = some (.failed cause) ↔ wait.FatalAt w s k cause := by
  rw [Watch.verdict, Polling.verdict_eq_failed]
  exact (judged_at wait w s k).check_eq_failed

/-- An evaluation that sees the awaited state ends with its look-up. -/
theorem ReachedAt.leaves_eq {k : Nat} (reached : wait.ReachedAt w s k) :
    (wait.watch w s).leaves k = (wait.looks w s k).2 :=
  (judged_at wait w s k).state_of_done ((judged_at wait w s k).check_eq_done.mpr reached)

/-- An evaluation that sees neither ends with its look-up. -/
theorem NeitherAt.leaves_eq {k : Nat} (neither : wait.NeitherAt w s k) :
    (wait.watch w s).leaves k = (wait.looks w s k).2 :=
  (judged_at wait w s k).state_of_pending ((judged_at wait w s k).check_eq_pending.mpr neither)

theorem verdict_eq_timedOut {k elapsed : Nat} :
    (wait.watch w s).verdict k = some (.timedOut elapsed) ↔
      wait.NeitherAt w s k ∧
        (∃ d, (wait.watch w s).deadline = some d ∧ d ≤ w.now (wait.looks w s k).2) ∧
        w.now (wait.looks w s k).2 - w.now s = elapsed := by
  rw [Watch.verdict, Polling.verdict_eq_timedOut, (judged_at wait w s k).check_eq_pending]
  refine and_congr_right fun neither => ?_
  rw [← NeitherAt.leaves_eq neither]
  rfl

theorem verdict_eq_none {k : Nat} :
    (wait.watch w s).verdict k = none ↔
      wait.NeitherAt w s k ∧
        ∀ d, (wait.watch w s).deadline = some d → w.now (wait.looks w s k).2 < d := by
  rw [Watch.verdict, Polling.verdict_eq_none, (judged_at wait w s k).check_eq_pending]
  refine and_congr_right fun neither => ?_
  rw [← NeitherAt.leaves_eq neither]
  rfl

theorem made_iff {k : Nat} :
    wait.Made w s k ↔
      ((wait.watch w s).deadline = none → k < w.patience) ∧ (wait.watch w s).Open k :=
  and_congr_right fun _ => forall₂_congr fun _ _ => verdict_eq_none.symm

/-! ## Results of waits -/

theorem session_run (wait : Wait) (w : World σ) (s : σ) :
    (wait.session w).run s =
      ((wait.watch w s).report.1.elim (.error (.unsettled wait.what)) (Report.result wait.what),
        (wait.watch w s).report.2) := by
  rw [session_eq, World.waitFor_run]
  rfl

theorem result_eq (wait : Wait) (w : World σ) (s : σ) :
    wait.result w s = (wait.watch w s).report.1.elim (.error (.unsettled wait.what))
      (Report.result wait.what) :=
  congrArg Prod.fst (session_run wait w s)

theorem steady (timely : w.Timely) (wait : Wait) (s : σ) : (wait.watch w s).Steady :=
  ⟨timely.toClocked, leads_condition timely.onward wait⟩

/-- A wait that returned did so with the look-up that showed the awaited state. -/
theorem reached_of_returned {t : σ} (returned : (wait.session w).run s = (.ok (), t)) :
    ∃ k, wait.ReachedAt w s k ∧ t = (wait.looks w s k).2 := by
  rw [session_run] at returned
  obtain ⟨ended, rfl⟩ := Prod.mk.inj returned
  cases reported : (wait.watch w s).report with
  | mk r t =>
      rw [reported] at ended
      cases r with
      | none => cases ended
      | some r =>
          obtain ⟨k, _, last, _, rfl⟩ := Watch.report_eq_some.mp reported
          rw [Report.result_eq_ok.mp ended] at last
          have reached := verdict_eq_success.mp last.2
          exact ⟨k, reached, reached.leaves_eq⟩

/-- A wait ends as its last evaluation ends, with the verdict of that one. -/
theorem session_of_made (timely : w.Timely) {k : Nat} {outcome : Outcome Error}
    (made : wait.Made w s k) (decided : (wait.watch w s).verdict k = some outcome) :
    (wait.session w).run s =
      (Report.result wait.what ⟨outcome, (wait.watch w s).seen (k + 1)⟩,
        (wait.watch w s).leaves k) := by
  obtain ⟨patient, undecided⟩ := made_iff.mp made
  have last : (wait.watch w s).Last k outcome := ⟨undecided, decided⟩
  have followed := ((steady timely wait s).lt_evaluations_iff last).mpr patient
  rw [session_run, Watch.report_of_last last followed]
  rfl

/-- The result of a wait is the verdict of its last evaluation. -/
theorem result_of_made (timely : w.Timely) {k : Nat} {outcome : Outcome Error}
    (made : wait.Made w s k) (decided : (wait.watch w s).verdict k = some outcome) :
    wait.result w s =
      Report.result wait.what ⟨outcome, (wait.watch w s).seen (k + 1)⟩ :=
  congrArg Prod.fst (session_of_made timely made decided)

/-- A wait has a last evaluation or, if nothing limits it, may go on for ever. -/
theorem result_cases (timely : w.Timely) (wait : Wait) (s : σ) :
    (∃ k outcome, wait.Made w s k ∧ (wait.watch w s).verdict k = some outcome) ∨
      ((wait.watch w s).deadline = none ∧ (∀ k < w.patience, wait.NeitherAt w s k) ∧
        wait.result w s = .error (.unsettled wait.what)) := by
  have steady := steady timely wait s
  rcases (wait.watch w s).last_or_open (wait.watch w s).evaluations with
    ⟨k, followed, outcome, last⟩ | undecided
  · exact Or.inl ⟨k, outcome,
      made_iff.mpr ⟨(steady.lt_evaluations_iff last).mp followed, last.1⟩, last.2⟩
  · cases limited : (wait.watch w s).deadline with
    | some d =>
        obtain ⟨k, outcome, last⟩ := steady.exists_last limited
        have made := made_iff.mpr ⟨fun unlimited => (nomatch limited.symm.trans unlimited), last.1⟩
        exact Or.inl ⟨k, outcome, made, last.2⟩
    | none =>
        have unsettled : wait.result w s = .error (.unsettled wait.what) := by
          rw [result_eq, Watch.report_of_open undecided]
          rfl
        have followed : (wait.watch w s).evaluations = w.patience := by
          rw [Watch.evaluations, limited]
          rfl
        refine Or.inr ⟨rfl, fun k early => ?_, unsettled⟩
        exact (verdict_eq_none.mp (undecided k (followed ▸ early))).1

/-- An error that a look-up brings up tells of something else than a wait in vain. -/
theorem FatalAt.not_vain {k : Nat} {cause : Error} (fatal : wait.FatalAt w s k cause) :
    ¬ cause.Vain := by
  unfold FatalAt at fatal
  cases wait with
  | pod =>
      obtain ⟨_, _, _, _, rfl⟩ := fatal
      rintro (⟨_, _, _, ⟨⟩⟩ | ⟨_, ⟨⟩⟩)
  | build =>
      obtain ⟨_, _, _, _, _, _, _, rfl⟩ := fatal
      rintro (⟨_, _, _, ⟨⟩⟩ | ⟨_, ⟨⟩⟩)
  | test =>
      obtain ⟨_, _, _, _, _, _, _, _, rfl⟩ := fatal
      rintro (⟨_, _, _, ⟨⟩⟩ | ⟨_, ⟨⟩⟩)
  | signup username =>
      rcases w.get_error fatal with ⟨_, _, rfl⟩ | ⟨_, _, _, rfl⟩ <;>
        rintro (⟨_, _, _, ⟨⟩⟩ | ⟨_, ⟨⟩⟩)
  | account => exact fatal.elim
  | releaseRun => exact fatal.elim
  | release => exact fatal.elim

/-- A look-up that fails decides nothing, except that of a signup. -/
theorem neither_or_signup {k : Nat} {failure : Error}
    (failed : (wait.looks w s k).1 = .error failure) :
    wait.NeitherAt w s k ∨
      (∃ username, wait = .signup username) ∧ wait.FatalAt w s k failure := by
  unfold NeitherAt ReachedAt FatalAt
  rw [failed]
  cases wait with
  | signup username => exact Or.inr ⟨⟨username, rfl⟩, rfl⟩
  | pod =>
      refine Or.inl ⟨not_reached_error, ?_⟩
      rintro _ ⟨_, _, ⟨⟩, _⟩
  | build =>
      refine Or.inl ⟨not_reached_error, ?_⟩
      rintro _ ⟨_, _, _, ⟨⟩, _⟩
  | test =>
      refine Or.inl ⟨not_reached_error, ?_⟩
      rintro _ ⟨_, _, _, ⟨⟩, _⟩
  | account => exact Or.inl ⟨not_reached_error, fun _ => id⟩
  | releaseRun => exact Or.inl ⟨not_reached_error, fun _ => id⟩
  | release => exact Or.inl ⟨not_reached_error, fun _ => id⟩

/-! ## Soundness and completeness -/

theorem result_eq_ok (timely : w.Timely) :
    wait.result w s = .ok () ↔ ∃ k, wait.Made w s k ∧ wait.ReachedAt w s k := by
  constructor
  · intro returned
    rcases result_cases timely wait s with ⟨k, outcome, made, decided⟩ | ⟨_, _, unsettled⟩
    · have result := (result_of_made timely made decided).symm.trans returned
      cases outcome with
      | success => exact ⟨k, made, verdict_eq_success.mp decided⟩
      | failed cause => cases result
      | timedOut elapsed => cases result
    · cases unsettled.symm.trans returned
  · rintro ⟨k, made, reached⟩
    exact result_of_made timely made (verdict_eq_success.mpr reached)

theorem result_eq_error (timely : w.Timely) {cause : Error} :
    wait.result w s = .error cause ∧ ¬ cause.Vain ↔
      ∃ k, wait.Made w s k ∧ wait.FatalAt w s k cause := by
  constructor
  · rintro ⟨returned, telling⟩
    rcases result_cases timely wait s with ⟨k, outcome, made, decided⟩ | ⟨_, _, unsettled⟩
    · have result := (result_of_made timely made decided).symm.trans returned
      cases outcome with
      | success => cases result
      | failed other =>
          cases result
          exact ⟨k, made, verdict_eq_failed.mp decided⟩
      | timedOut elapsed =>
          cases result
          exact absurd (Or.inl ⟨_, _, _, rfl⟩) telling
    · cases unsettled.symm.trans returned
      exact absurd (Or.inr ⟨_, rfl⟩) telling
  · rintro ⟨k, made, fatal⟩
    exact ⟨result_of_made timely made (verdict_eq_failed.mpr fatal), fatal.not_vain⟩

/-- In a wait in vain no evaluation saw anything final. -/
theorem neither_of_vain (timely : w.Timely) {cause : Error} (vain : cause.Vain)
    (returned : wait.result w s = .error cause) {k : Nat} (made : wait.Made w s k) :
    wait.NeitherAt w s k := by
  constructor
  · intro reached
    cases ((result_eq_ok timely).mpr ⟨k, made, reached⟩).symm.trans returned
  · intro other fatal
    obtain ⟨failed, telling⟩ := (result_eq_error timely).mpr ⟨k, made, fatal⟩
    cases failed.symm.trans returned
    exact telling vain

/-- What saw nothing final can only have ended a wait for lack of time. -/
theorem NeitherAt.timedOut {k : Nat} {outcome : Outcome Error} (neither : wait.NeitherAt w s k)
    (decided : (wait.watch w s).verdict k = some outcome) :
    ∃ d, (wait.watch w s).deadline = some d ∧ d ≤ w.now (wait.looks w s k).2 ∧
      outcome = .timedOut (w.now (wait.looks w s k).2 - w.now s) := by
  cases outcome with
  | success => exact absurd (verdict_eq_success.mp decided) neither.1
  | failed cause => exact absurd (verdict_eq_failed.mp decided) (neither.2 cause)
  | timedOut elapsed =>
      obtain ⟨_, ⟨d, limited, passed⟩, rfl⟩ := verdict_eq_timedOut.mp decided
      exact ⟨d, limited, passed, rfl⟩

theorem result_eq_waitTimedOut (timely : w.Timely) :
    (∃ elapsed seen, wait.timeout ≤ elapsed ∧
        wait.result w s = .error (.waitTimedOut wait.what elapsed seen)) ↔
      (wait.timeout ≠ 0 ∧ w.now s + wait.timeout < w.clock.horizon) ∧
        ∀ k, wait.Made w s k → wait.NeitherAt w s k := by
  have limits := deadline_eq wait w s
  constructor
  · rintro ⟨elapsed, seen, _, returned⟩
    have undecided (k : Nat) (made : wait.Made w s k) : wait.NeitherAt w s k :=
      neither_of_vain timely (Or.inl ⟨_, _, _, rfl⟩) returned made
    rcases result_cases timely wait s with ⟨k, outcome, made, decided⟩ | ⟨_, _, unsettled⟩
    · obtain ⟨d, limited, _⟩ := (undecided k made).timedOut decided
      rw [limited] at limits
      split at limits
      · cases limits
      · exact ⟨by omega, undecided⟩
    · cases unsettled.symm.trans returned
  · rintro ⟨limited, undecided⟩
    rw [if_neg (by omega)] at limits
    rcases result_cases timely wait s with ⟨k, outcome, made, decided⟩ | ⟨unlimited, _⟩
    · obtain ⟨d, limit, passed, rfl⟩ := (undecided k made).timedOut decided
      cases limit.symm.trans limits
      exact ⟨_, _, by omega, result_of_made timely made decided⟩
    · cases unlimited.symm.trans limits

theorem result_eq_unsettled (timely : w.Timely) :
    wait.result w s = .error (.unsettled wait.what) ↔
      (wait.timeout = 0 ∨ w.clock.horizon ≤ w.now s + wait.timeout) ∧
        ∀ k < w.patience, wait.NeitherAt w s k := by
  have limits := deadline_eq wait w s
  constructor
  · intro returned
    rcases result_cases timely wait s with ⟨k, outcome, made, decided⟩ | ⟨unlimited, neither, _⟩
    · have neither := neither_of_vain timely (Or.inr ⟨_, rfl⟩) returned made
      obtain ⟨d, _, _, rfl⟩ := neither.timedOut decided
      cases (result_of_made timely made decided).symm.trans returned
    · rw [unlimited] at limits
      split at limits
      · next unlimited => exact ⟨unlimited, neither⟩
      · cases limits
  · rintro ⟨unlimited, neither⟩
    rw [if_pos unlimited] at limits
    rcases result_cases timely wait s with ⟨k, outcome, made, decided⟩ | ⟨_, _, unsettled⟩
    · obtain ⟨d, limited, _⟩ := (neither k (made.1 limits)).timedOut decided
      cases limits.symm.trans limited
    · exact unsettled

end

/-- The result of a wait is what the first evaluation saw that saw something final: the awaited
state, or that it cannot come.  If none does before the time is up, the wait has timed out, and
without a deadline it does not end.  A look-up that fails is final for signups only. -/
theorem result_sound_complete (w : World σ) (timely : w.Timely) (wait : Wait) (s : σ) :
    (wait.result w s = .ok () ↔ ∃ k, wait.Made w s k ∧ wait.ReachedAt w s k) ∧
    (∀ cause, wait.result w s = .error cause ∧ ¬ cause.Vain ↔
      ∃ k, wait.Made w s k ∧ wait.FatalAt w s k cause) ∧
    (∀ k failure, (wait.looks w s k).1 = .error failure →
      wait.NeitherAt w s k ∨
        (∃ username, wait = .signup username) ∧ wait.FatalAt w s k failure) ∧
    ((∃ elapsed seen, wait.timeout ≤ elapsed ∧
        wait.result w s = .error (.waitTimedOut wait.what elapsed seen)) ↔
      (wait.timeout ≠ 0 ∧ w.now s + wait.timeout < w.clock.horizon) ∧
        ∀ k, wait.Made w s k → wait.NeitherAt w s k) ∧
    (wait.result w s = .error (.unsettled wait.what) ↔
      (wait.timeout = 0 ∨ w.clock.horizon ≤ w.now s + wait.timeout) ∧
        ∀ k < w.patience, wait.NeitherAt w s k) :=
  ⟨result_eq_ok timely, fun _ => result_eq_error timely, fun _ _ => neither_or_signup,
    result_eq_waitTimedOut timely, result_eq_unsettled timely⟩

end Wait

namespace Rehearsal

/-- The clock of a rehearsal only goes on. -/
theorem cluster_timely (script : List Reply) (missing : Reply) (today : Timestamp) :
    (cluster script missing today).Timely where
  toClocked := ⟨fun _ => Nat.le_refl _, fun _ _ => Nat.le_refl _⟩
  now_le_send request s := by
    unfold cluster
    dsimp only
    obtain ⟨_, _, _, delay, fault, _⟩ := (turn? script s.sent.length).getD missing
    cases delay with
    | none => cases fault <;> exact Nat.le_refl s.now
    | some d => cases fault <;> exact Polling.Clock.le_wakes _ s.now d

def Reply.showing (text : String) : Reply := ⟨200, Utf8.encode text, false, none, none, false⟩

/-- A server that fails to show a pod at first, then shows it pending and then running. -/
def startingPod : World ClusterState :=
  cluster [⟨500, [], false, some (Duration.ofMillis 1500), none, false⟩,
      .showing "\x7b\"status\":\x7b\"phase\":\"Pending\"\x7d\x7d",
      .showing "\x7b\"status\":\x7b\"phase\":\"Running\"\x7d\x7d"]
    (.missing []) ⟨⟨2023, 3, 1⟩, 0, 0, 0⟩

def startingPodWait : Wait := .pod "test" "demo" .running (Duration.ofSecs 5)

/-- A wait outlasts a failed look-up and a pod that is not there yet. -/
theorem startingPod_reached :
    startingPod.Timely ∧ startingPodWait.result startingPod ⟨0, []⟩ = .ok () ∧
      ∃ k, startingPodWait.Made startingPod ⟨0, []⟩ k ∧
        startingPodWait.ReachedAt startingPod ⟨0, []⟩ k := by
  have timely : startingPod.Timely := cluster_timely _ _ _
  have fine : (startingPodWait.result startingPod ⟨0, []⟩).isOk = true := by decide +kernel
  have returned : startingPodWait.result startingPod ⟨0, []⟩ = .ok () := by
    cases result : startingPodWait.result startingPod ⟨0, []⟩ with
    | ok => rfl
    | error =>
        rw [result] at fine
        cases fine
  obtain ⟨sound, _⟩ := Wait.result_sound_complete startingPod timely startingPodWait ⟨0, []⟩
  exact ⟨timely, returned, sound.mp returned⟩

end Rehearsal

end ClusterHarness
