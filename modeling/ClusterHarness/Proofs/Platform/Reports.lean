import ClusterHarness.Proofs.Platform.Verdicts

/-!
# What waits in vain report

A wait that runs out of time says what was seen last.  Every text that is recorded takes the place
of the one before, so the report is as old as the last record and no older.  The waits of the
harness record something in every evaluation that leaves them waiting, so their reports are on the
last one.
-/

namespace ClusterHarness

open Polling

variable {σ : Type}

/-! ## Conditions that record texts -/

namespace Polling

variable {ε : Type}

/-- What is reported if nothing else is known. -/
def nothingObserved : String := "nothing observed"

/-- What an evaluation finds, and the texts that it records one after the other. -/
structure Recording (ε : Type) where
  check : Check ε
  texts : List String

/-- Of the texts of an evaluation the last one counts. -/
def Recording.finding (r : Recording ε) : Finding ε := ⟨r.check, r.texts.getLast?⟩

/-- What a place holds once every text in turn has taken the place of the one before. -/
def overwritten (held : String) (texts : List String) : String :=
  texts.foldl (fun _ text => text) held

theorem overwritten_append (held : String) (first second : List String) :
    overwritten held (first ++ second) = overwritten (overwritten held first) second :=
  List.foldl_append

theorem overwritten_eq (held : String) (texts : List String) :
    overwritten held texts = texts.getLast?.getD held := by
  induction texts generalizing held with
  | nil => rfl
  | cons text rest ih =>
      rw [List.getLast?_cons, Option.getD_some]
      exact ih text

/-- A report on texts that were recorded: the last of them, unless there is none or it is empty. -/
def Reports (texts : List String) (seen : String) : Prop :=
  (∃ text, texts.getLast? = some text ∧ text ≠ "" ∧ seen = text) ∨
    ((texts.getLast? = none ∨ texts.getLast? = some "") ∧ seen = nothingObserved)

theorem reports_iff {texts : List String} {seen : String} :
    Reports texts seen ↔
      seen = if overwritten "" texts = "" then nothingObserved else overwritten "" texts := by
  rw [overwritten_eq]
  unfold Reports
  cases texts.getLast? with
  | none => simp
  | some text =>
      rw [Option.getD_some]
      by_cases empty : text = ""
      · simp [empty]
      · rw [if_neg empty]
        constructor
        · rintro (⟨_, same, _, told⟩ | ⟨none | blank, _⟩)
          · cases same
            exact told
          · cases none
          · cases blank
            exact absurd rfl empty
        · exact fun told => Or.inl ⟨text, rfl, empty, told⟩

/-- A poll whose condition records texts. -/
def recorder (world : Clocked σ) (spec : Spec) (condition : StateM σ (Recording ε)) (s : σ) :
    Watch σ ε :=
  ⟨world, spec, Recording.finding <$> condition, s⟩

def recorded (world : Clocked σ) (spec : Spec) (condition : StateM σ (Recording ε)) (s : σ)
    (count : Nat) : List String :=
  (List.range count).flatMap fun i =>
    (condition ((recorder world spec condition s).enters i)).1.texts

/-- What is carried along is what all the records so far leave behind. -/
theorem recorder_seen (world : Clocked σ) (spec : Spec) (condition : StateM σ (Recording ε))
    (s : σ) (count : Nat) :
    (recorder world spec condition s).seen count =
      overwritten "" (recorded world spec condition s count) := by
  induction count with
  | zero => rfl
  | succ count ih =>
      have carried : (recorder world spec condition s).seen (count + 1) =
          (condition ((recorder world spec condition s).enters count)).1.texts.getLast?.getD
            ((recorder world spec condition s).seen count) := rfl
      have more : recorded world spec condition s (count + 1) =
          recorded world spec condition s count ++
            (condition ((recorder world spec condition s).enters count)).1.texts := by
        simp [recorded, List.range_succ]
      rw [carried, more, overwritten_append, ← ih, overwritten_eq]

end Polling

/-- A wait with a condition that records texts ends with a timeout if its last evaluation fails
with one of its own, or finds nothing when the time is up; the texts are reported then. -/
theorem World.waitFor_eq_waitTimedOut (w : World σ) (what : String) (spec : Spec)
    (condition : StateM σ (Recording Error)) (s : σ) (named : String) (elapsed : Nat)
    (seen : String) :
    ((w.waitFor what spec (Recording.finding <$> condition)).run s).1 =
        .error (.waitTimedOut named elapsed seen) ↔
      ∃ k < (recorder w.toClocked spec condition s).evaluations,
        (recorder w.toClocked spec condition s).Last k
            (.failed (.waitTimedOut named elapsed seen)) ∨
          (recorder w.toClocked spec condition s).Last k (.timedOut elapsed) ∧ named = what ∧
            Reports (recorded w.toClocked spec condition s (k + 1)) seen := by
  have ran : ((w.waitFor what spec (Recording.finding <$> condition)).run s).1 =
      (recorder w.toClocked spec condition s).report.1.elim
        (.error (.unsettled what)) (Report.result what) :=
    congrArg Prod.fst (w.waitFor_run what spec _ s)
  rw [ran]
  constructor
  · intro timedOut
    cases reported : (recorder w.toClocked spec condition s).report with
    | mk r t =>
        rw [reported] at timedOut
        obtain _ | ⟨outcome, text⟩ := r
        · cases timedOut
        · obtain ⟨k, followed, last, rfl, _⟩ := Watch.report_eq_some.mp reported
          refine ⟨k, followed, ?_⟩
          cases outcome with
          | success => cases timedOut
          | failed cause =>
              cases timedOut
              exact Or.inl last
          | timedOut =>
              cases timedOut
              refine Or.inr ⟨last, rfl, ?_⟩
              rw [reports_iff, ← recorder_seen]
              rfl
  · rintro ⟨k, followed, last | ⟨last, rfl, reports⟩⟩
    · rw [Watch.report_of_last last followed]
      rfl
    · rw [reports_iff, ← recorder_seen] at reports
      rw [Watch.report_of_last last followed, reports]
      rfl

/-! ## Texts that tell something -/

/-- The text is not empty, and it does not say that nothing was observed. -/
def Telling (text : String) : Prop := text ≠ "" ∧ text ≠ nothingObserved

/-- A text with a letter that is not in the phrase tells something. -/
theorem telling_of_mem {text : String} {c : Char} (mem : c ∈ text.toList)
    (odd : c ∉ nothingObserved.toList) : Telling text := by
  constructor
  · rintro rfl
    cases mem
  · rintro rfl
    exact odd mem

theorem PipelineRun.telling_summary (run : PipelineRun) :
    Telling (PipelineRun.summary run).text := by
  refine telling_of_mem (c := 'p') ?_ (by decide)
  simp [PipelineRun.Summary.text]

/-- The error comes from a look-up: its request failed, or nothing was found. -/
def Error.OfLookUp (cause : Error) : Prop :=
  (∃ action source, cause = .call action source) ∨ ∃ kind name ns, cause = .notFound kind name ns

theorem Error.OfLookUp.telling {cause : Error} (lookedUp : cause.OfLookUp) :
    Telling cause.message := by
  refine telling_of_mem (c := 'f') ?_ (by decide)
  rcases lookedUp with ⟨action, source, rfl⟩ | ⟨kind, name, ns, rfl⟩
  · change 'f' ∈ ("Kubernetes API call failed (" ++ action.text ++ "): " ++ source.text).toList
    simp
  · change 'f' ∈ (kind ++ " " ++ Quoted.encode name ++ " not found in namespace " ++
      Quoted.encode ns).toList
    simp

theorem Session.during_error {α : Type} {action : Action} {call : Call σ α} {s : σ} {cause : Error}
    (failed : ((Session.during action call).run s).1 = .error cause) : cause.OfLookUp := by
  unfold Session.during at failed
  rw [ExceptT.run_mk, stateM_bind_apply] at failed
  generalize call.run s = outcome at failed
  obtain ⟨source | value, t⟩ := outcome
  · cases failed
    exact Or.inl ⟨action, source, rfl⟩
  · cases failed

namespace Wait

variable {w : World σ} {wait : Wait} {s : σ}

/-- Look-ups that fail do so in one of two ways. -/
theorem look_error {cause : Error} (failed : ((wait.look w).run s).1 = .error cause) :
    cause.OfLookUp := by
  cases wait with
  | pod => exact w.get_error failed
  | account => exact Session.during_error failed
  | build => exact Session.during_error failed
  | test => exact Session.during_error failed
  | releaseRun => exact Session.during_error failed
  | release => exact w.get_error failed
  | signup => exact w.get_error failed

theorem telling_describe {α : Type} {text : α → String} {looked : Except Error α}
    (found : ∀ subject, Telling (text subject))
    (failed : ∀ cause, looked = .error cause → cause.OfLookUp) :
    Telling (describe text looked) := by
  cases looked with
  | ok subject => exact found subject
  | error cause => exact (failed cause rfl).telling

theorem telling_describeFirst {kind name ns : String} (runs : List PipelineRun) :
    Telling (describeFirst (.notFound kind name ns) runs) := by
  cases runs with
  | nil => exact Error.OfLookUp.telling (Or.inr ⟨kind, name, ns, rfl⟩)
  | cons run rest => exact run.telling_summary

/-- What is said of a look-up always tells something. -/
theorem telling_observed {looked : Except Error wait.Subject}
    (failed : ∀ cause, looked = .error cause → cause.OfLookUp) :
    Telling (wait.observed looked) := by
  cases wait with
  | pod =>
      refine telling_describe (fun found => ?_) failed
      exact telling_of_mem (c := 'p') (by simp) (by decide)
  | account =>
      refine telling_describe (fun _ => ?_) failed
      exact telling_of_mem (c := 'c') (by decide) (by decide)
  | build => exact telling_describe telling_describeFirst failed
  | test =>
      refine telling_describe telling_describeFirst ?_
      intro cause same
      cases looked with
      | ok => cases same
      | error other =>
          dsimp only [noneIfAbsent] at same
          split at same
          · cases same
          · cases same
            exact failed cause rfl
  | releaseRun => exact telling_describe telling_describeFirst failed
  | release =>
      refine telling_describe (fun found => ?_) failed
      split <;> exact telling_of_mem (c := 'l') (by decide) (by decide)
  | signup =>
      refine telling_describe (fun found => ?_) failed
      exact telling_of_mem (c := 'c') (by simp) (by decide)

/-! ## Reports of the waits -/

/-- The evaluation of an index is the last one that is made. -/
def LastMade (wait : Wait) (w : World σ) (s : σ) (k : Nat) : Prop :=
  wait.Made w s k ∧ ∀ j, wait.Made w s j → j ≤ k

/-- An evaluation at which the time was up is the last one made. -/
theorem lastMade_of_timedOut {k elapsed : Nat}
    (last : (wait.watch w s).Last k (.timedOut elapsed)) : wait.LastMade w s k := by
  obtain ⟨undecided, decided⟩ := last
  obtain ⟨_, ⟨d, limited, _⟩, _⟩ := verdict_eq_timedOut.mp decided
  refine ⟨made_iff.mpr ⟨fun unlimited => (nomatch limited.symm.trans unlimited), undecided⟩, ?_⟩
  intro j made
  apply Nat.le_of_not_lt
  intro beyond
  cases decided.symm.trans ((made_iff.mp made).2 k beyond)

/-- What the evaluation of an index carries along if it decides nothing. -/
theorem seen_of_neither {k : Nat} (neither : wait.NeitherAt w s k) :
    (wait.watch w s).seen (k + 1) = wait.observed (wait.looks w s k).1 := by
  have judged := judged_at wait w s k
  have recorded := judged.seen_of_pending (judged.check_eq_pending.mpr neither)
  exact congrArg (Option.getD · ((wait.watch w s).seen k)) recorded

/-- A wait that timed out reports what its last evaluation saw. -/
theorem reports_last_look {what : String} {elapsed : Nat} {seen : String}
    (timedOut : wait.result w s = .error (.waitTimedOut what elapsed seen)) :
    what = wait.what ∧ ∃ k, wait.LastMade w s k ∧ wait.NeitherAt w s k ∧
      seen = wait.observed (wait.looks w s k).1 ∧ Telling seen := by
  rw [result_eq] at timedOut
  cases reported : (wait.watch w s).report with
  | mk r t =>
      rw [reported] at timedOut
      obtain _ | ⟨outcome, text⟩ := r
      · cases timedOut
      · obtain ⟨k, _, last, rfl, _⟩ := Watch.report_eq_some.mp reported
        cases outcome with
        | success => cases timedOut
        | failed cause =>
            cases timedOut
            exact absurd (Or.inl ⟨_, _, _, rfl⟩) (verdict_eq_failed.mp last.2).not_vain
        | timedOut =>
            have neither := (verdict_eq_timedOut.mp last.2).1
            have telling : Telling (wait.observed (wait.looks w s k).1) :=
              telling_observed fun _ failed => look_error failed
            have words := seen_of_neither neither
            dsimp only at words timedOut
            cases timedOut
            rw [words, if_neg telling.1]
            exact ⟨rfl, k, lastMade_of_timedOut last, neither, rfl, telling⟩

end Wait

/-- What a wait in vain reports is never stale: each wait of the harness tells what its last
evaluation saw, and any wait at all tells the text that was recorded last. -/
theorem World.timeouts_report_last (w : World σ) (s : σ) :
    (∀ (wait : Wait) what elapsed seen,
      wait.result w s = .error (.waitTimedOut what elapsed seen) →
      what = wait.what ∧ ∃ k, wait.LastMade w s k ∧ wait.NeitherAt w s k ∧
        seen = wait.observed (wait.looks w s k).1 ∧ seen ≠ "" ∧ seen ≠ "nothing observed") ∧
    ∀ what spec (condition : StateM σ (Recording Error)) named elapsed seen,
      ((w.waitFor what spec (Recording.finding <$> condition)).run s).1 =
          .error (.waitTimedOut named elapsed seen) ↔
        ∃ k < (recorder w.toClocked spec condition s).evaluations,
          (recorder w.toClocked spec condition s).Last k
              (.failed (.waitTimedOut named elapsed seen)) ∨
            (recorder w.toClocked spec condition s).Last k (.timedOut elapsed) ∧ named = what ∧
              Reports (recorded w.toClocked spec condition s (k + 1)) seen :=
  ⟨fun _ _ _ _ => Wait.reports_last_look, fun _ _ _ _ _ _ => w.waitFor_eq_waitTimedOut ..⟩

namespace Rehearsal

/-- A server that fails to show a pod at first and shows it pending ever after. -/
def pendingPod : World ClusterState :=
  cluster [⟨500, [], false, none, none, false⟩,
      .showing "\x7b\"status\":\x7b\"phase\":\"Pending\"\x7d\x7d"]
    (.missing []) ⟨⟨2023, 3, 1⟩, 0, 0, 0⟩

def pendingPodWait : Wait := .pod "test" "demo" .running (Duration.ofSecs 1)

def reportedState : Except Error Unit → Option String
  | .error (.waitTimedOut _ _ seen) => some seen
  | _ => none

theorem reportedState_eq_some {result : Except Error Unit} {seen : String} :
    reportedState result = some seen ↔
      ∃ what elapsed, result = .error (.waitTimedOut what elapsed seen) := by
  constructor
  · intro reported
    unfold reportedState at reported
    split at reported
    · cases reported
      exact ⟨_, _, rfl⟩
    · cases reported
  · rintro ⟨what, elapsed, rfl⟩
    rfl

/-- The report is on the phase that was seen last and no longer on the failure before. -/
theorem pendingPod_reported :
    ∃ k elapsed,
      pendingPodWait.result pendingPod ⟨0, []⟩ =
        .error (.waitTimedOut pendingPodWait.what elapsed "phase Pending") ∧
      pendingPodWait.LastMade pendingPod ⟨0, []⟩ k ∧
      pendingPodWait.observed (pendingPodWait.looks pendingPod ⟨0, []⟩ k).1 = "phase Pending" := by
  have seen : reportedState (pendingPodWait.result pendingPod ⟨0, []⟩) = some "phase Pending" := by
    decide +kernel
  obtain ⟨what, elapsed, timedOut⟩ := reportedState_eq_some.mp seen
  obtain ⟨fresh, _⟩ := World.timeouts_report_last pendingPod ⟨0, []⟩
  obtain ⟨rfl, k, last, _, words, _⟩ := fresh pendingPodWait _ _ _ timedOut
  exact ⟨k, elapsed, timedOut, last, words.symm⟩

end Rehearsal

end ClusterHarness
