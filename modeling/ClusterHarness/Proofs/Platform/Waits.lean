import ClusterHarness.Platform.Builds
import ClusterHarness.Platform.Integration
import ClusterHarness.Platform.Namespaces
import ClusterHarness.Platform.Releases
import ClusterHarness.Platform.Sandbox
import ClusterHarness.Proofs.Cluster.Onward

/-!
# The waits of the harness

Each wait looks something up again and again until the look-up shows the awaited state.  What a
look-up may mean for a wait is said here without regard to how it is found out: that the awaited
state is there, or that it can never come.  An evaluation of each wait's condition is judged by
these two alone.
-/

namespace ClusterHarness

open Polling

variable {σ : Type}

/-! ## Verdicts on what is found -/

namespace PodState

/-- In this phase a pod can no longer come to the one that is waited for. -/
def Missed : PodState → String → String → Prop
  | .running, phase, message =>
      (phase = "Failed" ∨ phase = "Succeeded") ∧ message = "ran to completion"
  | .succeeded, phase, message => phase = "Failed" ∧ message = "has failed"

theorem judge_name (state : PodState) (pod : String) : state.judge pod state.name = .done := by
  cases state <;> rfl

theorem judge_of_missed {state : PodState} {phase message : String}
    (missed : state.Missed phase message) (pod : String) :
    state.judge pod phase = failure pod message := by
  cases state with
  | running => obtain ⟨rfl | rfl, rfl⟩ := missed <;> rfl
  | succeeded =>
      obtain ⟨rfl, rfl⟩ := missed
      rfl

theorem judge_of_not_missed {state : PodState} {phase : String} (other : phase ≠ state.name)
    (notMissed : ∀ message, ¬ state.Missed phase message) (pod : String) :
    state.judge pod phase = .pending := by
  cases state with
  | running =>
      have goesOn : ¬ (phase = "Failed" ∨ phase = "Succeeded") :=
        fun ended => notMissed _ ⟨ended, rfl⟩
      exact (if_neg other).trans (if_neg goesOn)
  | succeeded =>
      have goesOn : phase ≠ "Failed" := fun failed => notMissed _ ⟨failed, rfl⟩
      exact (if_neg other).trans (if_neg goesOn)

theorem Missed.unique {state : PodState} {phase first second : String}
    (a : state.Missed phase first) (b : state.Missed phase second) : first = second := by
  cases state <;> exact a.2.trans b.2.symm

theorem Missed.ne_name {state : PodState} {phase message : String}
    (missed : state.Missed phase message) : phase ≠ state.name := by
  cases state with
  | running => obtain ⟨rfl | rfl, _⟩ := missed <;> decide
  | succeeded =>
      obtain ⟨rfl, _⟩ := missed
      decide

end PodState

namespace Condition

/-- A condition that holds is not unknown. -/
theorem known_of_holds {conditions : List Condition} {type : String}
    (reported : holds conditions type = true) :
    ((find? conditions type).any fun c => !c.isUnknown) = true := by
  unfold holds at reported
  cases found : find? conditions type with
  | none =>
      rw [found] at reported
      cases reported
  | some c =>
      rw [found] at reported
      have status : c.status = "True" := eq_of_beq reported
      simp [isUnknown, status]

end Condition

namespace PipelineRun

theorem done_iff {run : PipelineRun} :
    done run = true ↔
      ∃ c, Condition.find? (conditions run) "Succeeded" = some c ∧ c.status ≠ "Unknown" := by
  simp [done, verdict?, succeededType, Option.any_eq_true, Condition.isUnknown]

theorem succeeded_iff {run : PipelineRun} :
    succeeded run = true ↔
      ∃ c, Condition.find? (conditions run) "Succeeded" = some c ∧ c.status = "True" := by
  simp [succeeded, verdict?, succeededType, Option.any_eq_true, Condition.isTrue]

end PipelineRun

/-- The first condition that has failed or is true, which decides a build. -/
def Condition.decisive? (conditions : List Condition) : Option Condition :=
  conditions.find? fun c => c.reason == "Failed" || c.isTrue

theorem BuildVerdict.of_eq (conditions : List Condition) :
    BuildVerdict.of conditions =
      match Condition.decisive? conditions with
      | none => .running
      | some c => if c.reason = "Failed" then .failed else .succeeded := by
  induction conditions with
  | nil => rfl
  | cons c rest ih =>
      unfold of
      by_cases failed : c.reason = "Failed"
      · simp [Condition.decisive?, failed]
      · by_cases holds : c.isTrue = true
        · simp [Condition.decisive?, failed, holds]
        · simpa [Condition.decisive?, failed, holds] using ih

def World.failureLogs (w : World σ) (run : PipelineRun) (s : σ) : String :=
  match ((w.failedPipelineLogs run).run s).1 with
  | .ok logs => logs
  | .error error => "logs unavailable: " ++ error.message

theorem World.pipelineFailure_run (w : World σ) (run : PipelineRun) (s : σ) :
    w.pipelineFailure run s =
      (.pipelineFailed (PipelineRun.summary run).name (PipelineRun.summary run).reason
          (w.failureLogs run s), ((w.failedPipelineLogs run).run s).2) := by
  unfold pipelineFailure failureLogs Session.attempt
  dsimp only
  rw [stateM_bind_apply]
  obtain ⟨_ | _, _⟩ := (w.failedPipelineLogs run).run s <;> rfl

theorem World.pipelineFailure_fst (w : World σ) (run : PipelineRun) (s : σ) :
    (w.pipelineFailure run s).1 =
      .pipelineFailed (PipelineRun.summary run).name (PipelineRun.summary run).reason
        (w.failureLogs run s) :=
  congrArg Prod.fst (w.pipelineFailure_run run s)

inductive Wait where
  | pod (ns name : String) (state : PodState) (timeout : Nat)
  | account (ns : String)
  | build (component application ns : String)
  | test (scenario snapshot ns : String)
  | releaseRun (managed name ns : String) (timeout : Nat)
  | release (name ns : String) (timeout : Nat)
  | signup (username : String)

namespace Wait

/-! ## Settings -/

def what : Wait → String
  | pod ns name state _ => "pod " ++ ns ++ "/" ++ name ++ " to be " ++ state.name
  | account ns => "service account " ++ ns ++ "/" ++ pipelineAccount
  | build component _ ns => "build pipeline of component " ++ ns ++ "/" ++ component
  | test scenario _ ns => "integration pipeline of scenario " ++ ns ++ "/" ++ scenario
  | releaseRun _ name ns _ => "release pipeline of " ++ ns ++ "/" ++ name
  | release name ns _ => "release " ++ ns ++ "/" ++ name
  | signup username => "user signup " ++ username

def interval : Wait → Nat
  | build .. => buildInterval
  | test .. => testInterval
  | _ => Duration.ofSecs 1

def timeout : Wait → Nat
  | pod _ _ _ timeout => timeout
  | account _ => accountTimeout
  | build .. => buildTimeout
  | test .. => testTimeout
  | releaseRun _ _ _ timeout => timeout
  | release _ _ timeout => timeout
  | signup _ => signupTimeout

theorem interval_pos (wait : Wait) : 0 < wait.interval := by
  unfold interval
  split <;> decide

theorem interval_le_max (wait : Wait) : wait.interval ≤ Duration.max := by
  unfold interval
  split <;> decide

def spec (wait : Wait) : Spec :=
  .everyPositive wait.interval wait.timeout wait.interval_pos wait.interval_le_max

def condition (w : World σ) : Wait → StateM σ (Finding Error)
  | pod ns name state _ => w.podInState ns name state
  | account ns => w.serviceAccountPresent ns pipelineAccount
  | build component application ns => w.componentBuilt component application ns
  | test scenario snapshot ns => w.snapshotTested scenario snapshot ns
  | releaseRun managed name ns _ => w.releaseRunSucceeded managed name ns
  | release name ns _ => w.releaseSucceeded name ns
  | signup username => w.signupComplete username

def session (w : World σ) : Wait → Session σ Unit
  | pod ns name state timeout => w.waitForPod ns name state timeout
  | account ns => w.awaitPipelineAccount ns
  | build component application ns => w.waitForComponentPipeline component application ns
  | test scenario snapshot ns => w.waitForTestRun scenario snapshot ns
  | releaseRun managed name ns timeout => w.awaitReleaseRun managed name ns timeout
  | release name ns timeout => w.waitForRelease name ns timeout
  | signup username => w.awaitSignup username

theorem session_eq (w : World σ) (wait : Wait) :
    wait.session w = w.waitFor wait.what wait.spec (wait.condition w) := by
  cases wait <;> rfl

/-! ## What is looked up -/

abbrev Subject : Wait → Type
  | pod .. => Pod
  | account _ => Option ServiceAccount
  | build .. => List PipelineRun
  | test .. => List PipelineRun
  | releaseRun .. => List PipelineRun
  | release .. => Release
  | signup _ => UserSignup

def look (w : World σ) : (wait : Wait) → Session σ wait.Subject
  | pod ns name _ _ => w.get Pod ns name
  | account ns => w.getOpt ServiceAccount ns pipelineAccount
  | build component application ns => w.list PipelineRun ns
      [(Label.buildComponent, component), (Label.buildApplication, application)]
  | test scenario snapshot ns => w.list PipelineRun ns
      [(Label.pipelineType, "test"), (Label.testScenario, scenario), (Label.snapshot, snapshot)]
  | releaseRun managed name ns _ => w.list PipelineRun managed
      [(Label.releaseName, name), (Label.releaseNamespace, ns)]
  | release name ns _ => w.get Release ns name
  | signup username => w.get UserSignup hostNamespace username

def describe {α : Type} (text : α → String) : Except Error α → String
  | .ok found => text found
  | .error cause => cause.message

/-- Of runs the one listed first is described; if none is, the error that says so. -/
def describeFirst (missing : Error) : List PipelineRun → String
  | run :: _ => (PipelineRun.summary run).text
  | [] => missing.message

/-- Where nothing of a kind is known, none is listed. -/
def noneIfAbsent {α : Type} : Except Error (List α) → Except Error (List α)
  | .ok listed => .ok listed
  | .error cause => if cause.isNotFound then .ok [] else .error cause

def observed : (wait : Wait) → Except Error wait.Subject → String
  | pod .. => describe fun found => "phase " ++ Pod.phase found
  | account _ => describe fun _ => "service account missing"
  | build component _ ns =>
      describe (describeFirst (.notFound "PipelineRun for component" component ns))
  | test scenario _ ns => fun looked =>
      describe (describeFirst (.notFound "PipelineRun for" scenario ns)) (noneIfAbsent looked)
  | releaseRun managed name _ _ =>
      describe (describeFirst (.notFound "PipelineRun for release" name managed))
  | release .. => describe fun found =>
      if Release.done found then "release failed" else "release in progress"
  | signup _ => describe fun found =>
      Nat.repr (UserSignup.conditions found).length ++ " conditions reported"

/-- What was looked up is in the awaited state.  Of runs the one listed first counts. -/
def Awaited : (wait : Wait) → wait.Subject → Prop
  | pod _ _ state _, found => Pod.phase found = state.name
  | account _, found => ∃ present : ServiceAccount, found = some present
  | build .., runs => ∃ (run : PipelineRun) (c : Condition), List.head? runs = some run ∧
      Condition.decisive? (PipelineRun.conditions run) = some c ∧ c.reason ≠ "Failed"
  | test .., runs => ∃ run : PipelineRun, List.head? runs = some run ∧
      Condition.holds (PipelineRun.conditions run) "Succeeded" = true
  | releaseRun .., runs => ∃ run : PipelineRun, List.head? runs = some run ∧
      PipelineRun.started run = true ∧
      Condition.holds (PipelineRun.conditions run) "Succeeded" = true
  | release .., found => Condition.holds (Release.conditions found) "Succeeded" = true
  | signup _, found => Condition.holds (UserSignup.conditions found) "Complete" = true

def Reached (wait : Wait) (looked : Except Error wait.Subject) : Prop :=
  ∃ subject, looked = .ok subject ∧ wait.Awaited subject

/-- The outcome of a look-up, with the state it left behind, means that the awaited state can never
come; the error says why. -/
def Fatal (w : World σ) : (wait : Wait) → Except Error wait.Subject → σ → Error → Prop
  | pod _ name state _ => fun looked _ e => ∃ (found : Pod) (message : String),
      looked = .ok found ∧ state.Missed found.phase message ∧
      e = .conditionFailed ("pod " ++ Quoted.encode name) message
  | build .. => fun looked s e => ∃ (runs : List PipelineRun) (run : PipelineRun) (c : Condition),
      looked = .ok runs ∧ runs.head? = some run ∧
      Condition.decisive? (PipelineRun.conditions run) = some c ∧ c.reason = "Failed" ∧
      e = .pipelineFailed (PipelineRun.name run) (PipelineRun.summary run).reason
        (w.failureLogs run s)
  | test .. => fun looked s e => ∃ (runs : List PipelineRun) (run : PipelineRun) (c : Condition),
      looked = .ok runs ∧ runs.head? = some run ∧
      Condition.find? (PipelineRun.conditions run) "Succeeded" = some c ∧
      c.status ≠ "Unknown" ∧ c.status ≠ "True" ∧
      e = .pipelineFailed (PipelineRun.name run) c.reason (w.failureLogs run s)
  | signup _ => fun looked _ e => looked = .error e
  | _ => fun _ _ _ => False

theorem reached_ok {wait : Wait} {subject : wait.Subject} :
    wait.Reached (.ok subject) ↔ wait.Awaited subject := by
  constructor
  · rintro ⟨_, same, awaited⟩
    cases same
    exact awaited
  · exact fun awaited => ⟨subject, rfl, awaited⟩

theorem not_reached_error {wait : Wait} {cause : Error} : ¬ wait.Reached (.error cause) :=
  nofun

/-- A look-up cannot both show the awaited state and rule it out. -/
theorem Reached.not_fatal {w : World σ} {wait : Wait} {looked : Except Error wait.Subject} {s : σ}
    {cause : Error} (reached : wait.Reached looked) : ¬ wait.Fatal w looked s cause := by
  obtain ⟨subject, rfl, awaited⟩ := reached
  cases wait with
  | pod =>
      rintro ⟨_, _, ⟨⟩, missed, _⟩
      exact missed.ne_name awaited
  | build =>
      rintro ⟨_, run, c, ⟨⟩, first, decided, failed, _⟩
      obtain ⟨run', c', first', decided', sound⟩ := awaited
      cases first.symm.trans first'
      cases decided.symm.trans decided'
      exact sound failed
  | test =>
      rintro ⟨_, run, c, ⟨⟩, first, reported, _, failed, _⟩
      obtain ⟨run', first', holds⟩ := awaited
      cases first.symm.trans first'
      obtain ⟨c', reported', succeeded⟩ := PipelineRun.succeeded_iff.mp holds
      cases reported.symm.trans reported'
      exact failed succeeded
  | signup => nofun
  | account => exact id
  | releaseRun => exact id
  | release => exact id

theorem Fatal.unique {w : World σ} {wait : Wait} {looked : Except Error wait.Subject} {s : σ}
    {first second : Error} (a : wait.Fatal w looked s first) (b : wait.Fatal w looked s second) :
    first = second := by
  cases wait with
  | pod =>
      obtain ⟨_, _, rfl, missed, rfl⟩ := a
      obtain ⟨_, _, ⟨⟩, missed', rfl⟩ := b
      rw [missed.unique missed']
  | build =>
      obtain ⟨_, _, _, rfl, head, _, _, rfl⟩ := a
      obtain ⟨_, _, _, ⟨⟩, head', _, _, rfl⟩ := b
      cases head.symm.trans head'
      rfl
  | test =>
      obtain ⟨_, _, _, rfl, head, reported, _, _, rfl⟩ := a
      obtain ⟨_, _, _, ⟨⟩, head', reported', _, _, rfl⟩ := b
      cases head.symm.trans head'
      cases reported.symm.trans reported'
      rfl
  | signup => exact Except.error.inj (Eq.trans (Eq.symm a) b)
  | account => exact a.elim
  | releaseRun => exact a.elim
  | release => exact a.elim

end Wait

end ClusterHarness
