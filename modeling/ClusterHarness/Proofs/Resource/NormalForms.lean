import ClusterHarness.Proofs.Resource.Objects

/-!
# The normal form of a document

Whatever document an object is read from, the object is written in one form: the document that it is
written to is read as an object that is written to the very same document and that says the same
about its run, release or snapshot.  Only fractions of seconds are lost on the way.
-/

namespace ClusterHarness

inductive ResourceKind where
  | application | component | environment | snapshot | snapshotBinding | releasePlan | release
  | userSignup | testScenario | pipelineRun | taskRun
  deriving DecidableEq, Repr

/-! ## What is said about an object -/

namespace PipelineRun

structure Facts where
  started : Bool
  done : Bool
  succeeded : Bool
  failedReason : Option String
  reference : String
  summary : Summary
  deriving DecidableEq, Repr

def facts (run : PipelineRun) : Facts :=
  ⟨started run, done run, succeeded run, failedReason run, reference run, summary run⟩

end PipelineRun

namespace ResourceKind

def Object : ResourceKind → Type
  | application => Application
  | component => Component
  | environment => DeploymentEnvironment
  | snapshot => Snapshot
  | snapshotBinding => SnapshotBinding
  | releasePlan => ReleasePlan
  | release => Release
  | userSignup => UserSignup
  | testScenario => TestScenario
  | pipelineRun => PipelineRun
  | taskRun => TaskRun

def codec : (kind : ResourceKind) → Codec kind.Object
  | application => Application.codec
  | component => Component.codec
  | environment => DeploymentEnvironment.codec
  | snapshot => Snapshot.codec
  | snapshotBinding => SnapshotBinding.codec
  | releasePlan => ReleasePlan.codec
  | release => Release.codec
  | userSignup => UserSignup.codec
  | testScenario => TestScenario.codec
  | pipelineRun => PipelineRun.codec
  | taskRun => TaskRun.codec

def shape : (kind : ResourceKind) → Shape kind.Object
  | application => Application.shape
  | component => Component.shape
  | environment => DeploymentEnvironment.shape
  | snapshot => Snapshot.shape
  | snapshotBinding => SnapshotBinding.shape
  | releasePlan => ReleasePlan.shape
  | release => Release.shape
  | userSignup => UserSignup.shape
  | testScenario => TestScenario.shape
  | pipelineRun => PipelineRun.shape
  | taskRun => TaskRun.shape

/-- What is asked of the objects of a kind. -/
def Facts : ResourceKind → Type
  | pipelineRun => PipelineRun.Facts
  | taskRun => Bool × Option Bool
  | release => Bool × Bool
  | snapshot => Bool × Bool
  | _ => Unit

def facts : (kind : ResourceKind) → kind.Object → kind.Facts
  | pipelineRun, run => PipelineRun.facts run
  | taskRun, run => (TaskRun.podExists run, run.status.map TaskRunStatus.failed)
  | release, r => (Release.done r, Release.succeeded r)
  | snapshot, s => (Snapshot.testsFinished s, Snapshot.testsSucceeded s)
  | application, _ => ()
  | component, _ => ()
  | environment, _ => ()
  | snapshotBinding, _ => ()
  | releasePlan, _ => ()
  | userSignup, _ => ()
  | testScenario, _ => ()

theorem normal (kind : ResourceKind) : kind.codec.Normal kind.shape := by
  cases kind with
  | application => exact Application.normal
  | component => exact Component.normal
  | environment => exact DeploymentEnvironment.normal
  | snapshot => exact Snapshot.normal
  | snapshotBinding => exact SnapshotBinding.normal
  | releasePlan => exact ReleasePlan.normal
  | release => exact Release.normal
  | userSignup => exact UserSignup.normal
  | testScenario => exact TestScenario.normal
  | pipelineRun => exact PipelineRun.normal
  | taskRun => exact TaskRun.normal

end ResourceKind

/-! ## Fractions of seconds do not matter -/

theorem Condition.find?_trimmed (conditions : List Condition) (type : String) :
    find? (shape.list.trimmed conditions) type = (find? conditions type).map shape.trimmed :=
  List.find?_map ..

theorem Condition.holds_trimmed (conditions : List Condition) (type : String) :
    holds (shape.list.trimmed conditions) type = holds conditions type := by
  rw [holds, holds, find?_trimmed, Option.any_map]
  rfl

theorem conditionsOf_trimmed {τ : Type} {get : τ → List Condition} {put : τ → List Condition → τ}
    {same : ∀ s, put s (get s) = s} (got : ∀ s conditions, get (put s conditions) = conditions)
    (status : Option τ) :
    conditionsOf get ((Shape.ofConditions get put same).option.trimmed status) =
      Condition.shape.list.trimmed (conditionsOf get status) := by
  cases status with
  | none => rfl
  | some s => exact got s _

namespace PipelineRun

theorem verdict?_trimmed (run : PipelineRun) :
    verdict? (shape.trimmed run) = (verdict? run).map Condition.shape.trimmed := by
  have same : conditions (shape.trimmed run) =
      Condition.shape.list.trimmed (conditions run) := by
    obtain ⟨_, _, _, _, _ | status⟩ := run <;> rfl
  rw [verdict?, same, Condition.find?_trimmed]
  rfl

theorem started_trimmed (run : PipelineRun) : started (shape.trimmed run) = started run := by
  obtain ⟨_, _, _, _, _ | ⟨_, _ | _, _, _, _⟩⟩ := run <;> rfl

theorem failedReason_trimmed (run : PipelineRun) :
    failedReason (shape.trimmed run) = failedReason run := by
  rw [failedReason, verdict?_trimmed, failedReason]
  cases verdict? run with
  | none => rfl
  | some verdict =>
      have same : (Condition.shape.trimmed verdict).isFalse = verdict.isFalse := rfl
      rw [Option.map_some, Option.filter_some, Option.filter_some, same]
      split <;> rfl

theorem summary_trimmed (run : PipelineRun) : summary (shape.trimmed run) = summary run := by
  rw [summary, verdict?_trimmed, started_trimmed, Option.map_map, Option.map_map]
  rfl

theorem facts_trimmed (run : PipelineRun) : facts (shape.trimmed run) = facts run := by
  rw [facts, started_trimmed, failedReason_trimmed, summary_trimmed, done, succeeded,
    verdict?_trimmed, Option.any_map, Option.any_map]
  rfl

end PipelineRun

namespace TaskRun

theorem podExists_trimmed (run : TaskRun) : podExists (shape.trimmed run) = podExists run := by
  obtain ⟨_, _, _, _, _ | _⟩ := run <;> rfl

theorem failed_trimmed (run : TaskRun) :
    (shape.trimmed run).status.map TaskRunStatus.failed = run.status.map TaskRunStatus.failed := by
  obtain ⟨_, _, _, _, _ | status⟩ := run
  · rfl
  · have same : TaskRunStatus.failed (TaskRunStatus.shape.trimmed status) = status.failed := by
      show (Condition.find? (Condition.shape.list.trimmed status.conditions) _).any _ = _
      rw [Condition.find?_trimmed, Option.any_map]
      rfl
    exact congrArg some same

end TaskRun

namespace Release

theorem conditions_trimmed (r : Release) :
    conditions (shape.trimmed r) = Condition.shape.list.trimmed (conditions r) :=
  conditionsOf_trimmed (fun _ _ => rfl) r.status

theorem done_trimmed (r : Release) : done (shape.trimmed r) = done r := by
  rw [done, conditions_trimmed, Condition.find?_trimmed, Option.any_map]
  rfl

theorem succeeded_trimmed (r : Release) : succeeded (shape.trimmed r) = succeeded r := by
  rw [succeeded, conditions_trimmed, Condition.holds_trimmed, succeeded]

end Release

namespace Snapshot

theorem conditions_trimmed (s : Snapshot) :
    conditions (shape.trimmed s) = Condition.shape.list.trimmed (conditions s) :=
  conditionsOf_trimmed (fun _ _ => rfl) s.status

theorem testsFinished_trimmed (s : Snapshot) :
    testsFinished (shape.trimmed s) = testsFinished s := by
  simp only [testsFinished, conditions_trimmed, Condition.find?_trimmed, Option.isSome_map]

theorem testsSucceeded_trimmed (s : Snapshot) :
    testsSucceeded (shape.trimmed s) = testsSucceeded s := by
  have same : Condition.holds (conditions (shape.trimmed s)) = Condition.holds (conditions s) :=
    funext fun type => by rw [conditions_trimmed, Condition.holds_trimmed]
  rw [testsSucceeded, same, testsSucceeded]

end Snapshot

namespace ResourceKind

/-- What is said about an object does not depend on fractions of seconds. -/
theorem facts_trimmed (kind : ResourceKind) (o : kind.Object) :
    kind.facts (kind.shape.trimmed o) = kind.facts o := by
  cases kind with
  | pipelineRun => exact PipelineRun.facts_trimmed o
  | taskRun => exact Prod.ext (TaskRun.podExists_trimmed o) (TaskRun.failed_trimmed o)
  | release => exact Prod.ext (Release.done_trimmed o) (Release.succeeded_trimmed o)
  | snapshot =>
      exact Prod.ext (Snapshot.testsFinished_trimmed o) (Snapshot.testsSucceeded_trimmed o)
  | _ => rfl

/-- Every document that an object is read from has a normal form, and an object of whole seconds is
read from its own document.  The years of its timestamps have four digits. -/
theorem read_write (kind : ResourceKind) :
    (∀ document o, kind.codec.read document = some o → (∀ t ∈ kind.shape.times o, t.InEra) →
      ∃ again, kind.codec.read (kind.codec.write o) = some again ∧
        kind.codec.write again = kind.codec.write o ∧ kind.facts again = kind.facts o) ∧
    (∀ o, kind.shape.Typed o → (∀ t ∈ kind.shape.times o, t.InEra ∧ t.nanos = 0) →
      kind.codec.read (kind.codec.write o) = some o) := by
  constructor
  · intro document o read eras
    have typed := kind.normal.gives document o read
    exact ⟨kind.shape.trimmed o, kind.normal.restores o typed eras, kind.normal.again o,
      kind.facts_trimmed o⟩
  · intro o typed seconds
    have restored := kind.normal.restores o typed fun t inside => (seconds t inside).1
    rw [restored, kind.shape.whole o fun t inside => (seconds t inside).2]

/-- A finished run, reported with fractions of seconds and a member that runs do not have. -/
def reportedRun : Json := .obj [
  ("metadata", .obj [("name", "run-1"), ("creationTimestamp", "2024-03-10T12:00:00.5Z")]),
  ("status", .obj [("startTime", "2024-03-10T14:00:01.25+02:00"), ("attempt", (1 : Int)),
    ("conditions", .arr [.obj [("type", "Succeeded"), ("status", "True")]])])]

def finishedRun (creation start : Nat) : PipelineRun where
  apiVersion := ""
  kind := ""
  metadata := { name := some "run-1", creationTimestamp := some ⟨⟨2024, 3, 10⟩, 720, 0, creation⟩ }
  spec := {}
  status := some {
    conditions := [⟨"Succeeded", "True", "", "", none, none⟩]
    startTime := some ⟨⟨2024, 3, 10⟩, 720, 1, start⟩
    completionTime := none
    taskRuns := .empty
    childReferences := [] }

theorem times_finishedRun (creation start : Nat) :
    PipelineRun.shape.times (finishedRun creation start) =
      [⟨⟨2024, 3, 10⟩, 720, 0, creation⟩, ⟨⟨2024, 3, 10⟩, 720, 1, start⟩] := rfl

theorem typed_finishedRun : PipelineRun.shape.Typed (finishedRun 0 0) := by
  have creation : Timestamp.Known ⟨⟨2024, 3, 10⟩, 720, 0, 0⟩ := by constructor <;> decide
  have start : Timestamp.Known ⟨⟨2024, 3, 10⟩, 720, 1, 0⟩ := by constructor <;> decide
  have metadata : (finishedRun 0 0).metadata.Typed :=
    ⟨fun _ same => Option.mem_some.mp same ▸ creation, nofun, nofun, nofun, nofun⟩
  refine ⟨metadata, nofun, fun _ same => Option.mem_some.mp same ▸ ⟨?_, ?_, nofun, nofun⟩⟩
  · exact fun c member => List.mem_singleton.mp member ▸ ⟨nofun, nofun⟩
  · exact fun _ same => Option.mem_some.mp same ▸ start

theorem read_write_finishedRun :
    (∃ again, PipelineRun.codec.read (PipelineRun.codec.write (finishedRun 500000000 250000000)) =
        some again ∧
      PipelineRun.codec.write again = PipelineRun.codec.write (finishedRun 500000000 250000000) ∧
      PipelineRun.facts again = PipelineRun.facts (finishedRun 500000000 250000000)) ∧
    PipelineRun.codec.read (PipelineRun.codec.write (finishedRun 0 0)) =
      some (finishedRun 0 0) := by
  have reported : PipelineRun.codec.read reportedRun =
      some (finishedRun 500000000 250000000) := rfl
  have eras : ∀ t ∈ PipelineRun.shape.times (finishedRun 500000000 250000000), t.InEra := by
    rw [times_finishedRun]
    simp [Timestamp.InEra]
  have seconds : ∀ t ∈ PipelineRun.shape.times (finishedRun 0 0), t.InEra ∧ t.nanos = 0 := by
    rw [times_finishedRun]
    simp [Timestamp.InEra]
  exact ⟨(read_write .pipelineRun).1 reportedRun _ reported eras,
    (read_write .pipelineRun).2 _ typed_finishedRun seconds⟩

end ResourceKind

end ClusterHarness
