import ClusterHarness.Platform.PipelineLogs
import ClusterHarness.Resource.Release
import ClusterHarness.Resource.Testing
import ClusterHarness.Tokens

/-!
# Snapshots and their integration tests
-/

namespace ClusterHarness

variable {σ : Type}

def testInterval : Nat := Duration.ofSecs 20

def testTimeout : Nat := Duration.ofSecs 6000

inductive SnapshotLookup where
  | name (name : String)
  | buildPipelineRun (run : String)
  | component (component : String)

/-! ## What is created -/

def pocEnvironment (name ns : String) : DeploymentEnvironment :=
  PlatformObject.make DeploymentEnvironment.kind (ObjectMeta.named name ns) {
    type := "POC"
    displayName := "my-environment"
    deploymentStrategy := "Manual"
    configuration := ⟨[⟨"var_name", "test"⟩]⟩ }

def pushedSnapshot (token application ns component image : String) : Snapshot :=
  PlatformObject.make Snapshot.kind
    { name := some ("snapshot-sample-" ++ token)
      namespace_ := some ns
      labels := some (Dictionary.ofList [(Label.testType, "component"),
        (Label.component, component), (Label.testEventType, "push")]) }
    { application, components := [⟨component, image⟩] }

/-- A plan that releases by itself into the default namespace. -/
def autoReleasePlan (application ns : String) : ReleasePlan :=
  PlatformObject.make ReleasePlan.kind
    { generateName := some "test-releaseplan-"
      namespace_ := some ns
      labels := some (Dictionary.ofList [(Label.autoRelease, "true"),
        (Label.attribution, "true")]) }
    ⟨application, "default"⟩

/-- A required test whose pipeline is fetched from git. -/
def gitScenario (token application ns url revision path : String) : TestScenario :=
  PlatformObject.make TestScenario.kind
    { name := some ("example-resolver-pass-" ++ token)
      namespace_ := some ns
      labels := some (Dictionary.ofList [(Label.testOptional, "false")]) }
    ⟨application, ResolverRef.git url revision path⟩

/-- A run of the passing test pipeline, as the integration service would start it. -/
def passingRun (snapshot ns component scenario : String) : PipelineRun :=
  PlatformObject.make PipelineRun.kind
    { generateName := some "component-pipelinerun-"
      namespace_ := some ns
      labels := some (Dictionary.ofList [(Label.eventType, "push"), (Label.component, component),
        (Label.pipelineType, "test"), (Label.snapshot, snapshot),
        (Label.testScenario, scenario)]) }
    { pipelineRef := some {
        name := "integration-pipeline-pass"
        bundle := "quay.io/redhat-appstudio/example-tekton-bundle:integration-pipeline-pass" }
      params := [⟨"output-image", .str "quay.io/redhat-appstudio/sample-image"⟩] }

def passedConditions (now : Timestamp) (snapshot : Snapshot) : List Condition :=
  Condition.set now (Condition.truthy "AppStudioTestSucceeded" "Passed" "Snapshot Passed")
    (Snapshot.conditions snapshot)

def conditionsPatch (conditions : List Condition) : Json :=
  .obj [("status", .obj [("conditions", Condition.codec.list.write conditions)])]

namespace World

variable (w : World σ)

/-! ## Snapshots -/

def markTestsSucceeded (snapshot : Snapshot) : Session σ Snapshot := do
  let now ← (w.timeNow : StateM σ Timestamp)
  w.patchStatus Snapshot (snapshot.metadata.namespace_.getD "") (snapshot.metadata.name.getD "")
    (conditionsPatch (passedConditions now snapshot))

def labelledSnapshot (label value ns : String) : Session σ Snapshot := do
  let snapshots ← w.list Snapshot ns []
  match snapshots.find? fun s => s.metadata.label? label == some value with
  | some snapshot => return snapshot
  | none => throw (.notFound ("Snapshot with " ++ label) value ns)

def getSnapshot (lookup : SnapshotLookup) (ns : String) : Session σ Snapshot :=
  match lookup with
  | .name name => w.get Snapshot ns name
  | .buildPipelineRun run => w.labelledSnapshot Label.buildPipelineRun run ns
  | .component component => w.labelledSnapshot Label.component component ns

def componentOf (application ns : String) : Session σ Component := do
  let components ← w.list Component ns []
  match components.find? fun c => c.spec.application == application with
  | some component => return component
  | none => throw (.notFound "Component of application" application ns)

def testScenarios (application ns : String) : Session σ (List TestScenario) := do
  let scenarios ← w.list TestScenario ns []
  return scenarios.filter fun s => s.spec.application == application

def snapshotBinding (application environment ns : String) : Session σ SnapshotBinding := do
  let bindings ← w.list SnapshotBinding ns []
  match bindings.find? fun b =>
      b.spec.application == application && b.spec.environment == environment with
  | some binding => return binding
  | none =>
    throw (.notFound ("SnapshotEnvironmentBinding of application " ++ application) environment ns)

/-! ## Creating -/

def token : Session σ String := do
  let source ← (w.tokenSource : StateM σ (Nat → Nat))
  return Token.make source 4

/-- Creates an environment, or gets the one of that name. -/
def createEnvironment (name ns : String) : Session σ DeploymentEnvironment :=
  ExceptT.mk do
    match ← (w.create ns (pocEnvironment name ns)).attempt with
    | .error error =>
      if error.isAlreadyExists then (w.get DeploymentEnvironment ns name).attempt
      else return .error error
    | result => return result

def createSnapshot (application ns component image : String) : Session σ Snapshot := do
  w.create ns (pushedSnapshot (← w.token) application ns component image)

def createReleasePlan (application ns : String) : Session σ ReleasePlan :=
  w.create ns (autoReleasePlan application ns)

def createScenario (application ns url revision path : String) : Session σ TestScenario := do
  w.create ns (gitScenario (← w.token) application ns url revision path)

def createTestRun (snapshot ns component scenario : String) : Session σ PipelineRun :=
  w.create ns (passingRun snapshot ns component scenario)

/-! ## Runs -/

/-- The first run with the labels; a server that knows no such runs lists none. -/
def firstRun (ns : String) (labels : List (String × String)) (owner : String) :
    Session σ PipelineRun := do
  let runs ← ExceptT.mk do
    match ← (w.list PipelineRun ns labels).attempt with
    | .error error => return if error.isNotFound then .ok [] else .error error
    | result => return result
  match runs with
  | run :: _ => return run
  | [] => throw (.notFound "PipelineRun for" owner ns)

def buildRun (component application ns : String) (sha : Option String) :
    Session σ PipelineRun :=
  w.firstRun ns
    ([(Label.pipelineType, "build"), (Label.application, application),
      (Label.component, component)] ++ (sha.map fun s => (Label.sha, s)).toList) component

def testRun (scenario snapshot ns : String) : Session σ PipelineRun :=
  w.firstRun ns
    [(Label.pipelineType, "test"), (Label.testScenario, scenario), (Label.snapshot, snapshot)]
    scenario

def snapshotTested (scenario snapshot ns : String) : StateM σ (Polling.Finding Error) := do
  match ← (w.testRun scenario snapshot ns).attempt with
  | .error error => return .pendingAt error.message
  | .ok run =>
    let seen := (PipelineRun.summary run).text
    if ¬PipelineRun.done run then return .pendingAt seen
    else if PipelineRun.succeeded run then return ⟨.done, some seen⟩
    else return ⟨.failed (← w.pipelineFailure run), some seen⟩

def waitForTestRun (scenario snapshot ns : String) : Session σ Unit :=
  w.waitEvery ("integration pipeline of scenario " ++ ns ++ "/" ++ scenario) testInterval
    testTimeout (w.snapshotTested scenario snapshot ns)

end World

end ClusterHarness
