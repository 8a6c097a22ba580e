import ClusterHarness.Platform.Builds
import ClusterHarness.Platform.Integration
import ClusterHarness.Platform.Namespaces
import ClusterHarness.Platform.PipelineLogs
import ClusterHarness.Platform.Releases
import ClusterHarness.Platform.Sandbox
import ClusterHarness.Remote.Kinds

/-!
# Calls by name

The platform can be driven from outside: a request names a call and its arguments, and the result is
shown as JSON.
-/

namespace ClusterHarness

/-- The duration that a value stands for: milliseconds, seconds with nanoseconds, or the longest. -/
def Json.duration? : Json → Option Nat
  | .int n => some (Duration.ofMillis n.toNat)
  | .str "max" => some Duration.max
  | j@(.obj _) => do some (Duration.ofSecs (← j.natAt? "secs") + (j.natAt? "nanos").getD 0)
  | _ => none

def Json.durationAt? (j : Json) (name : String) : Option Nat := (j.get? name).bind Json.duration?

namespace Remote

variable {σ : Type}

def showing {α : Type} (f : α → Json) (session : Session σ α) : Session σ Json :=
  f <$> session

def truly (session : Session σ Unit) : Session σ Json := showing (fun _ => true) session

def showList {α : Type} (f : α → Json) (session : Session σ (List α)) : Session σ Json :=
  showing (fun l => (l.map f : List Json)) session

/-- Calls that are others on a certain kind. -/
def kindCalls : List (String × String × String) := [
  ("create_config_map", "create", "ConfigMap"), ("update_config_map", "replace", "ConfigMap"),
  ("create_secret", "create", "Secret"), ("get_config_map", "get", "ConfigMap"),
  ("delete_config_map", "delete", "ConfigMap"), ("get_secret", "get", "Secret"),
  ("delete_secret", "delete", "Secret"), ("get_application", "get", "Application"),
  ("delete_application", "delete", "Application"), ("delete_component", "delete", "Component"),
  ("delete_all_components", "delete_all", "Component"),
  ("delete_all_applications", "delete_all", "Application"), ("releases", "list", "Release"),
  ("delete_environment", "delete", "Environment"), ("delete_snapshot", "delete", "Snapshot"),
  ("delete_integration_test_scenario", "delete", "IntegrationTestScenario"),
  ("environments", "list", "Environment"), ("get_release", "get", "Release")]

/-- The session that a call asks for; `errorJson` shows errors that are results. -/
def run? (w : World σ) (errorJson : Error → Json) (j : Json) : Option (Session σ Json) :=
  let s := j.textAt
  let ns := s "namespace"
  let name := s "name"
  let timeout := (j.durationAt? "timeout").getD 0
  let limit := (j.natAt? "limit").getD 0
  let object := (j.get? "object").getD .null
  let run : Option PipelineRun := (j.get? "run").bind PipelineRun.codec.read
  let state : PodState := if s "state" = "Succeeded" then .succeeded else .running
  let (call, kind) := ((kindCalls.find? (·.1 = s "call")).map (·.2)).getD (s "call", s "kind")
  match call with
  | "get" => byAnyKind kind fun α _ f => some (showing f (w.get α ns name))
  | "get_opt" => byAnyKind kind fun α _ f => some (showing (Json.ofOption f) (w.getOpt α ns name))
  | "create" => byAnyKind kind fun α _ f => do
    some (showing f (w.create ns (← (HasKind.codec (α := α)).read object)))
  | "replace" => byAnyKind kind fun α _ f => do
    some (showing f (w.replace ns (← (HasKind.codec (α := α)).read object)))
  | "delete" => byAnyKind kind fun α _ _ => some (truly (w.delete α ns name))
  | "delete_all" => byAnyKind kind fun α _ _ => some (truly (w.deleteAll α ns))
  | "patch_status" => byAnyKind kind fun α _ f =>
    some (showing f (w.patchStatus α ns name ((j.get? "patch").getD .null)))
  | "list" => byAnyKind kind fun α _ f => some (showList f (w.list α ns
      ((j.itemsAt "labels").filterMap fun p => match p with
        | .arr [.str a, .str b] => some (a, b)
        | _ => none)))
  | "create_test_namespace" => some (showing Namespace.codec.write (w.createTestNamespace name))
  | "delete_namespace" => some (truly (w.deleteNamespace name))
  | "wait_service_account" =>
    some (truly (w.waitEachSecond "service account" timeout (w.serviceAccountPresent ns name)))
  | "wait_for_pod" => some (truly (w.waitForPod ns name state timeout))
  | "wait_pod_every" => do
    let interval ← j.durationAt? "interval"
    some (truly (w.waitEvery "pod" interval timeout (w.podInState ns name state)))
  | "list_pods" => some (showList podJson (w.listPods ns (s "key") (s "value") limit))
  | "wait_for_pod_selector" =>
    some (truly (w.waitForPodSelector ns (s "key") (s "value") state timeout limit))
  | "container_logs" => some (showing .str (w.containerLogs ns (s "pod") (s "container")))
  | "create_registry_auth_secret" =>
    some (showing Secret.codec.write (w.createRegistryAuthSecret ns name (s "encoded")))
  | "create_application" => some (showing Application.codec.write (w.createApplication name ns))
  | "create_component" => some (showing Component.codec.write (w.createComponent {
      application := s "application", name, namespace_ := ns, gitUrl := s "git_url"
      devfileUrl := j.textAt? "devfile_url", sourceImage := s "source_image"
      outputImage := s "output_image", secret := s "secret" }))
  | "component_pipeline" => some (showing PipelineRun.codec.write
      (w.componentPipeline (s "component") (s "application") ns))
  | "wait_for_component_pipeline" =>
    some (truly (w.waitForComponentPipeline (s "component") (s "application") ns))
  | "component_deployment" => some (showing (fun d : Deployment => bareJson "Deployment" d.metadata)
      (w.componentDeployment (s "component") ns))
  | "component_service" => some (showing (fun d : Service => bareJson "Service" d.metadata)
      (w.componentService (s "component") ns))
  | "mark_tests_succeeded" => do
    let snapshot ← (j.get? "snapshot").bind Snapshot.codec.read
    some (showing Snapshot.codec.write (w.markTestsSucceeded snapshot))
  | "get_snapshot" =>
    let lookup : SnapshotLookup := match s "by" with
      | "build_pipeline_run" => .buildPipelineRun (s "value")
      | "component" => .component (s "value")
      | _ => .name (s "value")
    some (showing Snapshot.codec.write (w.getSnapshot lookup ns))
  | "component_of" => some (showing Component.codec.write (w.componentOf (s "application") ns))
  | "integration_test_scenarios" =>
    some (showList TestScenario.codec.write (w.testScenarios (s "application") ns))
  | "create_environment" =>
    some (showing DeploymentEnvironment.codec.write (w.createEnvironment name ns))
  | "create_snapshot" => some (showing Snapshot.codec.write
      (w.createSnapshot (s "application") ns (s "component") (s "image")))
  | "create_release_plan" =>
    some (showing ReleasePlan.codec.write (w.createReleasePlan (s "application") ns))
  | "create_integration_test_scenario" => some (showing TestScenario.codec.write
      (w.createScenario (s "application") ns (s "git_url") (s "revision") (s "path")))
  | "create_integration_pipeline_run" => some (showing PipelineRun.codec.write
      (w.createTestRun (s "snapshot") ns (s "component") (s "scenario")))
  | "build_pipeline_run" => some (showing PipelineRun.codec.write
      (w.buildRun (s "component") (s "application") ns (j.textAt? "sha")))
  | "integration_pipeline_run" => some (showing PipelineRun.codec.write
      (w.testRun (s "scenario") (s "snapshot") ns))
  | "wait_for_integration_pipeline" =>
    some (truly (w.waitForTestRun (s "scenario") (s "snapshot") ns))
  | "snapshot_environment_binding" => some (showing SnapshotBinding.codec.write
      (w.snapshotBinding (s "application") (s "environment") ns))
  | "create_release" => some (showing Release.codec.write
      (w.createRelease name ns (s "snapshot") (s "release_plan")))
  | "pipeline_run_in_namespace" => some (showing PipelineRun.codec.write
      (w.releaseRun (s "managed") (s "release") ns))
  | "wait_for_release_pipeline" => some (showing (fun run : PipelineRun =>
      Json.obj [("run", PipelineRun.codec.write run), ("reference", PipelineRun.reference run)])
      (w.waitForReleaseRun (s "managed") (s "release") ns timeout))
  | "wait_for_release" => some (truly (w.waitForRelease name ns timeout))
  | "failed_tasks" => run.map fun run =>
    showList (fun t : FailedTask => Json.obj [("task", t.task), ("pod", t.pod)]) (w.failedTasks run)
  | "failed_pipeline_logs" => run.map fun run => showing .str (w.failedPipelineLogs run)
  | "pipeline_failure" => run.map fun run =>
    ExceptT.mk do return .ok (errorJson (← w.pipelineFailure run))
  | "register_user" =>
    some (showing UserSignup.codec.write (w.registerUser (s "username") (s "email")))
  | "delete_user_signup" => some (truly (w.deleteUserSignup (s "username")))
  | "sleep" => (j.durationAt? "ms").map fun d =>
    ExceptT.mk fun s => (.ok (.bool true), w.toClocked.sleep d s)
  | _ => none

end Remote

end ClusterHarness
