import ClusterHarness.Json.Basic
import ClusterHarness.Resource.Core
import ClusterHarness.Resource.Delivery
import ClusterHarness.Resource.Pipeline
import ClusterHarness.Resource.Release
import ClusterHarness.Resource.Testing

/-!
# Kinds by name

What can be done with a resource whose kind is only known by its name.
-/

namespace ClusterHarness

namespace Remote

def byKind (name : String)
    (f : {σ τ : Type} → Kind → Codec (PlatformObject σ τ) → Option Json) : Option Json :=
  match name with
  | "Application" => f Application.kind Application.codec
  | "Component" => f Component.kind Component.codec
  | "Environment" => f DeploymentEnvironment.kind DeploymentEnvironment.codec
  | "IntegrationTestScenario" => f TestScenario.kind TestScenario.codec
  | "PipelineRun" => f PipelineRun.kind PipelineRun.codec
  | "TaskRun" => f TaskRun.kind TaskRun.codec
  | "ReleasePlan" => f ReleasePlan.kind ReleasePlan.codec
  | "Release" => f Release.kind Release.codec
  | "Snapshot" => f Snapshot.kind Snapshot.codec
  | "SnapshotEnvironmentBinding" => f SnapshotBinding.kind SnapshotBinding.codec
  | "UserSignup" => f UserSignup.kind UserSignup.codec
  | _ => none

def facts (kind : String) (j : Json) : Json :=
  match kind with
  | "PipelineRun" => PipelineRun.codec.read j |> Json.ofOption fun run =>
    let summary := PipelineRun.summary run
    .obj [("started", PipelineRun.started run), ("done", PipelineRun.done run),
      ("succeeded", PipelineRun.succeeded run), ("failed_reason", PipelineRun.failedReason run),
      ("reference", PipelineRun.reference run),
      ("summary", .obj [("name", summary.name), ("status", summary.status),
        ("reason", summary.reason), ("started", summary.started), ("display", summary.text)])]
  | "TaskRun" => TaskRun.codec.read j |> Json.ofOption fun run =>
    .obj [("pod_exists", TaskRun.podExists run), ("failed", Json.ofOption (Json.bool ·.failed) run.status)]
  | "Release" => Release.codec.read j |> Json.ofOption fun r =>
    .obj [("done", Release.done r), ("succeeded", Release.succeeded r)]
  | "Snapshot" => Snapshot.codec.read j |> Json.ofOption fun s =>
    .obj [("finished", Snapshot.testsFinished s), ("succeeded", Snapshot.testsSucceeded s)]
  | _ => .null

def bareJson (kind : String) (metadata : ObjectMeta) : Json :=
  .obj [("kind", kind), ("metadata", ObjectMeta.codec.write metadata)]

def podJson (pod : Pod) : Json :=
  .obj [("kind", "Pod"), ("metadata", ObjectMeta.codec.write pod.metadata),
    ("phase", pod.status.bind (·.phase))]

/-- Runs something for the kind of a name, with the way its objects are shown. -/
def byAnyKind {β : Type} (name : String) (f : (α : Type) → [HasKind α] → (α → Json) → Option β) :
    Option β :=
  match name with
  | "Application" => f Application Application.codec.write
  | "Component" => f Component Component.codec.write
  | "Environment" => f DeploymentEnvironment DeploymentEnvironment.codec.write
  | "IntegrationTestScenario" => f TestScenario TestScenario.codec.write
  | "PipelineRun" => f PipelineRun PipelineRun.codec.write
  | "TaskRun" => f TaskRun TaskRun.codec.write
  | "ReleasePlan" => f ReleasePlan ReleasePlan.codec.write
  | "Release" => f Release Release.codec.write
  | "Snapshot" => f Snapshot Snapshot.codec.write
  | "SnapshotEnvironmentBinding" => f SnapshotBinding SnapshotBinding.codec.write
  | "UserSignup" => f UserSignup UserSignup.codec.write
  | "ConfigMap" => f ConfigMap ConfigMap.codec.write
  | "Secret" => f Secret Secret.codec.write
  | "Pod" => f Pod podJson
  | "Service" => f Service fun s => bareJson "Service" s.metadata
  | "ServiceAccount" => f ServiceAccount fun s => bareJson "ServiceAccount" s.metadata
  | "Deployment" => f Deployment fun d => bareJson "Deployment" d.metadata
  | _ => none

end Remote

end ClusterHarness
