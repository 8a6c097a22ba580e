import ClusterHarness.Cluster.Client
import ClusterHarness.Resource.Pipeline
import ClusterHarness.Resource.Release

/-!
# Waiting for releases
-/

namespace ClusterHarness

variable {σ : Type}

def newRelease (name ns snapshot plan : String) : Release :=
  PlatformObject.make Release.kind (ObjectMeta.named name ns) ⟨snapshot, plan⟩

namespace World

variable (w : World σ)

def createRelease (name ns snapshot plan : String) : Session σ Release :=
  w.create ns (newRelease name ns snapshot plan)

def releaseRun (managed release ns : String) : Session σ PipelineRun := do
  let runs ← w.list PipelineRun managed
    [(Label.releaseName, release), (Label.releaseNamespace, ns)]
  match runs with
  | run :: _ => return run
  | [] => throw (.notFound "PipelineRun for release" release managed)

def releaseRunSucceeded (managed release ns : String) : StateM σ (Polling.Finding Error) := do
  match ← (w.releaseRun managed release ns).attempt with
  | .error error => return .pendingAt error.message
  | .ok run =>
    if PipelineRun.started run ∧ PipelineRun.done run ∧ PipelineRun.succeeded run then
      return .reached
    else return .pendingAt (PipelineRun.summary run).text

def awaitReleaseRun (managed release ns : String) (timeout : Nat) : Session σ Unit :=
  w.waitEvery ("release pipeline of " ++ ns ++ "/" ++ release) (Duration.ofSecs 1) timeout
    (w.releaseRunSucceeded managed release ns)

/-- Waits for the run of a release to succeed and looks it up. -/
def waitForReleaseRun (managed release ns : String) (timeout : Nat) :
    Session σ PipelineRun := do
  w.awaitReleaseRun managed release ns timeout
  w.releaseRun managed release ns

def releaseSucceeded (name ns : String) : StateM σ (Polling.Finding Error) := do
  match ← (w.get Release ns name).attempt with
  | .error error => return .pendingAt error.message
  | .ok release =>
    if Release.done release ∧ Release.succeeded release then return .reached
    else return .pendingAt (if Release.done release then "release failed" else "release in progress")

def waitForRelease (name ns : String) (timeout : Nat) : Session σ Unit :=
  w.waitEvery ("release " ++ ns ++ "/" ++ name) (Duration.ofSecs 1) timeout
    (w.releaseSucceeded name ns)

end World

end ClusterHarness
