import ClusterHarness.Platform.PipelineLogs
import ClusterHarness.Resource.Delivery

/-!
# Applications, components and their builds
-/

namespace ClusterHarness

variable {σ : Type}

def buildInterval : Nat := Duration.ofSecs 20

def buildTimeout : Nat := Duration.ofSecs 600

structure NewComponent where
  application : String
  name : String
  namespace_ : String
  gitUrl : String
  /-- Build from this devfile, not from that of the repository. -/
  devfileUrl : Option String
  sourceImage : String
  /-- Where the build pushes its image; it wins over the source image. -/
  outputImage : String
  secret : String

def NewComponent.component (new : NewComponent) : Component :=
  PlatformObject.make Component.kind (ObjectMeta.named new.name new.namespace_) {
    componentName := new.name
    application := new.application
    source := ⟨some { url := new.gitUrl, devfileUrl := new.devfileUrl.getD "" }⟩
    secret := new.secret
    containerImage := if new.outputImage = "" then new.sourceImage else new.outputImage
    replicas := some 1
    targetPort := some (if new.devfileUrl.isSome then 8080 else 8081) }

/-- What the conditions of a build say, in the order they are listed. -/
inductive BuildVerdict where
  | running
  | succeeded
  | failed
  deriving DecidableEq, Repr

/-- The first condition that has failed or is true decides. -/
def BuildVerdict.of : List Condition → BuildVerdict
  | [] => .running
  | c :: rest => if c.reason = "Failed" then .failed else if c.isTrue then .succeeded else of rest

namespace World

variable (w : World σ)

/-- An application whose display name is its name. -/
def createApplication (name ns : String) : Session σ Application :=
  w.create ns (PlatformObject.make Application.kind (ObjectMeta.named name ns) ⟨name, none⟩ :
    Application)

def createComponent (new : NewComponent) : Session σ Component :=
  w.create new.namespace_ new.component

/-- The first run that builds a component. -/
def componentPipeline (component application ns : String) : Session σ PipelineRun := do
  let runs ← w.list PipelineRun ns
    [(Label.buildComponent, component), (Label.buildApplication, application)]
  match runs with
  | run :: _ => return run
  | [] => throw (.notFound "PipelineRun for component" component ns)

def componentDeployment (component ns : String) : Session σ Deployment :=
  w.get Deployment ns ("el-" ++ component)

def componentService (component ns : String) : Session σ Service :=
  w.get Service ns ("el-" ++ component)

def componentBuilt (component application ns : String) : StateM σ (Polling.Finding Error) := do
  match ← (w.componentPipeline component application ns).attempt with
  | .error error => return .pendingAt error.message
  | .ok run =>
    let seen := (PipelineRun.summary run).text
    match BuildVerdict.of (PipelineRun.conditions run) with
    | .running => return .pendingAt seen
    | .succeeded => return ⟨.done, some seen⟩
    | .failed => return ⟨.failed (← w.pipelineFailure run), some seen⟩

def waitForComponentPipeline (component application ns : String) : Session σ Unit :=
  w.waitEvery ("build pipeline of component " ++ ns ++ "/" ++ component) buildInterval buildTimeout
    (w.componentBuilt component application ns)

end World

end ClusterHarness
