import ClusterHarness.Cluster.Client
import ClusterHarness.Resource.Core

/-!
# Test namespaces

A test namespace is managed by Argo CD, which its label says, and is ready once the service
account of pipelines is there.
-/

namespace ClusterHarness

variable {σ : Type}

/-- The value of the label of every test namespace. -/
def managedByValue : String := "gitops-service-argocd"

def pipelineAccount : String := "pipeline"

def accountTimeout : Nat := Duration.ofSecs 30

namespace Namespace

def isManaged (ns : Namespace) : Bool := ns.metadata.label? Label.managedBy == some managedByValue

def template (name : String) : Namespace where
  metadata := {
    name := some name
    labels := some (Dictionary.ofList [(Label.managedBy, managedByValue)]) }

/-- The namespace with the label added or its value corrected. -/
def managed (ns : Namespace) : Namespace :=
  let labels := ns.metadata.labels.getD Dictionary.empty
  { ns with metadata.labels := some (labels.insert Label.managedBy managedByValue) }

end Namespace

namespace World

variable (w : World σ)

/-- Whether a service account is there; a failed look-up counts as not yet. -/
def serviceAccountPresent (ns name : String) : StateM σ (Polling.Finding Error) := do
  match ← (w.getOpt ServiceAccount ns name).attempt with
  | .ok (some _) => return .reached
  | .ok none => return .pendingAt "service account missing"
  | .error error => return .pendingAt error.message

def findNamespace (name : String) : Session σ (Option Namespace) :=
  Session.during (.getNamespace name) (w.lookUp (ApiRequest.get .cluster Namespace.kind name))

def addNamespace (name : String) : Session σ Namespace :=
  Session.during (.createNamespace name)
    (w.objectOf
      (ApiRequest.create .cluster Namespace.kind
        (Namespace.codec.write (Namespace.template name))))

def relabelNamespace (name : String) (ns : Namespace) : Session σ Namespace :=
  Session.during (.labelNamespace name)
    (w.objectOf
      (ApiRequest.replace .cluster Namespace.kind name (Namespace.codec.write ns.managed)))

def awaitPipelineAccount (name : String) : Session σ Unit :=
  w.waitEachSecond ("service account " ++ name ++ "/" ++ pipelineAccount) accountTimeout
    (w.serviceAccountPresent name pipelineAccount)

/-- Makes sure that a namespace exists and is managed; one that is already is taken as it is. -/
def createTestNamespace (name : String) : Session σ Namespace := do
  match ← w.findNamespace name with
  | none =>
    let created ← w.addNamespace name
    w.awaitPipelineAccount name
    return created
  | some ns =>
    if ns.isManaged then return ns
    else
      let labelled ← w.relabelNamespace name ns
      w.awaitPipelineAccount name
      return labelled

def deleteNamespace (name : String) : Session σ Unit :=
  Session.during (.deleteNamespace name)
    (w.remove Namespace.codec (ApiRequest.delete .cluster Namespace.kind name))

end World

end ClusterHarness
