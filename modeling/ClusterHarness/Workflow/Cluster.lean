import ClusterHarness.Git.Checkout
import ClusterHarness.Kubeconfig
import ClusterHarness.Platform.Sandbox

/-!
# Steps on the cluster

What the workflows do one after the other: check what they need, install the platform, register a
user, run the suites.
-/

namespace ClusterHarness

namespace Workflow

def requiredSecrets : List String := ["GITHUB_TOKEN", "QUAY_TOKEN"]

def requiredPrograms : List String := ["jq", "kubectl", "oc", "yq", "git"]

/-- The secrets that are not set or empty. -/
def missingSecrets (env : Environment) : List String :=
  requiredSecrets.filter fun name => ((env.get? name).getD "").isEmpty

def bootstrapAttempts : Nat := 2

def bootstrapDelay : Nat := Duration.ofSecs 10

def bootstrapScript : String := "hack/bootstrap-cluster.sh"

end Workflow

namespace Host

open Workflow

variable {σ : Type}

def hasProgram (host : Host σ) (program : String) : Errand σ Bool := ExceptT.mk fun s =>
  match host.launch { Command.ofProgram "which" [program] with captured := true } s with
  | (.ok completion, s) => (.ok completion.ending.success, s)
  | (.error _, s) => (.ok false, s)

def checkPrograms (host : Host σ) : List String → Errand σ Unit
  | [] => return ()
  | program :: rest => do
    if ← host.hasProgram program then host.checkPrograms rest
    else
      Errand.fail ("Binary " ++ program ++ " not found in PATH, please install it first")

def preflight (host : Host σ) : Errand σ Unit :=
  let missing := missingSecrets host.environment
  if missing.isEmpty then host.checkPrograms requiredPrograms
  else
    Errand.fail ("Required env vars containing secrets (" ++ String.intercalate ", " missing
      ++ ") not defined or empty")

def bootstrap (host : Host σ) (bindings : Dictionary String) : Errand σ Unit := do
  let (url, branch) := infraSource bindings
  let directory ← host.temporary
  host.cloneBranch url branch directory
  host.tell (.info ("Bootstrapping the cluster from " ++ url ++ " (" ++ branch ++ ")"))
  let script := Command.ofProgram (joinPath directory bootstrapScript) ["preview"]
  (host.perform ((script.inside directory).withVariables bindings.entries)).within
    "Error when bootstrapping cluster"

def bootstrapWithRetry (host : Host σ) (bindings : Dictionary String) : Errand σ Unit :=
  host.retry bootstrapAttempts bootstrapDelay (host.bootstrap bindings)

def connect (host : Host σ) : Errand σ String := ExceptT.mk fun s =>
  match (host.kubeconfig s).map Kubeconfig.defaultNamespace with
  | some (.ok name) => (.ok name, s)
  | some (.error e) => (.error (Failure.ofError e), s)
  | none => (.error (Failure.ofError .clientSetup), s)

def registerDefaultUser (host : Host σ) : Errand σ Unit := do
  (do
    discard host.connect
    discard <| Errand.ofSession (host.toWorld.registerUser defaultUser defaultEmail)
    : Errand σ Unit).within "Error when registering user via toolchain operators"
  host.tell (.success ("Registered " ++ defaultUser))

def runSuites (host : Host σ) (bindings : Dictionary String) (artifactDir : String) :
    Errand σ Unit :=
  let command := Command.ofProgram "cargo"
    ["test", "--features", "e2e-tests", "--test", "e2e", "--", "--test-threads=1"]
  host.perform ((command.inside host.repository).withVariables
    (("ARTIFACT_DIR", artifactDir) :: bindings.entries))

end Host

end ClusterHarness
