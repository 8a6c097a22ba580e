import ClusterHarness.CommandLine.Grammar
import ClusterHarness.Host.Root
import ClusterHarness.Workflow.Branch
import ClusterHarness.Workflow.Cleanup
import ClusterHarness.Workflow.Suites

/-!
# The program

The commands of the tool, what each does, and how a run of it ends.
-/

namespace ClusterHarness

inductive Task where
  | patchBundles (sha : String) (settings : PatchSettings)
  | prepareBranch
  | runJob (settings : SuiteJob)
  | cleanUp (cleanup : Cleanup)
  | prepareCluster (org branch : Option String)
  | runSuites (label : Option String) (artifactDir : String)
  | sendWebhook (settings : WebhookSettings)
  deriving DecidableEq, Repr

namespace Task

def run {σ : Type} (host : Host σ) : Task → Errand σ Unit
  | patchBundles sha settings => do
    let bundle ← settings.run host sha
    host.tell (.display bundle)
  | prepareBranch => host.prepareBranch
  | runJob settings => settings.run host
  | cleanUp cleanup => cleanup.run host
  | prepareCluster org branch => host.prepareCluster org branch
  | runSuites label artifactDir => host.runLabelled label artifactDir
  | sendWebhook settings => do
    let job ← Errand.ofExcept (JobContext.ofEnvironment host.environment)
    settings.report host job

end Task

namespace PatchSettings

def options : List OptionSpec := [
  { name := "reqprocessor-image", fromVariable := some "JVM_BUILD_SERVICE_REQPROCESSOR_IMAGE"
    standard := some "" },
  { name := "quay-token", fromVariable := some "QUAY_TOKEN", standard := some "" },
  { name := "push-repo", standard := some defaultPushRepo },
  { name := "selector-url", standard := some defaultSelectorUrl }]

def ofValues (values : Values) : PatchSettings :=
  ⟨values.get "reqprocessor-image", values.get "quay-token", values.get "push-repo",
    values.get "selector-url"⟩

end PatchSettings

namespace WebhookSettings

def options : List OptionSpec := [
  { name := "webhook-salt", fromVariable := some "WEBHOOK_SALT_SECRET", standard := some defaultSalt },
  { name := "webhook-target-url", fromVariable := some "WEBHOOK_TARGET_URL"
    standard := some defaultTarget }]

def ofValues (values : Values) : WebhookSettings :=
  ⟨values.get "webhook-salt", values.get "webhook-target-url"⟩

end WebhookSettings

namespace Task

def bundleCommands : Grammar Task := .group "bundle" [
  .command "patch-java"
    ({ name := "sha", fromVariable := some "PULL_PULL_SHA", required := true }
      :: PatchSettings.options)
    fun values => patchBundles (values.get "sha") (.ofValues values)]

def jobCommands : Grammar Task := .group "ci" [
  .command "prepare-e2e-branch" [] fun _ => prepareBranch,
  .command "test-e2e"
    ({ name := "component-image", fromVariable := some "COMPONENT_IMAGE", standard := some "" }
      :: (PatchSettings.options ++ WebhookSettings.options))
    fun values => runJob ⟨values.get "component-image", .ofValues values, .ofValues values⟩]

def localCommands : Grammar Task := .group "local" [
  .command "cleanup-github-org"
    [{ name := "regex", fromVariable := some "REPO_REGEX", standard := some Cleanup.defaultPattern },
      { name := "dry-run", fromVariable := some "DRY_RUN", standard := some "true", kind := .truth },
      { name := "org", fromVariable := some "MY_GITHUB_ORG", standard := some Cleanup.defaultOrg },
      { name := "github-token", fromVariable := some "GITHUB_TOKEN", required := true }]
    fun values => cleanUp ⟨values.get "regex", values.get "dry-run" = "true", values.get "org",
      values.get "github-token"⟩,
  .command "prepare-cluster"
    [{ name := "infra-org", fromVariable := some infraOrgVariable },
      { name := "infra-branch", fromVariable := some infraBranchVariable }]
    fun values => prepareCluster (values.get? "infra-org") (values.get? "infra-branch"),
  .command "test-e2e"
    [{ name := "label-filter", fromVariable := some labelVariable },
      { name := "artifact-dir", fromVariable := some "ARTIFACT_DIR", standard := some "."
        kind := .path }]
    fun values => runSuites (values.get? "label-filter") (values.get "artifact-dir")]

def webhookCommands : Grammar Task := .group "webhook" [
  .command "send" WebhookSettings.options fun values => sendWebhook (.ofValues values)]

end Task

namespace Program

def name : String := "adev"

def version : String := "0.1.0"

def grammar : Grammar Task :=
  .group name [Task.bundleCommands, Task.jobCommands, Task.localCommands, Task.webhookCommands]

def read (env : Environment) (words : List String) : Except Usage (Invocation Task) :=
  grammar.read env true words

/-- How often the verbosity can be changed, at most. -/
def mostChanges : Nat := 255

/-- The verbosity of a run: information shows unless it is changed. -/
def verbosity {α : Type} (invocation : Invocation α) : Level :=
  .ofRank (Level.info.rank + Nat.min mostChanges invocation.raised
    - Nat.min mostChanges invocation.lowered : Int)

inductive Outcome where
  | done
  | failed (failure : Failure)
  | stopped (usage : Usage)
  deriving DecidableEq, Repr

def Outcome.exitCode : Outcome → Nat
  | .done => 0
  | .failed _ => 1
  | .stopped usage => usage.exitCode

def Outcome.output : Outcome → String
  | .stopped .version => name ++ " " ++ version ++ "\n"
  | .stopped .help => Usage.help.message ++ "\n"
  | _ => ""

def Outcome.complaint : Outcome → String
  | .failed failure => failure.report ++ "\n"
  | .stopped .version | .stopped .help | .done => ""
  | .stopped usage => usage.message ++ "\n"

/-- Runs the program: it reads the command line, looks for the repository's root, and does its
task there. -/
def run {σ : Type} (host : Host σ) (root : Except Failure String) (words : List String) :
    StateM σ Outcome := do
  match read host.environment words, root with
  | .error usage, _ => return .stopped usage
  | .ok _, .error failure => return .failed failure
  | .ok invocation, .ok root =>
    let host := { host with verbosity := verbosity invocation, repository := root }
    match ← (invocation.task.run host).run with
    | .ok () => return .done
    | .error failure => return .failed failure

end Program

end ClusterHarness
