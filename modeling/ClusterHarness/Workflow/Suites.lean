import ClusterHarness.Bundle.Patch
import ClusterHarness.Job.Webhook
import ClusterHarness.Workflow.Cluster

/-!
# Running the suites

On the cluster at hand, or as a job of the continuous integration: then the platform is installed
first with what the pull request under test brings, and the run is reported whatever its outcome.
-/

namespace ClusterHarness

variable {σ : Type}

structure SuiteJob where
  /-- The image that was built from the pull request. -/
  componentImage : String
  patch : PatchSettings
  webhook : WebhookSettings
  deriving DecidableEq, Repr

namespace SuiteJob

def pullUnderTest? (host : Host σ) (hub : Hub) (job : JobContext) :
    Errand σ (Option PullUnderTest) :=
  if job.isPeriodicOrRehearsal then return none
  else some <$> job.resolve hub host.toWeb

def infraPairing (host : Host σ) (hub : Hub) : Option PullUnderTest → Errand σ Bool
  | none => return false
  | some pull => if pull.repo = testsRepo then host.isPaired hub infraRepo pull else return false

/-- The variables of a run; the build service's bundles are patched for it if needed. -/
def bindings (settings : SuiteJob) (host : Host σ) (job : JobContext)
    (pull : Option PullUnderTest) (pairing : Bool) : Errand σ (Dictionary String) := do
  if let some notice := job.variablesNotice? then host.tell notice
  let bindings := job.bindings settings.componentImage pull pairing
  if job.refs.any fun refs => needsJavaBundle refs.repo then
    let commit ← Errand.ofExcept job.pull
    let bundle ← settings.patch.run host commit.sha
    return bindings.insert bundleVariable bundle
  else return bindings

/-- Reports a job; a report that does not get through is only said. -/
def report (settings : SuiteJob) (host : Host σ) (job : JobContext) : Errand σ Unit := do
  match ← (settings.webhook.report host job).attempt with
  | .ok () => return ()
  | .error failure => host.tell (.warning ("Error when sending webhook: " ++ failure.text))

/-- Installs the platform, runs the suites for the job, and reports. -/
def run (settings : SuiteJob) (host : Host σ) : Errand σ Unit := do
  let job ← Errand.ofExcept (JobContext.ofEnvironment host.environment)
  host.preflight
  let hub := Hub.upstream host.environment
  let pull ← pullUnderTest? host hub job
  let pairing ← infraPairing host hub pull
  let bindings ← settings.bindings host job pull pairing
  host.bootstrapWithRetry (job.installerVariables bindings)
  host.registerDefaultUser
  let outcome ← (host.runSuites bindings job.artifactDir).attempt
  settings.report host job
  match outcome with
  | .ok () => return ()
  | .error failure =>
    host.tell (.critical failure.text)
    Errand.fail "Error when running e2e tests, see the log above for more details"

end SuiteJob

namespace Host

/-- Installs the platform on the cluster at hand, from a fork and a branch if they are given. -/
def prepareCluster (host : Host σ) (org branch : Option String) : Errand σ Unit := do
  host.preflight
  host.bootstrap (Dictionary.ofList
    ((org.map fun org => (infraOrgVariable, org)).toList
      ++ (branch.map fun branch => (infraBranchVariable, branch)).toList))
  host.registerDefaultUser

/-- Runs the suites that a label selects, or all, on the cluster at hand. -/
def runLabelled (host : Host σ) (label : Option String) (artifactDir : String) : Errand σ Unit :=
  host.runSuites (Dictionary.ofList (label.map fun label => (labelVariable, label)).toList)
    artifactDir

end Host

end ClusterHarness
