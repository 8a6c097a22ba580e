import ClusterHarness.Console.Notice
import ClusterHarness.Job.Pairing

/-!
# Variables of a job

What the installer and the suites are told about the job: which suites to run, and which images or
which branch to install.
-/

namespace ClusterHarness

structure Profile where
  repo : String
  /-- Starts the names of the service's variables. -/
  lead : String
  imageTag : String
  label : String
  deriving DecidableEq, Repr

namespace Profile

def all : List Profile := [
  ⟨"application-service", "HAS", "has-image", "has,e2e-demo"⟩,
  ⟨"build-service", "BUILD_SERVICE", "build-service-image", "build"⟩,
  ⟨"jvm-build-service", "JVM_BUILD_SERVICE", "jvm-build-service-image", "jvm-build"⟩]

def find? (repo : String) : Option Profile := all.find? (·.repo == repo)

end Profile

/-- Whether pull requests of a repository need bundles of their own. -/
def needsJavaBundle (repo : String) : Bool := repo = "jvm-build-service"

def labelVariable : String := "E2E_TEST_SUITE_LABEL"

def bundleVariable : String := "CUSTOM_JAVA_PIPELINE_BUILD_BUNDLE"

def infraOrgVariable : String := "INFRA_DEPLOYMENTS_ORG"

def infraBranchVariable : String := "INFRA_DEPLOYMENTS_BRANCH"

/-- The branch of the infrastructure that belongs to a pull request. -/
def infraVariables (pull : Option PullUnderTest) : List (String × String) :=
  match pull with
  | none => []
  | some pull => [(infraOrgVariable, pull.remote), (infraBranchVariable, pull.branch)]

/-- The image and the commit of a service under test. -/
def Profile.bindings (profile : Profile) (componentImage : String) (pulls : List Pull) :
    List (String × String) :=
  let image := String.ofList (componentImage.toList.takeWhile (· ≠ '@'))
  let owner := match pulls.head? with
    | none => []
    | some pull =>
      [(profile.lead ++ "_PR_OWNER", pull.author), (profile.lead ++ "_PR_SHA", pull.sha)]
  [(profile.lead ++ "_IMAGE_REPO", image),
    (profile.lead ++ "_IMAGE_TAG", upstreamOrg ++ "-" ++ profile.imageTag)] ++ owner
    ++ [(labelVariable, profile.label)]

inductive RunKind where
  /-- Only the suites are selected. -/
  | labelled (label : String)
  /-- The suites' own pull request, or one of the infrastructure. -/
  | infra (pairing : Bool)
  | service (profile : Profile) (pulls : List Pull)
  | unknownService (repo : String)
  | plain

namespace JobContext

def runKind (job : JobContext) (infraPairing : Bool) : RunKind :=
  if Text.hasPart "hacbs-e2e-periodic" job.jobName then .labelled "HACBS"
  else if Text.hasPart "appstudio-e2e-deployment-periodic" job.jobName then .labelled "!HACBS"
  else match job.refs with
    | none => .plain
    | some refs =>
      if refs.repo = testsRepo then .infra infraPairing
      else if refs.repo = infraRepo then .infra true
      else if Text.hasPart "-service" refs.repo then
        match Profile.find? refs.repo with
        | some profile => .service profile refs.pulls
        | none => .unknownService refs.repo
      else .plain

def bindings (job : JobContext) (componentImage : String) (pull : Option PullUnderTest)
    (infraPairing : Bool) : Dictionary String :=
  Dictionary.ofList <| match job.runKind infraPairing with
    | .labelled label => [(labelVariable, label)]
    | .infra true => infraVariables pull
    | .service profile pulls => profile.bindings componentImage pulls
    | .infra false | .unknownService _ | .plain => []

def variablesNotice? (job : JobContext) : Option Notice :=
  match job.runKind false with
  | .unknownService repo =>
    some (.warning ("No test profile for " ++ repo ++ ", running with defaults"))
  | _ => none

/-- The variables of the installer: its scripts take helpers from the suites' repository. -/
def installerVariables (job : JobContext) (bindings : Dictionary String) : Dictionary String :=
  if job.inCi ∧ job.repoName = testsRepo then
    bindings.insert "E2E_TESTS_COMMIT_SHA" job.pullSha
  else bindings

end JobContext

/-- The address of an account's fork of a repository. -/
def forkUrl (owner repo : String) : String :=
  "https://github.com/" ++ owner ++ "/" ++ repo ++ ".git"

def infraSource (bindings : Dictionary String) : String × String :=
  (forkUrl ((bindings.get? infraOrgVariable).getD upstreamOrg) infraRepo,
    (bindings.get? infraBranchVariable).getD "main")

end ClusterHarness
