import ClusterHarness.Host.Failure
import ClusterHarness.Hub.Repository
import ClusterHarness.Json.Parser
import ClusterHarness.Settings
import ClusterHarness.Text.Blank

/-!
# The job a run belongs to

A job is described by variables of the environment.  Periodic jobs and rehearsals test no pull
request, so their specification is not looked at.
-/

namespace ClusterHarness

open Parts

structure Pull where
  number : Nat
  author : String
  sha : String
  deriving DecidableEq, Repr

def Pull.codec : Codec Pull := Codec.record <|
  make Pull.mk
  |>.and (required "number" Codec.count (·.number))
  |>.and (required "author" Codec.text (·.author))
  |>.and (required "sha" Codec.text (·.sha))

structure JobRefs where
  org : String
  repo : String
  repoLink : String
  baseRef : String
  pulls : List Pull
  deriving DecidableEq, Repr

namespace JobRefs

def empty : JobRefs := ⟨"", "", "", "", []⟩

def codec : Codec JobRefs := Codec.record <|
  make JobRefs.mk
  |>.and (defaulted "org" Codec.text "" (·.org))
  |>.and (defaulted "repo" Codec.text "" (·.repo))
  |>.and (defaulted "repo_link" Codec.text "" (·.repoLink))
  |>.and (defaulted "base_ref" Codec.text "" (·.baseRef))
  |>.and (defaulted "pulls" Pull.codec.list [] (·.pulls))

end JobRefs

structure JobSpec where
  type : String
  job : String
  refs : JobRefs
  deriving DecidableEq, Repr

def JobSpec.codec : Codec JobSpec := Codec.record <|
  make JobSpec.mk
  |>.and (defaulted "type" Codec.text "" (·.type))
  |>.and (defaulted "job" Codec.text "" (·.job))
  |>.and (defaulted "refs" JobRefs.codec JobRefs.empty (·.refs))

structure JobContext where
  jobName : String
  jobType : String
  artifactDir : String
  spec : Option JobSpec
  repoOwner : String
  repoName : String
  pullNumber : String
  pullSha : String
  /-- Whether the job runs in the continuous integration. -/
  inCi : Bool
  deriving DecidableEq, Repr

namespace JobContext

def hasPeriodicType (jobType : String) : Bool := jobType = "periodic"

def isPeriodic (job : JobContext) : Bool := hasPeriodicType job.jobType

/-- Whether there is no pull request to test. -/
def isPeriodicOrRehearsal (job : JobContext) : Bool :=
  job.isPeriodic || Text.hasPart "rehearse" job.jobName

def ofEnvironment (env : Environment) : Except Failure JobContext :=
  let value (name : String) : String := (env.get? name).getD ""
  let job : JobContext := {
    jobName := value "JOB_NAME"
    jobType := value "JOB_TYPE"
    artifactDir := (env.get? "ARTIFACT_DIR").getD "."
    spec := none
    repoOwner := value "REPO_OWNER"
    repoName := value "REPO_NAME"
    pullNumber := value "PULL_NUMBER"
    pullSha := value "PULL_PULL_SHA"
    inCi := value "CI" = "true" }
  if job.isPeriodicOrRehearsal then .ok job
  else match (Json.parse? (value "JOB_SPEC")).bind JobSpec.codec.read with
    | some spec => .ok { job with spec := some spec }
    | none => .error ((Failure.malformed .json).within "Could not parse the JOB_SPEC job spec")

def refs (job : JobContext) : Option JobRefs := job.spec.map (·.refs)

/-- The first pull request under test. -/
def pull (job : JobContext) : Except Failure Pull :=
  match job.refs.bind fun refs => refs.pulls.head? with
  | some pull => .ok pull
  | none => .error (Failure.ofText "The job spec names no pull request")

end JobContext

end ClusterHarness
