import ClusterHarness.Host.Basic
import ClusterHarness.Hub.Client
import ClusterHarness.Job.Context

/-!
# Pairing

A change that spans repositories has pull requests from branches of one name in the forks of one
account.
-/

namespace ClusterHarness

def upstreamOrg : String := "redhat-appstudio"

def testsRepo : String := "e2e-tests"

def infraRepo : String := "infra-deployments"

/-- The pull request under test, with the fork and the branch it comes from. -/
structure PullUnderTest where
  author : String
  org : String
  repo : String
  sha : String
  number : Nat
  /-- The account that owns the fork. -/
  remote : String
  branch : String
  deriving DecidableEq, Repr

def Hub.upstream (env : Environment) : Hub := Hub.ofSettings (env.get? "GITHUB_TOKEN") upstreamOrg

variable {σ : Type}

/-- Looks up the pull request under test; the fork of a deleted repository is the author's. -/
def JobContext.resolve (job : JobContext) (hub : Hub) (web : Web σ) : Errand σ PullUnderTest := do
  let some refs := job.refs | Errand.fail "The job has no job spec"
  let pull ← Errand.ofExcept job.pull
  let found ← (Errand.ofSession (hub.pullRequest web refs.org refs.repo pull.number)).within
    "Could not look up the pull request under test"
  return {
    author := pull.author
    org := refs.org
    repo := refs.repo
    sha := pull.sha
    number := pull.number
    remote := (found.head.repository.map fun r => r.owner.login).getD pull.author
    branch := found.head.branch }

/-- Whether an open pull request comes from this branch of this account. -/
def PullUnderTest.pairs (pull : PullUnderTest) (other : PullRequest) : Bool :=
  other.head.branch == pull.branch && other.user.login == pull.remote

/-- Whether a repository has an open pull request that pairs with the one under test; if that
cannot be found out, it has none. -/
def Host.isPaired (host : Host σ) (hub : Hub) (repo : String) (pull : PullUnderTest) :
    Errand σ Bool := do
  match ← (Errand.ofSession (hub.pullRequests host.toWeb upstreamOrg repo)).attempt with
  | .ok others => return others.any pull.pairs
  | .error failure =>
    host.tell (.info ("Cannot determine " ++ repo ++ " branches of " ++ pull.author ++ ": "
      ++ failure.outermost.message ++ ". Sticking with the " ++ upstreamOrg ++ "/" ++ repo
      ++ " main branch."))
    return false

end ClusterHarness
