import ClusterHarness.Git.Checkout

/-!
# Preparing the suites' branch

A job tests a pull request of some repository.  If it is one of the suites' own, its commit is
checked out; else the suites' branch that pairs with it, if there is one.
-/

namespace ClusterHarness

variable {σ : Type}

/-- Checks out what suits a pull request. -/
def PullUnderTest.checkout (pull : PullUnderTest) (host : Host σ) (hub : Hub) : Errand σ Unit := do
  if pull.repo = testsRepo then
    host.checkoutFork pull.remote testsRepo pull.sha
    host.tell (.success ("Checked out " ++ pull.sha ++ " of " ++ pull.remote ++ "/" ++ testsRepo))
  else if ← host.isPaired hub testsRepo pull then
    host.checkoutFork pull.remote testsRepo pull.branch
    host.tell (.success ("Paired with " ++ pull.remote ++ "/" ++ testsRepo ++ " branch "
      ++ pull.branch))
  else host.tell (.info "No paired e2e-tests branch, testing e2e-tests main")

def Host.prepareBranch (host : Host σ) : Errand σ Unit := do
  let job ← Errand.ofExcept (JobContext.ofEnvironment host.environment)
  if job.isPeriodicOrRehearsal then
    host.tell (.info "Periodic or rehearsal job, testing e2e-tests main")
  else
    let hub := Hub.upstream host.environment
    let pull ← job.resolve hub host.toWeb
    pull.checkout host hub

end ClusterHarness
