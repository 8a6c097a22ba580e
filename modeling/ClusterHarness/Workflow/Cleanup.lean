import ClusterHarness.Host.Basic
import ClusterHarness.Hub.Client
import ClusterHarness.Regex.Parser

/-!
# Cleaning up an organization

Suites leave repositories behind.  Those with a name that they give and more than a day old are
stale: a run that goes on keeps its own.
-/

namespace ClusterHarness

/-- Whether a repository has a name that `named` tells and was made more than a day before. -/
def Repository.isStale (named : String → Bool) (now : Timestamp) (r : Repository) : Bool :=
  r.createdAt.before now.dayEarlier && named r.name

def staleRepositories (named : String → Bool) (now : Timestamp) (l : List Repository) :
    List Repository :=
  l.filter (·.isStale named now)

namespace Cleanup

def defaultPattern : String :=
  "jvm-build-suite|e2e-dotnet|build-suite-test|e2e-multiple-components|e2e-nodejs|pet-clinic-e2e|test-app|multi-component-application|e2e-quayio|petclinic"

def defaultOrg : String := "redhat-appstudio-qe"

/-- The pattern that names are searched for. -/
def patternOf (text : String) : Except Failure Regex :=
  match Regex.ofText? text with
  | some pattern => .ok pattern
  | none => .error ((Failure.malformed .regex).within "Invalid REPO_REGEX")

end Cleanup

structure Cleanup where
  pattern : String
  /-- Only show what is stale. -/
  dryRun : Bool
  org : String
  token : String
  deriving DecidableEq, Repr

namespace Cleanup

variable {σ : Type}

/-- Shows where repositories are, instead of deleting them. -/
def list (host : Host σ) : List Repository → Errand σ Unit
  | [] => return ()
  | r :: rest => do
    host.tell (.display r.htmlUrl)
    list host rest

/-- Deletes repositories one after another, whatever becomes of each. -/
def deleteAll (host : Host σ) (hub : Hub) : List Repository → Errand σ Unit
  | [] => return ()
  | r :: rest => do
    match ← (Errand.ofSession (hub.deleteRepository host.toWeb r.name)).attempt with
    | .ok () => host.tell (.success ("Deleted " ++ r.fullName))
    | .error failure =>
      host.tell (.warning ("Could not delete " ++ r.fullName ++ ": " ++ failure.outermost.message))
    deleteAll host hub rest

def run (cleanup : Cleanup) (host : Host σ) : Errand σ Unit := do
  let pattern ← Errand.ofExcept (patternOf cleanup.pattern)
  let hub := Hub.ofSettings (some cleanup.token) cleanup.org
  let all ← Errand.ofSession (hub.repositories host.toWeb)
  let stale := staleRepositories pattern.isMatch (host.today (← get)) all
  if stale.isEmpty then host.tell (.info ("Nothing to clean up in " ++ hub.org))
  else if cleanup.dryRun then
    host.tell (.info "Dry run, would delete:")
    list host stale
  else deleteAll host hub stale

end Cleanup

end ClusterHarness
