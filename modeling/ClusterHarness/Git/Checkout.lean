import ClusterHarness.Host.Run
import ClusterHarness.Job.Profile

/-!
# Checking out forks

A fork is added as a remote named for its owner, unless there is one; then it is fetched and a
branch or a commit of it checked out.
-/

namespace ClusterHarness

namespace Git

def hashLength : Nat := 40

def isHexDigit (c : Char) : Bool := (Target.hexValue? c).isSome

def isCommitHash (revision : String) : Bool :=
  revision.toList.length == hashLength && revision.toList.all isHexDigit

def checkoutTarget (owner revision : String) : String :=
  if isCommitHash revision then revision else owner ++ "/" ++ revision

def remotes (listing : String) : List String :=
  (Text.lines listing.toList).map String.ofList

end Git

namespace Host

variable {σ : Type}

def git (host : Host σ) (arguments : List String) : Errand σ String :=
  host.outputOf ((Command.ofProgram "git" arguments).inside host.repository)

/-- Fetches an owner's fork of a repository and checks out a revision of it. -/
def checkoutFork (host : Host σ) (owner repo revision : String) : Errand σ Unit := do
  let listing ← host.git ["remote"]
  if !(Git.remotes listing).contains owner then
    discard <| host.git ["remote", "add", owner, forkUrl owner repo]
  discard <| host.git ["fetch", owner]
  discard <| host.git ["checkout", Git.checkoutTarget owner revision]

/-- Clones one branch into a directory, without its history. -/
def cloneBranch (host : Host σ) (url branch directory : String) : Errand σ Unit :=
  host.await (Command.ofProgram "git"
    ["clone", "--depth", "1", "--branch", branch, url, directory])

end Host

end ClusterHarness
