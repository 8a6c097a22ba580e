import ClusterHarness.Cluster.Client
import ClusterHarness.Digest.Md5
import ClusterHarness.Resource.Release

/-!
# Users of the developer sandbox
-/

namespace ClusterHarness

variable {σ : Type}

/-- The namespace in which signups are looked for. -/
def hostNamespace : String := "toolchain-host-operator"

def signupTimeout : Nat := Duration.ofSecs 120

def defaultUser : String := "user1"

def defaultEmail : String := "user1@user.us"

/-- The digest of an address by which signups are labelled. -/
def emailHash (email : String) : String := Digest.hex (Md5.digest (Utf8.encode email))

def approvedSignup (username email : String) : UserSignup :=
  PlatformObject.make UserSignup.kind
    { name := some username
      namespace_ := some hostNamespace
      annotations := some (Dictionary.ofList [(Label.userEmail, email)])
      labels := some (Dictionary.ofList [(Label.emailHash, emailHash email)]) }
    ⟨username, username, ["approved"]⟩

namespace World

variable (w : World σ)

def signupComplete (username : String) : StateM σ (Polling.Finding Error) := do
  match ← (w.get UserSignup hostNamespace username).attempt with
  | .error error => return ⟨.failed error, none⟩
  | .ok signup =>
    let conditions := UserSignup.conditions signup
    if Condition.holds conditions "Complete" then return .reached
    else return .pendingAt (Nat.repr conditions.length ++ " conditions reported")

def awaitSignup (username : String) : Session σ Unit :=
  w.waitEachSecond ("user signup " ++ username) signupTimeout (w.signupComplete username)

/-- Signs a user up and waits for the signup to be complete. -/
def registerUser (username email : String) : Session σ UserSignup := do
  let created ← w.create hostNamespace (approvedSignup username email)
  w.awaitSignup username
  return created

def deleteUserSignup (username : String) : Session σ Unit :=
  w.delete UserSignup hostNamespace username

end World

end ClusterHarness
