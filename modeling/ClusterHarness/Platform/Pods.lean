import ClusterHarness.Cluster.Client
import ClusterHarness.Resource.Core

/-!
# Waiting for pods

A wait is for a phase of a pod.  A pod that ended otherwise ends the wait, one that cannot be
looked up does not.
-/

namespace ClusterHarness

variable {σ : Type}

inductive PodState where
  | running
  | succeeded
  deriving DecidableEq, Repr

namespace PodState

def name : PodState → String
  | .running => "Running"
  | .succeeded => "Succeeded"

def failure (pod message : String) : Polling.Check Error :=
  .failed (.conditionFailed ("pod " ++ Quoted.encode pod) message)

/-- What a phase means for the wait. -/
def judge (state : PodState) (pod phase : String) : Polling.Check Error :=
  match state with
  | .running =>
    if phase = "Running" then .done
    else if phase = "Failed" ∨ phase = "Succeeded" then failure pod "ran to completion"
    else .pending
  | .succeeded =>
    if phase = "Succeeded" then .done
    else if phase = "Failed" then failure pod "has failed"
    else .pending

end PodState

namespace World

variable (w : World σ)

def podInState (ns name : String) (state : PodState) : StateM σ (Polling.Finding Error) := do
  match ← (w.get Pod ns name).attempt with
  | .ok pod => return ⟨state.judge name pod.phase, some ("phase " ++ pod.phase)⟩
  | .error error => return .pendingAt error.message

def waitForPod (ns name : String) (state : PodState) (timeout : Nat) : Session σ Unit :=
  w.waitEachSecond ("pod " ++ ns ++ "/" ++ name ++ " to be " ++ state.name) timeout
    (w.podInState ns name state)

/-- At most so many pods with a label. -/
def listPods (ns key value : String) (limit : Nat) : Session σ (List Pod) :=
  Session.during (.listPods key value ns)
    (w.listOf (ApiRequest.list (.namespaced ns) Pod.kind
      (labelQuery [(key, value)] ++ [("limit", Nat.repr limit)])))

def waitForPods (ns : String) (state : PodState) (timeout : Nat) : List Pod → Session σ Unit
  | [] => return ()
  | pod :: rest => do
    w.waitForPod ns (pod.metadata.name.getD "") state timeout
    waitForPods ns state timeout rest

/-- Waits for every pod with a label, of which there has to be one. -/
def waitForPodSelector (ns key value : String) (state : PodState) (timeout limit : Nat) :
    Session σ Unit := do
  let pods ← w.listPods ns key value limit
  if pods.isEmpty then
    throw (.conditionFailed ("pod selector " ++ key ++ "=" ++ value) ("no pods in " ++ ns))
  w.waitForPods ns state timeout pods

def containerLogs (ns pod container : String) : Session σ String :=
  Session.during (.readLogs ns pod container) (w.textOf do
    let path ← Scope.pathOf (.namespaced ns) Pod.kind pod
    ApiRequest.make "GET" (path ++ "/log") [("container", container)] none none)

end World

/-! ## Credentials of registries -/

/-- The secret with a registry configuration given in base64. -/
def registrySecret (ns name encoded : String) : Except Error Secret :=
  match Base64.decode (Text.trim encoded.toList) with
  | none => .error (.decode "registry auth")
  | some config => .ok {
      metadata := ObjectMeta.named name ns
      type := some "kubernetes.io/dockerconfigjson"
      data := some (Dictionary.ofList [(".dockerconfigjson", config)]) }

def World.createRegistryAuthSecret (w : World σ) (ns name encoded : String) :
    Session σ Secret := do
  let secret ← ExceptT.mk (pure (registrySecret ns name encoded))
  w.create ns secret

end ClusterHarness
