import ClusterHarness.Error
import ClusterHarness.Http.Url
import ClusterHarness.Yaml.Value

/-!
# Devfiles

The devfile of an application says where its GitOps repository is.
-/

namespace ClusterHarness

namespace Devfile

def urlAttribute : String := "gitOpsRepository.url"

def attributes? (devfile : String) : Option Yaml := do
  let fields ← (← Yaml.Node.ofText? devfile).fields? ["metadata"]
  match fields with
  | (_, metadata) :: _ =>
    match ← metadata.fields? ["attributes"] with
    | (_, attributes) :: _ =>
      let pairs ← attributes.pairs?
      Yaml.ofNode? (.map none pairs)
    | [] => return .map []
  | [] => return .map []

def reading (message : String) : Error := .conditionFailed "reading the GitOps repository" message

/-- The name of the GitOps repository: the last part of its address. -/
def repositoryName (devfile : String) : Except Error String :=
  match attributes? devfile with
  | none => .error .devfile
  | some attributes =>
    match (attributes.get? urlAttribute).bind Yaml.string? with
    | none => .error (reading "devfile has no gitOpsRepository.url attribute")
    | some url =>
      match Url.read url.toList with
      | .error e => .error (reading e.message)
      | .ok url =>
        match url.lastSegment? with
        | some name => .ok (String.ofList name)
        | none => .error (reading "repository URL has no path")

end Devfile

end ClusterHarness
