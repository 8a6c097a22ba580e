import ClusterHarness.Duration.Text
import ClusterHarness.Http.Status
import ClusterHarness.Polling.Spec
import ClusterHarness.Text.Quoted
import ClusterHarness.Text.Utf8

/-!
# What can go wrong

Each error is a cause; its wording is `Error.message`.
-/

namespace ClusterHarness

/-- What a client was doing, named in the error if it failed. -/
inductive Action where
  | get (kind namespace_ name : String)
  | create (kind namespace_ : String)
  | replace (kind namespace_ name : String)
  | list (kind namespace_ : String)
  | delete (kind namespace_ name : String)
  | deleteAll (kind namespace_ : String)
  | patchStatus (kind namespace_ name : String)
  | getNamespace (name : String)
  | createNamespace (name : String)
  | labelNamespace (name : String)
  | deleteNamespace (name : String)
  | listPods (key value namespace_ : String)
  | readLogs (namespace_ pod container : String)
  | other (text : String)
  deriving DecidableEq, Repr

def Action.text : Action → String
  | .get kind ns name => "get " ++ kind ++ " " ++ ns ++ "/" ++ name
  | .create kind ns => "create " ++ kind ++ " in " ++ ns
  | .replace kind ns name => "replace " ++ kind ++ " " ++ ns ++ "/" ++ name
  | .list kind ns => "list " ++ kind ++ " in " ++ ns
  | .delete kind ns name => "delete " ++ kind ++ " " ++ ns ++ "/" ++ name
  | .deleteAll kind ns => "delete all " ++ kind ++ " in " ++ ns
  | .patchStatus kind ns name => "patch status of " ++ kind ++ " " ++ ns ++ "/" ++ name
  | .getNamespace name => "get namespace " ++ name
  | .createNamespace name => "create namespace " ++ name
  | .labelNamespace name => "update labels of namespace " ++ name
  | .deleteNamespace name => "delete namespace " ++ name
  | .listPods key value ns => "list pods " ++ key ++ "=" ++ value ++ " in " ++ ns
  | .readLogs ns pod container => "read logs of " ++ ns ++ "/" ++ pod ++ "/" ++ container
  | .other text => text

structure ApiError where
  status : String
  message : String
  reason : String
  code : Nat
  deriving DecidableEq, Repr

def ApiError.text (e : ApiError) : String :=
  e.message ++ ": " ++ e.reason ++ " (ErrorResponse \x7b status: " ++ Quoted.encode e.status
    ++ ", message: " ++ Quoted.encode e.message ++ ", reason: " ++ Quoted.encode e.reason
    ++ ", code: " ++ Nat.repr e.code ++ " \x7d)"

inductive CallError where
  | api (error : ApiError)
  | emptyName
  | invalidPath
  | undecodable
  | notUtf8 (fault : Utf8.Fault)
  | transport (text : String)
  deriving DecidableEq, Repr

def CallError.text : CallError → String
  | .api error => "ApiError: " ++ error.text
  | .emptyName =>
    "Failed to build request: failed to validate request: A non-empty name is required"
  | .invalidPath => "Failed to build request: failed to build request: invalid uri character"
  | .undecodable => "Error deserializing response"
  | .notUtf8 fault => "UTF-8 Error: " ++ fault.message
  | .transport text => "ServiceError: " ++ text

def CallError.hasCode (code : Nat) : CallError → Bool
  | .api error => error.code == code
  | _ => false

inductive HubFailure where
  | request
  | decode
  deriving DecidableEq, Repr

def HubFailure.text : HubFailure → String
  | .request => "request"
  | .decode => "decode"

inductive Error where
  | clientSetup
  | call (action : Action) (source : CallError)
  | notFound (kind name namespace_ : String)
  | pipelineFailed (name reason logs : String)
  | conditionFailed (what message : String)
  | waitTimedOut (what : String) (elapsed : Nat) (lastState : String)
  | pollConfig (source : Polling.SpecError)
  | hub (action : String) (source : HubFailure)
  | hubStatus (action : String) (status : Nat) (body : String)
  | decode (what : String)
  | devfile
  | invalidConfig (name reason : String)
  /-- A wait without a deadline that was not followed to its end. -/
  | unsettled (what : String)
  deriving DecidableEq, Repr

namespace Error

def message : Error → String
  | .clientSetup => "Unable to build a Kubernetes client"
  | .call action source =>
    "Kubernetes API call failed (" ++ action.text ++ "): " ++ source.text
  | .notFound kind name ns =>
    kind ++ " " ++ Quoted.encode name ++ " not found in namespace " ++ Quoted.encode ns
  | .pipelineFailed name reason logs =>
    "Pipeline run " ++ name ++ " failed: " ++ reason ++ "\n" ++ logs
  | .conditionFailed what message => what ++ " failed: " ++ message
  | .waitTimedOut what elapsed lastState =>
    "Timed out after " ++ Duration.text elapsed ++ " waiting for " ++ what
      ++ "; last observed state: " ++ lastState
  | .pollConfig source => "Invalid poll settings: " ++ source.message
  | .hub action source => "GitHub request failed (" ++ action ++ "): " ++ source.text
  | .hubStatus action status body =>
    "GitHub answered " ++ Http.statusLine status ++ " (" ++ action ++ "): " ++ body
  | .decode what => "Unable to decode " ++ what
  | .devfile => "Unable to parse devfile"
  | .invalidConfig name reason => "Invalid value for " ++ name ++ ": " ++ reason
  | .unsettled what => "Still waiting for " ++ what

def isNotFound : Error → Bool
  | .notFound .. => true
  | .call _ source => source.hasCode 404
  | _ => false

def isAlreadyExists : Error → Bool
  | .call _ source => source.hasCode 409
  | _ => false

end Error

end ClusterHarness
