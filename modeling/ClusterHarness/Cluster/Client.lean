import ClusterHarness.Cluster.Label
import ClusterHarness.Cluster.Session

/-!
# Reading and changing objects

Every operation is one request.  Looking up what is not there and deleting what is gone are no
errors where they are said not to be.
-/

namespace ClusterHarness

variable {σ α : Type}

/-- Where objects are looked up: in a namespace, or over the whole cluster. -/
inductive Scope where
  | cluster
  | namespaced (name : String)

namespace Scope

def path (scope : Scope) (kind : Kind) : String :=
  match scope with
  | .cluster => kind.clusterPath
  | .namespaced ns => kind.path ns

/-- The path of one object; it needs a name. -/
def pathOf (scope : Scope) (kind : Kind) (name : String) : Except CallError String :=
  if name = "" then .error .emptyName else .ok (scope.path kind ++ "/" ++ name)

end Scope

namespace ApiRequest

def make (method path : String) (query : List (String × String)) (contentType : Option String)
    (body : Option Json) : Except CallError ApiRequest :=
  match Target.make path query with
  | some target => .ok ⟨method, target, contentType, body⟩
  | none => .error .invalidPath

def jsonType : Option String := some "application/json"

def mergeType : Option String := some "application/merge-patch+json"

def get (scope : Scope) (kind : Kind) (name : String) : Except CallError ApiRequest := do
  make "GET" (← scope.pathOf kind name) [] none none

def create (scope : Scope) (kind : Kind) (body : Json) : Except CallError ApiRequest :=
  make "POST" (scope.path kind) [] jsonType (some body)

def replace (scope : Scope) (kind : Kind) (name : String) (body : Json) :
    Except CallError ApiRequest := do
  make "PUT" (← scope.pathOf kind name) [] jsonType (some body)

def delete (scope : Scope) (kind : Kind) (name : String) : Except CallError ApiRequest := do
  make "DELETE" (← scope.pathOf kind name) [] jsonType (some (.obj []))

def deleteAll (scope : Scope) (kind : Kind) : Except CallError ApiRequest :=
  make "DELETE" (scope.path kind) [] jsonType none

def patchStatus (scope : Scope) (kind : Kind) (name : String) (patch : Json) :
    Except CallError ApiRequest := do
  make "PATCH" ((← scope.pathOf kind name) ++ "/status") [] mergeType (some patch)

/-- A list of the objects that a selector asks for; an empty selector is not sent. -/
def list (scope : Scope) (kind : Kind) (query : List (String × String)) :
    Except CallError ApiRequest :=
  make "GET" (scope.path kind) query none none

end ApiRequest

def labelQuery (labels : List (String × String)) : List (String × String) :=
  if labels.isEmpty then [] else [("labelSelector", Label.selector labels)]

/-! ## Lists and outcomes of deletions -/

structure ListMeta where
  continue_ : Option String
  remainingItemCount : Option Int
  resourceVersion : Option String
  selfLink : Option String

def ListMeta.codec : Codec ListMeta := Codec.openRecord <|
  Parts.make ListMeta.mk
  |>.and (Parts.lenient "continue" Codec.text (·.continue_))
  |>.and (Parts.lenient "remainingItemCount" Codec.int64 (·.remainingItemCount))
  |>.and (Parts.lenient "resourceVersion" Codec.text (·.resourceVersion))
  |>.and (Parts.lenient "selfLink" Codec.text (·.selfLink))

/-- A list of objects as served; its items may be null. -/
structure ObjectList (α : Type) where
  metadata : ListMeta
  items : Option (List α)

def ObjectList.codec (c : Codec α) : Codec (ObjectList α) := Codec.openRecord <|
  Parts.make ObjectList.mk
  |>.and (Parts.defaulted "metadata" ListMeta.codec ⟨none, none, none, none⟩ (·.metadata))
  |>.and (Parts.required "items" c.list.nullable (·.items))

/-- The status that may answer a deletion; it is only checked. -/
def deletionStatus : Codec Unit :=
  let count : Codec Int := Codec.integer 0 65535
  let summary : Codec String :=
    ⟨fun j => (Codec.text.read j).filter fun s => s == "Success" || s == "Failure", .str⟩
  let text (name : String) : Parts Unit String := Parts.textOrEmpty name fun _ => ""
  let cause : Codec Unit := Codec.record <|
    Parts.make (fun _ _ _ => ()) |>.and (text "reason") |>.and (text "message")
    |>.and (text "field")
  let details : Codec Unit := Codec.record <|
    Parts.make (fun _ _ _ _ _ _ => ())
    |>.and (text "name") |>.and (text "group") |>.and (text "kind") |>.and (text "uid")
    |>.and (Parts.defaulted "causes" cause.list [] fun _ => [])
    |>.and (Parts.defaulted "retryAfterSeconds" (Codec.integer 0 4294967295) 0 fun _ => 0)
  Codec.record <|
    Parts.make (fun _ _ _ _ _ => ())
    |>.and (Parts.maybe "status" summary fun _ => none)
    |>.and (Parts.defaulted "code" count 0 fun _ => 0)
    |>.and (text "message") |>.and (text "reason")
    |>.and (Parts.maybe "details" details fun _ => none)

/-- Whether the answer to a deletion is well formed: a status, or what was deleted. -/
def deletionAnswer (c : Codec α) (text : String) : Except CallError Unit :=
  match Json.parse? text with
  | none => .error .undecodable
  | some j =>
    if ((j.get? "kind").bind Json.string?) == some "Status" then
      match deletionStatus.read j with
      | some _ => .ok ()
      | none => .error .undecodable
    else
      match c.read j with
      | some _ => .ok ()
      | none => .error .undecodable

namespace World

variable [HasKind α] (w : World σ)

def objectOf (request : Except CallError ApiRequest) : Call σ α := do
  let text ← w.textOf request
  ExceptT.mk (pure (parsed (HasKind.codec (α := α)) text))

def listOf (request : Except CallError ApiRequest) : Call σ (List α) := do
  let text ← w.textOf request
  let list ← ExceptT.mk (pure (parsed (ObjectList.codec (HasKind.codec (α := α))) text))
  return list.items.getD []

/-- The object, or none if the server says that it is not found. -/
def lookUp (request : Except CallError ApiRequest) : Call σ (Option α) :=
  ExceptT.mk do
    match ← (w.objectOf (α := α) request).run with
    | .ok object => return .ok (some object)
    | .error (.api error) =>
      if error.reason = "NotFound" then return .ok none else return .error (.api error)
    | .error error => return .error error

/-- A deletion; what is gone counts as deleted. -/
def remove (c : Codec α) (request : Except CallError ApiRequest) : Call σ Unit :=
  ExceptT.mk do
    match ← (w.textOf request).run with
    | .error error => return if error.hasCode 404 then .ok () else .error error
    | .ok text =>
      match deletionAnswer c text with
      | .error error => return if error.hasCode 404 then .ok () else .error error
      | .ok () => return .ok ()

/-! ## Operations on the objects of a namespace -/

def kindOf (α : Type) [HasKind α] : Kind := HasKind.kind α

def getOpt (α : Type) [HasKind α] (ns name : String) : Session σ (Option α) :=
  Session.during (.get (kindOf α).name ns name)
    (w.lookUp (ApiRequest.get (.namespaced ns) (kindOf α) name))

/-- The object; its absence is an error. -/
def get (α : Type) [HasKind α] (ns name : String) : Session σ α := do
  match ← w.getOpt α ns name with
  | some object => return object
  | none => throw (.notFound (kindOf α).name name ns)

def create (ns : String) (object : α) : Session σ α :=
  Session.during (.create (kindOf α).name ns)
    (w.objectOf
      (ApiRequest.create (.namespaced ns) (kindOf α) (HasKind.codec.write object)))

def replace (ns : String) (object : α) : Session σ α :=
  let name := (HasKind.metadata object).name.getD ""
  Session.during (.replace (kindOf α).name ns name)
    (w.objectOf
      (ApiRequest.replace (.namespaced ns) (kindOf α) name (HasKind.codec.write object)))

/-- The objects that carry all the labels. -/
def list (α : Type) [HasKind α] (ns : String) (labels : List (String × String)) :
    Session σ (List α) :=
  Session.during (.list (kindOf α).name ns)
    (w.listOf (ApiRequest.list (.namespaced ns) (kindOf α) (labelQuery labels)))

def delete (α : Type) [HasKind α] (ns name : String) : Session σ Unit :=
  Session.during (.delete (kindOf α).name ns name)
    (w.remove (HasKind.codec (α := α)) (ApiRequest.delete (.namespaced ns) (kindOf α) name))

def deleteAll (α : Type) [HasKind α] (ns : String) : Session σ Unit :=
  Session.during (.deleteAll (kindOf α).name ns)
    (ExceptT.mk do
      match ← (w.textOf (ApiRequest.deleteAll (.namespaced ns) (kindOf α))).run with
      | .error error => return .error error
      | .ok text => return deletionAnswer (ObjectList.codec (HasKind.codec (α := α))) text)

/-- Merges a patch into the status of an object. -/
def patchStatus (α : Type) [HasKind α] (ns name : String) (patch : Json) : Session σ α :=
  Session.during (.patchStatus (kindOf α).name ns name)
    (w.objectOf (ApiRequest.patchStatus (.namespaced ns) (kindOf α) name patch))

end World

/-! ## Waiting -/

namespace Polling.Finding

def pendingAt (seen : String) : Finding Error := ⟨.pending, some seen⟩

/-- Reached, with nothing to report. -/
def reached : Finding Error := ⟨.done, none⟩

end Polling.Finding

namespace World

/-- Polls a condition until it is done; a wait in vain reports what was seen last. -/
def waitFor (w : World σ) (what : String) (spec : Polling.Spec)
    (condition : StateM σ (Polling.Finding Error)) : Session σ Unit :=
  ExceptT.mk fun s =>
    let (report, s) := Polling.watch w.toClocked spec condition s
    match report with
    | none => (.error (.unsettled what), s)
    | some ⟨.success, _⟩ => (.ok (), s)
    | some ⟨.failed error, _⟩ => (.error error, s)
    | some ⟨.timedOut elapsed, seen⟩ =>
      (.error (.waitTimedOut what elapsed (if seen = "" then "nothing observed" else seen)), s)

def waitEvery (w : World σ) (what : String) (interval timeout : Nat)
    (condition : StateM σ (Polling.Finding Error)) : Session σ Unit := do
  match Polling.Spec.every interval timeout with
  | .error error => throw (.pollConfig error)
  | .ok spec => w.waitFor what spec condition

/-- Polls once a second until a timeout. -/
def waitEachSecond (w : World σ) (what : String) (timeout : Nat)
    (condition : StateM σ (Polling.Finding Error)) : Session σ Unit :=
  w.waitFor what (Polling.Spec.eachSecond timeout) condition

end World

end ClusterHarness
