import ClusterHarness.Resource.Basic
import ClusterHarness.Text.Base64

/-!
# Objects of the core and apps groups

An object that says of itself that it is of another kind or version is refused.  Of pods only the
containers' names and the phase are kept, of service accounts, services and deployments only the
metadata.
-/

namespace ClusterHarness

/-- Bytes, written in base64. -/
def Codec.bytes : Codec (List UInt8) where
  read
    | .str s => Base64.decode s.toList
    | _ => none
  write bytes := .str (String.ofList (Base64.encode bytes))

def isObjectOrNull : Json → Bool
  | .obj _ => true
  | .null => true
  | _ => false

namespace CoreObject

variable {α : Type}

def allAre (name text : String) (members : List (String × Json)) : Bool :=
  (Parts.valuesOf name members).all fun j => j.string? == some text

def codec (kind : Kind) (parts : Parts α α) : Codec α where
  read
    | .obj members =>
      if allAre "apiVersion" kind.apiVersion members ∧ allAre "kind" kind.name members then
        parts.ofMembers members
      else none
    | _ => none
  write a :=
    .obj ([("apiVersion", .str kind.apiVersion), ("kind", .str kind.name)] ++ parts.toMembers a)

/-- Members that are checked to be objects and not kept. -/
def ignored (name : String) : Parts α Unit where
  ofMembers members :=
    if (Parts.valuesOf name members).all isObjectOrNull then some () else none
  ofItems _ := none
  toMembers _ := []

end CoreObject

open Parts

/-! ## Namespaces -/

structure NamespaceCondition where
  lastTransitionTime : Option Timestamp
  message : Option String
  reason : Option String
  status : String
  type : String

structure NamespaceStatus where
  conditions : Option (List NamespaceCondition)
  phase : Option String

structure NamespaceSpec where
  finalizers : Option (List String)

structure Namespace where
  metadata : ObjectMeta
  spec : Option NamespaceSpec := none
  status : Option NamespaceStatus := none

def NamespaceCondition.codec : Codec NamespaceCondition := Codec.openRecord <|
  make NamespaceCondition.mk
  |>.and (lenient "lastTransitionTime" Codec.timestamp (·.lastTransitionTime))
  |>.and (lenient "message" Codec.text (·.message))
  |>.and (lenient "reason" Codec.text (·.reason))
  |>.and (lenientOr "status" Codec.text "" (·.status))
  |>.and (lenientOr "type" Codec.text "" (·.type))

def NamespaceStatus.codec : Codec NamespaceStatus := Codec.openRecord <|
  make NamespaceStatus.mk
  |>.and (lenient "conditions" NamespaceCondition.codec.list (·.conditions))
  |>.and (lenient "phase" Codec.text (·.phase))

def NamespaceSpec.codec : Codec NamespaceSpec := Codec.openRecord <|
  make NamespaceSpec.mk
  |>.and (lenient "finalizers" Codec.text.list (·.finalizers))

namespace Namespace

def kind : Kind := ⟨"Namespace", "", "v1", "namespaces"⟩

def codec : Codec Namespace := CoreObject.codec kind <|
  make Namespace.mk
  |>.and (lenientOr "metadata" ObjectMeta.codec ObjectMeta.empty (·.metadata))
  |>.and (lenient "spec" NamespaceSpec.codec (·.spec))
  |>.and (lenient "status" NamespaceStatus.codec (·.status))

end Namespace

instance : HasKind Namespace := ⟨Namespace.kind, Namespace.codec, (·.metadata)⟩

/-! ## Pods -/

structure PodSpec where
  /-- The names of the containers. -/
  containers : List String

structure PodStatus where
  phase : Option String

structure Pod where
  metadata : ObjectMeta
  spec : Option PodSpec
  status : Option PodStatus

namespace Pod

def kind : Kind := ⟨"Pod", "", "v1", "pods"⟩

def container : Codec String := Codec.openRecord <|
  make id |>.and (lenientOr "name" Codec.text "" id)

def codec : Codec Pod := CoreObject.codec kind <|
  make Pod.mk
  |>.and (lenientOr "metadata" ObjectMeta.codec ObjectMeta.empty (·.metadata))
  |>.and (lenient "spec" (Codec.openRecord <| make PodSpec.mk
      |>.and (lenientOr "containers" container.list [] (·.containers))) (·.spec))
  |>.and (lenient "status" (Codec.openRecord <| make PodStatus.mk
      |>.and (lenient "phase" Codec.text (·.phase))) (·.status))

/-- The phase, `Unknown` when not reported. -/
def phase (pod : Pod) : String := (pod.status.bind (·.phase)).getD "Unknown"

def containers (pod : Pod) : List String := (pod.spec.map (·.containers)).getD []

end Pod

instance : HasKind Pod := ⟨Pod.kind, Pod.codec, (·.metadata)⟩

/-! ## Configuration -/

structure ConfigMap where
  binaryData : Option (Dictionary (List UInt8))
  data : Option (Dictionary String)
  immutable : Option Bool
  metadata : ObjectMeta

namespace ConfigMap

def kind : Kind := ⟨"ConfigMap", "", "v1", "configmaps"⟩

def codec : Codec ConfigMap := CoreObject.codec kind <|
  make ConfigMap.mk
  |>.and (lenient "binaryData" Codec.bytes.dictionary (·.binaryData))
  |>.and (lenient "data" Codec.text.dictionary (·.data))
  |>.and (lenient "immutable" Codec.flag (·.immutable))
  |>.and (lenientOr "metadata" ObjectMeta.codec ObjectMeta.empty (·.metadata))

end ConfigMap

instance : HasKind ConfigMap := ⟨ConfigMap.kind, ConfigMap.codec, (·.metadata)⟩

structure Secret where
  data : Option (Dictionary (List UInt8)) := none
  immutable : Option Bool := none
  metadata : ObjectMeta
  stringData : Option (Dictionary String) := none
  type : Option String := none

namespace Secret

def kind : Kind := ⟨"Secret", "", "v1", "secrets"⟩

def codec : Codec Secret := CoreObject.codec kind <|
  make Secret.mk
  |>.and (lenient "data" Codec.bytes.dictionary (·.data))
  |>.and (lenient "immutable" Codec.flag (·.immutable))
  |>.and (lenientOr "metadata" ObjectMeta.codec ObjectMeta.empty (·.metadata))
  |>.and (lenient "stringData" Codec.text.dictionary (·.stringData))
  |>.and (lenient "type" Codec.text (·.type))

end Secret

instance : HasKind Secret := ⟨Secret.kind, Secret.codec, (·.metadata)⟩

/-! ## Objects of which only the metadata matter -/

structure ServiceAccount where
  metadata : ObjectMeta

structure Service where
  metadata : ObjectMeta

structure Deployment where
  metadata : ObjectMeta

namespace ServiceAccount

def kind : Kind := ⟨"ServiceAccount", "", "v1", "serviceaccounts"⟩

def codec : Codec ServiceAccount := CoreObject.codec kind <|
  make ServiceAccount.mk
  |>.and (lenientOr "metadata" ObjectMeta.codec ObjectMeta.empty (·.metadata))

end ServiceAccount

instance : HasKind ServiceAccount := ⟨ServiceAccount.kind, ServiceAccount.codec, (·.metadata)⟩

namespace Service

def kind : Kind := ⟨"Service", "", "v1", "services"⟩

def codec : Codec Service := CoreObject.codec kind <|
  make (fun metadata _ _ => Service.mk metadata)
  |>.and (lenientOr "metadata" ObjectMeta.codec ObjectMeta.empty (·.metadata))
  |>.and (CoreObject.ignored "spec")
  |>.and (CoreObject.ignored "status")

end Service

instance : HasKind Service := ⟨Service.kind, Service.codec, (·.metadata)⟩

namespace Deployment

def kind : Kind := ⟨"Deployment", "apps", "v1", "deployments"⟩

def codec : Codec Deployment := CoreObject.codec kind <|
  make (fun metadata _ _ => Deployment.mk metadata)
  |>.and (lenientOr "metadata" ObjectMeta.codec ObjectMeta.empty (·.metadata))
  |>.and (CoreObject.ignored "spec")
  |>.and (CoreObject.ignored "status")

end Deployment

instance : HasKind Deployment := ⟨Deployment.kind, Deployment.codec, (·.metadata)⟩

end ClusterHarness
