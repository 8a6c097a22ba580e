import ClusterHarness.Resource.Condition
import ClusterHarness.Resource.Meta

/-!
# Kinds and objects of the API

A kind says where its objects live.  An object of the platform has metadata, a spec and perhaps a
status; what an object says of its own kind and version is kept as it is.
-/

namespace ClusterHarness

/-- Where objects of a kind live. -/
structure Kind where
  name : String
  group : String
  version : String
  plural : String
  deriving DecidableEq, Repr

namespace Kind

def apiVersion (k : Kind) : String :=
  if k.group = "" then k.version else k.group ++ "/" ++ k.version

def root (k : Kind) : String :=
  if k.group = "" then "/api/" ++ k.version else "/apis/" ++ k.group ++ "/" ++ k.version

def path (k : Kind) (ns : String) : String :=
  k.root ++ "/namespaces/" ++ ns ++ "/" ++ k.plural

def clusterPath (k : Kind) : String := k.root ++ "/" ++ k.plural

end Kind

structure PlatformObject (σ τ : Type) where
  apiVersion : String
  kind : String
  metadata : ObjectMeta
  spec : σ
  status : Option τ

namespace PlatformObject

variable {σ τ : Type}

/-- The codec of objects, given the codecs of spec and status and the spec of an object that has
none. -/
def codec (spec : Codec σ) (absent : σ) (status : Codec τ) : Codec (PlatformObject σ τ) :=
  Codec.record <|
    Parts.make PlatformObject.mk
    |>.and (Parts.defaulted "apiVersion" Codec.text "" (·.apiVersion))
    |>.and (Parts.defaulted "kind" Codec.text "" (·.kind))
    |>.and (Parts.defaulted "metadata" ObjectMeta.codec ObjectMeta.empty (·.metadata))
    |>.and (Parts.defaulted "spec" spec absent (·.spec))
    |>.and (Parts.maybe "status" status (·.status))

def make (kind : Kind) (metadata : ObjectMeta) (spec : σ) : PlatformObject σ τ :=
  ⟨kind.apiVersion, kind.name, metadata, spec, none⟩

end PlatformObject

/-- A kind whose objects are of type `α`. -/
class HasKind (α : Type) where
  kind : Kind
  codec : Codec α
  metadata : α → ObjectMeta

/-- The codec of statuses that hold conditions only. -/
structure ConditionStatus where
  conditions : List Condition

def ConditionStatus.codec : Codec ConditionStatus := Codec.record <|
  Parts.make ConditionStatus.mk
  |>.and (Parts.defaulted "conditions" Condition.codec.list [] (·.conditions))

def conditionsOf {τ : Type} (get : τ → List Condition) (status : Option τ) : List Condition :=
  (status.map get).getD []

end ClusterHarness
