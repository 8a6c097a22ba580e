import ClusterHarness.Resource.Codec

/-!
# Metadata of objects
-/

namespace ClusterHarness

structure OwnerReference where
  apiVersion : String
  blockOwnerDeletion : Option Bool
  controller : Option Bool
  kind : String
  name : String
  uid : String

structure ManagedFields where
  apiVersion : Option String
  fieldsType : Option String
  fields : Option Json
  manager : Option String
  operation : Option String
  subresource : Option String
  time : Option Timestamp

structure ObjectMeta where
  annotations : Option (Dictionary String) := none
  creationTimestamp : Option Timestamp := none
  deletionGracePeriodSeconds : Option Int := none
  deletionTimestamp : Option Timestamp := none
  finalizers : Option (List String) := none
  generateName : Option String := none
  generation : Option Int := none
  labels : Option (Dictionary String) := none
  managedFields : Option (List ManagedFields) := none
  name : Option String := none
  namespace_ : Option String := none
  ownerReferences : Option (List OwnerReference) := none
  resourceVersion : Option String := none
  selfLink : Option String := none
  uid : Option String := none
  deriving Inhabited

open Parts

def OwnerReference.codec : Codec OwnerReference := Codec.openRecord <|
  make OwnerReference.mk
  |>.and (lenientOr "apiVersion" Codec.text "" (·.apiVersion))
  |>.and (lenient "blockOwnerDeletion" Codec.flag (·.blockOwnerDeletion))
  |>.and (lenient "controller" Codec.flag (·.controller))
  |>.and (lenientOr "kind" Codec.text "" (·.kind))
  |>.and (lenientOr "name" Codec.text "" (·.name))
  |>.and (lenientOr "uid" Codec.text "" (·.uid))

def ManagedFields.codec : Codec ManagedFields := Codec.openRecord <|
  make ManagedFields.mk
  |>.and (lenient "apiVersion" Codec.text (·.apiVersion))
  |>.and (lenient "fieldsType" Codec.text (·.fieldsType))
  |>.and (lenient "fieldsV1" Codec.any (·.fields))
  |>.and (lenient "manager" Codec.text (·.manager))
  |>.and (lenient "operation" Codec.text (·.operation))
  |>.and (lenient "subresource" Codec.text (·.subresource))
  |>.and (lenient "time" Codec.timestamp (·.time))

def ObjectMeta.codec : Codec ObjectMeta := Codec.openRecord <|
  make ObjectMeta.mk
  |>.and (lenient "annotations" Codec.text.dictionary (·.annotations))
  |>.and (lenient "creationTimestamp" Codec.timestamp (·.creationTimestamp))
  |>.and (lenient "deletionGracePeriodSeconds" Codec.int64 (·.deletionGracePeriodSeconds))
  |>.and (lenient "deletionTimestamp" Codec.timestamp (·.deletionTimestamp))
  |>.and (lenient "finalizers" Codec.text.list (·.finalizers))
  |>.and (lenient "generateName" Codec.text (·.generateName))
  |>.and (lenient "generation" Codec.int64 (·.generation))
  |>.and (lenient "labels" Codec.text.dictionary (·.labels))
  |>.and (lenient "managedFields" ManagedFields.codec.list (·.managedFields))
  |>.and (lenient "name" Codec.text (·.name))
  |>.and (lenient "namespace" Codec.text (·.namespace_))
  |>.and (lenient "ownerReferences" OwnerReference.codec.list (·.ownerReferences))
  |>.and (lenient "resourceVersion" Codec.text (·.resourceVersion))
  |>.and (lenient "selfLink" Codec.text (·.selfLink))
  |>.and (lenient "uid" Codec.text (·.uid))

namespace ObjectMeta

def empty : ObjectMeta := {}

def named (name ns : String) : ObjectMeta := { name := some name, namespace_ := some ns }

def label? (m : ObjectMeta) (key : String) : Option String := m.labels.bind (·.get? key)

end ObjectMeta

end ClusterHarness
