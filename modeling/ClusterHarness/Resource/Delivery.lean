import ClusterHarness.Resource.Basic

/-!
# What is built and where it is deployed

Applications and their components, environments, the snapshots of an application's images, and
the bindings that deploy a snapshot.
-/

namespace ClusterHarness

open Parts

/-! ## Applications -/

structure ApplicationSpec where
  displayName : String
  description : Option String

structure ApplicationStatus where
  conditions : List Condition
  /-- The devfile that the controller renders. -/
  devfile : Option String

abbrev Application := PlatformObject ApplicationSpec ApplicationStatus

namespace Application

def kind : Kind := ⟨"Application", "appstudio.redhat.com", "v1alpha1", "applications"⟩

def codec : Codec Application :=
  PlatformObject.codec
    (Codec.record <| make ApplicationSpec.mk
      |>.and (required "displayName" Codec.text (·.displayName))
      |>.and (maybe "description" Codec.text (·.description)))
    ⟨"", none⟩
    (Codec.record <| make ApplicationStatus.mk
      |>.and (defaulted "conditions" Condition.codec.list [] (·.conditions))
      |>.and (maybe "devfile" Codec.text (·.devfile)))

end Application

instance : HasKind Application := ⟨Application.kind, Application.codec, (·.metadata)⟩

/-! ## Components -/

structure GitSource where
  url : String
  revision : String := ""
  context : String := ""
  devfileUrl : String := ""
  dockerfileUrl : String := ""

structure ComponentSource where
  git : Option GitSource

structure ComponentSpec where
  componentName : String
  application : String
  source : ComponentSource := ⟨none⟩
  secret : String := ""
  containerImage : String := ""
  replicas : Option Int := none
  targetPort : Option Int := none

structure ComponentStatus where
  conditions : List Condition
  containerImage : String

abbrev Component := PlatformObject ComponentSpec ComponentStatus

def GitSource.codec : Codec GitSource := Codec.record <|
  make GitSource.mk
  |>.and (required "url" Codec.text (·.url))
  |>.and (textOrEmpty "revision" (·.revision))
  |>.and (textOrEmpty "context" (·.context))
  |>.and (textOrEmpty "devfileUrl" (·.devfileUrl))
  |>.and (textOrEmpty "dockerfileUrl" (·.dockerfileUrl))

def ComponentSource.codec : Codec ComponentSource := Codec.record <|
  make ComponentSource.mk
  |>.and (maybe "git" GitSource.codec (·.git))

namespace Component

def kind : Kind := ⟨"Component", "appstudio.redhat.com", "v1alpha1", "components"⟩

def codec : Codec Component :=
  PlatformObject.codec
    (Codec.record <| make ComponentSpec.mk
      |>.and (required "componentName" Codec.text (·.componentName))
      |>.and (required "application" Codec.text (·.application))
      |>.and (defaulted "source" ComponentSource.codec ⟨none⟩ (·.source))
      |>.and (textOrEmpty "secret" (·.secret))
      |>.and (textOrEmpty "containerImage" (·.containerImage))
      |>.and (maybe "replicas" Codec.int32 (·.replicas))
      |>.and (maybe "targetPort" Codec.int32 (·.targetPort)))
    { componentName := "", application := "" }
    (Codec.record <| make ComponentStatus.mk
      |>.and (defaulted "conditions" Condition.codec.list [] (·.conditions))
      |>.and (textOrEmpty "containerImage" (·.containerImage)))

end Component

instance : HasKind Component := ⟨Component.kind, Component.codec, (·.metadata)⟩

/-! ## Environments -/

structure EnvVar where
  name : String
  value : String

structure DeploymentConfiguration where
  env : List EnvVar

structure EnvironmentSpec where
  type : String
  displayName : String
  deploymentStrategy : String
  parentEnvironment : String := ""
  tags : List String := []
  configuration : DeploymentConfiguration := ⟨[]⟩

abbrev DeploymentEnvironment := PlatformObject EnvironmentSpec ConditionStatus

def EnvVar.codec : Codec EnvVar := Codec.record <|
  make EnvVar.mk
  |>.and (required "name" Codec.text (·.name))
  |>.and (required "value" Codec.text (·.value))

def DeploymentConfiguration.codec : Codec DeploymentConfiguration := Codec.record <|
  make DeploymentConfiguration.mk
  |>.and (defaulted "env" EnvVar.codec.list [] (·.env))

namespace DeploymentEnvironment

def kind : Kind := ⟨"Environment", "appstudio.redhat.com", "v1alpha1", "environments"⟩

def codec : Codec DeploymentEnvironment :=
  PlatformObject.codec
    (Codec.record <| make EnvironmentSpec.mk
      |>.and (required "type" Codec.text (·.type))
      |>.and (required "displayName" Codec.text (·.displayName))
      |>.and (required "deploymentStrategy" Codec.text (·.deploymentStrategy))
      |>.and (textOrEmpty "parentEnvironment" (·.parentEnvironment))
      |>.and (defaulted "tags" Codec.text.list [] (·.tags))
      |>.and (defaulted "configuration" DeploymentConfiguration.codec ⟨[]⟩ (·.configuration)))
    { type := "", displayName := "", deploymentStrategy := "" }
    ConditionStatus.codec

end DeploymentEnvironment

instance : HasKind DeploymentEnvironment :=
  ⟨DeploymentEnvironment.kind, DeploymentEnvironment.codec, (·.metadata)⟩

/-! ## Snapshots -/

structure SnapshotComponent where
  name : String
  containerImage : String

structure SnapshotSpec where
  application : String
  components : List SnapshotComponent := []

abbrev Snapshot := PlatformObject SnapshotSpec ConditionStatus

def SnapshotComponent.codec : Codec SnapshotComponent := Codec.record <|
  make SnapshotComponent.mk
  |>.and (required "name" Codec.text (·.name))
  |>.and (required "containerImage" Codec.text (·.containerImage))

namespace Snapshot

def kind : Kind := ⟨"Snapshot", "appstudio.redhat.com", "v1alpha1", "snapshots"⟩

def codec : Codec Snapshot :=
  PlatformObject.codec
    (Codec.record <| make SnapshotSpec.mk
      |>.and (required "application" Codec.text (·.application))
      |>.and (defaulted "components" SnapshotComponent.codec.list [] (·.components)))
    { application := "" }
    ConditionStatus.codec

end Snapshot

instance : HasKind Snapshot := ⟨Snapshot.kind, Snapshot.codec, (·.metadata)⟩

/-! ## Bindings -/

structure BindingSpec where
  application : String
  environment : String
  snapshot : String

structure BindingStatus where
  conditions : List Condition

abbrev SnapshotBinding := PlatformObject BindingSpec BindingStatus

namespace SnapshotBinding

def kind : Kind :=
  ⟨"SnapshotEnvironmentBinding", "appstudio.redhat.com", "v1alpha1",
    "snapshotenvironmentbindings"⟩

def codec : Codec SnapshotBinding :=
  PlatformObject.codec
    (Codec.record <| make BindingSpec.mk
      |>.and (required "application" Codec.text (·.application))
      |>.and (required "environment" Codec.text (·.environment))
      |>.and (required "snapshot" Codec.text (·.snapshot)))
    ⟨"", "", ""⟩
    (Codec.record <| make BindingStatus.mk
      |>.and (defaulted "componentDeploymentConditions" Condition.codec.list []
        (·.conditions)))

end SnapshotBinding

instance : HasKind SnapshotBinding := ⟨SnapshotBinding.kind, SnapshotBinding.codec, (·.metadata)⟩

end ClusterHarness
