import ClusterHarness.Resource.Delivery

/-!
# Integration tests of snapshots
-/

namespace ClusterHarness

open Parts

structure ResolverParam where
  name : String
  value : String

structure ResolverRef where
  resolver : String
  params : List ResolverParam

structure ScenarioSpec where
  application : String
  resolverRef : ResolverRef

abbrev TestScenario := PlatformObject ScenarioSpec ConditionStatus

def ResolverParam.codec : Codec ResolverParam := Codec.record <|
  make ResolverParam.mk
  |>.and (required "name" Codec.text (·.name))
  |>.and (required "value" Codec.text (·.value))

namespace ResolverRef

def codec : Codec ResolverRef := Codec.record <|
  make ResolverRef.mk
  |>.and (required "resolver" Codec.text (·.resolver))
  |>.and (defaulted "params" ResolverParam.codec.list [] (·.params))

def git (url revision path : String) : ResolverRef where
  resolver := "git"
  params := [⟨"url", url⟩, ⟨"revision", revision⟩, ⟨"pathInRepo", path⟩]

end ResolverRef

namespace TestScenario

def kind : Kind :=
  ⟨"IntegrationTestScenario", "appstudio.redhat.com", "v1beta1", "integrationtestscenarios"⟩

def codec : Codec TestScenario :=
  PlatformObject.codec
    (Codec.record <| make ScenarioSpec.mk
      |>.and (required "application" Codec.text (·.application))
      |>.and (required "resolverRef" ResolverRef.codec (·.resolverRef)))
    ⟨"", ⟨"", []⟩⟩
    ConditionStatus.codec

end TestScenario

instance : HasKind TestScenario := ⟨TestScenario.kind, TestScenario.codec, (·.metadata)⟩

namespace Snapshot

def conditions (s : Snapshot) : List Condition := conditionsOf (·.conditions) s.status

def testTypes : List String := ["HACBSTestSucceeded", "AppStudioTestSucceeded"]

def testsSucceeded (s : Snapshot) : Bool := testTypes.any (Condition.holds (conditions s))

def testsFinished (s : Snapshot) : Bool :=
  testTypes.any fun type => (Condition.find? (conditions s) type).isSome

end Snapshot

end ClusterHarness
