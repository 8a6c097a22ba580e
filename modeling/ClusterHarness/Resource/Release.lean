import ClusterHarness.Resource.Basic

/-!
# Releases and sandbox users
-/

namespace ClusterHarness

open Parts

structure ReleasePlanSpec where
  application : String
  /-- The managed namespace in which releases are processed. -/
  target : String

abbrev ReleasePlan := PlatformObject ReleasePlanSpec ConditionStatus

namespace ReleasePlan

def kind : Kind := ⟨"ReleasePlan", "appstudio.redhat.com", "v1alpha1", "releaseplans"⟩

def codec : Codec ReleasePlan :=
  PlatformObject.codec
    (Codec.record <| make ReleasePlanSpec.mk
      |>.and (required "application" Codec.text (·.application))
      |>.and (required "target" Codec.text (·.target)))
    ⟨"", ""⟩
    ConditionStatus.codec

end ReleasePlan

instance : HasKind ReleasePlan := ⟨ReleasePlan.kind, ReleasePlan.codec, (·.metadata)⟩

structure ReleaseSpec where
  snapshot : String
  releasePlan : String

structure ReleaseStatus where
  conditions : List Condition
  /-- Namespace and name of the run that processes the release. -/
  releasePipelineRun : String

abbrev Release := PlatformObject ReleaseSpec ReleaseStatus

namespace Release

def kind : Kind := ⟨"Release", "appstudio.redhat.com", "v1alpha1", "releases"⟩

def codec : Codec Release :=
  PlatformObject.codec
    (Codec.record <| make ReleaseSpec.mk
      |>.and (required "snapshot" Codec.text (·.snapshot))
      |>.and (required "releasePlan" Codec.text (·.releasePlan)))
    ⟨"", ""⟩
    (Codec.record <| make ReleaseStatus.mk
      |>.and (defaulted "conditions" Condition.codec.list [] (·.conditions))
      |>.and (textOrEmpty "releasePipelineRun" (·.releasePipelineRun)))

def conditions (r : Release) : List Condition := conditionsOf (·.conditions) r.status

def done (r : Release) : Bool :=
  (Condition.find? (conditions r) "Succeeded").any fun c => !c.isUnknown

def succeeded (r : Release) : Bool := Condition.holds (conditions r) "Succeeded"

end Release

instance : HasKind Release := ⟨Release.kind, Release.codec, (·.metadata)⟩

structure UserSignupSpec where
  userid : String
  username : String
  /-- Such as `approved` and `deactivated`. -/
  states : List String

structure UserSignupStatus where
  conditions : List Condition
  compliantUsername : String

abbrev UserSignup := PlatformObject UserSignupSpec UserSignupStatus

namespace UserSignup

def kind : Kind := ⟨"UserSignup", "toolchain.dev.openshift.com", "v1alpha1", "usersignups"⟩

def codec : Codec UserSignup :=
  PlatformObject.codec
    (Codec.record <| make UserSignupSpec.mk
      |>.and (required "userid" Codec.text (·.userid))
      |>.and (required "username" Codec.text (·.username))
      |>.and (defaulted "states" Codec.text.list [] (·.states)))
    ⟨"", "", []⟩
    (Codec.record <| make UserSignupStatus.mk
      |>.and (defaulted "conditions" Condition.codec.list [] (·.conditions))
      |>.and (textOrEmpty "compliantUsername" (·.compliantUsername)))

def conditions (s : UserSignup) : List Condition := conditionsOf (·.conditions) s.status

end UserSignup

instance : HasKind UserSignup := ⟨UserSignup.kind, UserSignup.codec, (·.metadata)⟩

end ClusterHarness
