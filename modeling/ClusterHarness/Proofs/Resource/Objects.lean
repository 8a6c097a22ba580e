import ClusterHarness.Proofs.Resource.Shapes
import ClusterHarness.Resource.Pipeline
import ClusterHarness.Resource.Release
import ClusterHarness.Resource.Testing

/-!
# The shapes of the platform's objects

Timestamps are in the metadata of an object, in its conditions, and in the status of a pipeline run.
The types bound integers to 32 or 64 bits and keep free values sorted.
-/

namespace ClusterHarness

open Codec Parts Shape

/-! ## Conditions -/

def Condition.shape : Shape Condition where
  Typed c := timestamp.option.Typed c.lastTransitionTime ∧ int64.option.Typed c.observedGeneration
  times c := timestamp.option.times c.lastTransitionTime
  trimmed c := { c with lastTransitionTime := timestamp.option.trimmed c.lastTransitionTime }
  whole c every := by rw [timestamp.option.whole _ every]

theorem Condition.normal : Condition.codec.Normal Condition.shape :=
  normal_record (keep_make Condition.shape Condition.mk
    |>.and (keep_text fun _ => rfl)
    |>.and (keep_text fun _ => rfl)
    |>.and (keep_textOrEmpty fun _ => rfl)
    |>.and (keep_textOrEmpty fun _ => rfl)
    |>.and (keep_maybe (normal_timestamp.nullable nofun)
      ⟨fun _ typed => typed.1, fun _ => List.Subset.refl _, fun _ => rfl⟩)
    |>.and (keep_maybe (normal_int64.nullable nofun)
      ((timeless_bounded _).option.field (fun _ typed => typed.2) fun _ => rfl)))
    (by decide) (fun _ _ _ _ _ _ _ _ _ known _ fits => ⟨known, fits⟩) fun _ => rfl

/-! ## Metadata -/

theorem OwnerReference.normal : OwnerReference.codec.Normal .plain :=
  normal_openRecord (keep_make .plain OwnerReference.mk
    |>.and (keep_lenientTextOr fun _ => rfl)
    |>.and (keep_lenient (normal_flag.nullable nofun) (untouched_option fun _ => rfl))
    |>.and (keep_lenient (normal_flag.nullable nofun) (untouched_option fun _ => rfl))
    |>.and (keep_lenientTextOr fun _ => rfl)
    |>.and (keep_lenientTextOr fun _ => rfl)
    |>.and (keep_lenientTextOr fun _ => rfl))
    (by decide) (fun _ _ _ _ _ _ _ _ _ _ _ _ => trivial) fun _ => rfl

def freeOrMissing : Shape (Option Json) := (bounded fun j => j.InOrder ∧ j ≠ .null).option

def ManagedFields.shape : Shape ManagedFields where
  Typed m := freeOrMissing.Typed m.fields ∧ timestamp.option.Typed m.time
  times m := timestamp.option.times m.time
  trimmed m := { m with time := timestamp.option.trimmed m.time }
  whole m every := by rw [timestamp.option.whole _ every]

theorem ManagedFields.normal : ManagedFields.codec.Normal ManagedFields.shape :=
  normal_openRecord (keep_make ManagedFields.shape ManagedFields.mk
    |>.and (keep_lenientText fun _ => rfl)
    |>.and (keep_lenientText fun _ => rfl)
    |>.and (keep_lenient normal_nullable_any
      ((timeless_bounded _).option.field (fun _ typed => typed.1) fun _ => rfl))
    |>.and (keep_lenientText fun _ => rfl)
    |>.and (keep_lenientText fun _ => rfl)
    |>.and (keep_lenientText fun _ => rfl)
    |>.and (keep_lenient (normal_timestamp.nullable nofun)
      ⟨fun _ typed => typed.2, fun _ => List.Subset.refl _, fun _ => rfl⟩))
    (by decide) (fun _ _ _ _ _ free _ _ _ _ _ _ _ known => ⟨free, known⟩) fun _ => rfl

namespace ObjectMeta

structure Typed (m : ObjectMeta) : Prop where
  creation : timestamp.option.Typed m.creationTimestamp
  grace : int64.option.Typed m.deletionGracePeriodSeconds
  deletion : timestamp.option.Typed m.deletionTimestamp
  generation : int64.option.Typed m.generation
  managed : ManagedFields.shape.list.option.Typed m.managedFields

def shape : Shape ObjectMeta where
  Typed := Typed
  times m := timestamp.option.times m.creationTimestamp
    ++ (timestamp.option.times m.deletionTimestamp
      ++ ManagedFields.shape.list.option.times m.managedFields)
  trimmed m := { m with
    creationTimestamp := timestamp.option.trimmed m.creationTimestamp
    deletionTimestamp := timestamp.option.trimmed m.deletionTimestamp
    managedFields := ManagedFields.shape.list.option.trimmed m.managedFields }
  whole m every := by
    obtain ⟨creation, others⟩ := List.forall_mem_append.mp every
    obtain ⟨deletion, managed⟩ := List.forall_mem_append.mp others
    rw [timestamp.option.whole _ creation, timestamp.option.whole _ deletion,
      ManagedFields.shape.list.option.whole _ managed]

theorem normal : ObjectMeta.codec.Normal shape :=
  normal_openRecord (keep_make shape ObjectMeta.mk
    |>.and (keep_lenient (normal_text.dictionary.nullable nofun)
      ((timeless_bounded _).dictionary.option.field (fun _ _ _ _ _ _ => trivial) fun _ => rfl))
    |>.and (keep_lenient (normal_timestamp.nullable nofun)
      ⟨fun _ typed => typed.creation, fun _ => List.subset_append_left .., fun _ => rfl⟩)
    |>.and (keep_lenient (normal_int64.nullable nofun)
      ((timeless_bounded _).option.field (fun _ typed => typed.grace) fun _ => rfl))
    |>.and (keep_lenient (normal_timestamp.nullable nofun)
      ⟨fun _ typed => typed.deletion, fun _ => List.subset_append_of_subset_right _
        (List.subset_append_left ..), fun _ => rfl⟩)
    |>.and (keep_lenient (normal_text.list.nullable nofun)
      ((timeless_bounded _).list.option.field (fun _ _ _ _ _ _ => trivial) fun _ => rfl))
    |>.and (keep_lenientText fun _ => rfl)
    |>.and (keep_lenient (normal_int64.nullable nofun)
      ((timeless_bounded _).option.field (fun _ typed => typed.generation) fun _ => rfl))
    |>.and (keep_lenient (normal_text.dictionary.nullable nofun)
      ((timeless_bounded _).dictionary.option.field (fun _ _ _ _ _ _ => trivial) fun _ => rfl))
    |>.and (keep_lenient (ManagedFields.normal.list.nullable nofun)
      ⟨fun _ typed => typed.managed, fun _ => List.subset_append_of_subset_right _
        (List.subset_append_right ..), fun _ => rfl⟩)
    |>.and (keep_lenientText fun _ => rfl)
    |>.and (keep_lenientText fun _ => rfl)
    |>.and (keep_lenient (OwnerReference.normal.list.nullable nofun)
      ((timeless_bounded _).list.option.field (fun _ _ _ _ _ _ => trivial) fun _ => rfl))
    |>.and (keep_lenientText fun _ => rfl)
    |>.and (keep_lenientText fun _ => rfl)
    |>.and (keep_lenientText fun _ => rfl))
    (by decide)
    (fun _ _ _ creation _ grace _ deletion _ _ _ _ _ generation _ _ _ managed
        _ _ _ _ _ _ _ _ _ _ _ _ => ⟨creation, grace, deletion, generation, managed⟩)
    fun _ => rfl

theorem typed_empty : empty.Typed := ⟨nofun, nofun, nofun, nofun, nofun⟩

end ObjectMeta

/-! ## Objects -/

namespace PlatformObject

variable {σ τ : Type} (spec : Shape σ) (status : Shape τ)

def shape : Shape (PlatformObject σ τ) where
  Typed o := ObjectMeta.shape.Typed o.metadata ∧ spec.Typed o.spec ∧ status.option.Typed o.status
  times o := ObjectMeta.shape.times o.metadata
    ++ (spec.times o.spec ++ status.option.times o.status)
  trimmed o := { o with
    metadata := ObjectMeta.shape.trimmed o.metadata
    spec := spec.trimmed o.spec
    status := status.option.trimmed o.status }
  whole o every := by
    obtain ⟨metadata, others⟩ := List.forall_mem_append.mp every
    obtain ⟨specs, statuses⟩ := List.forall_mem_append.mp others
    rw [ObjectMeta.shape.whole _ metadata, spec.whole _ specs, status.option.whole _ statuses]

theorem metadata_field : (shape spec status).Field ObjectMeta.shape (·.metadata) :=
  ⟨fun _ typed => typed.1, fun _ => List.subset_append_left .., fun _ => rfl⟩

theorem spec_field : (shape spec status).Field spec (·.spec) :=
  ⟨fun _ typed => typed.2.1, fun _ => List.subset_append_of_subset_right _
    (List.subset_append_left ..), fun _ => rfl⟩

theorem status_field : (shape spec status).Field status.option (·.status) :=
  ⟨fun _ typed => typed.2.2, fun _ => List.subset_append_of_subset_right _
    (List.subset_append_right ..), fun _ => rfl⟩

variable {spec status} {specs : Codec σ} {absent : σ} {statuses : Codec τ}

/-- An object is as normal as its spec and its status. -/
theorem normal (normalSpec : specs.Normal spec) (typed : spec.Typed absent)
    (normalStatus : statuses.nullable.Normal status.option) :
    (codec specs absent statuses).Normal (shape spec status) :=
  normal_record (keep_make (shape spec status) PlatformObject.mk
    |>.and (keep_defaulted normal_text (untouched fun _ => rfl) trivial)
    |>.and (keep_defaulted normal_text (untouched fun _ => rfl) trivial)
    |>.and (keep_defaulted ObjectMeta.normal (metadata_field spec status) ObjectMeta.typed_empty)
    |>.and (keep_defaulted normalSpec (spec_field spec status) typed)
    |>.and (keep_maybe normalStatus (status_field spec status)))
    (by decide) (fun _ _ _ _ _ metadata _ spec _ status => ⟨metadata, spec, status⟩) fun _ => rfl

end PlatformObject

/-- A status whose only timestamps are in its conditions. -/
def Shape.ofConditions {τ : Type} (get : τ → List Condition) (put : τ → List Condition → τ)
    (same : ∀ s, put s (get s) = s) : Shape τ :=
  Condition.shape.list.through get put same

theorem Parts.keep_conditions {τ : Type} {name : String} {get : τ → List Condition}
    {put : τ → List Condition → τ} {same : ∀ s, put s (get s) = s}
    (got : ∀ s conditions, get (put s conditions) = conditions) :
    (defaulted name Condition.codec.list [] get).Keep (ofConditions get put same) [name]
      (fun s => get ((ofConditions get put same).trimmed s))
      (fun R => ∀ conditions, Condition.shape.list.Typed conditions → R conditions) :=
  keep_list Condition.normal (through_field got)

def ConditionStatus.shape : Shape ConditionStatus :=
  ofConditions (·.conditions) (fun s conditions => { s with conditions }) fun _ => rfl

theorem ConditionStatus.normal : ConditionStatus.codec.Normal ConditionStatus.shape :=
  normal_record (keep_make ConditionStatus.shape ConditionStatus.mk
    |>.and (keep_conditions fun _ _ => rfl))
    (by decide) (fun _ typed => typed) fun _ => rfl

/-! ## What is built and where it is deployed -/

def ApplicationStatus.shape : Shape ApplicationStatus :=
  ofConditions (·.conditions) (fun s conditions => { s with conditions }) fun _ => rfl

def Application.shape : Shape Application := PlatformObject.shape .plain ApplicationStatus.shape

theorem Application.normal : Application.codec.Normal Application.shape :=
  PlatformObject.normal
    (normal_plainRecord (keep_make .plain ApplicationSpec.mk
      |>.and (keep_text fun _ => rfl)
      |>.and (keep_maybe (normal_text.nullable nofun) (untouched_option fun _ => rfl)))
      (by decide) fun _ => rfl)
    trivial
    ((normal_record (keep_make ApplicationStatus.shape ApplicationStatus.mk
      |>.and (keep_conditions fun _ _ => rfl)
      |>.and (keep_maybe (normal_text.nullable nofun) (untouched_option fun _ => rfl)))
      (by decide) (fun _ typed _ _ => typed) fun _ => rfl).nullable nofun)

theorem GitSource.normal : GitSource.codec.Normal .plain :=
  normal_plainRecord (keep_make .plain GitSource.mk
    |>.and (keep_text fun _ => rfl)
    |>.and (keep_textOrEmpty fun _ => rfl)
    |>.and (keep_textOrEmpty fun _ => rfl)
    |>.and (keep_textOrEmpty fun _ => rfl)
    |>.and (keep_textOrEmpty fun _ => rfl)) (by decide) fun _ => rfl

theorem ComponentSource.normal : ComponentSource.codec.Normal .plain :=
  normal_plainRecord (keep_make .plain ComponentSource.mk
    |>.and (keep_maybe (GitSource.normal.nullable nofun) (untouched_option fun _ => rfl)))
    (by decide) fun _ => rfl

def ComponentSpec.shape : Shape ComponentSpec :=
  bounded fun s => int32.option.Typed s.replicas ∧ int32.option.Typed s.targetPort

def ComponentStatus.shape : Shape ComponentStatus :=
  ofConditions (·.conditions) (fun s conditions => { s with conditions }) fun _ => rfl

def Component.shape : Shape Component :=
  PlatformObject.shape ComponentSpec.shape ComponentStatus.shape

theorem Component.normal : Component.codec.Normal Component.shape :=
  PlatformObject.normal
    (normal_record (keep_make ComponentSpec.shape ComponentSpec.mk
      |>.and (keep_text fun _ => rfl)
      |>.and (keep_text fun _ => rfl)
      |>.and (keep_defaulted ComponentSource.normal (untouched fun _ => rfl) trivial)
      |>.and (keep_textOrEmpty fun _ => rfl)
      |>.and (keep_textOrEmpty fun _ => rfl)
      |>.and (keep_maybe (normal_int32.nullable nofun)
        ((timeless_bounded _).option.field (fun _ typed => typed.1) fun _ => rfl))
      |>.and (keep_maybe (normal_int32.nullable nofun)
        ((timeless_bounded _).option.field (fun _ typed => typed.2) fun _ => rfl)))
      (by decide) (fun _ _ _ _ _ _ _ _ _ _ _ replicas _ port => ⟨replicas, port⟩) fun _ => rfl)
    ⟨nofun, nofun⟩
    ((normal_record (keep_make ComponentStatus.shape ComponentStatus.mk
      |>.and (keep_conditions fun _ _ => rfl)
      |>.and (keep_textOrEmpty fun _ => rfl))
      (by decide) (fun _ typed _ _ => typed) fun _ => rfl).nullable nofun)

theorem EnvVar.normal : EnvVar.codec.Normal .plain :=
  normal_plainRecord (keep_make .plain EnvVar.mk
    |>.and (keep_text fun _ => rfl)
    |>.and (keep_text fun _ => rfl)) (by decide) fun _ => rfl

theorem DeploymentConfiguration.normal : DeploymentConfiguration.codec.Normal .plain :=
  normal_plainRecord (keep_make .plain DeploymentConfiguration.mk
    |>.and (keep_plainList EnvVar.normal fun _ => rfl))
    (by decide) fun _ => rfl

def DeploymentEnvironment.shape : Shape DeploymentEnvironment :=
  PlatformObject.shape .plain ConditionStatus.shape

theorem DeploymentEnvironment.normal :
    DeploymentEnvironment.codec.Normal DeploymentEnvironment.shape :=
  PlatformObject.normal
    (normal_plainRecord (keep_make .plain EnvironmentSpec.mk
      |>.and (keep_text fun _ => rfl)
      |>.and (keep_text fun _ => rfl)
      |>.and (keep_text fun _ => rfl)
      |>.and (keep_textOrEmpty fun _ => rfl)
      |>.and (keep_plainList normal_text fun _ => rfl)
      |>.and (keep_defaulted DeploymentConfiguration.normal (untouched fun _ => rfl) trivial))
      (by decide) fun _ => rfl)
    trivial (ConditionStatus.normal.nullable nofun)

theorem SnapshotComponent.normal : SnapshotComponent.codec.Normal .plain :=
  normal_plainRecord (keep_make .plain SnapshotComponent.mk
    |>.and (keep_text fun _ => rfl)
    |>.and (keep_text fun _ => rfl)) (by decide) fun _ => rfl

def Snapshot.shape : Shape Snapshot := PlatformObject.shape .plain ConditionStatus.shape

theorem Snapshot.normal : Snapshot.codec.Normal Snapshot.shape :=
  PlatformObject.normal
    (normal_plainRecord (keep_make .plain SnapshotSpec.mk
      |>.and (keep_text fun _ => rfl)
      |>.and (keep_plainList SnapshotComponent.normal fun _ => rfl))
      (by decide) fun _ => rfl)
    trivial (ConditionStatus.normal.nullable nofun)

def BindingStatus.shape : Shape BindingStatus :=
  ofConditions (·.conditions) (fun s conditions => { s with conditions }) fun _ => rfl

def SnapshotBinding.shape : Shape SnapshotBinding :=
  PlatformObject.shape .plain BindingStatus.shape

theorem SnapshotBinding.normal : SnapshotBinding.codec.Normal SnapshotBinding.shape :=
  PlatformObject.normal
    (normal_plainRecord (keep_make .plain BindingSpec.mk
      |>.and (keep_text fun _ => rfl)
      |>.and (keep_text fun _ => rfl)
      |>.and (keep_text fun _ => rfl)) (by decide) fun _ => rfl)
    trivial
    ((normal_record (keep_make BindingStatus.shape BindingStatus.mk
      |>.and (keep_conditions fun _ _ => rfl))
      (by decide) (fun _ typed => typed) fun _ => rfl).nullable nofun)

/-! ## Releases, users and test scenarios -/

def ReleasePlan.shape : Shape ReleasePlan := PlatformObject.shape .plain ConditionStatus.shape

theorem ReleasePlan.normal : ReleasePlan.codec.Normal ReleasePlan.shape :=
  PlatformObject.normal
    (normal_plainRecord (keep_make .plain ReleasePlanSpec.mk
      |>.and (keep_text fun _ => rfl)
      |>.and (keep_text fun _ => rfl)) (by decide) fun _ => rfl)
    trivial (ConditionStatus.normal.nullable nofun)

def ReleaseStatus.shape : Shape ReleaseStatus :=
  ofConditions (·.conditions) (fun s conditions => { s with conditions }) fun _ => rfl

def Release.shape : Shape Release := PlatformObject.shape .plain ReleaseStatus.shape

theorem Release.normal : Release.codec.Normal Release.shape :=
  PlatformObject.normal
    (normal_plainRecord (keep_make .plain ReleaseSpec.mk
      |>.and (keep_text fun _ => rfl)
      |>.and (keep_text fun _ => rfl)) (by decide) fun _ => rfl)
    trivial
    ((normal_record (keep_make ReleaseStatus.shape ReleaseStatus.mk
      |>.and (keep_conditions fun _ _ => rfl)
      |>.and (keep_textOrEmpty fun _ => rfl))
      (by decide) (fun _ typed _ _ => typed) fun _ => rfl).nullable nofun)

def UserSignupStatus.shape : Shape UserSignupStatus :=
  ofConditions (·.conditions) (fun s conditions => { s with conditions }) fun _ => rfl

def UserSignup.shape : Shape UserSignup := PlatformObject.shape .plain UserSignupStatus.shape

theorem UserSignup.normal : UserSignup.codec.Normal UserSignup.shape :=
  PlatformObject.normal
    (normal_plainRecord (keep_make .plain UserSignupSpec.mk
      |>.and (keep_text fun _ => rfl)
      |>.and (keep_text fun _ => rfl)
      |>.and (keep_plainList normal_text fun _ => rfl))
      (by decide) fun _ => rfl)
    trivial
    ((normal_record (keep_make UserSignupStatus.shape UserSignupStatus.mk
      |>.and (keep_conditions fun _ _ => rfl)
      |>.and (keep_textOrEmpty fun _ => rfl))
      (by decide) (fun _ typed _ _ => typed) fun _ => rfl).nullable nofun)

theorem ResolverParam.normal : ResolverParam.codec.Normal .plain :=
  normal_plainRecord (keep_make .plain ResolverParam.mk
    |>.and (keep_text fun _ => rfl)
    |>.and (keep_text fun _ => rfl)) (by decide) fun _ => rfl

theorem ResolverRef.normal : ResolverRef.codec.Normal .plain :=
  normal_plainRecord (keep_make .plain ResolverRef.mk
    |>.and (keep_text fun _ => rfl)
    |>.and (keep_plainList ResolverParam.normal fun _ => rfl))
    (by decide) fun _ => rfl

def TestScenario.shape : Shape TestScenario := PlatformObject.shape .plain ConditionStatus.shape

theorem TestScenario.normal : TestScenario.codec.Normal TestScenario.shape :=
  PlatformObject.normal
    (normal_plainRecord (keep_make .plain ScenarioSpec.mk
      |>.and (keep_text fun _ => rfl)
      |>.and (keep_required ResolverRef.normal (untouched fun _ => rfl))) (by decide) fun _ => rfl)
    trivial (ConditionStatus.normal.nullable nofun)

/-! ## Pipeline runs and task runs -/

def Param.shape : Shape Param := bounded (·.value.InOrder)

theorem Param.normal : Param.codec.Normal Param.shape :=
  normal_record (keep_make Param.shape Param.mk
    |>.and (keep_text fun _ => rfl)
    |>.and (keep_required normal_any
      ((timeless_bounded _).field (fun _ typed => typed) fun _ => rfl)))
    (by decide) (fun _ _ _ ordered => ordered) fun _ => rfl

theorem PipelineRef.normal : PipelineRef.codec.Normal .plain :=
  normal_plainRecord (keep_make .plain PipelineRef.mk
    |>.and (keep_text fun _ => rfl)
    |>.and (keep_textOrEmpty fun _ => rfl)) (by decide) fun _ => rfl

theorem ChildReference.normal : ChildReference.codec.Normal .plain :=
  normal_plainRecord (keep_make .plain ChildReference.mk
    |>.and (keep_text fun _ => rfl)
    |>.and (keep_defaulted normal_text (untouched fun _ => rfl) trivial)
    |>.and (keep_defaulted normal_text (untouched fun _ => rfl) trivial)) (by decide) fun _ => rfl

def TaskRunStatus.shape : Shape TaskRunStatus :=
  ofConditions (·.conditions) (fun s conditions => { s with conditions }) fun _ => rfl

theorem TaskRunStatus.normal : TaskRunStatus.codec.Normal TaskRunStatus.shape :=
  normal_record (keep_make TaskRunStatus.shape TaskRunStatus.mk
    |>.and (keep_conditions fun _ _ => rfl)
    |>.and (keep_textOrEmpty fun _ => rfl)) (by decide) (fun _ typed _ _ => typed) fun _ => rfl

def EmbeddedTaskRun.shape : Shape EmbeddedTaskRun :=
  TaskRunStatus.shape.option.through (·.status) (fun r status => { r with status }) fun _ => rfl

theorem EmbeddedTaskRun.normal : EmbeddedTaskRun.codec.Normal EmbeddedTaskRun.shape :=
  normal_record (keep_make EmbeddedTaskRun.shape EmbeddedTaskRun.mk
    |>.and (keep_text fun _ => rfl)
    |>.and (keep_maybe (TaskRunStatus.normal.nullable nofun) (through_field fun _ _ => rfl)))
    (by decide) (fun _ _ _ typed => typed) fun _ => rfl

namespace PipelineRunStatus

structure Typed (s : PipelineRunStatus) : Prop where
  conditions : Condition.shape.list.Typed s.conditions
  start : timestamp.option.Typed s.startTime
  completion : timestamp.option.Typed s.completionTime
  taskRuns : EmbeddedTaskRun.shape.dictionary.Typed s.taskRuns

def shape : Shape PipelineRunStatus where
  Typed := Typed
  times s := Condition.shape.list.times s.conditions
    ++ (timestamp.option.times s.startTime
      ++ (timestamp.option.times s.completionTime
        ++ EmbeddedTaskRun.shape.dictionary.times s.taskRuns))
  trimmed s := { s with
    conditions := Condition.shape.list.trimmed s.conditions
    startTime := timestamp.option.trimmed s.startTime
    completionTime := timestamp.option.trimmed s.completionTime
    taskRuns := EmbeddedTaskRun.shape.dictionary.trimmed s.taskRuns }
  whole s every := by
    obtain ⟨conditions, others⟩ := List.forall_mem_append.mp every
    obtain ⟨start, others⟩ := List.forall_mem_append.mp others
    obtain ⟨completion, taskRuns⟩ := List.forall_mem_append.mp others
    rw [Condition.shape.list.whole _ conditions, timestamp.option.whole _ start,
      timestamp.option.whole _ completion, EmbeddedTaskRun.shape.dictionary.whole _ taskRuns]

theorem conditions_field : shape.Field Condition.shape.list (·.conditions) :=
  ⟨fun _ typed => typed.conditions, fun _ => List.subset_append_left .., fun _ => rfl⟩

theorem start_field : shape.Field timestamp.option (·.startTime) :=
  ⟨fun _ typed => typed.start, fun _ => List.subset_append_of_subset_right _
    (List.subset_append_left ..), fun _ => rfl⟩

theorem completion_field : shape.Field timestamp.option (·.completionTime) :=
  ⟨fun _ typed => typed.completion, fun _ => List.subset_append_of_subset_right _
    (List.subset_append_of_subset_right _ (List.subset_append_left ..)), fun _ => rfl⟩

theorem taskRuns_field : shape.Field EmbeddedTaskRun.shape.dictionary (·.taskRuns) :=
  ⟨fun _ typed => typed.taskRuns, fun _ => List.subset_append_of_subset_right _
    (List.subset_append_of_subset_right _ (List.subset_append_right ..)), fun _ => rfl⟩

theorem normal : PipelineRunStatus.codec.Normal shape :=
  normal_record (keep_make shape PipelineRunStatus.mk
    |>.and (keep_list Condition.normal conditions_field)
    |>.and (keep_maybe (normal_timestamp.nullable nofun) start_field)
    |>.and (keep_maybe (normal_timestamp.nullable nofun) completion_field)
    |>.and (keep_dictionaryOrEmpty EmbeddedTaskRun.normal taskRuns_field)
    |>.and (keep_listOrEmpty ChildReference.normal (untouched_list fun _ => rfl)))
    (by decide)
    (fun _ conditions _ start _ completion _ runs _ _ => ⟨conditions, start, completion, runs⟩)
    fun _ => rfl

end PipelineRunStatus

def PipelineRunSpec.shape : Shape PipelineRunSpec :=
  bounded fun s => Param.shape.list.Typed s.params

def PipelineRun.shape : Shape PipelineRun :=
  PlatformObject.shape PipelineRunSpec.shape PipelineRunStatus.shape

theorem PipelineRun.normal : PipelineRun.codec.Normal PipelineRun.shape :=
  PlatformObject.normal
    (normal_record (keep_make PipelineRunSpec.shape PipelineRunSpec.mk
      |>.and (keep_maybe (PipelineRef.normal.nullable nofun) (untouched_option fun _ => rfl))
      |>.and (keep_listOrEmpty Param.normal
        ((timeless_bounded _).list.field (fun _ typed => typed) fun _ => rfl)))
      (by decide) (fun _ _ _ typed => typed) fun _ => rfl)
    nofun (PipelineRunStatus.normal.nullable nofun)

def TaskRunSpec.shape : Shape TaskRunSpec := bounded fun s => Param.shape.list.Typed s.params

def TaskRun.shape : Shape TaskRun := PlatformObject.shape TaskRunSpec.shape TaskRunStatus.shape

theorem TaskRun.normal : TaskRun.codec.Normal TaskRun.shape :=
  PlatformObject.normal
    (normal_record (keep_make TaskRunSpec.shape TaskRunSpec.mk
      |>.and (keep_listOrEmpty Param.normal
        ((timeless_bounded _).list.field (fun _ typed => typed) fun _ => rfl)))
      (by decide) (fun _ typed => typed) fun _ => rfl)
    nofun (TaskRunStatus.normal.nullable nofun)

end ClusterHarness
