import ClusterHarness.Resource.Basic

/-!
# Pipeline runs and task runs

A run is judged by the first of its conditions of type `Succeeded`.
-/

namespace ClusterHarness

open Parts

structure Param where
  name : String
  value : Json

structure PipelineRef where
  name : String
  bundle : String := ""

structure PipelineRunSpec where
  pipelineRef : Option PipelineRef := none
  params : List Param := []

structure TaskRunStatus where
  conditions : List Condition
  podName : String

structure EmbeddedTaskRun where
  pipelineTaskName : String
  status : Option TaskRunStatus

structure ChildReference where
  name : String
  kind : String
  pipelineTaskName : String

structure PipelineRunStatus where
  conditions : List Condition
  startTime : Option Timestamp
  completionTime : Option Timestamp
  taskRuns : Dictionary EmbeddedTaskRun
  childReferences : List ChildReference

structure TaskRunSpec where
  params : List Param

abbrev PipelineRun := PlatformObject PipelineRunSpec PipelineRunStatus

abbrev TaskRun := PlatformObject TaskRunSpec TaskRunStatus

def Param.codec : Codec Param := Codec.record <|
  make Param.mk
  |>.and (required "name" Codec.text (·.name))
  |>.and (required "value" Codec.any (·.value))

def PipelineRef.codec : Codec PipelineRef := Codec.record <|
  make PipelineRef.mk
  |>.and (required "name" Codec.text (·.name))
  |>.and (textOrEmpty "bundle" (·.bundle))

def TaskRunStatus.codec : Codec TaskRunStatus := Codec.record <|
  make TaskRunStatus.mk
  |>.and (defaulted "conditions" Condition.codec.list [] (·.conditions))
  |>.and (textOrEmpty "podName" (·.podName))

def EmbeddedTaskRun.codec : Codec EmbeddedTaskRun := Codec.record <|
  make EmbeddedTaskRun.mk
  |>.and (required "pipelineTaskName" Codec.text (·.pipelineTaskName))
  |>.and (maybe "status" TaskRunStatus.codec (·.status))

def ChildReference.codec : Codec ChildReference := Codec.record <|
  make ChildReference.mk
  |>.and (required "name" Codec.text (·.name))
  |>.and (defaulted "kind" Codec.text "" (·.kind))
  |>.and (defaulted "pipelineTaskName" Codec.text "" (·.pipelineTaskName))

def PipelineRunStatus.codec : Codec PipelineRunStatus := Codec.record <|
  make PipelineRunStatus.mk
  |>.and (defaulted "conditions" Condition.codec.list [] (·.conditions))
  |>.and (maybe "startTime" Codec.timestamp (·.startTime))
  |>.and (maybe "completionTime" Codec.timestamp (·.completionTime))
  |>.and (optional "taskRuns" EmbeddedTaskRun.codec.dictionary Dictionary.empty
    Dictionary.isEmpty (·.taskRuns))
  |>.and (optional "childReferences" ChildReference.codec.list [] List.isEmpty
    (·.childReferences))

def succeededType : String := "Succeeded"

namespace PipelineRun

def kind : Kind := ⟨"PipelineRun", "tekton.dev", "v1beta1", "pipelineruns"⟩

def codec : Codec PipelineRun :=
  PlatformObject.codec
    (Codec.record <| make PipelineRunSpec.mk
      |>.and (maybe "pipelineRef" PipelineRef.codec (·.pipelineRef))
      |>.and (optional "params" Param.codec.list [] List.isEmpty (·.params)))
    {}
    PipelineRunStatus.codec

def conditions (run : PipelineRun) : List Condition := conditionsOf (·.conditions) run.status

def verdict? (run : PipelineRun) : Option Condition :=
  Condition.find? (conditions run) succeededType

def started (run : PipelineRun) : Bool := run.status.any (·.startTime.isSome)

/-- Finished, successfully or not. -/
def done (run : PipelineRun) : Bool := (verdict? run).any fun c => !c.isUnknown

def succeeded (run : PipelineRun) : Bool := (verdict? run).any Condition.isTrue

def failedReason (run : PipelineRun) : Option String :=
  ((verdict? run).filter Condition.isFalse).map (·.reason)

def name (run : PipelineRun) : String := run.metadata.name.getD ""

/-- Namespace and name, as releases refer to runs. -/
def reference (run : PipelineRun) : String :=
  run.metadata.namespace_.getD "" ++ "/" ++ name run

structure Summary where
  name : String
  status : String
  reason : String
  started : Bool
  deriving DecidableEq, Repr

def summary (run : PipelineRun) : Summary where
  name := name run
  status := ((verdict? run).map (·.status)).getD "Unknown"
  reason := ((verdict? run).map (·.reason)).getD ""
  started := started run

def Summary.text (s : Summary) : String :=
  "pipelinerun " ++ s.name ++ (if s.started then " started" else " not started")
    ++ ", succeeded=" ++ s.status
    ++ (if s.reason = "" then "" else " (" ++ s.reason ++ ")")

end PipelineRun

instance : HasKind PipelineRun := ⟨PipelineRun.kind, PipelineRun.codec, (·.metadata)⟩

namespace TaskRunStatus

def failed (status : TaskRunStatus) : Bool :=
  (Condition.find? status.conditions succeededType).any Condition.isFalse

end TaskRunStatus

namespace TaskRun

def kind : Kind := ⟨"TaskRun", "tekton.dev", "v1beta1", "taskruns"⟩

def codec : Codec TaskRun :=
  PlatformObject.codec
    (Codec.record <| make TaskRunSpec.mk
      |>.and (optional "params" Param.codec.list [] List.isEmpty (·.params)))
    ⟨[]⟩
    TaskRunStatus.codec

def podExists (run : TaskRun) : Bool := run.status.any fun s => s.podName ≠ ""

end TaskRun

instance : HasKind TaskRun := ⟨TaskRun.kind, TaskRun.codec, (·.metadata)⟩

end ClusterHarness
