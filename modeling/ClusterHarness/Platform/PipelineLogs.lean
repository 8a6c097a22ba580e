import ClusterHarness.Platform.Pods
import ClusterHarness.Resource.Pipeline

/-!
# What made a pipeline fail

The failed tasks of a run are found in the task runs it embeds or, if it embeds none, by looking
up those it refers to.  The report of a failed run carries the logs of all of them, or the error
that kept them from being collected.
-/

namespace ClusterHarness

variable {σ : Type}

/-- A task that failed, with its pod if it got one. -/
structure FailedTask where
  task : String
  pod : String
  deriving DecidableEq, Repr

namespace FailedTask

def of? (task : String) (status : Option TaskRunStatus) : Option FailedTask :=
  (status.filter TaskRunStatus.failed).map fun s => ⟨task, s.podName⟩

def embedded (taskRuns : Dictionary EmbeddedTaskRun) : List FailedTask :=
  taskRuns.entries.filterMap fun e => of? e.2.pipelineTaskName e.2.status

end FailedTask

def ChildReference.isTaskRun (child : ChildReference) : Bool :=
  child.kind == "" || child.kind == "TaskRun"

namespace World

variable (w : World σ)

def failedChildren (ns : String) : List ChildReference → Session σ (List FailedTask)
  | [] => return []
  | child :: rest => do
    let run ← w.get TaskRun ns child.name
    let failed ← failedChildren ns rest
    return (FailedTask.of? child.pipelineTaskName run.status).toList ++ failed

def failedTasks (run : PipelineRun) : Session σ (List FailedTask) :=
  match run.status with
  | none => return []
  | some status =>
    if status.taskRuns.isEmpty then
      w.failedChildren (run.metadata.namespace_.getD "")
        (status.childReferences.filter ChildReference.isTaskRun)
    else return FailedTask.embedded status.taskRuns

def containersLogs (ns : String) (task : FailedTask) : List String → Session σ String
  | [] => return ""
  | container :: rest => do
    let output ← w.containerLogs ns task.pod container
    let others ← containersLogs ns task rest
    return "task " ++ task.task ++ " pod " ++ task.pod ++ " container " ++ container ++ ":\n"
      ++ output ++ "\n" ++ others

def taskLogs (ns : String) (task : FailedTask) : Session σ String :=
  if task.pod = "" then
    return "task " ++ task.task ++ " failed before a pod was scheduled\n"
  else do
    let pod ← w.get Pod ns task.pod
    w.containersLogs ns task pod.containers

def tasksLogs (ns : String) : List FailedTask → Session σ String
  | [] => return ""
  | task :: rest => do
    let logs ← w.taskLogs ns task
    let others ← tasksLogs ns rest
    return logs ++ others

def failedPipelineLogs (run : PipelineRun) : Session σ String := do
  let tasks ← w.failedTasks run
  w.tasksLogs (run.metadata.namespace_.getD "") tasks

def pipelineFailure (run : PipelineRun) : StateM σ Error := do
  let summary := PipelineRun.summary run
  let logs ← match ← (w.failedPipelineLogs run).attempt with
    | .ok logs => pure logs
    | .error error => pure ("logs unavailable: " ++ error.message)
  return .pipelineFailed summary.name summary.reason logs

end World

end ClusterHarness
