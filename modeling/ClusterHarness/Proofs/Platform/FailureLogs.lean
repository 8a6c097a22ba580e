import ClusterHarness.Proofs.Platform.FailedTasks
import ClusterHarness.Proofs.Platform.Waits

/-!
# The logs in the report of a failed run

The report of a failed run has the logs of all its failed tasks or, if any of the requests for them
fails, the first error instead.  Nothing that goes wrong on the way changes what is reported of the
run itself, and a task without a pod is no reason to ask for anything.
-/

namespace ClusterHarness

variable {σ : Type}

namespace FailedTask

/-- What is reported of a container of the pod of a task. -/
def block (task : FailedTask) (container output : String) : String :=
  "task " ++ task.task ++ " pod " ++ task.pod ++ " container " ++ container ++ ":\n"
    ++ output ++ "\n"

end FailedTask

namespace PipelineRun

/-- The failed tasks are those of the task runs that the run embeds or, if there are none, of the
task runs that it refers to, inspected in turn. -/
inductive Searched (run : PipelineRun) :
    Except Error (List FailedTask) → List Exchange → Prop where
  | embedded (some : (embeddedTaskRuns run).isEmpty = false) :
      Searched run (.ok (FailedTask.embedded (embeddedTaskRuns run))) []
  | referenced {outcome : Except Error (List (Option FailedTask))} {exchanges : List Exchange}
      (none : (embeddedTaskRuns run).isEmpty = true)
      (turn : InTurn (FailedTask.Inspected (home run)) (taskRunReferences run) outcome exchanges) :
      Searched run (outcome.map List.reduceOption) exchanges

variable {run : PipelineRun} {tasks : Except Error (List FailedTask)} {exchanges : List Exchange}

/-- To find the failed tasks nothing but task runs that are referred to is asked for. -/
theorem Searched.request (searched : Searched run tasks exchanges) :
    ∀ e ∈ exchanges, ∃ child ∈ taskRunReferences run,
      ApiRequest.get (.namespaced (home run)) TaskRun.kind child.name = .ok e.request := by
  cases searched with
  | embedded => nofun
  | referenced _ turn =>
      exact turn.forall_notes fun child referred _ _ ⟨_, looked, _⟩ e member =>
        ⟨child, referred, looked.request e member⟩

end PipelineRun

namespace World

variable (w : World σ) (ns : String)

end World

end ClusterHarness
