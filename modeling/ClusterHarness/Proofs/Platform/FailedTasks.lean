import ClusterHarness.Platform.PipelineLogs
import ClusterHarness.Proofs.Cluster.Inquiries
import ClusterHarness.Proofs.Json.Sorted
import ClusterHarness.Proofs.Json.Texts
import ClusterHarness.Proofs.Text.Utf8
import ClusterHarness.Rehearsal.Cluster

/-!
# Two ways to find failed tasks

The failed tasks of a run are known from the task runs that it embeds, or else by looking up the
task runs that it refers to.  Where the server shows the same task runs both ways find the same
tasks; only the second one depends on the server, and it fails with the first look-up that does.
-/

namespace ClusterHarness

variable {σ : Type}

/-! ## What a run says of its task runs -/

namespace PipelineRun

/-- The namespace of the run and of the runs that it refers to. -/
def home (run : PipelineRun) : String := run.metadata.namespace_.getD ""

def embeddedTaskRuns (run : PipelineRun) : Dictionary EmbeddedTaskRun :=
  (run.status.map (·.taskRuns)).getD Dictionary.empty

def taskRunReferences (run : PipelineRun) : List ChildReference :=
  ((run.status.map (·.childReferences)).getD []).filter ChildReference.isTaskRun

end PipelineRun

def ChildReference.subject (child : ChildReference) : String × String :=
  (child.name, child.pipelineTaskName)

def subjects (taskRuns : Dictionary EmbeddedTaskRun) : List (String × String) :=
  taskRuns.entries.map fun e => (e.1, e.2.pipelineTaskName)

namespace PipelineRun

/-- The run embeds the task runs; if there are none, it does not refer to any either. -/
def Embeds (run : PipelineRun) (taskRuns : Dictionary EmbeddedTaskRun) : Prop :=
  embeddedTaskRuns run = taskRuns ∧ (taskRuns.isEmpty = true → taskRunReferences run = [])

/-- The run embeds no task runs and refers to these, to each of them once and in any order. -/
def Lists (run : PipelineRun) (taskRuns : Dictionary EmbeddedTaskRun) : Prop :=
  (embeddedTaskRuns run).isEmpty = true ∧
    ((taskRunReferences run).map ChildReference.subject).Perm (subjects taskRuns)

end PipelineRun

namespace FailedTask

def among (taskRuns : Dictionary EmbeddedTaskRun) (subject : String × String) :
    Option FailedTask :=
  (taskRuns.get? subject.1).bind fun taskRun => of? subject.2 taskRun.status

theorem filterMap_among_subjects (taskRuns : Dictionary EmbeddedTaskRun) :
    (subjects taskRuns).filterMap (among taskRuns) = embedded taskRuns := by
  rw [subjects, List.filterMap_map]
  refine List.filterMap_congr fun e member => ?_
  dsimp only [Function.comp_apply, among]
  rw [taskRuns.get?_of_mem member, Option.bind_some]

/-- A task run that is referred to is looked up, and tells whether its task failed. -/
def Inspected (ns : String) (child : ChildReference) (result : Except Error (Option FailedTask))
    (exchanges : List Exchange) : Prop :=
  ∃ looked : Except Error TaskRun, LookedUp ns child.name looked exchanges ∧
    result = looked.map fun taskRun => of? child.pipelineTaskName taskRun.status

end FailedTask

/-- The server shows each of the task runs, whenever it is asked for, with the status given. -/
def World.Serves (w : World σ) (ns : String) (taskRuns : Dictionary EmbeddedTaskRun) : Prop :=
  ∀ e ∈ taskRuns.entries, ∃ request, ∀ s, ∃ taskRun : TaskRun,
    Exchange.Shows ⟨request, (w.send request s).1⟩
      (ApiRequest.get (.namespaced ns) TaskRun.kind e.1) taskRun ∧
    taskRun.status = e.2.status

namespace World

variable (w : World σ)

theorem failedTasks_eq (run : PipelineRun) :
    w.failedTasks run =
      if (PipelineRun.embeddedTaskRuns run).isEmpty then
        w.failedChildren (PipelineRun.home run) (PipelineRun.taskRunReferences run)
      else return FailedTask.embedded (PipelineRun.embeddedTaskRuns run) := by
  obtain ⟨_, _, _, _, _ | status⟩ := run <;> rfl

def inspect (ns : String) (child : ChildReference) : Session σ (Option FailedTask) :=
  (fun taskRun => FailedTask.of? child.pipelineTaskName taskRun.status) <$>
    w.get TaskRun ns child.name

theorem failedChildren_cons (ns : String) (child : ChildReference) (rest : List ChildReference) :
    w.failedChildren ns (child :: rest) =
      w.inspect ns child >>= fun failed => (failed.toList ++ ·) <$> w.failedChildren ns rest := by
  simp only [failedChildren, inspect, map_eq_pure_bind, bind_assoc, pure_bind]

/-! ## Any server -/

theorem yields_inspect (ns : String) (child : ChildReference) :
    Yields (w.journaled.inspect ns child) (FailedTask.Inspected ns child) :=
  (w.yields_get ns child.name).map fun looked _ known => ⟨looked, known, rfl⟩

theorem yields_failedChildren (ns : String) (children : List ChildReference) :
    Yields (w.journaled.failedChildren ns children) fun result exchanges =>
      ∃ outcome, InTurn (FailedTask.Inspected ns) children outcome exchanges ∧
        result = outcome.map List.reduceOption :=
  yields_inTurn (fun failed others => by cases failed <;> rfl) rfl
    (w.journaled.failedChildren_cons ns) (w.yields_inspect ns) children

/-! ## A server that shows the task runs -/

variable {w} {ns : String} {taskRuns : Dictionary EmbeddedTaskRun}

theorem Serves.journaled (serves : w.Serves ns taskRuns) : w.journaled.Serves ns taskRuns := by
  intro e member
  obtain ⟨request, shows⟩ := serves e member
  exact ⟨request, fun s => shows s.1⟩

/-- Inspecting a task run that the server shows tells whether its task failed. -/
theorem Serves.inspect_run (serves : w.Serves ns taskRuns) {child : ChildReference}
    (listed : child.subject ∈ subjects taskRuns) (s : σ) :
    ∃ t, (w.inspect ns child).run s = (.ok (FailedTask.among taskRuns child.subject), t) := by
  obtain ⟨e, member, same⟩ := List.mem_map.mp listed
  obtain ⟨request, shows⟩ := serves e member
  obtain ⟨taskRun, shown, status⟩ := shows s
  have name : e.1 = child.name := congrArg Prod.fst same
  have found : FailedTask.among taskRuns child.subject =
      FailedTask.of? child.pipelineTaskName taskRun.status := by
    rw [FailedTask.among, ← same, taskRuns.get?_of_mem member, Option.bind_some, status, same]
    rfl
  have looked : (w.get TaskRun ns child.name).run s = (.ok taskRun, (w.send request s).2) :=
    w.get_run_of_shows ns child.name (name ▸ shown)
  refine ⟨(w.send request s).2, ?_⟩
  rw [found, inspect, exceptT_run_map, looked]
  rfl

/-- From task run to task run, the failed tasks among those that are referred to are found. -/
theorem Serves.failedChildren_run (serves : w.Serves ns taskRuns) {children : List ChildReference}
    (listed : ∀ child ∈ children, child.subject ∈ subjects taskRuns) (s : σ) :
    ∃ t, (w.failedChildren ns children).run s =
      (.ok ((children.map ChildReference.subject).filterMap (FailedTask.among taskRuns)), t) := by
  -- Each look-up starts in the state the one before has left, so the state is not fixed.
  induction children generalizing s with
  | nil => exact ⟨s, rfl⟩
  | cons child rest ih =>
      obtain ⟨here, others⟩ := List.forall_mem_cons.mp listed
      obtain ⟨t, inspected⟩ := serves.inspect_run here s
      obtain ⟨u, ran⟩ := ih others t
      refine ⟨u, ?_⟩
      rw [failedChildren_cons, exceptT_run_bind, inspected]
      dsimp only
      rw [exceptT_run_map, ran, List.map_cons, List.filterMap_cons]
      cases FailedTask.among taskRuns child.subject <;> rfl

/-- A run that embeds task runs is no reason to ask for anything. -/
theorem failedTasks_run_of_embeds (w : World σ) {run : PipelineRun}
    (embeds : PipelineRun.Embeds run taskRuns) (s : σ) :
    (w.failedTasks run).run s = (.ok (FailedTask.embedded taskRuns), s) := by
  obtain ⟨embedded, unlisted⟩ := embeds
  rw [failedTasks_eq, embedded]
  cases empty : taskRuns.isEmpty with
  | false => rfl
  | true =>
      -- The references are gone through as if nothing were embedded, but there are none.
      have none : taskRuns.entries = [] := List.isEmpty_iff.mp empty
      rw [unlisted empty, FailedTask.embedded, none]
      rfl

end World

namespace PipelineRun

variable {run : PipelineRun} {taskRuns : Dictionary EmbeddedTaskRun}

/-- References in the order of their names are in the order of the task runs. -/
theorem Lists.subjects_eq (lists : Lists run taskRuns)
    (ascending : ((taskRunReferences run).map (·.name)).Pairwise (· < ·)) :
    (taskRunReferences run).map ChildReference.subject = subjects taskRuns := by
  have listed : ((taskRunReferences run).map ChildReference.subject).Pairwise
      fun a b => a.1 < b.1 := List.pairwise_map.mpr (List.pairwise_map.mp ascending)
  have given : (subjects taskRuns).Pairwise fun a b => a.1 < b.1 :=
    List.pairwise_map.mpr taskRuns.ordered
  exact lists.2.eq_of_pairwise
    (fun a b _ _ below above => absurd above (String.lt_asymm below)) listed given

end PipelineRun

/-- Both ways to find failed tasks agree.  A run that embeds task runs gives the failed ones without
a request.  For a run that refers to them, a server that shows them gives the same, in the same
order if the references are in the order of the names.  With any other server each task run is
looked up in turn, and nothing is found unless all these look-ups succeed. -/
theorem World.failedTasks_agree (w : World σ) {taskRuns : Dictionary EmbeddedTaskRun}
    {embedding listing : PipelineRun} (embeds : PipelineRun.Embeds embedding taskRuns)
    (lists : PipelineRun.Lists listing taskRuns) :
    (∀ s, (w.journaled.failedTasks embedding).run s = (.ok (FailedTask.embedded taskRuns), s)) ∧
    (w.Serves (PipelineRun.home listing) taskRuns → ∀ s, ∃ tasks t,
      (w.journaled.failedTasks listing).run s = (.ok tasks, t) ∧
      tasks.Perm (FailedTask.embedded taskRuns) ∧
      (((PipelineRun.taskRunReferences listing).map (·.name)).Pairwise (· < ·) →
        tasks = FailedTask.embedded taskRuns)) ∧
    Yields (w.journaled.failedTasks listing) fun result exchanges =>
      ∃ outcome, InTurn (FailedTask.Inspected (PipelineRun.home listing))
          (PipelineRun.taskRunReferences listing) outcome exchanges ∧
        result = outcome.map List.reduceOption := by
  refine ⟨w.journaled.failedTasks_run_of_embeds embeds, fun serves s => ?_, ?_⟩
  · obtain ⟨t, ran⟩ := serves.journaled.failedChildren_run (fun child member =>
      lists.2.mem_iff.mp (List.mem_map_of_mem member)) s
    refine ⟨_, t, by rw [failedTasks_eq, if_pos lists.1, ran], ?_, fun ascending => ?_⟩
    · rw [← FailedTask.filterMap_among_subjects]
      exact lists.2.filterMap _
    · rw [lists.subjects_eq ascending, FailedTask.filterMap_among_subjects]
  · rw [failedTasks_eq, if_pos lists.1]
    exact w.yields_failedChildren _ _

namespace Rehearsal

def showcase (documents : List (String × Json)) : World Unit where
  toClocked := clocked (fun _ => 0) fun _ s => s
  today _ := ⟨⟨2023, 3, 1⟩, 0, 0, 0⟩
  random s := (numbers 0, s)
  send request s :=
    match documents.find? (·.1 == request.target.path) with
    | some document => (.answer 200 (Utf8.encode (Json.compact document.2)), s)
    | none => (.answer 404 [], s)

theorem showcase_shows {α : Type} [HasKind α] {documents : List (String × Json)}
    {document : String × Json} {made : Except CallError ApiRequest} {request : ApiRequest}
    {object : α} (asked : made = .ok request)
    (held : documents.find? (·.1 == request.target.path) = some document)
    (exact_ : Json.Exact 127 document.2) (read : HasKind.codec.read document.2 = some object)
    (s : Unit) : Exchange.Shows ⟨request, ((showcase documents).send request s).1⟩ made object := by
  have answered : ((showcase documents).send request s).1.text = .ok (Json.compact document.2) := by
    unfold showcase
    dsimp only
    rw [held]
    dsimp only [ApiReply.text, Http.accept]
    rw [Utf8.decode_encode]
    rfl
  refine ⟨asked, ?_⟩
  rw [answered]
  show parsed HasKind.codec (Json.compact document.2) = _
  rw [parsed, Json.parse?_compact exact_, Option.bind_some, read]

def failedStatus (pod : String) : TaskRunStatus :=
  ⟨[⟨"Succeeded", "False", "Failed", "", none, none⟩], pod⟩

/-- Of two task runs one has failed and the other one has not been started. -/
def twoTaskRuns : Dictionary EmbeddedTaskRun :=
  .ofList [("b-run", ⟨"test", none⟩), ("a-run", ⟨"build", some (failedStatus "a-pod")⟩)]

def twoTaskRunsServer : World Unit :=
  showcase [
    ("/apis/tekton.dev/v1beta1/namespaces/e2e/taskruns/a-run", .obj [("status", .obj [
      ("conditions", .arr [.obj [
        ("type", .str "Succeeded"), ("status", .str "False"), ("reason", .str "Failed")]]),
      ("podName", .str "a-pod")])]),
    ("/apis/tekton.dev/v1beta1/namespaces/e2e/taskruns/b-run", .obj [])]

def pipelineRunOf (taskRuns : Dictionary EmbeddedTaskRun) (children : List ChildReference) :
    PipelineRun where
  apiVersion := ""
  kind := ""
  metadata := { namespace_ := some "e2e" }
  spec := {}
  status := some ⟨[], none, none, taskRuns, children⟩

/-- The references to the two task runs, and one to a run of another kind between them. -/
def twoReferences : List ChildReference :=
  [⟨"a-run", "", "build"⟩, ⟨"approval", "CustomRun", "approve"⟩, ⟨"b-run", "TaskRun", "test"⟩]

theorem twoTaskRunsServer_serves : twoTaskRunsServer.Serves "e2e" twoTaskRuns := by
  have entries : twoTaskRuns.entries =
      [("a-run", ⟨"build", some (failedStatus "a-pod")⟩), ("b-run", ⟨"test", none⟩)] := rfl
  rw [World.Serves, entries]
  refine List.forall_mem_cons.mpr ⟨⟨_, fun s => ⟨_, showcase_shows rfl rfl ?_ rfl s, rfl⟩⟩,
    List.forall_mem_singleton.mpr ⟨_, fun s => ⟨_, showcase_shows rfl rfl ?_ rfl s, rfl⟩⟩⟩
  · simp
  · simp

theorem twoTaskRuns_agree : ∃ t,
    (twoTaskRunsServer.journaled.failedTasks (pipelineRunOf twoTaskRuns [])).run ((), []) =
      (.ok [⟨"build", "a-pod"⟩], ((), [])) ∧
    (twoTaskRunsServer.journaled.failedTasks
      (pipelineRunOf .empty twoReferences)).run ((), []) = (.ok [⟨"build", "a-pod"⟩], t) := by
  have embeds : PipelineRun.Embeds (pipelineRunOf twoTaskRuns []) twoTaskRuns := ⟨rfl, fun _ => rfl⟩
  have lists : PipelineRun.Lists (pipelineRunOf .empty twoReferences) twoTaskRuns :=
    ⟨rfl, .refl _⟩
  obtain ⟨first, second, _⟩ := twoTaskRunsServer.failedTasks_agree embeds lists
  obtain ⟨tasks, t, found, _, same⟩ := second twoTaskRunsServer_serves ((), [])
  rw [same (by decide)] at found
  exact ⟨t, first _, found⟩

end Rehearsal

end ClusterHarness
