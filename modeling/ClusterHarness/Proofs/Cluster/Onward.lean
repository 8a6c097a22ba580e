import ClusterHarness.Platform.PipelineLogs
import ClusterHarness.Platform.Sandbox
import ClusterHarness.Proofs.Polling.Watch

/-!
# From request to request

A session of look-ups touches the world by its requests alone.  A relation between states that is
reflexive and transitive and holds across each request therefore holds across the whole session,
such as that the clock is not set back.  A session that waits also draws the lengths of its pauses
and lets time pass, so it is enough that the relation holds across these too.
-/

namespace ClusterHarness

variable {σ α β ε : Type}

/-- From every state a computation leads to one that is related to it. -/
def Leads (R : σ → σ → Prop) (act : StateM σ α) : Prop := ∀ s, R s (act s).2

namespace World

/-- A relation of earlier to later states that holds across each request. -/
structure Onward (w : World σ) (R : σ → σ → Prop) : Prop where
  refl : ∀ s, R s s
  trans : ∀ {s t u}, R s t → R t u → R s u
  send : ∀ request s, R s (w.send request s).2

namespace Onward

variable {w : World σ} {R : σ → σ → Prop} (onward : w.Onward R)
include onward

/-! ## Computations in turn -/

theorem leads_pure (value : α) : Leads R (pure value) := fun s => onward.refl s

theorem leads_bind {first : StateM σ α} {second : α → StateM σ β} (head : Leads R first)
    (tail : ∀ value, Leads R (second value)) : Leads R (first >>= second) := fun s =>
  onward.trans (head s) (tail (first s).1 (first s).2)

theorem leads_run_pure (value : α) : Leads R (pure value : ExceptT ε (StateM σ) α).run :=
  fun s => onward.refl s

theorem leads_run_throw (cause : ε) : Leads R (throw cause : ExceptT ε (StateM σ) α).run :=
  fun s => onward.refl s

theorem leads_run_bind {first : ExceptT ε (StateM σ) α} {second : α → ExceptT ε (StateM σ) β}
    (head : Leads R first.run) (tail : ∀ value, Leads R (second value).run) :
    Leads R (first >>= second).run := by
  rw [ExceptT.run_bind]
  refine onward.leads_bind head fun outcome => ?_
  cases outcome with
  | ok value => exact tail value
  | error cause => exact onward.leads_pure _

/-! ## Calls -/

theorem leads_exchange (request : ApiRequest) : Leads R (w.exchange request).run := by
  intro s
  have sent := onward.send request s
  unfold exchange
  rw [ExceptT.run_mk]
  cases reply : w.send request s with
  | mk answer rest =>
      rw [reply] at sent
      cases answer <;> exact sent

theorem leads_textOf (request : Except CallError ApiRequest) : Leads R (w.textOf request).run := by
  unfold textOf
  refine onward.leads_run_bind (onward.leads_pure _) fun request => ?_
  refine onward.leads_run_bind (onward.leads_exchange request) fun answer => ?_
  exact onward.leads_pure _

theorem leads_during (action : Action) {call : Call σ α} (head : Leads R call.run) :
    Leads R (Session.during action call).run :=
  onward.leads_bind head fun _ => onward.leads_pure _

section Objects

variable [HasKind α]

theorem leads_objectOf (request : Except CallError ApiRequest) :
    Leads R (w.objectOf (α := α) request).run :=
  onward.leads_run_bind (onward.leads_textOf request) fun _ => onward.leads_pure _

theorem leads_listOf (request : Except CallError ApiRequest) :
    Leads R (w.listOf (α := α) request).run := by
  unfold listOf
  refine onward.leads_run_bind (onward.leads_textOf request) fun text => ?_
  refine onward.leads_run_bind (onward.leads_pure _) fun list => ?_
  exact onward.leads_run_pure _

theorem leads_lookUp (request : Except CallError ApiRequest) :
    Leads R (w.lookUp (α := α) request).run := by
  unfold lookUp
  refine onward.leads_bind (onward.leads_objectOf request) fun outcome => ?_
  split
  · exact onward.leads_pure _
  · split <;> exact onward.leads_pure _
  · exact onward.leads_pure _

theorem leads_getOpt (ns name : String) : Leads R (w.getOpt α ns name).run :=
  onward.leads_during _ (onward.leads_lookUp _)

theorem leads_get (ns name : String) : Leads R (w.get α ns name).run := by
  unfold get
  refine onward.leads_run_bind (onward.leads_getOpt ns name) fun found => ?_
  cases found with
  | some object => exact onward.leads_run_pure object
  | none => exact onward.leads_run_throw _

theorem leads_list (ns : String) (labels : List (String × String)) :
    Leads R (w.list α ns labels).run :=
  onward.leads_during _ (onward.leads_listOf _)

end Objects

/-! ## What made a pipeline fail -/

theorem leads_containerLogs (ns pod container : String) :
    Leads R (w.containerLogs ns pod container).run :=
  onward.leads_during _ (onward.leads_textOf _)

theorem leads_containersLogs (ns : String) (task : FailedTask) (containers : List String) :
    Leads R (w.containersLogs ns task containers).run := by
  induction containers with
  | nil => exact onward.leads_run_pure _
  | cons container rest ih =>
      rw [containersLogs]
      refine onward.leads_run_bind (onward.leads_containerLogs ns task.pod container) fun _ => ?_
      exact onward.leads_run_bind ih fun _ => onward.leads_run_pure _

theorem leads_taskLogs (ns : String) (task : FailedTask) : Leads R (w.taskLogs ns task).run := by
  unfold taskLogs
  split
  · exact onward.leads_run_pure _
  · exact onward.leads_run_bind (onward.leads_get ns task.pod) fun pod =>
      onward.leads_containersLogs ns task pod.containers

theorem leads_tasksLogs (ns : String) (tasks : List FailedTask) :
    Leads R (w.tasksLogs ns tasks).run := by
  induction tasks with
  | nil => exact onward.leads_run_pure _
  | cons task rest ih =>
      rw [tasksLogs]
      refine onward.leads_run_bind (onward.leads_taskLogs ns task) fun _ => ?_
      exact onward.leads_run_bind ih fun _ => onward.leads_run_pure _

theorem leads_failedChildren (ns : String) (children : List ChildReference) :
    Leads R (w.failedChildren ns children).run := by
  induction children with
  | nil => exact onward.leads_run_pure _
  | cons child rest ih =>
      rw [failedChildren]
      refine onward.leads_run_bind (onward.leads_get ns child.name) fun _ => ?_
      exact onward.leads_run_bind ih fun _ => onward.leads_run_pure _

theorem leads_failedTasks (run : PipelineRun) : Leads R (w.failedTasks run).run := by
  unfold failedTasks
  split
  · exact onward.leads_run_pure _
  · split
    · exact onward.leads_failedChildren _ _
    · exact onward.leads_run_pure _

theorem leads_pipelineFailure (run : PipelineRun) : Leads R (w.pipelineFailure run) := by
  have logs : Leads R (w.failedPipelineLogs run).run :=
    onward.leads_run_bind (onward.leads_failedTasks run) fun tasks =>
      onward.leads_tasksLogs _ tasks
  unfold pipelineFailure
  refine onward.leads_bind logs fun outcome => ?_
  cases outcome <;> exact onward.leads_bind (onward.leads_pure _) fun _ => onward.leads_pure _

end Onward

/-! ## Waits -/

/-- A relation of earlier to later states that holds while time passes: across sleeps and draws of
numbers. -/
structure InTime (w : World σ) (R : σ → σ → Prop) : Prop where
  refl : ∀ s, R s s
  trans : ∀ {s t u}, R s t → R t u → R s u
  draw : ∀ s, R s (w.draw s).2
  sleepUntil : ∀ at_ s, R s (w.sleepUntil at_ s)

namespace InTime

variable {w : World σ} {R : σ → σ → Prop} (inTime : w.InTime R)
include inTime

theorem pause (spec : Polling.Spec) (deadline : Option Nat) (s : String × σ) :
    R s.2 (w.withText.pause spec deadline s).2 :=
  inTime.trans (inTime.draw s.2) (inTime.sleepUntil _ _)

theorem rounds {condition : String × σ → Polling.Check ε × (String × σ)}
    (evaluation : ∀ s, R s.2 (condition s).2.2) (spec : Polling.Spec) (start : Nat)
    (deadline : Option Nat) (count : Nat) (s : String × σ) :
    R s.2 (w.withText.rounds spec start deadline condition count s).2.2 := by
  induction count generalizing s with
  | zero => exact inTime.refl s.2
  | succ count ih =>
      rw [Polling.Clocked.rounds]
      dsimp only
      split
      · exact evaluation s
      · exact inTime.trans (evaluation s) (inTime.trans (inTime.pause spec deadline _) (ih _))

theorem leads_watch {condition : StateM σ (Polling.Finding ε)} (evaluation : Leads R condition)
    (spec : Polling.Spec) : Leads R (Polling.watch w.toClocked spec condition) := by
  intro s
  have each : ∀ state : String × σ, R state.2 (condition state.2).2 := fun state =>
    evaluation state.2
  unfold Polling.watch Polling.Clocked.poll
  dsimp only
  split
  · exact inTime.rounds each spec _ _ _ ("", s)
  · exact inTime.trans (inTime.pause spec _ ("", s)) (inTime.rounds each spec _ _ _ _)

theorem leads_waitFor {condition : StateM σ (Polling.Finding Error)}
    (evaluation : Leads R condition) (what : String) (spec : Polling.Spec) :
    Leads R (w.waitFor what spec condition).run := by
  intro s
  have watched := inTime.leads_watch evaluation spec s
  unfold waitFor
  rw [ExceptT.run_mk]
  revert watched
  generalize Polling.watch w.toClocked spec condition s = ended
  obtain ⟨_ | ⟨_ | _ | _, _⟩, t⟩ := ended <;> exact id

end InTime

/-- The relation holds across sleeps and draws of numbers, too. -/
structure OnwardInTime (w : World σ) (R : σ → σ → Prop) : Prop extends w.Onward R where
  draw : ∀ s, R s (w.draw s).2
  sleepUntil : ∀ at_ s, R s (w.sleepUntil at_ s)

namespace OnwardInTime

variable {w : World σ} {R : σ → σ → Prop} (onward : w.OnwardInTime R)
include onward

theorem inTime : w.InTime R := ⟨onward.refl, onward.trans, onward.draw, onward.sleepUntil⟩

/-- Waiting for a signup takes requests, sleeps and draws only. -/
theorem leads_awaitSignup (username : String) : Leads R (w.awaitSignup username).run := by
  refine onward.inTime.leads_waitFor ?_ _ _
  unfold signupComplete
  refine onward.leads_bind (onward.leads_get hostNamespace username) fun outcome => ?_
  cases outcome with
  | error => exact onward.leads_pure _
  | ok signup =>
      dsimp only
      split <;> exact onward.leads_pure _

end OnwardInTime

/-! ## Time -/

/-- A timely world in which no answer comes before its request. -/
structure Timely (w : World σ) : Prop where
  toClocked : w.toClocked.Timely
  now_le_send : ∀ request s, w.now s ≤ w.now (w.send request s).2

/-- Requests do not set the clock of a timely world back. -/
theorem Timely.onward {w : World σ} (timely : w.Timely) :
    w.Onward fun s t => w.now s ≤ w.now t where
  refl s := Nat.le_refl (w.now s)
  trans := Nat.le_trans
  send := timely.now_le_send

end World

end ClusterHarness
