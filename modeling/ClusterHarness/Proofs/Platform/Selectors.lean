import ClusterHarness.Proofs.Cluster.Inquiries
import ClusterHarness.Proofs.Platform.Verdicts

/-!
# Waiting for all pods with a label

The pods that are listed are waited for one after the other, each from where the wait before it
ended, and the first wait in vain is the last.  A wait asks for its own pod alone, so the pods
behind one that does not come are never asked for.
-/

namespace ClusterHarness

open Polling

variable {σ ε : Type}

/-! ## Waits that follow one another -/

/-- What is waited for of each pod, and for how long. -/
structure PodGoal where
  ns : String
  state : PodState
  timeout : Nat
  deriving DecidableEq, Repr

namespace PodGoal

def nameOf (pod : Pod) : String := pod.metadata.name.getD ""

def wait (goal : PodGoal) (pod : Pod) : Wait := .pod goal.ns (nameOf pod) goal.state goal.timeout

def request (goal : PodGoal) (pod : Pod) : Except CallError ApiRequest :=
  ApiRequest.get (.namespaced goal.ns) (World.kindOf Pod) (nameOf pod)

/-- The waits for pods, each begun where the one before it ended, have all ended well. -/
inductive Waited (goal : PodGoal) (w : World σ) : List Pod → σ → σ → Prop where
  | nil {s : σ} : Waited goal w [] s s
  | cons {pod : Pod} {rest : List Pod} {s t u : σ}
      (here : ((goal.wait pod).session w).run s = (.ok (), t)) (others : Waited goal w rest t u) :
      Waited goal w (pod :: rest) s u

variable {w : World σ} {pods : List Pod} {s t : σ}

theorem waitForPods_cons (goal : PodGoal) (w : World σ) (pod : Pod) (rest : List Pod) :
    w.waitForPods goal.ns goal.state goal.timeout (pod :: rest) =
      ((goal.wait pod).session w >>= fun _ =>
        w.waitForPods goal.ns goal.state goal.timeout rest) :=
  rfl

theorem waitForPods_eq_ok (goal : PodGoal) :
    (w.waitForPods goal.ns goal.state goal.timeout pods).run s = (.ok (), t) ↔
      goal.Waited w pods s t := by
  induction pods generalizing s with
  | nil =>
      constructor
      · intro returned
        cases returned
        exact .nil
      · rintro ⟨⟩
        rfl
  | cons pod rest ih =>
      rw [waitForPods_cons, exceptT_run_bind_eq_ok]
      constructor
      · rintro ⟨_, between, here, others⟩
        exact .cons here (ih.mp others)
      · rintro (_ | ⟨here, others⟩)
        exact ⟨(), _, here, ih.mpr others⟩

/-- The waits for pods end with an error exactly if it is the one of the first wait that did. -/
theorem waitForPods_eq_error (goal : PodGoal) {cause : Error} :
    (w.waitForPods goal.ns goal.state goal.timeout pods).run s = (.error cause, t) ↔
      ∃ before pod after u, pods = before ++ pod :: after ∧ goal.Waited w before s u ∧
        ((goal.wait pod).session w).run u = (.error cause, t) := by
  constructor
  · intro failed
    induction pods generalizing s with
    | nil => cases failed
    | cons pod rest ih =>
        rw [waitForPods_cons, exceptT_run_bind] at failed
        cases here : ((goal.wait pod).session w).run s with
        | mk result between =>
            rw [here] at failed
            cases result with
            | error =>
                cases failed
                exact ⟨[], pod, rest, s, rfl, .nil, here⟩
            | ok =>
                obtain ⟨before, other, after, u, rfl, waited, last⟩ := ih failed
                exact ⟨pod :: before, other, after, u, rfl, .cons here waited, last⟩
  · rintro ⟨before, pod, after, u, rfl, waited, last⟩
    induction waited with
    | nil =>
        rw [List.nil_append, waitForPods_cons, exceptT_run_bind, last]
    | cons here _ ih =>
        rw [List.cons_append, waitForPods_cons, exceptT_run_bind, here]
        exact ih last

end PodGoal

/-! ## What a wait asks for -/

/-- All that was noted from one state to another are answers to this request. -/
def AskedFor (request : Except CallError ApiRequest) (s t : σ × List Exchange) : Prop :=
  ∃ notes, t.2 = s.2 ++ notes ∧ ∀ e ∈ notes, request = .ok e.request

theorem World.inTime_askedFor (w : World σ) (request : Except CallError ApiRequest) :
    w.journaled.InTime (AskedFor request) where
  refl s := ⟨[], (List.append_nil s.2).symm, nofun⟩
  trans := by
    rintro ⟨_, first⟩ ⟨_, second⟩ ⟨_, third⟩ ⟨notes, rfl, each⟩ ⟨more, rfl, others⟩
    exact ⟨notes ++ more, List.append_assoc .., List.forall_mem_append.mpr ⟨each, others⟩⟩
  draw s := ⟨[], (List.append_nil s.2).symm, nofun⟩
  sleepUntil _ s := ⟨[], (List.append_nil s.2).symm, nofun⟩

/-- What holds while time passes and across evaluations holds up to each of them. -/
theorem World.InTime.enters {w : World σ} {R : σ → σ → Prop} (inTime : w.InTime R)
    {condition : StateM σ (Finding ε)} (evaluation : Leads R condition) (spec : Spec) (s : σ)
    (k : Nat) : R s ((⟨w.toClocked, spec, condition, s⟩ : Watch σ ε).enters k) := by
  have pause (deadline : Option Nat) (t : σ) : R t (w.toClocked.pause spec deadline t) :=
    inTime.trans (inTime.draw t) (inTime.sleepUntil _ _)
  induction k with
  | zero =>
      unfold Watch.enters
      rw [Function.iterate_zero, id]
      split
      · exact inTime.refl s
      · exact pause _ s
  | succ k ih =>
      rw [Watch.enters_succ]
      exact inTime.trans ih (inTime.trans (evaluation _) (pause _ _))

namespace PodGoal

variable {goal : PodGoal} {w : World σ} {pod : Pod} {pods : List Pod} {s t : σ × List Exchange}

/-- An evaluation of a wait for a pod ends with its look-up. -/
theorem condition_snd (goal : PodGoal) {τ : Type} (w : World τ) (pod : Pod) (s : τ) :
    ((goal.wait pod).condition w s).2 = ((w.get Pod goal.ns (nameOf pod)).run s).2 := by
  have looked : (goal.wait pod).condition w s =
      ((w.podInState goal.ns (nameOf pod) goal.state) s) := rfl
  rw [looked, World.podInState, stateM_bind_apply, Session.attempt]
  obtain ⟨_ | _, t⟩ := (w.get Pod goal.ns (nameOf pod)).run s <;> rfl

theorem leads_condition (goal : PodGoal) (w : World σ) (pod : Pod) :
    Leads (AskedFor (goal.request pod)) ((goal.wait pod).condition w.journaled) := by
  rintro ⟨s, before⟩
  obtain ⟨result, t, notes, looked, found⟩ := w.yields_get (α := Pod) goal.ns (nameOf pod) s before
  rw [condition_snd, looked]
  exact ⟨notes, rfl, found.request⟩

/-- A wait for a pod asks for this pod alone. -/
theorem leads_session (goal : PodGoal) (w : World σ) (pod : Pod) :
    Leads (AskedFor (goal.request pod)) ((goal.wait pod).session w.journaled).run := by
  rw [Wait.session_eq]
  exact (w.inTime_askedFor _).leads_waitFor (goal.leads_condition w pod) _ _

/-- The pod was shown in the phase that is waited for. -/
def Shows (goal : PodGoal) (pod : Pod) (e : Exchange) : Prop :=
  ∃ found : Pod, e.Shows (goal.request pod) found ∧ found.phase = goal.state.name

/-- What is noted in a wait for a pod that ends well: answers to requests for this pod alone, one of
which shows it in the phase that is waited for. -/
structure Sighted (goal : PodGoal) (pod : Pod) (notes : List Exchange) : Prop where
  asks : ∀ e ∈ notes, goal.request pod = .ok e.request
  shown : ∃ e ∈ notes, goal.Shows pod e

theorem sighted_of_returned
    (returned : ((goal.wait pod).session w.journaled).run s = (.ok (), t)) :
    ∃ notes, t.2 = s.2 ++ notes ∧ goal.Sighted pod notes := by
  obtain ⟨k, ⟨found, looked, phase⟩, rfl⟩ := Wait.reached_of_returned returned
  obtain ⟨earlier, begun, asked⟩ : AskedFor (goal.request pod) s
      (((goal.wait pod).watch w.journaled s).enters k) :=
    (w.inTime_askedFor _).enters (goal.leads_condition w pod) _ s k
  obtain ⟨result, t, notes, ran, sought⟩ := w.yields_get (α := Pod) goal.ns (nameOf pod)
    (((goal.wait pod).watch w.journaled s).enters k).1
    (((goal.wait pod).watch w.journaled s).enters k).2
  have looks : (goal.wait pod).looks w.journaled s k =
      (result, (t, (((goal.wait pod).watch w.journaled s).enters k).2 ++ notes)) := ran
  rw [looks] at looked
  cases looked
  obtain ⟨e, shows, rfl⟩ := sought.shows
  refine ⟨earlier ++ [e], ?_, ?_, e, by simp, found, shows, phase⟩
  · rw [looks, begun, List.append_assoc]
  · exact List.forall_mem_append.mpr ⟨asked, List.forall_mem_singleton.mpr shows.1⟩

/-- The notes of waits that end well follow one another as the pods do. -/
theorem Waited.sighted (waited : goal.Waited w.journaled pods s t) :
    ∃ pieces : List (List Exchange), List.Forall₂ goal.Sighted pods pieces ∧
      t.2 = s.2 ++ pieces.flatten := by
  induction waited with
  | nil => exact ⟨[], .nil, (List.append_nil _).symm⟩
  | cons here _ ih =>
      obtain ⟨notes, noted, sighted⟩ := sighted_of_returned here
      obtain ⟨pieces, each, others⟩ := ih
      exact ⟨notes :: pieces, .cons sighted each, by simp [others, noted]⟩

end PodGoal

/-! ## All pods with a label -/

/-- What comes of waiting for listed pods from some state on.  Without a pod it is an error.
Otherwise each pod is waited for from where the wait for the one before it ended, with the whole
timeout ahead.  All is well exactly if all waits end well, and then each pod was shown in the phase;
else the error is the one of the first wait that does not end well, and the requests are for the pod
of this wait and those before it. -/
structure CoversEach (goal : PodGoal) (w : World σ) (nothing : Error) (pods : List Pod)
    (s : σ × List Exchange) (outcome : Except Error Unit × (σ × List Exchange)) : Prop where
  empty : pods = [] → outcome = (.error nothing, s)
  succeeds : ∀ t, outcome = (.ok (), t) ↔ pods ≠ [] ∧ goal.Waited w.journaled pods s t
  sighted : ∀ t, outcome = (.ok (), t) → ∃ pieces : List (List Exchange),
    List.Forall₂ goal.Sighted pods pieces ∧ t.2 = s.2 ++ pieces.flatten
  fails : pods ≠ [] → ∀ cause t, outcome = (.error cause, t) ↔
    ∃ before pod after u, pods = before ++ pod :: after ∧ goal.Waited w.journaled before s u ∧
      ((goal.wait pod).session w.journaled).run u = (.error cause, t)
  asks : ∀ before pod after u, pods = before ++ pod :: after → goal.Waited w.journaled before s u →
    ∃ (pieces : List (List Exchange)) (last : List Exchange),
      List.Forall₂ goal.Sighted before pieces ∧ (∀ e ∈ last, goal.request pod = .ok e.request) ∧
      (((goal.wait pod).session w.journaled).run u).2.2 = s.2 ++ pieces.flatten ++ last
  wholeTimeout : ∀ before pod after u, pods = before ++ pod :: after →
    goal.Waited w.journaled before s u → ((goal.wait pod).watch w.journaled u).deadline =
      if goal.timeout = 0 ∨ w.clock.horizon ≤ w.now u.1 + goal.timeout then none
      else some (w.now u.1 + goal.timeout)

namespace World

variable {w : World σ} {ns key value : String} {limit : Nat} {pods : List Pod}
  {s t : σ × List Exchange}

theorem waitForPodSelector_of_none
    (listed : (w.journaled.listPods ns key value limit).run s = (.ok [], t)) (state : PodState)
    (timeout : Nat) :
    (w.journaled.waitForPodSelector ns key value state timeout limit).run s =
      (.error (.conditionFailed ("pod selector " ++ key ++ "=" ++ value) ("no pods in " ++ ns)),
        t) := by
  unfold waitForPodSelector
  rw [exceptT_run_bind, listed]
  rfl

theorem waitForPodSelector_of_some
    (listed : (w.journaled.listPods ns key value limit).run s = (.ok pods, t)) (present : pods ≠ [])
    (state : PodState) (timeout : Nat) :
    (w.journaled.waitForPodSelector ns key value state timeout limit).run s =
      (w.journaled.waitForPods ns state timeout pods).run t := by
  unfold waitForPodSelector
  rw [exceptT_run_bind, listed]
  dsimp only
  rw [if_neg (by simpa using present)]

theorem waitForPodSelector_eq_ok
    (listed : (w.journaled.listPods ns key value limit).run s = (.ok pods, t)) (state : PodState)
    (timeout : Nat) {u : σ × List Exchange} :
    (w.journaled.waitForPodSelector ns key value state timeout limit).run s = (.ok (), u) ↔
      pods ≠ [] ∧ PodGoal.Waited ⟨ns, state, timeout⟩ w.journaled pods t u := by
  cases pods with
  | nil =>
      rw [waitForPodSelector_of_none listed]
      exact ⟨nofun, fun waited => absurd rfl waited.1⟩
  | cons pod rest =>
      rw [waitForPodSelector_of_some listed (List.cons_ne_nil _ _)]
      exact (PodGoal.waitForPods_eq_ok ⟨ns, state, timeout⟩).trans
        (and_iff_right (List.cons_ne_nil _ _)).symm

/-- If pods are listed, waiting for the label is waiting for each of them in turn. -/
theorem waitForPodSelector_coversEach (w : World σ) {ns key value : String} {limit : Nat}
    {pods : List Pod} {s t : σ × List Exchange}
    (listed : (w.journaled.listPods ns key value limit).run s = (.ok pods, t)) (state : PodState)
    (timeout : Nat) :
    CoversEach ⟨ns, state, timeout⟩ w
      (.conditionFailed ("pod selector " ++ key ++ "=" ++ value) ("no pods in " ++ ns)) pods t
      ((w.journaled.waitForPodSelector ns key value state timeout limit).run s) := by
  constructor
  case empty =>
    rintro rfl
    exact waitForPodSelector_of_none listed state timeout
  case succeeds =>
    intro u
    exact waitForPodSelector_eq_ok listed state timeout
  case sighted =>
    intro u returned
    exact ((waitForPodSelector_eq_ok listed state timeout).mp returned).2.sighted
  case fails =>
    intro present cause u
    rw [waitForPodSelector_of_some listed present]
    exact PodGoal.waitForPods_eq_error ⟨ns, state, timeout⟩
  case asks =>
    intro before pod after u _ waited
    obtain ⟨pieces, each, noted⟩ := waited.sighted
    obtain ⟨last, grown, asks⟩ := PodGoal.leads_session ⟨ns, state, timeout⟩ w pod u
    exact ⟨pieces, last, each, asks, by rw [← noted]; exact grown⟩
  case wholeTimeout =>
    intro before pod after u _ _
    exact Wait.deadline_eq _ w.journaled u

end World

namespace Rehearsal

def podIn (phase : String) : Reply :=
  .showing ("\x7b\"status\":\x7b\"phase\":\"" ++ phase ++ "\"\x7d\x7d")

/-- A server that lists three pods.  The first one comes to run, but the second one fails. -/
def threePods : World ClusterState :=
  cluster [.showing ("\x7b\"items\":[\x7b\"metadata\":\x7b\"name\":\"a\"\x7d\x7d," ++
        "\x7b\"metadata\":\x7b\"name\":\"b\"\x7d\x7d,\x7b\x7d]\x7d"),
      podIn "Pending", podIn "Running", podIn "Failed"]
    (.missing []) ⟨⟨2023, 3, 1⟩, 0, 0, 0⟩

def threeListed : Except Error (List Pod) × (ClusterState × List Exchange) :=
  (threePods.journaled.listPods "test" "app" "demo" 10).run (⟨0, []⟩, [])

def threeAwaited : Except Error Unit × (ClusterState × List Exchange) :=
  (threePods.journaled.waitForPodSelector "test" "app" "demo" .running (Duration.ofSecs 5) 10).run
    (⟨0, []⟩, [])

theorem threePods_covered :
    ∃ pods t, threeListed = (.ok pods, t) ∧ pods.map PodGoal.nameOf = ["a", "b", ""] ∧
      CoversEach ⟨"test", .running, Duration.ofSecs 5⟩ threePods
        (.conditionFailed "pod selector app=demo" "no pods in test") pods t threeAwaited := by
  have names : threeListed.1.toOption.map (·.map PodGoal.nameOf) = some ["a", "b", ""] := by
    decide +kernel
  cases listed : threeListed with
  | mk result t =>
      rw [listed] at names
      cases result with
      | error => cases names
      | ok pods =>
          exact ⟨pods, t, rfl, Option.some.inj names,
            threePods.waitForPodSelector_coversEach listed .running (Duration.ofSecs 5)⟩

/-- The third pod is not asked for, as the wait for the second one ends with an error. -/
example : threeAwaited.2.2.map (·.request.target.path) =
    ["/api/v1/namespaces/test/pods", "/api/v1/namespaces/test/pods/a",
      "/api/v1/namespaces/test/pods/a", "/api/v1/namespaces/test/pods/b"] := by
  decide +kernel

end Rehearsal

end ClusterHarness
