import ClusterHarness.Proofs.Cluster.Journaled
import ClusterHarness.Proofs.Platform.Verdicts

/-!
# When test namespaces are ready

A test namespace that had to be made or labelled is handed out once the service account of
pipelines was seen in it.  One that is found labelled is handed out at once.
-/

namespace ClusterHarness

variable {σ : Type}

def namespaceRequest (name : String) : Except CallError ApiRequest :=
  ApiRequest.get .cluster Namespace.kind name

def accountRequest (ns : String) : Except CallError ApiRequest :=
  ApiRequest.get (.namespaced ns) (World.kindOf ServiceAccount) pipelineAccount

/-- An exchange showed the service account that pipelines run as. -/
def Exchange.ShowsAccount (e : Exchange) (ns : String) : Prop :=
  ∃ account : ServiceAccount, e.Shows (accountRequest ns) account

namespace World

/-- A wait for the service account that returned saw it at the end. -/
theorem journaled_awaitPipelineAccount (w : World σ) {name : String} {s t : σ × List Exchange}
    (returned : (w.journaled.awaitPipelineAccount name).run s = (.ok (), t)) :
    ∃ earlier, ∃ e : Exchange, e.ShowsAccount name ∧ t.2 = earlier ++ [e] := by
  have seen : ∃ k, (Wait.account name).ReachedAt w.journaled s k ∧
      t = ((Wait.account name).looks w.journaled s k).2 :=
    Wait.reached_of_returned returned
  obtain ⟨k, ⟨_, looked, account, rfl⟩, left⟩ := seen
  have found : (w.journaled.getOpt ServiceAccount name pipelineAccount).run
      (((Wait.account name).watch w.journaled s).enters k) = (.ok (some account), t) :=
    Prod.ext looked left.symm
  obtain ⟨e, shows, noted⟩ := w.journaled_lookUp found
  exact ⟨_, e, ⟨account, shows⟩, noted⟩

/-- A service account that is always shown is not waited for in vain. -/
theorem exists_awaited {w : World σ} {name : String} (timely : w.Timely) (patient : 0 < w.patience)
    (seen : ∀ s, ∃ account v, (w.getOpt ServiceAccount name pipelineAccount).run s =
      (.ok (some account), v)) (s : σ) :
    ∃ v, (w.awaitPipelineAccount name).run s = (.ok (), v) := by
  have reached : (Wait.account name).ReachedAt w s 0 := by
    obtain ⟨account, _, found⟩ := seen (((Wait.account name).watch w s).enters 0)
    have looked : ((Wait.account name).looks w s 0).1 = .ok (some account) := by
      unfold Wait.looks Wait.look
      rw [found]
    exact ⟨some account, looked, account, rfl⟩
  have session : (Wait.account name).session w = w.awaitPipelineAccount name := rfl
  have fine := (Wait.result_eq_ok timely).mpr ⟨0, ⟨fun _ => patient, nofun⟩, reached⟩
  rw [Wait.result, session] at fine
  cases ended : (w.awaitPipelineAccount name).run s with
  | mk result v =>
      rw [ended] at fine
      cases fine
      exact ⟨v, rfl⟩

/-- A test namespace that is handed out was found labelled by the only request, or the last request
showed the service account that pipelines run as. -/
theorem createTestNamespace_ready (w : World σ) {name : String} {ns : Namespace} {s t : σ}
    {journal : List Exchange}
    (returned : (w.journaled.createTestNamespace name).run (s, []) = (.ok ns, (t, journal))) :
    (ns.isManaged = true ∧ ∃ e : Exchange, e.Shows (namespaceRequest name) ns ∧ journal = [e]) ∨
      ∃ earlier, ∃ e : Exchange, e.ShowsAccount name ∧ journal = earlier ++ [e] := by
  unfold createTestNamespace at returned
  obtain ⟨found, first, looked, returned⟩ := exceptT_run_bind_eq_ok.mp returned
  cases found with
  | none =>
      obtain ⟨created, made, _, returned⟩ := exceptT_run_bind_eq_ok.mp returned
      obtain ⟨_, last, awaited, returned⟩ := exceptT_run_bind_eq_ok.mp returned
      cases returned
      exact Or.inr (w.journaled_awaitPipelineAccount awaited)
  | some present =>
      dsimp only at returned
      split at returned
      · next managed =>
          cases returned
          obtain ⟨e, shows, noted⟩ := w.journaled_lookUp looked
          exact Or.inl ⟨managed, e, shows, noted⟩
      · obtain ⟨labelled, made, _, returned⟩ := exceptT_run_bind_eq_ok.mp returned
        obtain ⟨_, last, awaited, returned⟩ := exceptT_run_bind_eq_ok.mp returned
        cases returned
        exact Or.inr (w.journaled_awaitPipelineAccount awaited)

end World

namespace Rehearsal

def prepared (script : List Reply) : Except Error Namespace × (ClusterState × List Exchange) :=
  ((cluster script (.missing []) ⟨⟨2023, 3, 1⟩, 0, 0, 0⟩).journaled.createTestNamespace "demo").run
    (⟨0, []⟩, [])

def askedPaths (script : List Reply) : Option (List String) :=
  match prepared script with
  | (.ok _, (_, journal)) => some (journal.map (·.request.target.path))
  | (.error _, _) => none

theorem askedPaths_eq_some {script : List Reply} {paths : List String} :
    askedPaths script = some paths ↔
      ∃ ns s journal, prepared script = (.ok ns, (s, journal)) ∧
        journal.map (·.request.target.path) = paths := by
  unfold askedPaths
  generalize prepared script = outcome
  obtain ⟨cause | ns, s, journal⟩ := outcome
  · constructor
    · nofun
    · rintro ⟨_, _, _, ⟨⟩, _⟩
  · constructor
    · intro asked
      exact ⟨ns, s, journal, rfl, Option.some.inj asked⟩
    · rintro ⟨_, _, _, same, asked⟩
      cases same
      exact congrArg some asked

def plainNamespace : Reply := .showing "\x7b\"metadata\":\x7b\"name\":\"demo\"\x7d\x7d"

def labelledNamespace : Reply :=
  .showing ("\x7b\"metadata\":\x7b\"name\":\"demo\",\"labels\":" ++
    "\x7b\"argocd.argoproj.io/managed-by\":\"gitops-service-argocd\"\x7d\x7d\x7d")

/-- A namespace that is there without the label gets it, and its service account is waited for. -/
theorem plainNamespace_ready :
    ∃ ns s journal,
      prepared [plainNamespace, labelledNamespace, .missing [], plainNamespace] =
        (.ok ns, (s, journal)) ∧
      ∃ earlier, ∃ e : Exchange, e.ShowsAccount "demo" ∧ journal = earlier ++ [e] := by
  have asked : askedPaths [plainNamespace, labelledNamespace, .missing [], plainNamespace] =
      some ["/api/v1/namespaces/demo", "/api/v1/namespaces/demo",
        "/api/v1/namespaces/demo/serviceaccounts/pipeline",
        "/api/v1/namespaces/demo/serviceaccounts/pipeline"] := by decide +kernel
  obtain ⟨ns, s, journal, returned, paths⟩ := askedPaths_eq_some.mp asked
  refine ⟨ns, s, journal, returned, ?_⟩
  rcases World.createTestNamespace_ready _ returned with ⟨_, e, _, alone⟩ | ready
  · have single := congrArg List.length paths
    rw [alone] at single
    cases single
  · exact ready

/-- A namespace that is found labelled is handed out without a look for its service account. -/
theorem labelledNamespace_unseen :
    ∃ ns s journal, prepared [labelledNamespace, .missing []] = (.ok ns, (s, journal)) ∧
      ¬ ∃ e ∈ journal, e.ShowsAccount "demo" := by
  have asked : askedPaths [labelledNamespace, .missing []] = some ["/api/v1/namespaces/demo"] := by
    decide +kernel
  have account : ((accountRequest "demo").toOption.any
      (·.target.path = "/api/v1/namespaces/demo")) = false := by decide +kernel
  obtain ⟨ns, s, journal, returned, paths⟩ := askedPaths_eq_some.mp asked
  refine ⟨ns, s, journal, returned, ?_⟩
  rintro ⟨e, noted, _, request, _⟩
  have path : e.request.target.path ∈ journal.map (·.request.target.path) :=
    List.mem_map_of_mem noted
  rw [paths, List.mem_singleton] at path
  rw [request] at account
  exact absurd path (of_decide_eq_false account)

end Rehearsal

end ClusterHarness
