import ClusterHarness.Proofs.Git.Checkouts
import ClusterHarness.Proofs.Job.Pairing
import ClusterHarness.Proofs.Text.Pieces
import ClusterHarness.Workflow.Branch

/-!
# Which revision of the suites is checked out

Whether there is a pull request to look up is told by the environment alone.  Of the two lookups the
first one has to succeed, while the second one decides nothing if it fails.  So git is not run unless
it is known what to check out.
-/

namespace ClusterHarness

variable {σ : Type}

open Errand

/-! ## Jobs without a pull request -/

/-- The job is periodic or a rehearsal. -/
def Environment.SparesBranch (env : Environment) : Prop :=
  env.get? "JOB_TYPE" = some "periodic" ∨
    ∃ name, env.get? "JOB_NAME" = some name ∧ "rehearse".toList <:+: name.toList

namespace JobContext

/-- A job is named and typed by the environment, whatever its specification holds. -/
theorem names_of_ofEnvironment {env : Environment} {job : JobContext}
    (known : ofEnvironment env = .ok job) :
    job.jobType = (env.get? "JOB_TYPE").getD "" ∧ job.jobName = (env.get? "JOB_NAME").getD "" := by
  unfold ofEnvironment at known
  dsimp only at known
  split at known
  · cases known
    exact ⟨rfl, rfl⟩
  · split at known
    · cases known
      exact ⟨rfl, rfl⟩
    · cases known

theorem sparesBranch_iff {env : Environment} :
    env.SparesBranch ↔ hasPeriodicType ((env.get? "JOB_TYPE").getD "") = true ∨
      Text.hasPart "rehearse" ((env.get? "JOB_NAME").getD "") = true := by
  unfold Environment.SparesBranch hasPeriodicType
  refine or_congr ?_ ?_
  · cases env.get? "JOB_TYPE" <;> simp
  · cases env.get? "JOB_NAME" with
    | none => exact ⟨nofun, nofun⟩
    | some name => simp [Text.hasPart_iff]

theorem isPeriodicOrRehearsal_iff {env : Environment} {job : JobContext}
    (known : ofEnvironment env = .ok job) :
    job.isPeriodicOrRehearsal = true ↔ env.SparesBranch := by
  obtain ⟨type, name⟩ := names_of_ofEnvironment known
  rw [isPeriodicOrRehearsal, isPeriodic, Bool.or_eq_true, type, name, sparesBranch_iff]

/-- Such a job needs no specification. -/
theorem ofEnvironment_of_sparesBranch {env : Environment} (spares : env.SparesBranch) :
    ∃ job, ofEnvironment env = .ok job := by
  unfold ofEnvironment
  dsimp only
  rw [isPeriodicOrRehearsal, isPeriodic, if_pos]
  · exact ⟨_, rfl⟩
  · rw [Bool.or_eq_true]
    exact sparesBranch_iff.mp spares

/-! ## Looking up the pull request under test -/

def pullRequest? (job : JobContext) (hub : Hub) : Option Http.Request :=
  job.refs.bind fun refs => refs.pulls.head?.bind fun pull =>
    hub.request? "GET" ("/repos/" ++ refs.org ++ "/" ++ refs.repo ++ "/pulls/"
      ++ Nat.repr pull.number) []

theorem journaled_resolve (job : JobContext) (hub : Hub) (host : Host σ) (s : σ)
    (acts : List Act) :
    (job.resolve hub host.journaled.toWeb).run (s, acts) =
      (((job.resolve hub host.toWeb).run s).1, (((job.resolve hub host.toWeb).run s).2,
        acts ++ host.fetchNote (job.pullRequest? hub) s)) := by
  unfold resolve pullRequest? pull
  cases job.refs with
  | none => exact congrArg (fun kept => (_, (s, kept))) (List.append_nil acts).symm
  | some refs =>
      dsimp only [Option.bind_some]
      rw [run_ofExcept_bind, run_ofExcept_bind]
      cases refs.pulls.head? with
      | none => exact congrArg (fun kept => (_, (s, kept))) (List.append_nil acts).symm
      | some pull =>
          have asked := hub.journaled_fetch host PullRequest.codec
            ("get pull request " ++ refs.org ++ "/" ++ refs.repo ++ "#" ++ Nat.repr pull.number)
            ("/repos/" ++ refs.org ++ "/" ++ refs.repo ++ "/pulls/" ++ Nat.repr pull.number) []
            s acts
          unfold Hub.pullRequest
          dsimp only [Option.bind_some]
          rw [exceptT_run_bind, exceptT_run_bind, run_within, run_within, run_ofSession,
            run_ofSession, asked]
          cases ((hub.fetch host.toWeb PullRequest.codec _ _ _).run s).1 <;> rfl

end JobContext

namespace Host

variable (host : Host σ)

def underTest : Errand σ PullUnderTest := do
  let job ← Errand.ofExcept (JobContext.ofEnvironment host.environment)
  job.resolve (Hub.upstream host.environment) host.toWeb

def pullNote (s : σ) : List Act :=
  match JobContext.ofEnvironment host.environment with
  | .ok job => host.fetchNote (job.pullRequest? (Hub.upstream host.environment)) s
  | .error _ => []

def pairingNote (s : σ) : List Act :=
  host.fetchNote ((Hub.upstream host.environment).request? "GET"
    ("/repos/" ++ upstreamOrg ++ "/" ++ testsRepo ++ "/pulls")
    [("per_page", Nat.repr Hub.pageSize)]) s

def suitesPair (pull : PullUnderTest) : Errand σ Bool :=
  host.isPaired (Hub.upstream host.environment) testsRepo pull

theorem journaled_underTest (s : σ) (acts : List Act) :
    host.journaled.underTest.run (s, acts) =
      ((host.underTest.run s).1, ((host.underTest.run s).2, acts ++ host.pullNote s)) := by
  have same : host.journaled.environment = host.environment := rfl
  unfold underTest pullNote
  rw [same, run_ofExcept_bind, run_ofExcept_bind]
  cases JobContext.ofEnvironment host.environment with
  | ok job => exact job.journaled_resolve _ host s acts
  | error failure => exact congrArg (fun kept => (_, (s, kept))) (List.append_nil acts).symm

/-- What preparing the branch comes to: its result, and what it does.  The cases exclude one
another. -/
inductive PreparesBranch (s : σ) : Except Failure Unit → List Act → Prop where
  | spared (spares : host.environment.SparesBranch) : PreparesBranch s (.ok ()) []
  | unresolved {failure : Failure} (called : ¬host.environment.SparesBranch)
      (failed : (host.underTest.run s).1 = .error failure) :
      PreparesBranch s (.error failure) (host.pullNote s)
  | own {pull : PullUnderTest} {t : σ} {target : String} {result : Except Failure Unit}
      {git : List Act} (called : ¬host.environment.SparesBranch)
      (found : host.underTest.run s = (.ok pull, t)) (own : pull.repo = testsRepo)
      (denotes : Git.Denotes pull.remote pull.sha target)
      (checkingOut : host.CheckingOut pull.remote testsRepo target result git) :
      PreparesBranch s result (host.pullNote s ++ git)
  | paired {pull : PullUnderTest} {t : σ} {target : String} {result : Except Failure Unit}
      {git : List Act} (called : ¬host.environment.SparesBranch)
      (found : host.underTest.run s = (.ok pull, t)) (other : pull.repo ≠ testsRepo)
      (pairs : ((host.suitesPair pull).run t).1 = .ok true)
      (denotes : Git.Denotes pull.remote pull.branch target)
      (checkingOut : host.CheckingOut pull.remote testsRepo target result git) :
      PreparesBranch s result (host.pullNote s ++ host.pairingNote t ++ git)
  | unpaired {pull : PullUnderTest} {t : σ} (called : ¬host.environment.SparesBranch)
      (found : host.underTest.run s = (.ok pull, t)) (other : pull.repo ≠ testsRepo)
      (alone : ((host.suitesPair pull).run t).1 = .ok false) :
      PreparesBranch s (.ok ()) (host.pullNote s ++ host.pairingNote t)

/-- A lookup that fails means that nothing pairs. -/
theorem suitesPair_run (pull : PullUnderTest) (s : σ) :
    ∃ pairs, ((host.suitesPair pull).run s).1 = .ok pairs ∧
      ∀ cause, (((Hub.upstream host.environment).pullRequests host.toWeb upstreamOrg
        testsRepo).run s).1 = .error cause → pairs = false := by
  unfold suitesPair
  rw [isPaired_run]
  cases (((Hub.upstream host.environment).pullRequests host.toWeb upstreamOrg testsRepo).run s).1
  · exact ⟨false, rfl, fun _ _ => rfl⟩
  · exact ⟨_, rfl, nofun⟩

theorem journaled_suitesPair (pull : PullUnderTest) (s : σ) (acts : List Act) :
    (host.journaled.suitesPair pull).run (s, acts) =
      (((host.suitesPair pull).run s).1, (((host.suitesPair pull).run s).2,
        acts ++ host.pairingNote s)) :=
  host.journaled_isPaired (Hub.upstream host.environment) testsRepo pull s acts

/-- Saying what was checked out changes nothing. -/
theorem comesTo_checkoutFork_tell (owner revision : String) (notice : Notice) :
    (do
      host.journaled.checkoutFork owner testsRepo revision
      host.journaled.tell notice).ComesTo fun result git => ∃ target,
        Git.Denotes owner revision target ∧ host.CheckingOut owner testsRepo target result git := by
  have denotes := Git.denotes_checkoutTarget owner revision
  refine (host.comesTo_checkoutFork owner testsRepo revision).bind
    (fun _ _ checkingOut => ⟨_, denotes, checkingOut⟩) fun _ git checkingOut => ?_
  exact comesTo_tell host notice ⟨_, denotes, (List.append_nil git).symm ▸ checkingOut⟩

theorem prepareBranch_run_of_spares (spares : host.environment.SparesBranch) (s : σ) :
    ∃ notice, host.prepareBranch.run s = (.ok (), host.told notice s) := by
  obtain ⟨job, known⟩ := JobContext.ofEnvironment_of_sparesBranch spares
  have spared := (JobContext.isPeriodicOrRehearsal_iff known).mpr spares
  unfold prepareBranch
  rw [run_ofExcept_bind, known]
  dsimp only
  rw [if_pos spared]
  exact ⟨_, rfl⟩

theorem prepareBranch_run (called : ¬host.environment.SparesBranch) (s : σ) :
    host.prepareBranch.run s =
      match host.underTest.run s with
      | (.ok pull, t) => (pull.checkout host (Hub.upstream host.environment)).run t
      | (.error failure, t) => (.error failure, t) := by
  unfold prepareBranch underTest
  rw [run_ofExcept_bind, run_ofExcept_bind]
  cases known : JobContext.ofEnvironment host.environment with
  | error failure => rfl
  | ok job =>
      have plain : ¬job.isPeriodicOrRehearsal = true := fun spared =>
        called ((JobContext.isPeriodicOrRehearsal_iff known).mp spared)
      dsimp only
      rw [if_neg plain, exceptT_run_bind]
      obtain ⟨_ | _, _⟩ := (job.resolve _ _).run s <;> rfl

/-- Once the pull request is known, its repository and then the second lookup decide. -/
theorem prepares_of_found (called : ¬host.environment.SparesBranch) {s t : σ}
    {pull : PullUnderTest} (found : host.underTest.run s = (.ok pull, t)) :
    ∃ result u acts,
      (pull.checkout host.journaled (Hub.upstream host.environment)).run (t, host.pullNote s) =
        (result, (u, acts)) ∧ host.PreparesBranch s result acts := by
  unfold PullUnderTest.checkout
  by_cases own : pull.repo = testsRepo
  · rw [if_pos own]
    obtain ⟨result, u, git, ran, target, denotes, checkingOut⟩ :=
      host.comesTo_checkoutFork_tell pull.remote pull.sha _ t (host.pullNote s)
    exact ⟨result, u, _, ran, .own called found own denotes checkingOut⟩
  · have asked : (host.journaled.isPaired (Hub.upstream host.environment) testsRepo pull).run
        (t, host.pullNote s) = (((host.suitesPair pull).run t).1,
          (((host.suitesPair pull).run t).2, host.pullNote s ++ host.pairingNote t)) :=
      host.journaled_suitesPair pull t (host.pullNote s)
    obtain ⟨pairs, answer, -⟩ := host.suitesPair_run pull t
    rw [if_neg own, exceptT_run_bind, asked, answer]
    cases pairs with
    | true =>
        obtain ⟨result, u, git, ran, target, denotes, checkingOut⟩ :=
          host.comesTo_checkoutFork_tell pull.remote pull.branch _ _ _
        exact ⟨result, u, _, ran, .paired called found own answer denotes checkingOut⟩
    | false =>
        dsimp only
        rw [if_neg Bool.false_ne_true, run_tell, journaled_told]
        exact ⟨_, _, _, rfl, .unpaired called found own answer⟩

theorem prepares (s : σ) : ∃ result t acts,
    host.journaled.prepareBranch.run (s, []) = (result, (t, acts)) ∧
      host.PreparesBranch s result acts := by
  by_cases spares : host.environment.SparesBranch
  · obtain ⟨notice, ran⟩ := host.journaled.prepareBranch_run_of_spares spares (s, [])
    rw [host.journaled_told] at ran
    exact ⟨_, _, _, ran, .spared spares⟩
  have ran := host.journaled.prepareBranch_run spares (s, [])
  rw [host.journaled_underTest, List.nil_append] at ran
  cases found : host.underTest.run s with
  | mk result t =>
    rw [found] at ran
    cases result with
    | error failure => exact ⟨_, _, _, ran, .unresolved spares (congrArg Prod.fst found)⟩
    | ok pull =>
        obtain ⟨result, u, acts, went, prepares⟩ := host.prepares_of_found spares found
        exact ⟨result, u, acts, ran.trans went, prepares⟩

/-! ## When git is run -/

variable {host} {s t : σ} {acts : List Act} {launch : Launch}

theorem CheckingOut.launches {owner repo target : String} {result : Except Failure Unit}
    {git : List Act} (checkingOut : host.CheckingOut owner repo target result git) :
    ∃ launch, .launched launch ∈ git := by
  cases checkingOut <;> exact ⟨_, List.mem_cons_self⟩

end Host

end ClusterHarness
