import ClusterHarness.Proofs.Hub.Pulls

/-!
# Whether a repository has a pull request that pairs

One request decides: for the first page of the open pull requests.  Where the pull requests from
branches of the name in question were opened by those who own their forks, the answer is whether one
on that page comes from the fork and the branch under test.  Later pages are not asked for, and who
opened a pull request need not own its fork.
-/

namespace ClusterHarness

variable {σ : Type}

/-- The pull request comes from this branch of a fork that the account owns. -/
def PullRequest.IsFrom (other : PullRequest) (owner branch : String) : Prop :=
  other.head.branch = branch ∧ ∃ r ∈ other.head.repository, r.owner.login = owner

instance (other : PullRequest) (owner branch : String) : Decidable (other.IsFrom owner branch) :=
  inferInstanceAs (Decidable (_ ∧ _))

namespace PullUnderTest

/-- Of the pull requests from branches of the same name, the owner of the fork under test opened
those that come from that fork. -/
def OpenedByOwners (pull : PullUnderTest) (others : List PullRequest) : Prop :=
  ∀ other ∈ others, other.head.branch = pull.branch →
    (other.user.login = pull.remote ↔ other.IsFrom pull.remote pull.branch)

instance (pull : PullUnderTest) (others : List PullRequest) :
    Decidable (pull.OpenedByOwners others) :=
  inferInstanceAs (Decidable (∀ _ ∈ others, _))

theorem pairs_iff {pull : PullUnderTest} {others : List PullRequest}
    (opened : pull.OpenedByOwners others) {other : PullRequest} (listed : other ∈ others) :
    pull.pairs other = true ↔ other.IsFrom pull.remote pull.branch := by
  unfold pairs
  rw [Bool.and_eq_true, beq_iff_eq, beq_iff_eq]
  constructor
  · rintro ⟨named, author⟩
    exact (opened other listed named).mp author
  · intro source
    exact ⟨source.1, (opened other listed source.1).mpr source⟩

theorem any_pairs {pull : PullUnderTest} {others : List PullRequest}
    (opened : pull.OpenedByOwners others) :
    others.any pull.pairs = decide (∃ other ∈ others, other.IsFrom pull.remote pull.branch) := by
  rw [Bool.eq_iff_iff, List.any_eq_true, decide_eq_true_iff]
  exact exists_congr fun other => and_congr_right fun listed => pairs_iff opened listed

end PullUnderTest

namespace Host

variable (host : Host σ) (hub : Hub) (repo : String) (pull : PullUnderTest)

/-- The lookup decides by what it gets. -/
theorem isPaired_run (s : σ) :
    ((host.isPaired hub repo pull).run s).1 =
      match ((hub.pullRequests host.toWeb upstreamOrg repo).run s).1 with
      | .ok others => .ok (others.any pull.pairs)
      | .error _ => .ok false := by
  unfold isPaired
  rw [Errand.run_attempt_bind, Errand.run_ofSession]
  cases ((hub.pullRequests host.toWeb upstreamOrg repo).run s).1 with
  | ok => rfl
  | error =>
      dsimp only [Except.mapError]
      rw [run_tell_bind]
      rfl

/-- All that the lookup does is its request. -/
theorem journaled_isPaired (s : σ) (acts : List Act) :
    (host.journaled.isPaired hub repo pull).run (s, acts) =
      (((host.isPaired hub repo pull).run s).1, (((host.isPaired hub repo pull).run s).2,
        acts ++ host.fetchNote (hub.request? "GET"
          ("/repos/" ++ upstreamOrg ++ "/" ++ repo ++ "/pulls")
          [("per_page", Nat.repr Hub.pageSize)]) s)) := by
  have listed := hub.journaled_fetch host PullRequest.codec.list
    ("list pull requests of " ++ upstreamOrg ++ "/" ++ repo)
    ("/repos/" ++ upstreamOrg ++ "/" ++ repo ++ "/pulls") [("per_page", Nat.repr Hub.pageSize)]
    s acts
  unfold isPaired
  rw [Errand.run_attempt_bind, Errand.run_attempt_bind, Errand.run_ofSession, Errand.run_ofSession]
  unfold Hub.pullRequests
  dsimp only
  rw [listed]
  cases ((hub.fetch host.toWeb PullRequest.codec.list _ _ _).run s).1 with
  | ok => rfl
  | error =>
      dsimp only [Except.mapError]
      rw [journaled_tell_bind, run_tell_bind]
      rfl

/-- A lookup makes one request, for the first page of a hundred.  If it fails nothing pairs, else
the page decides by forks and branches. -/
theorem isPaired_by_firstPage {all : List PullRequest}
    (served : hub.Serves host.toWeb upstreamOrg repo all) (s : σ) :
    (host.journaled.isPaired hub repo pull).run (s, []) =
      (((host.isPaired hub repo pull).run s).1, (((host.isPaired hub repo pull).run s).2,
        host.fetchNote (hub.request? "GET"
          ("/repos/" ++ upstreamOrg ++ "/" ++ repo ++ "/pulls") [("per_page", "100")]) s)) ∧
    (∀ cause t, (hub.pullRequests host.toWeb upstreamOrg repo).run s = (.error cause, t) →
      ((host.isPaired hub repo pull).run s).1 = .ok false) ∧
    (∀ batch t, (hub.pullRequests host.toWeb upstreamOrg repo).run s = (.ok batch, t) →
      pull.OpenedByOwners (all.take 100) →
        ((host.isPaired hub repo pull).run s).1 =
          .ok (decide (∃ other ∈ all.take 100, other.IsFrom pull.remote pull.branch))) := by
  refine ⟨host.journaled_isPaired hub repo pull s [], ?_, ?_⟩
  · intro cause t failed
    rw [isPaired_run, failed]
  · intro batch t got opened
    have firstPage : batch = all.take 100 := served none s t batch got
    rw [isPaired_run, got, firstPage]
    exact congrArg Except.ok (PullUnderTest.any_pairs opened)

/-- Where all open pull requests can be had, the lookup tells whether one of them comes from the
fork and the branch under test. -/
def PairsByFork : Prop :=
  ∀ all, hub.Serves host.toWeb upstreamOrg repo all →
    (∀ number s, ∃ batch t,
      (hub.pullPage host.toWeb upstreamOrg repo number).run s = (.ok batch, t)) →
    ∀ s, ((host.isPaired hub repo pull).run s).1 =
      .ok (decide (∃ other ∈ all, other.IsFrom pull.remote pull.branch))

end Host

namespace Rehearsal

def pullFrom (number : Nat) (author branch : String) (owner : Option String) : PullRequest :=
  ⟨number, ⟨author⟩, ⟨branch, "ffff", owner.map fun login => ⟨testsRepo, ⟨login⟩⟩⟩⟩

def featurePull : PullUnderTest :=
  ⟨"me", upstreamOrg, infraRepo, "ffff", 1, "octocat", "feature"⟩

theorem isPaired_pullsHost {all : List PullRequest}
    (typed : ∀ p ∈ all, PullRequest.shape.Typed p) (pull : PullUnderTest) :
    (((pullsHost all).isPaired openHub testsRepo pull).run ()).1 =
      .ok ((all.take 100).any pull.pairs) := by
  have got := pullPage_pullsHost typed none
  rw [Host.isPaired_run, Hub.pullRequests_eq_pullPage, got]
  rfl

/-- The last of several pull requests pairs; one of the others is from a fork that is gone, and one
from a fork that another account owns. -/
def fewPulls : List PullRequest :=
  [pullFrom 1 "ghost" "feature" none, pullFrom 2 "octocat" "topic" (some "someone"),
    pullFrom 3 "octocat" "feature" (some "octocat")]

theorem typed_fewPulls : ∀ p ∈ fewPulls, PullRequest.shape.Typed p := by
  unfold PullRequest.shape Shape.bounded
  decide

theorem isPaired_fewPulls :
    openHub.Serves (pullsHost fewPulls).toWeb upstreamOrg testsRepo fewPulls ∧
    openHub.pullRequests (pullsHost fewPulls).toWeb upstreamOrg testsRepo () =
      (.ok fewPulls, ()) ∧
    featurePull.OpenedByOwners (fewPulls.take 100) ∧
    (((pullsHost fewPulls).isPaired openHub testsRepo featurePull).run ()).1 = .ok true := by
  have served := serves_pullsHost typed_fewPulls
  have got := pullPage_pullsHost typed_fewPulls none
  have opened : featurePull.OpenedByOwners (fewPulls.take 100) := by decide
  obtain ⟨_, _, decided⟩ := (pullsHost fewPulls).isPaired_by_firstPage openHub testsRepo featurePull
    served ()
  exact ⟨served, got, opened, (decided fewPulls () got opened).trans (by decide)⟩

/-- What pairing by fork says of a host that has these open pull requests. -/
theorem any_pairs_of_pairsByFork {all : List PullRequest}
    (typed : ∀ p ∈ all, PullRequest.shape.Typed p) {pull : PullUnderTest}
    (byFork : (pullsHost all).PairsByFork openHub testsRepo pull) :
    (all.take 100).any pull.pairs =
      decide (∃ other ∈ all, other.IsFrom pull.remote pull.branch) := by
  have pages : ∀ number s, ∃ batch t,
      (openHub.pullPage (pullsHost all).toWeb upstreamOrg testsRepo number).run s =
        (.ok batch, t) := fun number _ => ⟨_, _, pullPage_pullsHost typed number⟩
  have decided := byFork all (serves_pullsHost typed) pages ()
  rw [isPaired_pullsHost typed] at decided
  exact Except.ok.inj decided

/-- A page of pull requests from another branch, and behind it one that is from the fork and the
branch under test. -/
def crowdedPulls : List PullRequest :=
  ((List.range 100).map fun n => pullFrom (n + 1) "octocat" "topic" (some "octocat"))
    ++ [pullFrom 101 "octocat" "feature" (some "octocat")]

/-- A pull request that the owner of the fork under test opened from the fork of someone else. -/
def borrowedPulls : List PullRequest := [pullFrom 1 "octocat" "feature" (some "someone")]

/-- Neither the second page nor the owner of a fork is looked at. -/
theorem not_pairsByFork :
    ¬(pullsHost crowdedPulls).PairsByFork openHub testsRepo featurePull ∧
      ¬(pullsHost borrowedPulls).PairsByFork openHub testsRepo featurePull := by
  constructor
  · intro byFork
    have typed : ∀ p ∈ crowdedPulls, PullRequest.shape.Typed p := by
      unfold PullRequest.shape Shape.bounded
      decide +kernel
    exact absurd (any_pairs_of_pairsByFork typed byFork) (by decide +kernel)
  · intro byFork
    have typed : ∀ p ∈ borrowedPulls, PullRequest.shape.Typed p := by
      unfold PullRequest.shape Shape.bounded
      decide
    exact absurd (any_pairs_of_pairsByFork typed byFork) (by decide)

end Rehearsal

end ClusterHarness
