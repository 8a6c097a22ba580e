import ClusterHarness.Fixture.Kubectl
import ClusterHarness.Proofs.Fixture.Journal

/-!
# What is left on the cluster

A guard that goes takes its fixture down only if the last call put it up.  So a fixture is left
behind when it was to be taken down before, and none of the attempts succeeded.
-/

namespace ClusterHarness

variable {σ : Type}

/-- What happens after a fixture was put up for the last time. -/
structure Aftermath where
  /-- What came of the calls that followed. -/
  results : List (Except FixtureError Unit)
  /-- What these calls launched. -/
  launches : List Launch
  /-- What the guard launched as it went. -/
  closing : List Launch

/-- The guard of the fixture handles some calls, puts the fixture up, handles further calls, and
goes. -/
def Fixture.aftermath (fixture : Fixture) (bench : Bench σ) (before later : List GuardCall)
    (s : σ) : Aftermath :=
  let raised := ((Guard.ofFixture fixture).handleAll bench (before ++ [.up])).run s
  let handled := (raised.1.2.handleAll bench.journaled later).run (raised.2, [])
  let closed := (handled.1.2.close bench.journaled).run (handled.2.1, [])
  ⟨handled.1.1, handled.2.2, closed.2.2⟩

/-- The fixture was taken down, or at least the guard that went tried to. -/
def Aftermath.TakenDown (aftermath : Aftermath) (fixture : Fixture) : Prop :=
  (∃ launch ∈ aftermath.launches, launch.command = fixture.down ∧ launch.succeeded = true) ∨
    ∃ launch ∈ aftermath.closing, launch.command = fixture.down

/-- A bench whose commands end as foretold; when nothing more is foretold none can be started. -/
def Bench.foretold : Bench (List Ending) where
  launch _ endings :=
    match endings with
    | ending :: rest => (.ok ⟨ending, [], []⟩, rest)
    | [] => (.error "nothing foretold", [])
  makeFile _ endings := (.ok "fixture", endings)
  removeFile _ endings := endings

def Kubectl.plainFixture : Fixture := Kubectl.manifestFixture ⟨"kubectl"⟩ "manifest" none "fixture"

namespace Guard

/-- A guard that owes a teardown still does so when no call came in between. -/
theorem owes_later_iff {guard : Guard} (owes : guard.owes = true) {later : List GuardCall}
    (noUp : .up ∉ later) : (later.foldl after guard).owes = true ↔ later = [] := by
  rw [owes_foldl_after]
  cases last : later.getLast? with
  | none => simp [List.getLast?_eq_none_iff.mp last, owes]
  | some call =>
      have member := List.mem_of_getLast? last
      have something : later ≠ [] := List.ne_nil_of_mem member
      cases call with
      | up => exact absurd member noUp
      | down => simp [something, GuardCall.owes]
      | downBlocking => simp [something, GuardCall.owes]
      | leak => simp [something, GuardCall.owes]

end Guard

namespace Fixture

theorem command?_of_teardown {fixture : Fixture} {call : GuardCall} (notUp : call ≠ .up)
    (notLeak : call ≠ .leak) : call.command? fixture = some fixture.down := by
  cases call with
  | up => exact absurd rfl notUp
  | leak => exact absurd rfl notLeak
  | down => rfl
  | downBlocking => rfl

/-- All that is launched after the fixture was last put up is meant to take it down, and the guard
launches something as it goes only if nothing else did. -/
theorem aftermath_spec (fixture : Fixture) (bench : Bench σ) (before : List GuardCall)
    {later : List GuardCall} (noUp : .up ∉ later) (noLeak : .leak ∉ later) (s : σ) :
    (∀ launch ∈ (fixture.aftermath bench before later s).launches,
        launch.command = fixture.down) ∧
      (fixture.aftermath bench before later s).results =
        (fixture.aftermath bench before later s).launches.map Launch.report ∧
      (fixture.aftermath bench before later s).closing.map Launch.command =
        if later = [] then [fixture.down] else [] := by
  obtain ⟨raised, begun⟩ : ∃ raised,
      ((Guard.ofFixture fixture).handleAll bench (before ++ [.up])).run s = raised := ⟨_, rfl⟩
  have guardEq : raised.1.2 =
      (before ++ [GuardCall.up]).foldl Guard.after (Guard.ofFixture fixture) := by
    rw [← begun, Guard.guard_handleAll]
  have same : raised.1.2.fixture = fixture := by
    rw [guardEq, Guard.fixture_foldl_after]
    rfl
  have owes : raised.1.2.owes = true := by
    simp [guardEq, GuardCall.owes]
  obtain ⟨launches, ran, commands, results⟩ :=
    raised.1.2.handleAll_journaled bench later raised.2 []
  have handledGuard := raised.1.2.guard_handleAll bench later raised.2
  have closing := Guard.close_journaled (later.foldl Guard.after raised.1.2) bench
    ((raised.1.2.handleAll bench later).run raised.2).2 []
  simp only [aftermath, begun, ran, List.nil_append, handledGuard, closing]
  refine ⟨?_, results noLeak, ?_⟩
  · intro launch member
    have listed : launch.command ∈ launches.map Launch.command := List.mem_map_of_mem member
    rw [commands, List.mem_filterMap] at listed
    obtain ⟨call, called, given⟩ := listed
    have notUp : call ≠ .up := fun isUp => noUp (isUp ▸ called)
    have notLeak : call ≠ .leak := fun isLeak => noLeak (isLeak ▸ called)
    rw [same, command?_of_teardown notUp notLeak] at given
    exact (Option.some.inj given).symm
  · by_cases nothing : later = []
    · rw [if_pos ((Guard.owes_later_iff owes noUp).mpr nothing), if_pos nothing]
      simp [Bench.launched, same]
    · rw [if_neg (fun due => nothing ((Guard.owes_later_iff owes noUp).mp due)), if_neg nothing]
      rfl

/-- A fixture is left behind just when calls were to take it down after it was last put up, and all
of them failed. -/
theorem takenDown_iff (fixture : Fixture) (bench : Bench σ) (before : List GuardCall)
    {later : List GuardCall} (noUp : .up ∉ later) (noLeak : .leak ∉ later) (s : σ) :
    (fixture.aftermath bench before later s).TakenDown fixture ↔
      later = [] ∨ .ok () ∈ (fixture.aftermath bench before later s).results := by
  obtain ⟨teardowns, results, closing⟩ := fixture.aftermath_spec bench before noUp noLeak s
  rw [results, List.mem_map]
  constructor
  · rintro (⟨launch, member, _, succeeded⟩ | ⟨launch, member, _⟩)
    · exact Or.inr ⟨launch, member, launch.report_eq_ok_iff.mpr succeeded⟩
    · refine Or.inl (Classical.byContradiction fun something => ?_)
      rw [if_neg something, List.map_eq_nil_iff] at closing
      rw [closing] at member
      cases member
  · rintro (nothing | ⟨launch, member, reported⟩)
    · rw [if_pos nothing] at closing
      obtain ⟨launch, member, same⟩ := List.mem_map.mp (closing ▸ List.mem_singleton_self _)
      exact Or.inr ⟨launch, member, same⟩
    · exact Or.inl ⟨launch, member, teardowns launch member,
        launch.report_eq_ok_iff.mp reported⟩

/-- A second attempt makes up for the failure of the first one. -/
theorem takenDown_of_retry :
    GuardCall.up ∉ [GuardCall.down, GuardCall.downBlocking] ∧
      GuardCall.leak ∉ [GuardCall.down, GuardCall.downBlocking] ∧
      (Kubectl.plainFixture.aftermath Bench.foretold [] [.down, .downBlocking]
        [.exited 0, .exited 1, .exited 0]).TakenDown Kubectl.plainFixture := by
  have noUp : GuardCall.up ∉ [GuardCall.down, GuardCall.downBlocking] := by decide
  have noLeak : GuardCall.leak ∉ [GuardCall.down, GuardCall.downBlocking] := by decide
  refine ⟨noUp, noLeak, (takenDown_iff _ _ _ noUp noLeak _).mpr (Or.inr ?_)⟩
  exact List.mem_cons_of_mem _ (List.mem_singleton_self _)

/-- A fixture that was put up and whose only teardown failed is left behind. -/
theorem not_takenDown_of_failure :
    ¬ (Kubectl.plainFixture.aftermath Bench.foretold [] [.down]
      [.exited 0, .exited 1]).TakenDown Kubectl.plainFixture := by
  rintro (⟨launch, member, _, succeeded⟩ | ⟨launch, member, _⟩)
  · obtain rfl := List.mem_singleton.mp member
    cases succeeded
  · cases member

end Fixture

end ClusterHarness
